import DocLint.CommandLine.Run

/-!
# The program

The outer layer of the command line: it takes a picture of the part of the disk that a run can
look at, calls `CommandLine.run` on it, and prints what comes out. The picture holds what is
below the checked path, the directories above it as far as settings and ignore files go, the
settings file of the user, and the exclusions that belong to repositories.
-/

namespace DocLint.Main

/-- Is the content of a file with this name needed? -/
def isNeeded (name : String) : Bool :=
  (".toml" :: Kotlin.extensions).any (name.endsWith ·) ||
    [".ignore", ".gitignore", ".git", "exclude"].contains name

/-- The content of a file. -/
def contentOf (path : String) : IO FileContent := do
  return .ofBytes (← IO.FS.readBinFile path).toList

/-- The file or directory at a path, at most `depth` directories deep. What cannot be read is
left out. -/
def picture : Nat → String → IO (Option FileTree)
  | 0, _ => return none
  | depth + 1, path => do
      try
        let place ← IO.FS.realPath path
        if ← place.isDir then
          let mut entries := []
          for entry in ← place.readDir do
            if let some t ← picture depth (path ++ "/" ++ entry.fileName) then
              entries := (entry.fileName, t) :: entries
          return some (.directory entries.reverse)
        else if isNeeded ((Path.fileName? path).getD "") then
          return some (.file (← contentOf path))
        else
          return some (.file (.raw []))
      catch _ => return none

/-- The names of a place on disk, from the root on. -/
def namesAt (path : String) : IO (List String) := do
  let place ← IO.FS.realPath path
  return place.toString.splitOn "/" |>.filter (!·.isEmpty)

/-- Set the tree at the end of some names. -/
def putTree (t : FileTree) : List String → FileTree → FileTree
  | [], _ => t
  | name :: names, root =>
      let below := (root.entries.lookup name).getD (.directory [])
      .directory (FileTree.setEntry name (putTree t names below) root.entries)

/-- The tree with the file at a path on disk, whatever its name is. -/
def addFile (path : String) (root : FileTree) : IO FileTree := do
  try return putTree (.file (← contentOf path)) (← namesAt path) root
  catch _ => return root

/-- The tree with what stands at a path on disk, at most `depth` directories deep. -/
def addPlace (depth : Nat) (path : String) (root : FileTree) : IO FileTree := do
  match ← picture depth path with
  | none => return root
  | some t => return putTree t (← namesAt path) root

/-- The names that matter in the directories above the checked path. -/
def namesAbove : List String :=
  SettingsSource.fileNames ++ SettingsSource.projectMarks ++ Repository.marks ++
    [".ignore", ".gitignore"]

/-- The tree with the exclusions of the repository that a directory holds, if its `.git` entry
is a file that names another directory. -/
def addExclusions (here dir : String) (root : FileTree) : IO FileTree := do
  let fs : FileSystem := { root, workingDir := here }
  match fs.find (Path.joinTo dir ".git") with
  | .ok (.file content) =>
      let some linked := Repository.linkedDir? content | return root
      let root ← addFile (Path.joinTo linked "commondir") root
      let some common := Repository.commonDir? { fs with root } content | return root
      addFile (Path.joinTo common Repository.listPath) root
  | _ => return root

/-- The tree with the exclusions of the user. -/
def addUserExclusions (here home : String) (root : FileTree) : IO FileTree := do
  let mut root := root
  for name in Repository.configurations do
    root ← addFile (Path.joinTo home name) root
  addFile (Repository.userListPath { root, workingDir := here } home) root

/-- The picture of the disk for a check of `target`. -/
def pictureFor (target : String) (settings : List String) (home : Option String) :
    IO FileTree := do
  let here := (← IO.currentDir).toString
  let mut root := (FileTree.directory []).putDirectory (here.splitOn "/" |>.filter (!·.isEmpty))
  for dir in (Path.ancestors (Path.joinTo here target)).drop 1 do
    for name in namesAbove do
      root ← addPlace 4 (Path.joinTo dir name) root
  for path in settings do
    root ← addPlace 1 path root
  root ← addPlace 64 target root
  for dir in Path.ancestors (Path.joinTo here target) do
    root ← addExclusions here dir root
  match home with
  | some home => addUserExclusions here home root
  | none => return root

/-- The paths that a run looks at: the checked one and those of settings files. -/
def pathsOf (env : Environment) : Except CommandLine.Stop CommandLine.Command → String × List String
  | .ok (.check request) =>
      (request.path, request.config.toList ++
        (env.globalDir?.map (Path.joinTo · SettingsSource.globalName)).toList)
  | _ => ("kdoc-lint.toml", [])

/-- Run the program and print its outcome. -/
def program (args : List String) : IO UInt32 := do
  let env : Environment := {
    configDir := ← IO.getEnv "KDOC_LINT_CONFIG_DIR"
    home := ← IO.getEnv "HOME" }
  let (target, settings) := pathsOf env (CommandLine.Command.parse args)
  let fs : FileSystem := {
    root := ← pictureFor target settings env.home
    workingDir := (← IO.currentDir).toString }
  let outcome := CommandLine.run fs env args
  for line in outcome.log do
    IO.eprintln line.text
  IO.print outcome.output
  let written := (outcome.files.readText "kdoc-lint.toml").toOption
  if written != (fs.readText "kdoc-lint.toml").toOption then
    IO.FS.writeFile "kdoc-lint.toml" (written.getD "")
  if let some (message, cause) := outcome.error then
    IO.eprintln ("Error: " ++ message)
    if let some cause := cause then
      IO.eprintln ("\nCaused by:\n    " ++ cause)
  return outcome.exitCode.toUInt32

end DocLint.Main

/-- The entry point. -/
def main (args : List String) : IO UInt32 := DocLint.Main.program args

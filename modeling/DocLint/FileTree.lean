import DocLint.FileContent
import DocLint.Path

/-!
# File trees: the files a run can see

A run never touches a disk. It sees a file system as a value: a tree of directories and files
below the root, and the working directory from which relative paths are seen. Paths are
followed piece by piece, so that `..` leads back to where the path came from, and a piece after
a file, even an empty one, is an error.
-/

namespace DocLint

/-- Why a path does not lead to what is asked for. -/
inductive FileError where
  /-- There is no such entry. -/
  | notFound
  /-- The path goes on after a file. -/
  | notDirectory
  /-- The path leads to a directory and not to a file. -/
  | isDirectory
  /-- The file does not hold text. -/
  | notText
deriving DecidableEq, Repr

/-- The error in words. -/
def FileError.message : FileError → String
  | notFound => "No such file or directory (os error 2)"
  | notDirectory => "Not a directory (os error 20)"
  | isDirectory => "Is a directory (os error 21)"
  | notText => "stream did not contain valid UTF-8"

/-- A file or a directory. -/
inductive FileTree where
  /-- A file with what it holds. -/
  | file (content : FileContent)
  /-- A directory with its entries. -/
  | directory (entries : List (String × FileTree))
deriving Repr

namespace FileTree

/-- Is it a directory? -/
def isDirectory : FileTree → Bool
  | file _ => false
  | directory _ => true

/-- The entries of a directory; a file has none. -/
def entries : FileTree → List (String × FileTree)
  | file _ => []
  | directory es => es

/-- The text of a file. -/
def text : FileTree → Except FileError String
  | file (.text s) => .ok s
  | file (.raw _) => .error .notText
  | directory _ => .error .isDirectory

/-! ## Changing a tree -/

/-- Set the entry of a name: in its place if there is one, else at the end. -/
def setEntry (name : String) (t : FileTree) : List (String × FileTree) → List (String × FileTree)
  | [] => [(name, t)]
  | (other, u) :: rest =>
      if other = name then (name, t) :: rest else (other, u) :: setEntry name t rest

/-- The tree with a file at the end of some names; directories are made on the way. -/
def putFile (content : FileContent) : List String → FileTree → FileTree
  | [], _ => file content
  | name :: names, t =>
      let below := (t.entries.lookup name).getD (directory [])
      directory (setEntry name (putFile content names below) t.entries)

/-- The tree with a directory at the end of some names; what is already there stays. -/
def putDirectory : List String → FileTree → FileTree
  | [], t => directory t.entries
  | name :: names, t =>
      let below := (t.entries.lookup name).getD (directory [])
      directory (setEntry name (putDirectory names below) t.entries)

end FileTree

/-- A file system as a run sees it. -/
structure FileSystem where
  /-- The tree at the root. -/
  root : FileTree := .directory []
  /-- The absolute path of the directory from which relative paths are seen. -/
  workingDir : String := "/"
deriving Repr

namespace FileSystem

/-! ## Following paths -/

/-- The entries on the way to a place, the last one first. -/
abbrev Trail := List (String × FileTree)

/-- What stands at the end of a trail. -/
def endOf (fs : FileSystem) : Trail → FileTree
  | [] => fs.root
  | (_, t) :: _ => t

/-- Follow one piece of a path. -/
def step (fs : FileSystem) (trail : Trail) (piece : List Char) : Except FileError Trail :=
  match fs.endOf trail with
  | .file _ => .error .notDirectory
  | .directory entries =>
      if Path.isIdle piece then .ok trail
      else if piece = ['.', '.'] then .ok trail.tail
      else
        let name := String.ofList piece
        match entries.lookup name with
        | none => .error .notFound
        | some t => .ok ((name, t) :: trail)

/-- Follow a path. The empty path leads nowhere. -/
def trail (fs : FileSystem) (path : String) : Except FileError Trail :=
  if path.isEmpty then .error .notFound
  else (Path.Parts.ofText (Path.joinTo fs.workingDir path).toList).pieces.foldlM fs.step []

/-- The file or directory at a path. -/
def find (fs : FileSystem) (path : String) : Except FileError FileTree :=
  (fs.trail path).map fs.endOf

/-- Is there a file or directory at the path? -/
def has (fs : FileSystem) (path : String) : Bool := (fs.find path).toOption.isSome

/-- Is there a file at the path? -/
def isFile (fs : FileSystem) (path : String) : Bool :=
  (fs.find path).toOption.any (!·.isDirectory)

/-- The text of the file at a path. -/
def readText (fs : FileSystem) (path : String) : Except FileError String := do
  (← fs.find path).text

/-! ## Names -/

/-- The names on a trail, the first one first. -/
def namesOf (trail : Trail) : List String := (trail.map (·.1)).reverse

/-- The path of some names from the root. -/
def pathOf (names : List String) : String := "/" ++ String.intercalate "/" names

/-- The file system seen from another directory. -/
def enter (fs : FileSystem) (path : String) : Except FileError FileSystem := do
  return { fs with workingDir := pathOf (namesOf (← fs.trail path)) }

/-- Write a text file into a directory. A directory of that name stays. -/
def writeText (fs : FileSystem) (dir name text : String) : Except FileError FileSystem := do
  let trail ← fs.trail dir
  match (fs.endOf trail).entries.lookup name with
  | some (.directory _) => .error .isDirectory
  | _ => return { fs with root := fs.root.putFile (.text text) (namesOf trail ++ [name]) }

end FileSystem

end DocLint

import DocLint.Repository

/-!
# Walks: the files below a directory

A walk lists the files below a root, hidden ones too, and leaves out what ignore files name.
Every directory on the way from the root of the file system to an entry has a say:

* its `.ignore` file;
* its `.gitignore` file, if the walk respects it, and the list of exclusions of its repository:
  only inside a repository, and only up to the directory of the repository.

The nearest directory that says something decides; `.ignore` files come first, then
`.gitignore` files, then the exclusions. Inside a repository the exclusions of the user come
last. What is below an ignored directory is not looked at.
-/

namespace DocLint

/-- What one directory says about the entries below it. -/
structure IgnoreLevel where
  /-- The rules of its `.ignore` file. -/
  general : List IgnoreFile.Rule
  /-- The rules of its `.gitignore` file. -/
  tracked : List IgnoreFile.Rule
  /-- The exclusions of its repository. -/
  exclusions : List IgnoreFile.Rule
  /-- Is it the directory of a repository? -/
  isRepository : Bool
  /-- The names on the way from it to the directory that is being walked. -/
  below : List String := []

/-- What holds for a whole walk. -/
structure Walk where
  /-- The file system that is walked. -/
  files : FileSystem
  /-- Does the walk respect `.gitignore` files? -/
  respect : Bool
  /-- The exclusions of the user, seen from the working directory. -/
  user : List IgnoreFile.Rule := []

namespace IgnoreLevel

/-- The level seen from one directory further down. -/
def enter (level : IgnoreLevel) (name : String) : IgnoreLevel :=
  { level with below := level.below ++ [name] }

/-- The path of an entry of the walked directory, seen from the level. -/
def pathTo (level : IgnoreLevel) (name : String) : List Char :=
  (String.intercalate "/" (level.below ++ [name])).toList

end IgnoreLevel

namespace Walk

/-- What a directory says. -/
def level (w : Walk) (t : FileTree) : IgnoreLevel where
  general := Repository.rulesOf (Repository.entryOf t ".ignore")
  tracked := if w.respect then Repository.rulesOf (Repository.entryOf t ".gitignore") else []
  exclusions := Repository.exclusions w.files t
  isRepository := Repository.isAt t

/-- The levels up to the nearest repository, the nearest first. -/
def insideRepository : List IgnoreLevel → List IgnoreLevel
  | [] => []
  | level :: above => level :: if level.isRepository then [] else insideRepository above

/-- What the nearest level that says something says about an entry. -/
def nearest (rules : IgnoreLevel → List IgnoreFile.Rule) (levels : List IgnoreLevel)
    (name : String) (isDirectory : Bool) : Option Bool :=
  levels.findSome? fun level =>
    IgnoreFile.ignores? (rules level) (level.pathTo name) isDirectory

/-- The path as the exclusions of the user see it: without the text of the working directory in
front, and the separator after it. -/
def fromWorkingDir (w : Walk) (path : String) : List Char :=
  match Text.after? w.files.workingDir.toList path.toList with
  | some ('/' :: rest) => rest
  | some rest => rest
  | none => path.toList

/-- Is the entry `name` of the walked directory, which stands at `path`, left out? -/
def isIgnored (w : Walk) (levels : List IgnoreLevel) (name path : String)
    (isDirectory : Bool) : Bool :=
  let general := nearest (·.general) levels name isDirectory
  if levels.any (·.isRepository) then
    let inner := insideRepository levels
    (((general.or (nearest (·.tracked) inner name isDirectory)).or
      (nearest (·.exclusions) inner name isDirectory)).or
        (IgnoreFile.ignores? w.user (w.fromWorkingDir path) isDirectory)).getD false
  else general.getD false

mutual

/-- The paths of the files in a tree that stands at `path`, under the levels above it. -/
def filesIn (w : Walk) (levels : List IgnoreLevel) (path : String) : FileTree → List String
  | .file _ => [path]
  | .directory entries =>
      filesAmong w (w.level (.directory entries) :: levels) path entries

/-- The paths of the files in some entries of the directory `path`. -/
def filesAmong (w : Walk) (levels : List IgnoreLevel) (path : String) :
    List (String × FileTree) → List String
  | [] => []
  | (name, t) :: rest =>
      (if w.isIgnored levels name (Path.joinTo path name) t.isDirectory then []
        else filesIn w (levels.map (·.enter name)) (Path.joinTo path name) t) ++
      filesAmong w levels path rest

end

/-- The levels of the directories above a trail, the nearest first. A walk that does not respect
`.gitignore` files does not look for repositories there. -/
def levelsAbove (w : Walk) : FileSystem.Trail → List IgnoreLevel
  | [] => []
  | (name, _) :: above =>
      let level := w.level (w.files.endOf above)
      ({ level with isRepository := w.respect && level.isRepository } :: levelsAbove w above).map
        (·.enter name)

/-- The paths of the files below a root, or of the root itself if it is a file. -/
def filesBelow (w : Walk) (root : String) : Except FileError (List String) := do
  let trail ← w.files.trail root
  let t := w.files.endOf trail
  return w.filesIn (if t.isDirectory then w.levelsAbove trail else []) root t

end Walk

end DocLint

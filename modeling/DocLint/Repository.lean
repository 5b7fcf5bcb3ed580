import DocLint.FileTree
import DocLint.IgnoreFile

/-!
# Repositories: which directories they are, and what they leave out

A directory is a repository if it has an entry `.git` or `.jj`. Apart from the ignore files in
its directories it has a list of exclusions, `info/exclude` in its `.git` directory. Where `.git`
is a file, that file names the directory to look at, and a file `commondir` there names the
directory that holds the list.

The user may have a list of exclusions for all repositories, too. It is the file that the setting
`excludesFile` in a configuration file names, else one in the home directory.
-/

namespace DocLint

namespace Repository

/-- The names of entries that make a directory a repository. -/
def marks : List String := [".git", ".jj"]

/-- Is the directory a repository? -/
def isAt (t : FileTree) : Bool := marks.any fun mark => (t.entries.lookup mark).isSome

/-! ## Exclusions of one repository -/

/-- The rules in a file; a directory has none. -/
def rulesOf : FileTree → List IgnoreFile.Rule
  | .file content => IgnoreFile.rulesOf content.lines
  | .directory _ => []

/-- The rules in the file at a path, if there is one. -/
def rulesAt (fs : FileSystem) (path : String) : List IgnoreFile.Rule :=
  match fs.find path with
  | .ok t => rulesOf t
  | .error _ => []

/-- The first line of the file at a path. -/
def firstLine? (fs : FileSystem) (path : String) : Option Line :=
  match fs.find path with
  | .ok (.file content) => content.lines.head?
  | _ => none

/-- The directory that a `.git` file names. -/
def linkedDir? (content : FileContent) : Option String := do
  let line ← content.lines.head?
  (Text.after? "gitdir: ".toList line).map String.ofList

/-- The directory that holds the exclusions of the repository with a `.git` file: the one that
the linked directory names, seen from there if it starts with a dot. -/
def commonDir? (fs : FileSystem) (content : FileContent) : Option String := do
  let linked ← linkedDir? content
  let line ← firstLine? fs (Path.joinTo linked "commondir")
  let dir := String.ofList line
  some (if line.head? = some '.' then Path.joinTo linked dir else dir)

/-- What stands at a name in a directory; an absent entry is an empty directory. -/
def entryOf (t : FileTree) (name : String) : FileTree :=
  (t.entries.lookup name).getD (.directory [])

/-- The path of the list of exclusions, seen from the directory that holds it. -/
def listPath : String := "info/exclude"

/-- The exclusions of a repository. -/
def exclusions (fs : FileSystem) (t : FileTree) : List IgnoreFile.Rule :=
  match entryOf t ".git" with
  | .file content =>
      match commonDir? fs content with
      | some dir => rulesAt fs (Path.joinTo dir listPath)
      | none => []
  | .directory entries => rulesOf (entryOf (entryOf (.directory entries) "info") "exclude")

/-! ## The configuration of the user -/

/-- White space in a configuration file. -/
def isSpace (b : UInt8) : Bool := b == 0x20 || (0x09 ≤ b && b ≤ 0x0D)

/-- The byte of a small or capital letter as that of the small one. -/
def lower (b : UInt8) : UInt8 := if 0x41 ≤ b && b ≤ 0x5A then b + 0x20 else b

/-- What follows a word in small letters, if some bytes start with it in any letters. -/
def afterWord? : (word s : List UInt8) → Option (List UInt8)
  | [], s => some s
  | _ :: _, [] => none
  | w :: ws, b :: s => if lower b = w then afterWord? ws s else none

/-- Does a line end after nothing but white space? -/
def endsLine (s : List UInt8) : Bool :=
  (s.takeWhile isSpace).contains 0x0A || (s.dropWhile isSpace).isEmpty

/-- Does a value end here? A quote may stand between it and the end of the line. -/
def endsValue (s : List UInt8) : Bool :=
  endsLine s ||
    match s.dropWhile isSpace with
    | 0x22 :: rest => endsLine rest
    | _ => false

/-- The shortest value at the front of some bytes, without white space in it. -/
def shortestValue? : List UInt8 → Option (List UInt8)
  | [] => none
  | b :: rest =>
      if isSpace b then none
      else if endsValue rest then some [b]
      else (shortestValue? rest).map (b :: ·)

/-- The value after an equals sign. A quote in front of it is left out if something follows. -/
def value? (s : List UInt8) : Option (List UInt8) :=
  match s.dropWhile isSpace with
  | 0x22 :: rest =>
      (shortestValue? (rest.dropWhile isSpace)).or (shortestValue? (0x22 :: rest))
  | s => shortestValue? s

/-- The value of the setting `excludesFile`, if the next visible line sets it. -/
def settingAt? (s : List UInt8) : Option (List UInt8) := do
  let rest ← afterWord? "excludesfile".toUTF8.toList (s.dropWhile isSpace)
  match rest.dropWhile isSpace with
  | 0x3D :: rest => value? rest
  | _ => none

/-- The value of the setting after the first line feed behind which it is set. -/
def settingBelow? : List UInt8 → Option (List UInt8)
  | [] => none
  | b :: rest => (if b = 0x0A then settingAt? rest else none).or (settingBelow? rest)

/-- The path that a configuration file names. A tilde in it stands for the home directory. -/
def namedList? (home : String) (content : FileContent) : Option String := do
  let bytes := content.bytes
  let path ← decode? (← (settingAt? bytes).or (settingBelow? bytes))
  some (path.replace "~" home)

/-- The path that the configuration file at a path names. -/
def namedListAt? (fs : FileSystem) (home path : String) : Option String :=
  match fs.find path with
  | .ok (.file content) => namedList? home content
  | _ => none

/-- The configuration files in a home directory; the first one goes before the second. -/
def configurations : List String := [".gitconfig", ".config/git/config"]

/-- The path of the exclusions of the user with a home directory. -/
def userListPath (fs : FileSystem) (home : String) : String :=
  (configurations.findSome? fun name => namedListAt? fs home (Path.joinTo home name)).getD
    (Path.joinTo home ".config/git/ignore")

/-- The exclusions of the user for all repositories. -/
def userExclusions (fs : FileSystem) (home : Option String) : List IgnoreFile.Rule :=
  match home with
  | some home => rulesAt fs (userListPath fs home)
  | none => []

end Repository

end DocLint

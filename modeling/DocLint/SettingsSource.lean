import DocLint.FileTree
import DocLint.Settings

/-!
# Where the settings of a run come from

Settings are taken from the first of these that there is:

1. the file that the user names, which is not looked for;
2. a settings file in the checked directory or in the nearest directory above it, up to the
   root of the project;
3. the settings file of the user;
4. the defaults.

The root of a project is a directory with one of the project marks. It is still looked into,
but nothing above it is.
-/

namespace DocLint

/-- Where settings come from. -/
inductive SettingsSource where
  /-- The file that the user names. -/
  | explicit (path : String)
  /-- A file of the project. -/
  | project (path : String)
  /-- The file of the user. -/
  | global (path : String)
  /-- Nowhere: the defaults hold. -/
  | defaults
deriving DecidableEq, Repr

namespace SettingsSource

/-- The path of the settings file. -/
def path? : SettingsSource → Option String
  | explicit path => some path
  | project path => some path
  | global path => some path
  | defaults => none

/-- Are these the settings of the user? -/
def isGlobal : SettingsSource → Bool
  | global _ => true
  | _ => false

/-! ## Searching a project -/

/-- The names of settings files; the first one goes before the second. -/
def fileNames : List String := ["kdoc-lint.toml", ".kdoc-lint.toml"]

/-- The names of entries that mark the root of a project. -/
def projectMarks : List String := ["settings.gradle.kts", "settings.gradle", ".git"]

/-- The settings file in a directory. -/
def inDirectory? (fs : FileSystem) (dir : String) : Option String :=
  (fileNames.map (Path.joinTo dir)).find? fs.isFile

/-- Is the directory the root of a project? -/
def isProjectRoot (fs : FileSystem) (dir : String) : Bool :=
  projectMarks.any fun mark => fs.has (Path.joinTo dir mark)

/-- The settings file in the first of some directories that has one, up to the root of a
project. -/
def nearest? (fs : FileSystem) : List String → Option String
  | [] => none
  | dir :: above =>
      match inDirectory? fs dir with
      | some path => some path
      | none => if isProjectRoot fs dir then none else nearest? fs above

/-- The directory in which the search for a target starts: that of a file, else the target
itself. -/
def startOf? (fs : FileSystem) (target : String) : Option String :=
  if fs.isFile target then Path.parent? target else some target

/-- The settings file of the project that a target belongs to. -/
def ofProject? (fs : FileSystem) (target : String) : Option String := do
  nearest? fs (Path.ancestors (← startOf? fs target))

/-! ## The settings of the user -/

/-- The name of the settings file of the user. -/
def globalName : String := "config.toml"

/-- The settings file of the user, in the directory that is meant for it. -/
def ofUser? (fs : FileSystem) (globalDir : Option String) : Option String :=
  (globalDir.map (Path.joinTo · globalName)).filter fs.has

/-- Where the settings for checking a target come from. -/
def resolve (fs : FileSystem) (globalDir : Option String) (target : String)
    (given : Option String) : SettingsSource :=
  match given with
  | some path => explicit path
  | none =>
      match ofProject? fs target with
      | some path => project path
      | none =>
          match ofUser? fs globalDir with
          | some path => global path
          | none => defaults

end SettingsSource

/-- What a run knows of the user's surroundings. -/
structure Environment where
  /-- The directory named for the settings of the user. -/
  configDir : Option String := none
  /-- The home directory of the user. -/
  home : Option String := none
deriving DecidableEq, Repr

/-- The directory of the settings of the user: the one that is named, else one in the home
directory. -/
def Environment.globalDir? (env : Environment) : Option String :=
  env.configDir.or (env.home.map (Path.joinTo · ".kdoc-lint"))

/-! ## Loading -/

/-- Why settings could not be loaded. -/
inductive SettingsError where
  /-- The file could not be read. -/
  | io (path : String) (cause : FileError)
  /-- The file does not hold valid settings. -/
  | parse (path : String)
deriving DecidableEq, Repr

/-- The error in words. -/
def SettingsError.message : SettingsError → String
  | io path cause => "Failed to read config file " ++ path ++ ": " ++ cause.message
  | parse path => "Failed to parse config file " ++ path

/-- Load the settings in a file. -/
def Settings.load (fs : FileSystem) (path : String) : Except SettingsError Settings :=
  match fs.readText path with
  | .error cause => .error (.io path cause)
  | .ok text =>
      match Settings.parse? text with
      | none => .error (.parse path)
      | some settings => .ok settings

end DocLint

import DocLint.Analysis
import DocLint.CommandLine.Output
import DocLint.Kotlin.Reader
import DocLint.Settings.Starter
import DocLint.SettingsSource

/-!
# The command line as a function

`CommandLine.run` maps a file system, an environment and arguments to an outcome: what is
printed and logged, the exit code, the error if there is one, and the file system after the
run. Nothing else of the world is used, so a run is a value.
-/

namespace DocLint.CommandLine

/-- What a run leads to. -/
structure Outcome where
  /-- The exit code: 0 for success, 1 for findings and errors, 2 for wrong arguments. -/
  exitCode : Nat := 0
  /-- What is printed. -/
  output : String := ""
  /-- The lines of the log. -/
  log : List LogLine := []
  /-- What went wrong, and why. -/
  error : Option (String × Option String) := none
  /-- The file system after the run. -/
  files : FileSystem

/-! ## Listing rules -/

/-- The text with blanks up to a width. -/
def padded (width : Nat) (s : String) : String :=
  s ++ String.ofList (List.replicate (width - s.length) ' ')

/-- The columns of the table of rules. -/
def ruleRow (code name severity description : String) : String :=
  padded 8 code ++ " " ++ padded 22 name ++ " " ++ padded 9 severity ++ " " ++ description

/-- The row of a rule. -/
def rowOf (rule : RuleName) : String :=
  ruleRow rule.code rule.text rule.severity.text rule.description

/-- What is printed about the rules. -/
def ruleList : List String :=
  ["Available rules:", "", ruleRow "Code" "Name" "Severity" "Description",
    String.ofList (List.replicate 80 '-')] ++
  RuleName.all.map rowOf ++
  ["", "Issue codes reported by file-header and function-doc:", ""] ++
  IssueKind.all.map (fun kind => "  " ++ padded 10 kind.code ++ " " ++ kind.message) ++
  ["", "Presets:"] ++
  Preset.all.map (fun preset =>
    "  " ++ padded 12 preset.text ++ " " ++
      String.intercalate ", " (preset.names.map RuleName.text)) ++
  ["", "Select rules by name or code, e.g.:",
    "  kdoc-lint check --rules file-header,function-doc",
    "  kdoc-lint check --rules TOFIB,LOG001"]

/-! ## Starting a project -/

/-- Write a settings file into the working directory. -/
def runInit (fs : FileSystem) (force : Bool) : Outcome :=
  let name := "kdoc-lint.toml"
  if fs.has name && !force then
    { exitCode := 1, files := fs
      error := some ("Configuration file already exists at " ++ name ++
        ". Use --force to overwrite.", none) }
  else
    match fs.writeText fs.workingDir name Settings.starter with
    | .error cause => { exitCode := 1, files := fs, error := some (cause.message, none) }
    | .ok after =>
        { files := after
          output := unlines ["Created kdoc-lint.toml", "", "Next steps:",
            "  1. Edit kdoc-lint.toml to configure rules", "  2. Run: kdoc-lint check"] }

/-! ## Checking -/

/-- The settings of a run with what the arguments put in their place. -/
def CheckRequest.override (request : CheckRequest) (settings : Settings) : Settings :=
  { settings with
    preset := request.preset.or settings.preset
    failOn := request.failOn.or settings.failOn }

/-- The names in a list that is separated by commas. -/
def namesIn (list : String) : List String :=
  ((Text.splitAt ',' list.toList).map Text.trim).filterMap fun name =>
    if name = [] then none else some (String.ofList name)

/-- The rules of a run: those that are named, else those of the settings. -/
def CheckRequest.selection (request : CheckRequest) (settings : Settings) : Selection :=
  match request.rules with
  | some list => Selection.ofNames settings (namesIn list)
  | none => Selection.ofSettings settings

/-- The analyzer of a run. -/
def CheckRequest.analyzer (request : CheckRequest) (workingDir : String) (home : Option String)
    (settings : Settings) (rules : List Rule) : Except AnalysisError Analyzer :=
  AnalyzerRequest.build
    { root := some request.path, rules, readers := [Kotlin.reader], exclude := request.exclude
      settings := some settings, home }
    workingDir

/-- The outcome of a check that found something to report. -/
def reportOutcome (fs : FileSystem) (request : CheckRequest) (settings : Settings)
    (log : List LogLine) (report : Report) : Outcome where
  exitCode := if report.reaches settings.threshold then 1 else 0
  output := unlines (reportLines (fun path => (fs.readText path).toOption) request.format report)
  log := log
  files := fs

/-- The outcome of a check that failed. -/
def failed (fs : FileSystem) (log : List LogLine) (message cause : String) : Outcome where
  exitCode := 1
  log := log
  error := some (message, some cause)
  files := fs

/-- Check with settings that are loaded, after some lines of log. -/
def checkWith (fs : FileSystem) (env : Environment) (request : CheckRequest) (log : List LogLine)
    (loaded : Settings) : Outcome :=
  let settings := request.override loaded
  let selection := request.selection settings
  let log := log ++ selection.warnings.map (⟨.warning, ·⟩)
  match request.analyzer fs.workingDir env.home settings selection.rules with
  | .error e => failed fs log "Failed to build analyzer" e.message
  | .ok analyzer =>
      let run := analyzer.analyze fs
      let log := log ++ ⟨.info, "Analyzing " ++ Text.quoted request.path ++ " with " ++
        toString analyzer.rules.length ++ " rules"⟩ :: run.log
      match run.value with
      | .error e => failed fs log "Analysis failed" e.message
      | .ok report => reportOutcome fs request settings log report

/-- What is logged about the source of the settings. -/
def sourceLog : SettingsSource → List LogLine
  | .global path => [⟨.info, "Using global config: " ++ path⟩]
  | _ => []

/-- Check sources. -/
def runCheck (fs : FileSystem) (env : Environment) (request : CheckRequest) : Outcome :=
  let source := SettingsSource.resolve fs env.globalDir? request.path request.config
  let log := sourceLog source
  match source.path? with
  | none => checkWith fs env request log {}
  | some path =>
      match Settings.load fs path with
      | .error e => failed fs log ("Failed to load config: " ++ path) e.message
      | .ok settings => checkWith fs env request log settings

/-! ## The program -/

/-- The name and the version of the program. -/
def versionLine : String := "kdoc-lint 0.1.0"

/-- What is printed when help is asked for. -/
def helpLines : List String :=
  ["CLI tool for the kdoc-lint Kotlin header and KDoc linter", "",
    "Usage: kdoc-lint [OPTIONS] <COMMAND>", "",
    "Commands:",
    "  check       Lint Kotlin sources",
    "  list-rules  List available rules",
    "  init        Initialize configuration file",
    "  help        Print this message or the help of the given subcommand(s)", "",
    "Options:",
    "  -v, --verbose          Enable verbose output",
    "  -c, --config <CONFIG>  Path to configuration file",
    "  -h, --help             Print help",
    "  -V, --version          Print version"]

/-- The outcome of arguments that lead to no command. -/
def stopOutcome (fs : FileSystem) : Stop → Outcome
  | .help => { output := unlines helpLines, files := fs }
  | .version => { output := unlines [versionLine], files := fs }
  | .usage => { exitCode := 2, files := fs }

/-- Run the program. -/
def run (fs : FileSystem) (env : Environment) (args : List String) : Outcome :=
  match Command.parse args with
  | .error stop => stopOutcome fs stop
  | .ok (.check request) => runCheck fs env request
  | .ok .listRules => { output := unlines ruleList, files := fs }
  | .ok (.init force) => runInit fs force

end DocLint.CommandLine

import DocLint.Analyzer
import DocLint.Log
import DocLint.Walk

/-!
# Analyses: an analyzer run on a directory

The files of a run are those that the walk finds, that a reader takes and that no pattern leaves
out, in the order of their paths, so the order of the walk does not matter. A file that cannot
be parsed is skipped with a warning, or ends the run if the settings say so.
-/

namespace DocLint

/-- The report with one more file in front. -/
def Report.withFile (violations : List Violation) (report : Report) : Report where
  violations := violations ++ report.violations
  filesChecked := report.filesChecked + 1

namespace Analyzer

/-- Does a run check the file at a path? -/
def isChecked (a : Analyzer) (path : String) : Bool :=
  (a.readerFor path).isSome && !a.isExcluded path

/-- Does the path `p` come before `q`, or lead to the same place? -/
def pathLe (p q : String) : Bool := Path.compare p q != .gt

/-- The files to check among those of a walk, in the order of their paths. -/
def selected (a : Analyzer) (walked : List String) : List String :=
  (walked.filter a.isChecked).mergeSort pathLe

/-- The warning of a file that cannot be parsed. -/
def parseWarning (path : String) (cause : ReadError) : LogLine :=
  ⟨.warning, "Failed to parse " ++ path ++ ": " ++ cause.message⟩

/-- Check files one after the other. -/
def checkFiles (a : Analyzer) (read : String → Except FileError String) :
    List String → Logged (Except AnalysisError Report)
  | [] => ⟨[], .ok {}⟩
  | path :: rest =>
      match read path with
      | .error cause => ⟨[], .error (.io cause)⟩
      | .ok content =>
          match a.checkSource path content with
          | .ok violations => (checkFiles a read rest).map (Except.map (Report.withFile violations))
          | .error (.parse path cause) =>
              if a.failOnParseError then ⟨[parseWarning path cause], .error (.parse path cause)⟩
              else (checkFiles a read rest).after [parseWarning path cause]
          | .error e => ⟨[], .error e⟩

/-- What is said at the end of a run. -/
def completed : Except AnalysisError Report → List LogLine
  | .error _ => []
  | .ok report =>
      [⟨.info, "Analysis complete: " ++ toString report.violations.length ++ " violations in " ++
        toString report.filesChecked ++ " files"⟩]

/-- The report on the files of a walk, with the violations in order. -/
def analyzeFiles (a : Analyzer) (read : String → Except FileError String)
    (walked : List String) : Logged (Except AnalysisError Report) :=
  let files := a.selected walked
  let run := (a.checkFiles read files).map (Except.map Report.sorted)
  ⟨⟨.info, "Found " ++ toString files.length ++ " files to analyze"⟩ :: run.log ++
    completed run.value, run.value⟩

/-- The walk of the analyzer. -/
def walk (a : Analyzer) (fs : FileSystem) : Walk where
  files := fs
  respect := a.settings.analyzer.respectIgnored
  user := Repository.userExclusions fs a.home

/-- Analyze the directory of the analyzer. -/
def analyze (a : Analyzer) (fs : FileSystem) : Logged (Except AnalysisError Report) :=
  let run : Logged (Except AnalysisError Report) :=
    match (a.walk fs).filesBelow a.root with
    | .error cause => ⟨[], .error (.walk a.root cause)⟩
    | .ok walked => a.analyzeFiles fs.readText walked
  run.after [⟨.info, "Starting analysis at " ++ a.root⟩]

end Analyzer

end DocLint

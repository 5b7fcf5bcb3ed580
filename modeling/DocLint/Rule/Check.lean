import DocLint.DocBlock.Check
import DocLint.Header.Record
import DocLint.Rule.Basic
import DocLint.SourceFile

/-!
# Running a rule on a file

`Rule.check` is what each rule reports for a file and its outline.
-/

namespace DocLint

open Text

/-! ## File headers -/

/-- The issues of a header text in the file `stem`: a text that is no header is reported, and
its clauses one by one if that is asked for; a header that names another file is reported at
its file-name line; of all other headers the values are read. -/
def headerIssues (grammar : Header.Grammar) (perClause : Bool) (stem text : String) :
    Check Unit :=
  match Header.Layout.parse grammar text with
  | .error stop => do
      Check.report stop.issue
      if perClause then discard (Header.attributeClauses grammar stem text)
  | .ok layout =>
      match Header.fileNameIssue? stem layout.fileName with
      | some issue => Check.report (issue.atLine 2)
      | none => discard (Header.readHeader grammar text)

/-- The place of the header of a file, or its start if there is none. -/
def headerLocation (file : SourceFile) (outline : Outline) : Location where
  file := file.path
  span := match outline.header with
    | some header => header.span
    | none => { line := 1, column := 1 }

/-- The violations of issues found at a place of a file. -/
def violationsOf (file : SourceFile) (rule : RuleName) (severity : Severity)
    (location : Location) (issues : List Issue) : List Violation :=
  issues.map fun issue => file.locateLabels (issue.violation rule.text severity location)

/-! ## Function documentation -/

/-- The place of the documentation of a function, or of the function if it has none. -/
def docLocation (file : SourceFile) (f : Function) : Location where
  file := file.path
  span := match f.doc with
    | some doc => doc.span
    | none => f.span

/-! ## Log calls -/

/-- The ways to name the log of the platform. -/
def logObjects : List (List Char) := ["Log.".toList, "android.util.Log.".toList]

/-- The methods of the log that are not to be called. -/
def logMethods : List (List Char) := ["v", "d", "i", "w", "e", "wtf"].map String.toList

/-- Is this a call of the log of the platform? -/
def isLogCallee (callee : String) : Bool :=
  logObjects.any fun object =>
    match after? object (trim callee.toList) with
    | some method => logMethods.contains method
    | none => false

/-- The part of a callee after its last dot. -/
def methodOf (callee : String) : String :=
  match cutAtLast ['.'] callee.toList with
  | some (_, method) => String.ofList method
  | none => callee

/-- The violation of a call of the log. -/
def logViolation (file : SourceFile) (severity : Severity) (wrapper : String) (call : Call) :
    Violation where
  code := RuleName.forbiddenLogCall.code
  rule := RuleName.forbiddenLogCall.text
  severity := severity
  location := ⟨file.path, call.span⟩
  message := "android.util.Log usage is forbidden"
  suggestion := some ("Use " ++ wrapper ++ "." ++ methodOf call.callee ++ "(...) instead")

/-! ## Function counts -/

/-- The violation of a file with too many functions, reported on the line of the first one. -/
def countViolation (file : SourceFile) (severity : Severity) (max : Nat) (functions : List Function) :
    Violation where
  code := RuleName.tooManyFunctions.code
  rule := RuleName.tooManyFunctions.text
  severity := severity
  location :=
    { file := file.path
      span := { line := (functions.head?.map (·.span.line)).getD 1, column := 1 } }
  message :=
    "The file " ++ (Path.fileName? file.path).getD file.path ++ " has " ++
      toString functions.length ++ " function declarations. Threshold is specified with " ++
      toString max ++ "."

/-! ## All rules -/

/-- What a rule reports for a file. -/
def Rule.check (r : Rule) (file : SourceFile) (outline : Outline) : List Violation :=
  match r.options with
  | .fileHeader grammar perClause =>
      violationsOf file .fileHeader r.severity (headerLocation file outline)
        (headerIssues grammar perClause file.stem outline.headerText).onEmpty.2
  | .functionDoc =>
      outline.functions.flatMap fun f =>
        violationsOf file .functionDoc r.severity (docLocation file f) (docIssue? f).toList
  | .forbiddenLogCall wrapper =>
      (outline.calls.filter (isLogCallee ·.callee)).map (logViolation file r.severity wrapper)
  | .tooManyFunctions max =>
      if outline.functions.length ≤ max then []
      else [countViolation file r.severity max outline.functions]

end DocLint

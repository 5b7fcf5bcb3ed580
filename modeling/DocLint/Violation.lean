import DocLint.Issue
import DocLint.Outline

/-!
# Violations: what a rule reports

A violation names the rule and the place, says what is wrong and how to mend it, and may
carry labels that point at single lines. `Violation.render` is its form on a terminal,
`Violation.summary` its form on one line, and `Violation.diagnostic` its form for a display
that shows the source.
-/

namespace DocLint

/-- How grave a violation is. -/
inductive Severity where
  /-- Worth knowing. -/
  | info
  /-- To be looked at. -/
  | warning
  /-- To be mended. -/
  | error
deriving DecidableEq, Repr

namespace Severity

/-- The name under which a severity is written and read. -/
def text : Severity → String
  | info => "info"
  | warning => "warning"
  | error => "error"

/-- All severities, the least grave first. -/
def all : List Severity := [info, warning, error]

/-- The severity of a name. -/
def ofText? (name : String) : Option Severity := all.find? (·.text = name)

/-- The place of a severity among the severities. -/
def rank : Severity → Nat
  | info => 0
  | warning => 1
  | error => 2

/-- Is the severity at least as grave as `other`? -/
def reaches (s other : Severity) : Bool := other.rank ≤ s.rank

end Severity

/-- A place in a file that is named. -/
structure Location where
  /-- The path of the file. -/
  file : String
  /-- The place in the file. -/
  span : Span
deriving DecidableEq, Repr

/-- The location as `file:line:column`. -/
def Location.text (location : Location) : String :=
  location.file ++ ":" ++ toString location.span.line ++ ":" ++ toString location.span.column

/-- A remark at a place. -/
structure Label where
  /-- The place. -/
  location : Location
  /-- The remark. -/
  message : String
deriving DecidableEq, Repr

/-- A finding of a rule. -/
structure Violation where
  /-- The code of the finding. -/
  code : String
  /-- The name of the rule. -/
  rule : String
  /-- How grave it is. -/
  severity : Severity
  /-- Where it is. -/
  location : Location
  /-- What is wrong. -/
  message : String
  /-- How to mend it. -/
  suggestion : Option String := none
  /-- Remarks at single lines. -/
  labels : List Label := []
deriving DecidableEq, Repr

namespace Violation

/-- The lines of a violation on a terminal. -/
def renderLines (v : Violation) : List String :=
  [v.code ++ " " ++ v.rule ++ " at " ++ v.location.text,
    "  " ++ v.severity.text ++ ": " ++ v.message] ++
  v.labels.map (fun label =>
    "  = note: line " ++ toString label.location.span.line ++ ": " ++ label.message) ++
  v.suggestion.toList.map ("  = help: " ++ ·)

/-- The form of a violation on a terminal, with a line break at its end. -/
def render (v : Violation) : String := String.intercalate "\n" v.renderLines ++ "\n"

/-- The form of a violation on one line. -/
def summary (v : Violation) : String :=
  v.location.text ++ ": " ++ v.severity.text ++ " [" ++ v.code ++ "] " ++ v.message

end Violation

/-- A violation for a display that shows the source. -/
structure Diagnostic where
  /-- What is wrong. -/
  message : String
  /-- The code of the finding. -/
  code : String
  /-- How grave it is. -/
  severity : Severity
  /-- How to mend it. -/
  help : Option String
  /-- The marked places: a text, an offset and a length. -/
  marks : List (String × Nat × Nat)
deriving DecidableEq, Repr

/-- The diagnostic of a violation: its own place is marked with the name of the rule, and
after it come the labels that have an extent. -/
def Violation.diagnostic (v : Violation) : Diagnostic where
  message := v.message
  code := v.code
  severity := v.severity
  help := v.suggestion
  marks :=
    (v.rule, v.location.span.offset, v.location.span.length) ::
      (v.labels.filter (0 < ·.location.span.length)).map fun label =>
        (label.message, label.location.span.offset, label.location.span.length)

/-! ## From issues to violations -/

/-- The start of a line in the file of a location; its extent is not known yet. -/
def Location.lineStart (location : Location) (line : Nat) : Location where
  file := location.file
  span := { line, column := 1 }

/-- The violation that an issue stands for. The location is that of the checked text; an
issue that knows its line gets a label there. -/
def Issue.violation (issue : Issue) (rule : String) (severity : Severity)
    (location : Location) : Violation where
  code := issue.kind.code
  rule := rule
  severity := severity
  location := location
  message := issue.message
  suggestion := issue.sample?.map ("Ex:\n" ++ ·)
  labels := issue.line.toList.map fun line =>
    { location := location.lineStart (location.span.line + line)
      message := issue.kind.clause ++ " expected here" }

end DocLint

import DocLint.CommandLine.Arguments
import DocLint.Json
import DocLint.Report

/-!
# Reports on a terminal

A report has four forms: paragraphs with a summary, JSON, one line for each violation, and
pictures of the marked source with a summary. The summary is coloured by the gravest severity
that occurs.
-/

namespace DocLint

/-! ## JSON -/

/-- The members of a location. -/
def Location.json (location : Location) : Json :=
  .object [("file", .string location.file), ("line", .number location.span.line),
    ("column", .number location.span.column), ("offset", .number location.span.offset),
    ("length", .number location.span.length)]

/-- The members of a label. -/
def Label.json (label : Label) : Json :=
  .object [("location", label.location.json), ("message", .string label.message)]

/-- The members of a violation. -/
def Violation.json (v : Violation) : Json :=
  .object [("code", .string v.code), ("rule", .string v.rule),
    ("severity", .string v.severity.text), ("location", v.location.json),
    ("message", .string v.message),
    ("suggestion", match v.suggestion with
      | none => .null
      | some message => .object [("message", .string message)]),
    ("labels", .array (v.labels.map Label.json))]

/-- The members of a report. -/
def Report.json (report : Report) : Json :=
  .object [("violations", .array (report.violations.map Violation.json)),
    ("files_checked", .number report.filesChecked)]

/-! ## Pictures -/

/-- The line of a text on which the byte at an offset stands, with its number. -/
def lineAt (source : List Char) (offset : Nat) : Nat × Line :=
  let before := Text.slice 0 offset source
  let after := source.drop before.length
  (before.count '\n' + 1,
    (before.reverse.takeWhile (· ≠ '\n')).reverse ++ after.takeWhile (· ≠ '\n'))

/-- A marked place with its line of source, if the source is there. -/
def drawMark (source : Option String) (mark : String × Nat × Nat) : List String :=
  match source with
  | none => ["  = " ++ mark.1]
  | some text =>
      let (number, line) := lineAt text.toList mark.2.1
      ["  " ++ toString number ++ " | " ++ String.ofList (Text.trimEnd line), "  = " ++ mark.1]

/-- The picture of a diagnostic over the source of its file. -/
def Diagnostic.draw (d : Diagnostic) (source : Option String) : List String :=
  [d.severity.text ++ "[" ++ d.code ++ "]: " ++ d.message] ++
    d.marks.flatMap (drawMark source) ++ d.help.toList.map ("  help: " ++ ·)

namespace CommandLine

/-! ## Summaries -/

/-- The code that colours the summary: red for errors, yellow for warnings, green otherwise. -/
def summaryColor (c : Counts) : String :=
  if 0 < c.errors then "\x1b[31m" else if 0 < c.warnings then "\x1b[33m" else "\x1b[32m"

/-- The code that ends the colour. -/
def resetColor : String := "\x1b[0m"

/-- The summary of a report. -/
def summaryLine (report : Report) : String :=
  summaryColor report.counts ++ "Found " ++ report.counts.text ++ " in " ++
    toString report.filesChecked ++ " file(s)" ++ resetColor

/-! ## Printing -/

/-- The lines of a report. The source of a file is asked for where it is shown. -/
def reportLines (source : String → Option String) (format : OutputFormat) (report : Report) :
    List String :=
  match format with
  | .text => report.violations.map Violation.render ++ [summaryLine report]
  | .json => [report.json.text]
  | .compact => report.violations.map Violation.summary
  | .pretty =>
      report.violations.flatMap (fun v => v.diagnostic.draw (source v.location.file)) ++
        [summaryLine report]

/-- Lines as they are printed, each with a line break at its end. -/
def unlines (lines : List String) : String := String.join (lines.map (· ++ "\n"))

end CommandLine

end DocLint

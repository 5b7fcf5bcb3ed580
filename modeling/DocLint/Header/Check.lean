import DocLint.Header.Layout
import DocLint.Issue

/-!
# Header checks: from a malformed header to the clauses to blame

`validate` is the gate. It accepts a text exactly if it has a `Layout`, and otherwise reports
one issue that names the expected clause.

The other checks look at single clauses by their position and are used to attribute the
failure of the gate: `attributeClauses` runs all of them on the lines of a text and reports
every clause that does not have its form, each with its line.
-/

namespace DocLint.Header

open Text

/-- The least number of lines a header has. -/
def minLines : Nat := 5

/-- The issue of a text that stops being a header. -/
def Stop.issue (stop : Stop) : Issue where
  kind := .headerMalformed
  line := some stop.line
  detail := some ("expected " ++ stop.expected.text ++ " on header line " ++
    toString (stop.line + 1))

/-- Is the text a complete header? If not, one issue is reported. -/
def validate (g : Grammar) (text : String) : Check Bool :=
  match Layout.parse g text with
  | .ok _ => pure true
  | .error stop => do Check.report stop.issue; pure false

/-! ## Single clauses -/

/-- What is wrong with a copyright line. -/
def updateIssue? (g : Grammar) (l : Line) : Option Issue :=
  if g.isUpdateLine l then none
  else some { kind := .updateLine, sample := some g.sampleUpdateLine }

/-- What is wrong with the file-name line of the file `name`. -/
def fileNameIssue? (name : String) (l : Line) : Option Issue :=
  if isFileNameOf name l then none
  else some
    { kind := .fileName
      detail := some ("expected \"" ++ name ++ ".kt\"")
      sample := some (" * " ++ name ++ ".kt") }

/-- What is wrong with a description line. -/
def descriptionIssue? (l : Line) : Option Issue :=
  if isDescription l then none else some { kind := .description }

/-- What is wrong with an author line. -/
def authorIssue? (l : Line) : Option Issue :=
  if isAuthor l then none else some { kind := .author }

/-- Check a copyright line. -/
def checkUpdateLine (g : Grammar) (l : Line) : Check Bool := Check.passes (updateIssue? g l)

/-- Check that a line names the file `name`. -/
def checkFileName (name : String) (l : Line) : Check Bool :=
  Check.passes (fileNameIssue? name l)

/-- Check a description line. -/
def checkDescriptionLine (l : Line) : Check Bool := Check.passes (descriptionIssue? l)

/-- Check an author line. -/
def checkAuthorLine (l : Line) : Check Bool := Check.passes (authorIssue? l)

/-! ## Clauses by position -/

/-- The description lines of a header by position: all between the first three and the last
two. -/
def descriptionPart (ls : List Line) : List Line := (ls.take (ls.length - 2)).drop headLength

/-- What is wrong with the description lines of a header, found by position: the first line
that is no description line. -/
def descriptionBlockIssue? (ls : List Line) : Option Issue :=
  if ls.length < minLines then some { kind := .tooFewLines }
  else ((descriptionPart ls).findIdx? (!isDescription ·)).map fun i =>
    { kind := .description, line := some (headLength + i) }

/-- Check all description lines of a text. A text with too few lines fails as a whole. -/
def checkDescriptionBlock (text : String) : Check Bool :=
  Check.passes (descriptionBlockIssue? (pieces text.toList))

/-- Drop blank lines at the end, but keep the first line. -/
def dropBlankTail : List Line → List Line
  | [] => []
  | l :: more => l :: (more.reverse.dropWhile isAllBlank).reverse

/-- The line at a position; a position outside the text has the empty line. -/
def lineAt (ls : List Line) (i : Nat) : Line := ls.getD i []

/-- The clauses that do not have their form, each with its line, in the order of the lines. -/
def blamed (g : Grammar) (name : String) (ls : List Line) : List Issue :=
  let authorAt := ls.length - 2
  ((updateIssue? g (lineAt ls 1)).map (·.atLine 1)).toList ++
  ((fileNameIssue? name (lineAt ls 2)).map (·.atLine 2)).toList ++
  (descriptionBlockIssue? ls).toList ++
  ((authorIssue? (lineAt ls authorAt)).map (·.atLine authorAt)).toList

/-- Check every clause of a header by its position and report each one that fails. Blank
lines at the end do not count. -/
def attributeClauses (g : Grammar) (name : String) (text : String) : Check Bool := do
  let ls := dropBlankTail (pieces text.toList)
  if ls.length < minLines then
    Check.report { kind := .tooFewLines }
    return false
  let issues := blamed g name ls
  issues.forM Check.report
  return issues.isEmpty

end DocLint.Header

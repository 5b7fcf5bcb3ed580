import DocLint.Text.Basic

/-!
# Issues: the failed checks and the log that collects them

A check never stops the run. A check that fails adds an `Issue` to the log it was given and
answers that the checked text is not valid. An issue has a `Kind`, which fixes its code, its
message and a corrective example, and may carry the line it points at, a detail for its
message and an example of its own.

`Check` is the monad of checks: a computation that can only see the log as a state and that
grows it through `report`.
-/

namespace DocLint

/-- What a failed check was about. -/
inductive IssueKind where
  /-- The header does not have the full header form. -/
  | headerMalformed
  /-- The header has too few lines to be looked at. -/
  | tooFewLines
  /-- The copyright line is not well formed. -/
  | updateLine
  /-- The file-name line is not well formed or names another file. -/
  | fileName
  /-- A description line is not well formed. -/
  | description
  /-- The author line, or the name on it, is not well formed. -/
  | author
  /-- No span of years was found on the copyright line. -/
  | yearRange
  /-- No creation date was found on the author line. -/
  | creationDate
  /-- The function has no documentation block. -/
  | docBlockMissing
  /-- The documentation block of the function does not fit its signature. -/
  | docBlockMismatch
deriving DecidableEq, Repr

namespace IssueKind

/-- All kinds, those of the header first. -/
def all : List IssueKind :=
  [headerMalformed, tooFewLines, updateLine, fileName, description, author, yearRange,
    creationDate, docBlockMissing, docBlockMismatch]

/-- The code under which an issue of this kind is reported. -/
def code : IssueKind → String
  | headerMalformed => "TOFIB001"
  | tooFewLines => "TOFIB002"
  | updateLine => "TOFIB003"
  | fileName => "TOFIB004"
  | description => "TOFIB005"
  | author => "TOFIB006"
  | yearRange => "TOFIB007"
  | creationDate => "TOFIB008"
  | docBlockMissing => "TOFUB001"
  | docBlockMismatch => "TOFUB002"

/-- The diagnosis in words. -/
def message : IssueKind → String
  | headerMalformed => "File header does not match the expected structure"
  | tooFewLines => "The file header does not have 5 or more lines"
  | updateLine => "Update line in file header does not match expected"
  | fileName => "File name does not match expected"
  | description => "Description is not found or formatted properly"
  | author => "@author line is not found or formatted properly"
  | yearRange => "Something wrong with the year-range format, please double check"
  | creationDate => "Initial creation date is not found or formatted properly"
  | docBlockMissing => "No KDoc block found"
  | docBlockMismatch => "KDoc block does not match expected"

/-- The name of the part of the text that the check covers. -/
def clause : IssueKind → String
  | headerMalformed | tooFewLines => "file header"
  | updateLine => "update line"
  | fileName => "file-name line"
  | description => "description line"
  | author => "author line"
  | yearRange => "year span"
  | creationDate => "creation date"
  | docBlockMissing | docBlockMismatch => "KDoc block"

/-- A whole header that is well formed. -/
def exampleHeader : String :=
  "/**\n" ++
  " * Copyright Organization, Inc. 2018-2020. All rights reserved.\n" ++
  " * TestFile.kt\n" ++
  " * This is a test description of this file.\n" ++
  " * @author Mitchell Thornton Feb 28, 2018\n" ++
  " */"

/-- A documentation block of the usual form. -/
def exampleDoc : String :=
  "/**\n" ++
  " * Describes what the function does.\n" ++
  " * @param name description of the parameter\n" ++
  " * @return Type description of the returned value\n" ++
  " */"

/-- A corrective example for the checked part. A documentation block that does not fit has
none of its own: the example then depends on the function. -/
def sample? : IssueKind → Option String
  | headerMalformed | tooFewLines => some exampleHeader
  | updateLine => some " * Copyright Organization, Inc. 2018-2020. All rights reserved."
  | fileName => some " * TestFile.kt"
  | description => some " * This is a test description of this file."
  | author => some " * @author Mitchell Thornton Feb 28, 2018"
  | yearRange => some "2018 or 2018-2020"
  | creationDate => some "Feb 28, 2018"
  | docBlockMissing => some exampleDoc
  | docBlockMismatch => none

end IssueKind

/-- One failed check. -/
structure Issue where
  /-- What failed. -/
  kind : IssueKind
  /-- The line of the checked text, counted from zero, where it is known. -/
  line : Option Nat := none
  /-- What to add to the message of the kind. -/
  detail : Option String := none
  /-- An example that replaces the one of the kind. -/
  sample : Option String := none
deriving DecidableEq, Repr

namespace Issue

/-- The issue, pointing at a line of the checked text. -/
def atLine (issue : Issue) (line : Nat) : Issue := { issue with line := some line }

/-- The full message: the diagnosis of the kind and, after a colon, the detail. -/
def message (issue : Issue) : String :=
  match issue.detail with
  | some detail => issue.kind.message ++ ": " ++ detail
  | none => issue.kind.message

/-- The corrective example: the issue's own, else that of its kind. -/
def sample? (issue : Issue) : Option String := issue.sample.or issue.kind.sample?

end Issue

/-! ## The log -/

/-- A check: it answers, and may add issues to the log. -/
abbrev Check := StateM (List Issue)

namespace Check

/-- Add an issue to the log. -/
def report (issue : Issue) : Check Unit := modify (· ++ [issue])

/-- Report the issue if there is one. The answer tells whether there was none. -/
def passes : Option Issue → Check Bool
  | none => pure true
  | some issue => do report issue; pure false

/-- The value if there is one; without one, report the issue. -/
def found {α : Type} (value : Option α) (issue : Issue) : Check (Option α) :=
  match value with
  | some a => pure (some a)
  | none => do report issue; pure none

/-- The answer of a check on an empty log, and the issues it reports. -/
def onEmpty {α : Type} (check : Check α) : α × List Issue := check.run []

end Check

end DocLint

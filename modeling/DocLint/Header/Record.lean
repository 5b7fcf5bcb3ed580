import DocLint.Header.Check

/-!
# Header records: the values a header carries

The values are searched for on the lines they stand on: the first span of years on the
copyright line, the first name after the author tag, the first date on the author line. The
file name and the description are the lines without their margin.
-/

namespace DocLint.Header

open Text

/-- The values of a header. -/
structure HeaderRecord where
  /-- The years of the copyright. -/
  years : YearSpan
  /-- The file name with its extension. -/
  fileName : String
  /-- The description lines with a space between them. -/
  description : String
  /-- First and last name of the author. -/
  author : String
  /-- The creation date as it is written. -/
  creationDate : String
deriving DecidableEq, Repr

/-- The result of a reader at the first place of a text where it succeeds. -/
def firstMatch {α : Type} (read : List Char → Option α) : List Char → Option α
  | [] => read []
  | c :: rest => (read (c :: rest)).or (firstMatch read rest)

/-! ## Searching for values -/

/-- The first span of years in a text. -/
def findYears (s : List Char) : Option YearSpan := firstMatch (fun s => (readYears s).map (·.1)) s

/-- A first and a last name, with or without a space between them. -/
def readFullName (s : List Char) : Option (List Char) := do
  let (first, s) ← readName s
  match s with
  | ' ' :: rest => (readName rest).map fun (last, _) => first ++ ' ' :: last
  | _ => (readName s).map fun (last, _) => first ++ last

/-- The first full name in a text. -/
def findName (s : List Char) : Option (List Char) := firstMatch readFullName s

/-- The first date in a text. -/
def findDate (s : List Char) : Option Date := firstMatch (fun s => (readDate s).map (·.1)) s

/-- The years of a copyright line; without any, an issue is reported. -/
def readYearRange (text : String) : Check (Option YearSpan) :=
  Check.found (findYears text.toList) { kind := .yearRange }

/-- The first full name of a text; without one, an issue is reported. -/
def readAuthorName (text : String) : Check (Option String) :=
  Check.found ((findName text.toList).map String.ofList)
    { kind := .author, detail := some "no author name" }

/-- The first date of a text; without one, an issue is reported. -/
def readCreationDate (text : String) : Check (Option String) :=
  Check.found ((findDate text.toList).map fun date => String.ofList date.written)
    { kind := .creationDate }

/-! ## Reading a header -/

/-- The part of an author line after its tag. -/
def authorPart (l : Line) : Line :=
  match cutAt "@author".toList l with
  | some (_, rest) => rest
  | none => l

/-- The file name on a file-name line. -/
def fileNameText (l : Line) : Line := dropRepeated " * ".toList (trimEnd l)

/-- The text of a description line. -/
def descriptionText (l : Line) : Line := trim (dropRepeated " *".toList l)

/-- The values of a layout. A value that is not found is reported, and nothing after it is
looked for. -/
def recordOf (layout : Layout) : Check (Option HeaderRecord) := do
  let some years ← readYearRange (String.ofList layout.update) | return none
  let some author ← readAuthorName (String.ofList (authorPart layout.author)) | return none
  let some date ← readCreationDate (String.ofList layout.author) | return none
  return some
    { years
      fileName := String.ofList (fileNameText layout.fileName)
      description := String.ofList (join [' '] (layout.description.map descriptionText))
      author
      creationDate := date }

/-- The values of a header. A text that is not a header is reported once and not read. -/
def readHeader (g : Grammar) (text : String) : Check (Option HeaderRecord) :=
  match Layout.parse g text with
  | .ok layout => recordOf layout
  | .error stop => do Check.report stop.issue; return none

end DocLint.Header

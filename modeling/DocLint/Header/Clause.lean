import DocLint.Text.Basic

/-!
# Header clauses: the form of each line of a file header

A file header is a block comment such as

    /**
     * Copyright Acme Widgets, Inc. 2018-2020. All rights reserved.
     * Main.kt
     * At least twenty characters of description, any number of lines.
     * @author First Last Feb 28, 2018
     */

Each kind of line has one reader here. A reader walks the line once from left to right and
answers with what the line says (the organization, the years, the name), or with nothing if
the line has another form. No reader has to guess: every piece of a line ends at a character
that cannot belong to it, so a line can be read in one way only.

`Header.Grammar` binds the readers to the organization a project is set up for.
-/

namespace DocLint.Header

open Text

/-! ## Words, years and dates -/

/-- Read exactly `n` characters of the class `p`. -/
def readExactly (p : Char → Bool) : Nat → List Char → Option (List Char × List Char)
  | 0, s => some ([], s)
  | _ + 1, [] => none
  | n + 1, c :: s =>
      if p c then (readExactly p n s).map fun (taken, rest) => (c :: taken, rest) else none

/-- Read a capital letter followed by at least one small letter, and by all small letters
there are. -/
def readName : List Char → Option (List Char × List Char)
  | [] => none
  | c :: s =>
      if c.isUpper && !(s.takeWhile Char.isLower).isEmpty then
        some (c :: s.takeWhile Char.isLower, s.dropWhile Char.isLower)
      else none

/-- Read the short name of a month: a capital letter and two small ones. -/
def readMonth : List Char → Option (List Char × List Char)
  | [] => none
  | c :: s =>
      if c.isUpper then (readExactly Char.isLower 2 s).map fun (taken, rest) => (c :: taken, rest)
      else none

/-- Read one or two digits. -/
def readDay : List Char → Option (List Char × List Char)
  | [] => none
  | c :: s =>
      if c.isDigit then
        match s with
        | [] => some ([c], [])
        | d :: rest => if d.isDigit then some ([c, d], rest) else some ([c], d :: rest)
      else none

/-- Read a year of four digits. -/
def readYear (s : List Char) : Option (List Char × List Char) := readExactly Char.isDigit 4 s

/-- The years of a copyright notice. -/
structure YearSpan where
  /-- The year of creation. -/
  created : List Char
  /-- The year of the last update, where there is one. -/
  updated : Option (List Char)
deriving DecidableEq, Repr

/-- The years as they are written: `2018` or `2018-2020`. -/
def YearSpan.written (span : YearSpan) : List Char :=
  match span.updated with
  | none => span.created
  | some year => span.created ++ '-' :: year

/-- Read one year, or two with a hyphen between them. -/
def readYears (s : List Char) : Option (YearSpan × List Char) :=
  (readYear s).map fun (created, rest) =>
    match rest with
    | '-' :: more =>
        match readYear more with
        | some (updated, after) => (⟨created, some updated⟩, after)
        | none => (⟨created, none⟩, rest)
    | _ => (⟨created, none⟩, rest)

/-- A date such as `Feb 28, 2018`. -/
structure Date where
  /-- The short name of the month. -/
  month : List Char
  /-- The day, of one or two digits. -/
  day : List Char
  /-- The year. -/
  year : List Char
deriving DecidableEq, Repr

/-- The date as it is written. -/
def Date.written (date : Date) : List Char :=
  date.month ++ ' ' :: date.day ++ ", ".toList ++ date.year

/-- Read a date. -/
def readDate (s : List Char) : Option (Date × List Char) := do
  let (month, s) ← readMonth s
  let s ← after? [' '] s
  let (day, s) ← readDay s
  let s ← after? ", ".toList s
  let (year, s) ← readYear s
  some (⟨month, day, year⟩, s)

/-! ## The lines -/

/-- The line that opens the block: the marker and white space. -/
def isBlockStart (l : Line) : Bool :=
  match after? "/**".toList l with
  | some rest => isAllBlank rest
  | none => false

/-- The line that closes the block: white space, the marker, white space. -/
def isBlockEnd (l : Line) : Bool :=
  match after? "*/".toList (trimStart l) with
  | some rest => (l.head?.any isBlank) && isAllBlank rest
  | none => false

/-- What a copyright line says. -/
structure UpdateLine where
  /-- The owner of the copyright. -/
  organization : List Char
  /-- The years of the copyright. -/
  years : YearSpan
deriving DecidableEq, Repr

/-- Read a copyright line: the organization starts with a capital letter and has no comma. -/
def updateLine? (l : Line) : Option UpdateLine := do
  let s ← after? " * Copyright ".toList l
  let organization := s.takeWhile (· ≠ ',')
  guard (organization.head?.any Char.isUpper)
  let s ← after? ", Inc. ".toList (s.dropWhile (· ≠ ','))
  let (years, s) ← readYears s
  let s ← after? ". All rights reserved.".toList s
  guard (isAllBlank s)
  some ⟨organization, years⟩

/-- Read a file-name line: the name in front of the extension, on one line and not empty. -/
def fileName? (l : Line) : Option (List Char) := do
  let s ← after? " * ".toList l
  let name ← before? ".kt".toList (trimEnd s)
  guard (name ≠ [] ∧ '\n' ∉ name)
  some name

/-- Is this a description line: at least twenty characters after the margin? -/
def isDescription (l : Line) : Bool :=
  match after? " * ".toList l with
  | some text => 20 ≤ text.length && !text.contains '\n'
  | none => false

/-- What an author line says. -/
structure AuthorLine where
  /-- First name of the author. -/
  first : List Char
  /-- Last name of the author. -/
  last : List Char
  /-- The day the file was created. -/
  created : Date
deriving DecidableEq, Repr

/-- Read an author line. -/
def authorLine? (l : Line) : Option AuthorLine := do
  let s ← after? " * @author ".toList l
  let (first, s) ← readName s
  let s ← after? [' '] s
  let (last, s) ← readName s
  let s ← after? [' '] s
  let (created, s) ← readDate s
  guard (isAllBlank s)
  some ⟨first, last, created⟩

/-- Is this an author line? -/
def isAuthor (l : Line) : Bool := (authorLine? l).isSome

/-! ## The grammar of a project -/

/-- The header form of a project. Without an organization every capitalized name without a
comma may own the copyright. -/
structure Grammar where
  /-- The organization that must own the copyright. -/
  organization : Option String := none
deriving DecidableEq, Repr

namespace Grammar

/-- Is this a copyright line of the project's organization? -/
def isUpdateLine (g : Grammar) (l : Line) : Bool :=
  match updateLine? l with
  | none => false
  | some line =>
      match g.organization with
      | none => true
      | some organization => line.organization = organization.toList

/-- The copyright line the project expects. -/
def sampleUpdateLine (g : Grammar) : String :=
  " * Copyright " ++ g.organization.getD "Organization" ++
    ", Inc. 2018-2020. All rights reserved."

end Grammar

/-- Is this a file-name line, for any name? -/
def isFileName (l : Line) : Bool := (fileName? l).isSome

/-- Is this the file-name line of the file `name`? -/
def isFileNameOf (name : String) (l : Line) : Bool := fileName? l = some name.toList

/-! ## The clauses in words -/

/-- The parts of a header, in the order in which they stand. -/
inductive Clause where
  /-- The opening marker. -/
  | start
  /-- The copyright line. -/
  | updateLine
  /-- The file-name line. -/
  | fileName
  /-- A line of description. -/
  | description
  /-- The author line. -/
  | author
  /-- The closing marker. -/
  | blockEnd
deriving DecidableEq, Repr

/-- The clause in the words of a diagnosis. -/
def Clause.text : Clause → String
  | start => "block start \"/**\""
  | updateLine => "copyright update line"
  | fileName => "file-name line"
  | description => "description line"
  | author => "@author line"
  | blockEnd => "block end \" */\""

end DocLint.Header

import DocLint.Header.Clause

/-!
# Header layout: cutting a header into its clauses

A header is, line by line, a block start, a copyright line, a file-name line, one or more
description lines, an author line and a block end; blank lines may follow. An author line
also has the form of a description line, so the descriptions are not read greedily: the
author line is the line right above the first block end.

`Layout.parse` cuts a text along these rules. Where it fails it names the clause that was
expected and the line, counted from zero, where it was expected.
-/

namespace DocLint.Header

open Text

/-- The lines of a header that carry its values. -/
structure Layout where
  /-- The copyright line. -/
  update : Line
  /-- The file-name line. -/
  fileName : Line
  /-- The description lines. -/
  description : List Line
  /-- The author line. -/
  author : Line
deriving DecidableEq, Repr

/-- Where a text stops being a header. -/
structure Stop where
  /-- The clause that was expected. -/
  expected : Clause
  /-- The line, counted from zero, where it was expected. -/
  line : Nat
deriving DecidableEq, Repr

/-- The number of lines in front of the first description line. -/
def headLength : Nat := 3

/-- Take a first line of the form `p` off the remaining lines, which start at line `pos`. -/
def expect (clause : Clause) (p : Line → Bool) (pos : Nat) :
    List Line → Except Stop (Line × List Line)
  | [] => .error ⟨clause, pos⟩
  | l :: rest => if p l then .ok (l, rest) else .error ⟨clause, pos⟩

/-- The descriptions and the author line out of the lines between the file-name line and the
first block end. -/
def splitBody (body : List Line) : Except Stop (List Line × Line) :=
  match body.getLast? with
  | none => .error ⟨.description, headLength⟩
  | some author =>
      let description := body.dropLast
      match description.findIdx? (!isDescription ·) with
      | some i => .error ⟨.description, headLength + i⟩
      | none =>
          if !isAuthor author then .error ⟨.author, headLength + description.length⟩
          else if description.isEmpty then .error ⟨.description, headLength⟩
          else .ok (description, author)

/-- Cut the lines of a header into its clauses. -/
def Layout.ofLines (g : Grammar) (ls : List Line) : Except Stop Layout := do
  let (_, rest) ← expect .start isBlockStart 0 ls
  let (update, rest) ← expect .updateLine g.isUpdateLine 1 rest
  let (fileName, rest) ← expect .fileName isFileName 2 rest
  match rest.findIdx? isBlockEnd with
  | none => .error ⟨.blockEnd, ls.length - 1⟩
  | some marker =>
      let (description, author) ← splitBody (rest.take marker)
      if (rest.drop (marker + 1)).all isAllBlank then
        .ok ⟨update, fileName, description, author⟩
      else .error ⟨.blockEnd, headLength + marker + 1⟩

/-- Cut a text into the clauses of a header. -/
def Layout.parse (g : Grammar) (text : String) : Except Stop Layout :=
  Layout.ofLines g (lines text.toList)

end DocLint.Header

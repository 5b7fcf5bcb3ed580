import DocLint.DocBlock.Grammar
import DocLint.Text.Alphanumeric

/-!
# Matching a documentation block

The lines of a block are matched clause by clause. A clause takes lines off the front; lines
without a tag are taken as far as they go, which never costs a match, because no clause that
can follow them starts with such a line.

`DocGrammar.matchText` answers with the clause that was expected and the line, counted from
zero, at which the block leaves the grammar.
-/

namespace DocLint

open Text

/-- The least number of characters after the fixed part of a tag. -/
def minTagText : Nat := 10

/-! ## The forms of a line -/

/-- The text after the star of a documentation line. The end marker and a line without a
star have none. -/
def starText? (l : Line) : Option (List Char) :=
  match trimStart l with
  | '*' :: '/' :: _ => none
  | '*' :: rest => some rest
  | _ => none

/-- Is this a line with a star and without a tag? -/
def isFreeLine (l : Line) : Bool := (starText? l).any (!·.contains '@')

/-- Is this the line that opens a block? -/
def isDocStart (l : Line) : Bool := trimEnd l = "/**".toList

/-- Is this the line that closes a block? -/
def isDocEnd (l : Line) : Bool := trim l = "*/".toList

/-- The text after the star, the tag and a fixed word. -/
def afterTag? (tag word : String) (l : Line) : Option (List Char) := do
  let s ← starText? l
  let s ← after? tag.toList s
  after? word.toList s

/-- Does the line have the tag, the word and enough text after them? -/
def isTagLine (tag word : String) (l : Line) : Bool :=
  (afterTag? tag word l).any (minTagText ≤ ·.length)

/-- Can the character continue a name? -/
def continuesName (c : Char) : Bool := isAlphanumeric c || c == '_'

/-- Is this the line of the parameter `name`? The name must end where its text ends. -/
def isParamLine (name : String) (l : Line) : Bool :=
  (afterTag? " @param " name l).any fun rest =>
    rest.head?.any (!continuesName ·) && minTagText ≤ rest.length

/-! ## The matcher -/

/-- The lines after those that a clause takes, if the clause is there. -/
def DocClause.take? (clause : DocClause) (ls : List Line) : Option (List Line) :=
  match clause, ls with
  | .start, l :: rest => if isDocStart l then some rest else none
  | .description, l :: rest => if isFreeLine l then some (rest.dropWhile isFreeLine) else none
  | .param name, l :: rest => if isParamLine name l then some (rest.dropWhile isFreeLine) else none
  | .result type, l :: rest => if isTagLine " @return " type l then some rest else none
  | .throws, l :: rest => if isTagLine " @throws" "" l then some rest else none
  | .catches, l :: rest => if isTagLine " @catch " "" l then some rest else none
  | .blockEnd, [l] => if isDocEnd l then some [] else none
  | _, _ => none

/-- Where a block leaves its grammar. -/
structure Mismatch where
  /-- The clause that was expected. -/
  expected : DocClause
  /-- The line, counted from zero, where it was expected. -/
  line : Nat
deriving DecidableEq, Repr

/-- Match clauses with the lines from line `pos` on. -/
def matchClauses : List DocClause → Nat → List Line → Except Mismatch Unit
  | [], _, _ => .ok ()
  | clause :: more, pos, ls =>
      match clause.take? ls with
      | none => .error ⟨clause, pos⟩
      | some rest => matchClauses more (pos + (ls.length - rest.length)) rest

/-- Match the whole text of a block with a grammar. -/
def DocGrammar.matchText (g : DocGrammar) (text : String) : Except Mismatch Unit :=
  matchClauses g.clauses 0 (lines text.toList)

end DocLint

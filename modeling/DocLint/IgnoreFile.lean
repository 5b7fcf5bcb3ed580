import DocLint.IgnoreFile.Pattern

/-!
# Ignore files: lists of patterns of entries to leave out

Every line of an ignore file is a pattern that is seen from the directory of the file. A line
that starts with `!` takes entries back in, one that ends with `/` is about directories only,
and of several lines that match an entry the last one decides.

A pattern without a separator may match at any depth, any other is bound to the directory of
the file.
-/

namespace DocLint

open Text

namespace IgnoreFile

/-- A line of an ignore file. -/
structure Rule where
  /-- The pattern of the entries that the line is about. -/
  pattern : Pattern
  /-- Does the line take entries back in? -/
  keeps : Bool
  /-- Is the line about directories only? -/
  onlyDirectories : Bool
deriving DecidableEq, Repr

/-- What the start of a line says: whether it takes entries back in, whether its pattern is
bound to the directory of the file, and the pattern. -/
def lineStart : List Char → Bool × Bool × List Char
  | '\\' :: '!' :: s => (false, false, '!' :: s)
  | '\\' :: '#' :: s => (false, false, '#' :: s)
  | '!' :: '/' :: s => (true, true, s)
  | '!' :: s => (true, false, s)
  | '/' :: s => (false, true, s)
  | s => (false, false, s)

/-- What the end of a line says: whether it is about directories only, and the pattern without
the separator at its end. -/
def lineEnd (s : List Char) : Bool × List Char :=
  if s.getLast? = some '/' then
    let body := s.dropLast
    (true, if body.getLast? = some '\\' then body.dropLast else body)
  else (false, s)

/-- The pattern as seen from the directory of the file: one without a separator matches at any
depth, and one that ends in `/**` needs something inside the directory. -/
def anchored (bound : Bool) (s : List Char) : List Char :=
  let s :=
    if bound || s.contains '/' || s = ['*', '*'] then s else ['*', '*', '/'] ++ s
  if (before? ['/', '*', '*'] s).isSome then s ++ ['/', '*'] else s

/-- Read a line. Comments, blank lines and patterns that are not valid say nothing. -/
def Rule.ofLine? (line : Line) : Option Rule := do
  guard (line.head? ≠ some '#')
  let line := if (before? ['\\', ' '] line).isSome then line else trimEnd line
  guard (line ≠ [])
  let (keeps, bound, s) := lineStart line
  let (onlyDirectories, s) := lineEnd s
  let pattern ← Pattern.ofText? (anchored bound s)
  some { pattern, keeps, onlyDirectories }

/-- The rules of an ignore file, in the order of its lines. The first line may start with byte
order marks. -/
def rulesOf (lines : List Line) : List Rule :=
  (lines.modifyHead (·.dropWhile (· = '\uFEFF'))).filterMap Rule.ofLine?

/-- Does a rule say something about an entry? -/
def Rule.applies (rule : Rule) (path : List Char) (isDirectory : Bool) : Bool :=
  (isDirectory || !rule.onlyDirectories) && rule.pattern.matchesPath path

/-- What the rules say about an entry: whether it is ignored, if they say anything. -/
def ignores? (rules : List Rule) (path : List Char) (isDirectory : Bool) : Option Bool :=
  (rules.reverse.find? (·.applies path isDirectory)).map (!·.keeps)

end IgnoreFile

end DocLint

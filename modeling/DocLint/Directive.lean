import DocLint.Text.Basic

/-!
# Directives: comments that allow a violation

A comment of the form

    // kdoc-lint: allow(function-doc) reason="generated accessor"

allows violations of the named rules on its own line and on the next one. With `allow-file`
it allows them in the whole file. The name `all` stands for every rule. A line is read by its
first comment that holds a directive.

`Directive.written` writes a directive down, and `Directive.ofLine?` reads it.
-/

namespace DocLint

open Text

/-- How far a directive reaches. -/
inductive Scope where
  /-- The line of the directive and the next one. -/
  | line
  /-- The whole file. -/
  | file
deriving DecidableEq, Repr

/-- The word that opens the names of a directive. -/
def Scope.word : Scope → String
  | line => "allow("
  | file => "allow-file("

/-- Leave to violate some rules. -/
structure Directive where
  /-- How far it reaches. -/
  scope : Scope
  /-- The names of the rules. -/
  names : List String
  /-- Why it is given. -/
  reason : Option String
deriving DecidableEq, Repr

namespace Directive

/-- The name that stands for every rule. -/
def everyRule : String := "all"

/-- Is the rule one of those that the directive names? -/
def covers (d : Directive) (rule : String) : Bool :=
  d.names.contains rule || d.names.contains everyRule

/-! ## Reading -/

/-- The names between commas, without white space around them; empty ones do not count. -/
def namesOf (s : List Char) : List String :=
  (((splitAt ',' s).map trim).filter (· ≠ [])).map String.ofList

/-- The reason after the names: `reason=` and a text in quotes that is not empty. -/
def reasonOf (s : List Char) : Option String := do
  let s ← after? "reason=".toList (trim s)
  let s ← after? ['"'] (trim s)
  let (reason, _) ← cutAt ['"'] s
  guard (reason ≠ [])
  some (String.ofList reason)

/-- The scope and what stands after its word. -/
def scopeOf (s : List Char) : Option (Scope × List Char) :=
  match after? Scope.file.word.toList s with
  | some body => some (.file, body)
  | none => (after? Scope.line.word.toList s).map fun body => (.line, body)

/-- The directive in the text of a comment. -/
def ofComment? (s : List Char) : Option Directive := do
  let s ← after? "kdoc-lint:".toList (trim s)
  let (scope, body) ← scopeOf (trim s)
  let (names, rest) ← cutAt [')'] body
  guard (namesOf names ≠ [])
  some ⟨scope, namesOf names, reasonOf rest⟩

/-- The text of a comment that starts with a slash: without the slashes and stars in front,
and up to the end marker of a block comment. -/
def commentText (s : List Char) : List Char :=
  let s := s.dropWhile fun c => c == '/' || c == '*'
  match cutAt "*/".toList s with
  | some (text, _) => text
  | none => s

/-- Does a comment start here? -/
def startsComment : List Char → Bool
  | '/' :: '/' :: _ => true
  | '/' :: '*' :: _ => true
  | _ => false

/-- The first directive in the comments of a line. -/
def ofLine? : Line → Option Directive
  | [] => none
  | c :: rest =>
      if startsComment (c :: rest) then
        (ofComment? (commentText (c :: rest))).or (ofLine? rest)
      else ofLine? rest

/-! ## Writing -/

/-- The directive as it is written in a comment. -/
def written (d : Directive) : List Char :=
  "kdoc-lint: ".toList ++ d.scope.word.toList ++
    join ", ".toList (d.names.map String.toList) ++ [')'] ++
    match d.reason with
    | none => []
    | some reason => " reason=\"".toList ++ reason.toList ++ ['"']

/-! ## Looking up -/

/-- The line with a number counted from one. -/
def lineNumbered? (ls : List Line) : Nat → Option Line
  | 0 => none
  | n + 1 => ls[n]?

/-- Does the directive cover the rule in this scope? -/
def appliesTo (scope : Scope) (rule : String) (d : Directive) : Bool :=
  d.scope = scope && d.covers rule

/-- The directive that allows a rule on a line: the first one for the whole file, else one on
the line before, else one on the line itself. -/
def find? (content : String) (line : Nat) (rule : String) : Option Directive :=
  let ls := lines content.toList
  ((ls.filterMap ofLine?).find? (appliesTo .file rule)).or
    ((([lineNumbered? ls (line - 1), lineNumbered? ls line].filterMap id).filterMap ofLine?).find?
      (appliesTo .line rule))

end Directive

end DocLint

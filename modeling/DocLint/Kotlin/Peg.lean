import DocLint.Kotlin.Tree

/-!
# Parsing expressions

A grammar maps each rule to a parsing expression. `Peg.run` reads tokens along an expression
and builds the nodes that the expression asks for.

* Choice is ordered: the second branch is tried only if the first one fails.
* Repetition takes as much as it can.
* `suffixed` reads a first part and then as many suffixes as there are, and wraps a node
  around everything read so far after each of them; that is how `a.b().c` gets its nested
  nodes.
* `stay` succeeds if the statement that is being read goes on at the next token. That depends
  on the `Setting`: inside parentheses line breaks mean nothing.

A comment belongs in front of the token it precedes, so a node whose first token has comments
in front of it leaves them to the node around it.
-/

namespace DocLint.Kotlin

/-- The surroundings of an expression, as far as they bear on where it ends. -/
inductive Setting where
  /-- At the front of a statement: a line break may end it, and it may turn out to be the left
  side of an assignment. -/
  | statement
  /-- In the rest of a statement: a line break may end it. -/
  | value
  /-- Among the members of a class. -/
  | members
  /-- Between brackets, where commas separate expressions. -/
  | list
  /-- Between brackets. -/
  | enclosed
deriving DecidableEq, Repr

/-- May a line break end a statement here? -/
def Setting.breaks : Setting → Bool
  | statement | value | members => true
  | list | enclosed => false

/-- A parsing expression over the rules `R`. -/
inductive Peg (R : Type) where
  /-- Read nothing. -/
  | empty
  /-- Read a word with this text. -/
  | word (text : String)
  /-- Read a word that satisfies a test. -/
  | wordIf (p : List Char → Bool)
  /-- Read a token of a kind. -/
  | token (kind : TokenKind)
  /-- Read an operator, if no longer one starts here. -/
  | operator (text : String)
  /-- Read a single symbol, whatever follows it. -/
  | symbol (c : Char)
  /-- Read any token but the last one. -/
  | any
  /-- The next token follows the last one directly. -/
  | joined
  /-- The next token stands on the line of the last one. -/
  | sameLine
  /-- The statement goes on at the next token. -/
  | stay
  /-- The next token has a block comment in front of it. -/
  | remarked
  /-- The surroundings are these. -/
  | inside (setting : Setting)
  /-- Read one after the other. -/
  | seq (a b : Peg R)
  /-- Read the first, or else the second. -/
  | alt (a b : Peg R)
  /-- Read as often as possible. -/
  | star (a : Peg R)
  /-- Succeed without reading if the expression fails. -/
  | absent (a : Peg R)
  /-- Read along a rule. -/
  | rule (r : R)
  /-- Make a node of what is read. -/
  | node (kind : Kind) (a : Peg R)
  /-- Read a first part and its suffixes, each with the kind of the node that it makes. -/
  | suffixed (a : Peg R) (suffix : List (Kind × Peg R))
  /-- Read in other surroundings. -/
  | within (setting : Setting) (a : Peg R)
  /-- Read, but leave what is read out of the nodes around it. A comment that follows directly
  takes it in. -/
  | skipped (a : Peg R)

/-- The place of a parser in the source. -/
structure Place where
  /-- The tokens that are left; the last one is the end of the source. -/
  tokens : List Token
  /-- The offset after the last token that was read. -/
  stop : Nat
  /-- The surroundings. -/
  setting : Setting

namespace Place

/-- The comments in front of a token as nodes. -/
def commentNodes (t : Token) : List Tree := t.comments.map fun e => .node .comment e []

/-- Read the next token if it passes a test. -/
def take (p : Token → Bool) (place : Place) : Option (List Tree × Place) :=
  match place.tokens with
  | t :: rest =>
      if p t && t.kind ≠ .endOfText then
        some (commentNodes t, { place with tokens := rest, stop := t.extent.stop })
      else none
  | [] => none

/-- The offset of the next token. -/
def start (place : Place) : Nat :=
  match place.tokens with
  | t :: _ => t.extent.start
  | [] => place.stop

/-- Does the statement go on at the next token? -/
def goesOn (place : Place) : Bool :=
  match place.tokens with
  | t :: rest => !(place.setting.breaks && t.endsStatement rest.head?)
  | [] => false

/-- The place after a text from `start` on that belongs to no node: a comment right behind the
text starts with it, and the last token that was read is the one before it. -/
def skipFrom (place : Place) (start : Nat) (before : Place) : Place :=
  let tokens := match place.tokens with
    | t :: rest =>
        let comments := t.comments.map fun e =>
          if e.start = place.stop then { e with start } else e
        { t with comments } :: rest
    | [] => []
  { place with tokens, stop := before.stop }

/-- Read symbols that spell a text and stand side by side. -/
def takeSymbols : List Char → Place → Option (List Tree × Place)
  | [], place => some ([], place)
  | c :: cs, place => do
      let (trees, place) ← place.take fun t => t.kind = .symbol && t.text == [c]
      let rec more : List Char → Place → Option Place
        | [], place => some place
        | c :: cs, place => do
            let (_, next) ← place.take fun t =>
              t.kind = .symbol && t.text == [c] && t.extent.start == place.stop
            more cs next
      return (trees, ← more cs place)

end Place

/-- The operators of more than one character, longer ones first. -/
def operators : List (List Char) :=
  ["!==", "===", "..<", "!=", "==", "<=", ">=", "->", "::", "?.", "?:", "!!", "++", "--", "&&",
    "||", "+=", "-=", "*=", "/=", "%=", ".."].map String.toList

/-- Is `text` the longest operator at a place? -/
def Place.isOperator (text : List Char) (place : Place) : Bool :=
  (operators.find? fun op => (place.takeSymbols op).isSome).all (· == text)

/-- Put a node around the trees that start at or after `start`; comments in front of it stay
outside. -/
def wrap (kind : Kind) (start stop : Nat) (trees : List Tree) : List Tree :=
  trees.takeWhile (·.extent.start < start) ++
    [.node kind ⟨start, stop⟩ (trees.dropWhile (·.extent.start < start))]

namespace Peg

variable {R : Type}

/-- What reading along an expression gives: the nodes that were made and the place after
them. -/
abbrev Outcome := Option (List Tree × Place)

/-- Read the first suffix that is there. -/
def oneSuffix (read : Peg R → Place → Outcome) :
    List (Kind × Peg R) → Place → Option (Kind × List Tree × Place)
  | [], _ => none
  | (kind, p) :: others, place =>
      match read p place with
      | some (trees, next) =>
          if place.start < next.start then some (kind, trees, next)
          else oneSuffix read others place
      | none => oneSuffix read others place

/-- Read suffixes as long as there are any, at most `n` of them, and wrap a node around
everything from `start` on after each. -/
def suffixes (read : Peg R → Place → Outcome) (suffix : List (Kind × Peg R)) (start : Nat) :
    Nat → List Tree → Place → List Tree × Place
  | 0, trees, place => (trees, place)
  | n + 1, trees, place =>
      match oneSuffix read suffix place with
      | none => (trees, place)
      | some (kind, more, next) =>
          suffixes read suffix start n (wrap kind start next.stop (trees ++ more)) next

/-- Read along an expression as often as it goes on, at most `n` times. -/
def repeated (read : Place → Outcome) : Nat → Place → List Tree × Place
  | 0, place => ([], place)
  | n + 1, place =>
      match read place with
      | none => ([], place)
      | some (trees, next) =>
          if place.start < next.start then
            let (more, last) := repeated read n next
            (trees ++ more, last)
          else ([], place)

/-- Read along an expression. The bound is on the depth of nested expressions and on the number
of repetitions. -/
def run (grammar : R → Peg R) : Nat → Peg R → Place → Outcome
  | 0, _, _ => none
  | n + 1, p, place =>
      match p with
      | empty => some ([], place)
      | word text => place.take fun t => t.kind = .word && t.text == text.toList
      | wordIf test => place.take fun t => t.kind = .word && test t.text
      | token kind => place.take fun t => t.kind = kind
      | operator text =>
          match place.takeSymbols text.toList with
          | some outcome => if place.isOperator text.toList then some outcome else none
          | none => none
      | symbol c => place.takeSymbols [c]
      | any => place.take fun _ => true
      | joined => if place.start = place.stop then some ([], place) else none
      | sameLine => if place.tokens.head?.any (!·.onNewLine) then some ([], place) else none
      | stay => if place.goesOn then some ([], place) else none
      | remarked => if place.tokens.head?.any (·.afterBlock) then some ([], place) else none
      | inside setting => if place.setting = setting then some ([], place) else none
      | seq a b => do
          let (ts, place) ← run grammar n a place
          let (us, place) ← run grammar n b place
          some (ts ++ us, place)
      | alt a b =>
          match run grammar n a place with
          | some outcome => some outcome
          | none => run grammar n b place
      | star a => some (repeated (run grammar n a) n place)
      | absent a => if (run grammar n a place).isSome then none else some ([], place)
      | rule r => run grammar n (grammar r) place
      | node kind a => do
          let (ts, next) ← run grammar n a place
          some (wrap kind place.start next.stop ts, next)
      | suffixed a suffix => do
          let (ts, next) ← run grammar n a place
          some (suffixes (run grammar n) suffix place.start n ts next)
      | within setting a => do
          let (ts, next) ← run grammar n a { place with setting }
          some (ts, { next with setting := place.setting })
      | skipped a => do
          let (_, next) ← run grammar n a place
          some ([], next.skipFrom place.start place)

end Peg

end DocLint.Kotlin

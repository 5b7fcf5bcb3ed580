import DocLint.Kotlin.Comment
import DocLint.Kotlin.Grammar

/-!
# The outline of a Kotlin file

The functions and calls of a file are the nodes of these kinds in its syntax tree, listed in
the order of the walk through the tree. `outline` puts them together with the comment the file
starts with.

The parts of a function are looked for in the one form that trees of this grammar have:

* The name of a function or a parameter is an `identifier` among the children of its node. There
  is no second kind of name, and no name is marked in another way.
* What a function does is always a `functionBody`: a block, or an expression behind an equals
  sign. Neither a block nor an equals sign stands right below a function.
* The statements of a block are its children. There is no node for all of them together.
* The modifiers of a parameter, with the annotations among them, are one `modifiers` node in front
  of it.

Trees of this grammar never have the other forms, so there are no rules for them.
-/

namespace DocLint.Kotlin

open Text

/-- The text of a node. -/
def textOf (source : List Char) (t : Tree) : List Char :=
  slice t.extent.start t.extent.stop source

/-- The place of `length` bytes that start at the byte `start` of a text. The line, the column
and the offset are those of the first character that is left. -/
def spanFrom (start length : Nat) : (line column offset : Nat) → List Char → Span
  | line, column, offset, [] => { line, column, offset, length }
  | line, column, offset, c :: rest =>
      if start ≤ offset then { line, column, offset, length }
      else if c = '\n' then spanFrom start length (line + 1) 1 (offset + c.utf8Size) rest
      else spanFrom start length line (column + c.utf8Size) (offset + c.utf8Size) rest

/-- The place of a node. -/
def spanOf (source : List Char) (t : Tree) : Span :=
  spanFrom t.extent.start (t.extent.stop - t.extent.start) 1 1 0 source

/-! ## Functions -/

mutual

/-- The first name inside a parameter, modifiers left out. -/
def nameInside? : Tree → Option Extent
  | .node .identifier extent _ => some extent
  | .node .modifiers _ _ => none
  | .node _ _ children => nameAmong? children

/-- The first name inside some trees. -/
def nameAmong? : List Tree → Option Extent
  | [] => none
  | t :: ts => (nameInside? t).or (nameAmong? ts)

end

/-- The names of the parameters in a parameter list. -/
def parameterNames (source : List Char) (parameters : Tree) : List String :=
  ((parameters.children.filter (·.kind = .parameter)).filterMap nameInside?).map fun e =>
    String.ofList (slice e.start e.stop source)

/-- The children of a function after its parameter list. -/
def afterParameters (f : Tree) : List Tree :=
  (f.children.dropWhile (·.kind ≠ .valueParameters)).drop 1

/-- Does the node end the signature of a function? -/
def endsSignature (t : Tree) : Bool := t.kind = .functionBody || t.kind = .typeConstraints

/-- The result type of a function: what stands first after the colon of its signature. -/
def resultType? (source : List Char) (f : Tree) : Option String := do
  let signature := (afterParameters f).takeWhile (!endsSignature ·)
  let type ← ((signature.dropWhile (·.kind ≠ .colon)).filter Tree.isNamed).head?
  some (String.ofList (trim (textOf source type)))

/-- The direct parts of the body of a function: the statements and comments of its block, or
the expression it stands for. -/
def bodyParts (f : Tree) : List Tree :=
  match f.children.find? (·.kind = .functionBody) with
  | none => []
  | some body =>
      match body.namedChildren with
      | [inner] => if inner.kind = .block then inner.namedChildren else [inner]
      | parts => parts

/-- The function that a node declares, if it has a name. -/
def function? (source : List Char) (f : Tree) : Option Function := do
  let name ← f.children.find? (·.kind = .identifier)
  let parameters := f.children.find? (·.kind = .valueParameters)
  some {
    name := String.ofList (textOf source name)
    params := (parameters.map (parameterNames source)).getD []
    returnType := resultType? source f
    body := (bodyParts f).map fun t => String.ofList (textOf source t)
    doc := trailingDoc? (slice 0 f.extent.start source)
    span := spanOf source f }

/-! ## Calls -/

/-- The call that a node makes: its first child is what is called. -/
def call? (source : List Char) (t : Tree) : Option Call := do
  let callee ← t.namedChildren.head?
  some {
    callee := String.ofList (squeeze (textOf source callee))
    span := spanOf source t }

/-! ## Files -/

/-- The outline of a source text with a given syntax tree. -/
def outlineOf (source : List Char) (tree : Tree) : Outline :=
  let nodes := walk [tree]
  { header := leadingComment? source
    functions := (nodes.filter (·.kind = .functionDeclaration)).filterMap (function? source)
    calls := (nodes.filter (·.kind = .callExpression)).filterMap (call? source) }

/-- The outline of a Kotlin source. -/
def outline (source : String) : Outline := outlineOf source.toList (parse source.toList)

end DocLint.Kotlin

import DocLint.Kotlin.Token

/-!
# Syntax trees

A syntax tree is a node with a kind, an extent in the source and children in the order of the
source. Comments are nodes too: a comment stands as a child of the smallest construct that
goes on after it.

`Tree.preorder` lists the nodes of a tree, each node before its children. `walk` computes the
same list with a work list in place of nested calls.
-/

namespace DocLint.Kotlin

/-- The kinds of nodes that the outline of a file depends on. -/
inductive Kind where
  /-- A whole source file. -/
  | sourceFile
  /-- A function with a name. -/
  | functionDeclaration
  /-- A parameter list between parentheses. -/
  | valueParameters
  /-- One parameter. -/
  | parameter
  /-- The body of a function. -/
  | functionBody
  /-- Statements between braces. -/
  | block
  /-- Modifiers and annotations in front of a declaration. -/
  | modifiers
  /-- A name. -/
  | identifier
  /-- The text of a type. -/
  | type
  /-- The word that stands for any type. -/
  | dynamicType
  /-- The conditions on type parameters. -/
  | typeConstraints
  /-- A call. -/
  | callExpression
  /-- A comment. -/
  | comment
  /-- The colon in front of a type. -/
  | colon
  /-- Any other declaration, statement or expression. -/
  | other
deriving DecidableEq, Repr

/-- A syntax tree. -/
inductive Tree where
  /-- A node with its extent and its children. -/
  | node (kind : Kind) (extent : Extent) (children : List Tree)
deriving Repr

namespace Tree

/-- The kind of the root. -/
def kind : Tree → Kind
  | node k _ _ => k

/-- The bytes of the tree. -/
def extent : Tree → Extent
  | node _ e _ => e

/-- The children of the root. -/
def children : Tree → List Tree
  | node _ _ cs => cs

/-- Is the node a construct? Single words and punctuation are none. -/
def isNamed (t : Tree) : Bool := t.kind ≠ .colon && t.kind ≠ .dynamicType

/-- The children that are constructs. -/
def namedChildren (t : Tree) : List Tree := t.children.filter isNamed

end Tree

/-! ## Listing nodes -/

mutual

/-- The number of nodes of a tree. -/
def Tree.size : Tree → Nat
  | .node _ _ cs => 1 + sizes cs

/-- The number of nodes of some trees. -/
def sizes : List Tree → Nat
  | [] => 0
  | t :: ts => t.size + sizes ts

end

/-- Trees joined in a row have the nodes of both rows. -/
theorem sizes_append (ts us : List Tree) : sizes (ts ++ us) = sizes ts + sizes us := by
  induction ts with
  | nil => simp [sizes]
  | cons t ts ih => simp only [List.cons_append, sizes, ih]; omega

/-- Leaving out trees leaves out nodes. -/
theorem sizes_filter_le (p : Tree → Bool) (ts : List Tree) : sizes (ts.filter p) ≤ sizes ts := by
  induction ts with
  | nil => simp [sizes]
  | cons t ts ih =>
    by_cases h : p t
    · simp only [List.filter_cons, h, if_true, sizes]; omega
    · simp only [List.filter_cons, h, sizes]; simp; omega

/-- The named children of a node have fewer nodes than it. -/
theorem Tree.sizes_namedChildren_lt (t : Tree) : sizes t.namedChildren < t.size := by
  cases t with
  | node k e cs =>
    have := sizes_filter_le Tree.isNamed cs
    simp only [Tree.namedChildren, Tree.children, Tree.size]
    omega

/-- The nodes reached from a work list: the first tree of the list is visited, and its named
children take its place. -/
def walk : List Tree → List Tree
  | [] => []
  | t :: rest => t :: walk (t.namedChildren ++ rest)
termination_by ts => sizes ts
decreasing_by
  simp only [sizes_append, sizes]
  have := t.sizes_namedChildren_lt
  omega

mutual

/-- The nodes of a tree that are reached through named children, each before its children. -/
def Tree.preorder : Tree → List Tree
  | .node k e cs => .node k e cs :: preorders cs

/-- The nodes of some trees, punctuation left out. -/
def preorders : List Tree → List Tree
  | [] => []
  | t :: ts => (if t.isNamed then t.preorder else []) ++ preorders ts

end

end DocLint.Kotlin

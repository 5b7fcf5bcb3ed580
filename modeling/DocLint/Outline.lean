import DocLint.Text.Basic

/-!
# Outlines: what a source file holds

The rules never look at a syntax tree. They look at the outline of a file: its opening
comment, its functions with their signatures and documentation, and its calls, each with
the place where it stands.
-/

namespace DocLint

/-- A place in a file. Lines and columns count from one; columns, offsets and lengths count
UTF-8 bytes. -/
structure Span where
  /-- The line on which the place starts. -/
  line : Nat := 0
  /-- The column at which it starts. -/
  column : Nat := 0
  /-- The number of bytes in front of it. -/
  offset : Nat := 0
  /-- Its number of bytes. -/
  length : Nat := 0
deriving DecidableEq, Repr, Inhabited

/-- A block comment with its delimiters. -/
structure Comment where
  /-- The text, delimiters included. -/
  text : String
  /-- Where the comment stands. -/
  span : Span := {}
deriving DecidableEq, Repr

/-- A function declaration. -/
structure Function where
  /-- The name. -/
  name : String
  /-- The names of the parameters, in order. -/
  params : List String := []
  /-- The text of the declared result type. -/
  returnType : Option String := none
  /-- The text of each direct part of the body. -/
  body : List String := []
  /-- The documentation comment right before the declaration. -/
  doc : Option Comment := none
  /-- Where the declaration stands. -/
  span : Span := {}
deriving DecidableEq, Repr

/-- The declared result type without white space around it, if it is one that carries a
value: not empty and not `Unit`. -/
def Function.result? (f : Function) : Option String :=
  match f.returnType with
  | none => none
  | some type =>
      let text := Text.trim type.toList
      if text = [] ∨ text = "Unit".toList then none else some (String.ofList text)

/-- A call such as `Log.d(TAG, "message")`. -/
structure Call where
  /-- The text of what is called. -/
  callee : String
  /-- Where the whole call stands. -/
  span : Span := {}
deriving DecidableEq, Repr

/-- What a source file holds, in the order of the source. -/
structure Outline where
  /-- The comment the file starts with. -/
  header : Option Comment := none
  /-- The functions. -/
  functions : List Function := []
  /-- The calls. -/
  calls : List Call := []
deriving DecidableEq, Repr

/-- The text of the opening comment; a file without one has the empty text. -/
def Outline.headerText (outline : Outline) : String :=
  match outline.header with
  | some comment => comment.text
  | none => ""

end DocLint

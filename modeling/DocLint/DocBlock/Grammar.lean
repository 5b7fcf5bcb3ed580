import DocLint.Outline

/-!
# Documentation grammars: what the comment of a function must say

The documentation block of a function has a fixed order of clauses: a start, a description,
one `@param` for each parameter, a `@return` if the function has a result, one `@throws` for
each throwing part of the body, one `@catch` for each catching part, and an end.

A `DocGrammar` records the parts that differ between functions; `DocGrammar.clauses` lists
the clauses in their order. Grammars are composed by steps (`DocGrammar.Step`), which may come
in any order, and `DocGrammar.ofFunction` takes the steps a function calls for.
-/

namespace DocLint

open Text

/-- One clause of a documentation block. -/
inductive DocClause where
  /-- The line that opens the block. -/
  | start
  /-- One or more lines without a tag. -/
  | description
  /-- The line of a parameter, and lines without a tag that continue it. -/
  | param (name : String)
  /-- The line of the result. -/
  | result (type : String)
  /-- The line of an exception that is thrown. -/
  | throws
  /-- The line of an exception that is caught. -/
  | catches
  /-- The line that closes the block. -/
  | blockEnd
deriving DecidableEq, Repr

namespace DocClause

/-- The clause in the words of a diagnosis. -/
def text : DocClause → String
  | start => "block start \"/**\""
  | description => "description"
  | param name => "@param " ++ name
  | result type => "@return " ++ type
  | throws => "@throws"
  | catches => "@catch"
  | blockEnd => "block end \"*/\""

/-- A line that satisfies the clause, with placeholders for the free text. -/
def sampleLine : DocClause → String
  | start => "/**"
  | description => " * <description>"
  | param name => " * @param " ++ name ++ " <description>"
  | result type => " * @return " ++ type ++ " <description>"
  | throws => " * @throws <exception> <description>"
  | catches => " * @catch <exception> <description>"
  | blockEnd => " */"

end DocClause

/-- The documentation a function calls for. -/
structure DocGrammar where
  /-- The parameters, in order. -/
  params : List String := []
  /-- The type of the result. -/
  result : Option String := none
  /-- How many thrown exceptions are described. -/
  throws : Nat := 0
  /-- How many caught exceptions are described. -/
  catches : Nat := 0
deriving DecidableEq, Repr

namespace DocGrammar

/-- The clauses of the block, in order. -/
def clauses (g : DocGrammar) : List DocClause :=
  [.start, .description] ++ g.params.map .param ++ g.result.toList.map .result ++
    List.replicate g.throws .throws ++ List.replicate g.catches .catches ++ [.blockEnd]

/-- The number of `@param` clauses. -/
def paramCount (g : DocGrammar) : Nat :=
  g.clauses.countP fun | .param _ => true | _ => false

/-- Is there a `@return` clause? -/
def requiresReturn (g : DocGrammar) : Bool :=
  0 < g.clauses.countP fun | .result _ => true | _ => false

/-- The number of `@throws` clauses. -/
def throwsCount (g : DocGrammar) : Nat := g.clauses.count .throws

/-- The number of `@catch` clauses. -/
def catchCount (g : DocGrammar) : Nat := g.clauses.count .catches

/-- The lines of a block that satisfies the grammar. -/
def skeletonLines (g : DocGrammar) : List String := g.clauses.map DocClause.sampleLine

/-- A block that satisfies the grammar, with placeholders for the free text. -/
def skeleton (g : DocGrammar) : String := String.intercalate "\n" g.skeletonLines

/-! ## Composing grammars -/

/-- A requirement added to a grammar. -/
inductive Step where
  /-- Describe these parameters after the ones so far. -/
  | params (names : List String)
  /-- Describe a result of this type, and of no other one. -/
  | result (type : String)
  /-- Describe so many more thrown exceptions. -/
  | throws (count : Nat)
  /-- Describe so many more caught exceptions. -/
  | catches (count : Nat)
deriving DecidableEq, Repr

/-- The grammar with one more requirement. -/
def add (g : DocGrammar) : Step → DocGrammar
  | .params names => { g with params := g.params ++ names }
  | .result type => { g with result := some (String.ofList (trim type.toList)) }
  | .throws count => { g with throws := g.throws + count }
  | .catches count => { g with catches := g.catches + count }

/-- The grammar of a list of requirements. -/
def ofSteps (steps : List Step) : DocGrammar := steps.foldl add {}

/-! ## The grammar of a function -/

/-- The number of body parts in which a word stands. -/
def partsWith (word : String) (body : List String) : Nat :=
  body.countP fun part => holds word.toList part.toList

/-- The number of body parts that mention a `throw`, in code or in a comment. -/
def throwSites (body : List String) : Nat := partsWith "throw " body

/-- The number of body parts that mention a `catch`, in code or in a comment. -/
def catchSites (body : List String) : Nat := partsWith "catch" body

/-- The requirements of a function. -/
def stepsOf (f : Function) : List Step :=
  [.params f.params] ++ f.result?.toList.map .result ++
    [.throws (throwSites f.body), .catches (catchSites f.body)]

/-- The documentation that a function calls for. -/
def ofFunction (f : Function) : DocGrammar := ofSteps (stepsOf f)

end DocGrammar

end DocLint

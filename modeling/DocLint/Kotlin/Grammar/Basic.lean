import DocLint.Kotlin.Peg

/-!
# The parts of the Kotlin grammar

The constructs that the grammar has rules for, the ways to put parsing expressions together,
and the small parts that declarations and expressions share: words, names, types, annotations.

A word is a keyword only where the grammar has a use for it: `is` and `val` are names wherever
no test and no declaration can stand. So there is no single list of reserved words.
-/

namespace DocLint.Kotlin

/-- How tightly an operator binds its operands, the loosest first. -/
inductive Level where
  /-- No operator: a whole expression. -/
  | any
  /-- `||` -/
  | disjunction
  /-- `&&` -/
  | conjunction
  /-- `==` and its kin -/
  | equality
  /-- `<` and its kin, and calls with type arguments -/
  | comparison
  /-- `in` and `is` -/
  | check
  /-- `?:` -/
  | elvis
  /-- A name between its two arguments. -/
  | namedOperator
  /-- `..` -/
  | range
  /-- `+` and `-` -/
  | additive
  /-- `*`, `/` and `%` -/
  | multiplicative
  /-- `as` -/
  | cast
  /-- Calls. -/
  | call
  /-- The signs in front of an operand. -/
  | sign
  /-- Members, indices and the signs after an operand. -/
  | access
deriving DecidableEq, Repr

namespace Level

/-- All levels, the loosest first. -/
def all : List Level :=
  [any, disjunction, conjunction, equality, comparison, check, elvis, namedOperator, range,
    additive, multiplicative, cast, call, sign, access]

/-- The place of a level among all levels. -/
def rank (level : Level) : Nat := all.idxOf level

/-- The level of the right operand of an operator: the next tighter one. -/
def tighter (level : Level) : Level := (all.drop (level.rank + 1)).headD access

end Level

/-- The constructs that the grammar has a rule for. -/
inductive Nonterminal where
  | items
  | statement
  | declaration
  | modifiers
  | parameterModifiers
  | annotationMark
  | function
  | property
  | accessor
  | classDeclaration
  | enumClass
  | objectDeclaration
  | typeAlias
  | classBody
  | member
  | delegations
  | parameters
  | typeParameters
  | typeArguments
  | type
  | variable
  | body
  | block
  | controlBody
  | expression
  | operation (level : Level)
  | signed
  | primary
  | valueArguments
  | lambda
  | whenEntry
  | anonymousFunction
  | objectLiteral
  | string
deriving DecidableEq, Repr

namespace Grammar

/-- A parsing expression of this grammar. -/
abbrev P := Peg Nonterminal

/-! ## Building expressions -/

/-- Read all, one after the other. -/
def all : List P → P
  | [] => .empty
  | [p] => p
  | p :: ps => .seq p (all ps)

/-- Read the first that is there. -/
def oneOf : List P → P
  | [] => .absent .empty
  | [p] => p
  | p :: ps => .alt p (oneOf ps)

/-- Read it if it is there. -/
def opt (p : P) : P := .alt p .empty

/-- Look ahead without reading. -/
def ahead (p : P) : P := .absent (.absent p)

/-- Read it once or more. -/
def some1 (p : P) : P := .seq p (.star p)

/-- Read items with commas between them; a comma may follow the last one. -/
def commas (p : P) : P :=
  opt (all [p, .star (.seq (.operator ",") p), opt (.operator ",")])

/-- Read something between parentheses, in which line breaks mean nothing. -/
def parens (p : P) : P := all [.symbol '(', .within .enclosed p, .symbol ')']

/-- Read expressions with commas between them between two symbols. -/
def listed (opening closing : Char) (p : P) : P :=
  all [.symbol opening, .within .list (commas p), .symbol closing]

/-- Read something between braces. -/
def braces (setting : Setting) (p : P) : P :=
  all [.symbol '\x7b', .within setting p, .symbol '\x7d']

/-- One of several operators. -/
def operatorOf (texts : List String) : P := oneOf (texts.map .operator)

/-! ## Words -/

/-- A word that is none of these. -/
def wordExcept (words : List String) : P := .wordIf fun w => !(words.map String.toList).contains w

/-- A word that is one of these. -/
def wordOf (words : List String) : P := .wordIf (words.map String.toList).contains

/-- Any word. -/
def anyWord : P := .token .word

/-- A name where types, receivers and labels stand. -/
def name : P :=
  wordExcept ["as", "break", "class", "continue", "do", "else", "false", "for", "fun", "if", "in",
    "interface", "is", "null", "object", "package", "return", "super", "this", "throw", "true",
    "try", "typealias", "typeof", "val", "var", "when", "while"]

/-- A name with a node of its own where a declaration gives it: no word is taken there. -/
def declaredName : P := .node .identifier anyWord

/-- A name where an operand stands: only the words that start an expression are taken. -/
def operandName : P :=
  wordExcept ["break", "continue", "else", "false", "fun", "if", "null", "object", "return",
    "super", "this", "throw", "true", "try", "when"]

/-- A name between two operands: only the words that go on with an expression or with what is
around it are taken. -/
def operatorName : P := wordExcept ["as", "else", "in", "is", "while"]

/-- Words that can stand in front of a declaration and nowhere else at the front of a
statement. -/
def modifierWords : List String :=
  ["public", "private", "internal", "protected", "abstract", "final", "open", "override",
    "sealed", "annotation", "tailrec", "operator", "infix", "inline", "external", "suspend",
    "const", "lateinit", "vararg", "noinline", "crossinline"]

/-- Words that can stand in front of a declaration and are names as well. -/
def looseModifierWords : List String := ["data", "inner", "value", "expect", "actual"]

/-- Words that say what an annotation is meant for. -/
def annotationTargets : List String :=
  ["field", "property", "get", "set", "receiver", "param", "setparam", "delegate", "all"]

/-- A modifier, in front of another word or an annotation. -/
def modifier : P :=
  .seq (wordOf (modifierWords ++ looseModifierWords)) (ahead (.alt anyWord (.symbol '@')))

/-- The first modifier of a declaration. A word that is a name as well ends the statement in
front of a line break. -/
def firstModifier : P :=
  .seq (.alt (.seq (wordOf looseModifierWords) (.alt (.absent (.inside .statement)) .stay))
      (wordOf modifierWords))
    (ahead (.alt anyWord (.symbol '@')))

/-- A label in front of a statement or a lambda. -/
def label : P := all [name, .joined, .symbol '@']

/-- The label that a jump, `this` or `super` refers to. -/
def labelReference : P := all [.joined, .symbol '@', .joined, anyWord]

/-- A word with an exclamation mark before it or not. -/
def negatable (text : String) : P :=
  .alt (.word text) (all [.operator "!", .joined, .word text])

/-- A path of words. -/
def dotted : P := .seq anyWord (.star (.seq (.operator ".") anyWord))

/-! ## Types -/

/-- The colon and the type after a signature. -/
def colonType : P := .seq (.node .colon (.operator ":")) (.rule .type)

/-- The type of a variable. -/
def typed : P := .seq (.operator ":") (.rule .type)

/-- The types between the parentheses of a function type, with or without names. -/
def parameterTypes : P :=
  parens (commas (.alt (all [name, .operator ":", .rule .type]) (.rule .type)))

/-- The mark of a type whose values may be absent. -/
def nullable : P :=
  all [.absent (.operator "?:"), .absent (.operator "?."), .symbol '?']

/-- A name in the path of a type, with its arguments. -/
def typeStep : P := .seq name (opt (.rule .typeArguments))

/-- The result of a function type. -/
def arrow : P := .seq (.operator "->") (.rule .type)

/-- The annotations and modifiers of a type. -/
def typeModifiers : P :=
  .star (.alt (.rule .annotationMark)
    (.seq (.word "suspend") (ahead (.alt (.symbol '(') name))))

/-- A type up to the marks after it. -/
def typeCore : P :=
  oneOf [
    .seq parameterTypes (opt (.alt arrow
      (all [.star nullable, .symbol '.', parameterTypes, arrow]))),
    all [typeStep, .star (.seq (.symbol '.') typeStep),
      opt (all [.star (.symbol '?'), .symbol '.', parameterTypes, arrow])]]

/-- Another type that the values must have as well. -/
def intersection : P := all [.absent (.operator "&&"), .symbol '&', .rule .type]

/-- The type that stands for any type. It is a word and not a construct of its own. -/
def dynamicType : P :=
  .seq (.node .dynamicType (.word "dynamic"))
    (.absent (oneOf [.symbol '.', .symbol '<', nullable]))

/-- The conditions on type parameters. -/
def constraints : P :=
  let one := all [.star (.rule .annotationMark), name, typed]
  .node .typeConstraints (all [.word "where", one, .star (.seq (.operator ",") one)])

/-! ## Annotations -/

/-- The name and the arguments of an annotation. -/
def annotationUse : P :=
  all [name, .star (.seq (.symbol '.') name), opt (.rule .typeArguments),
    opt (.seq .joined (.rule .valueArguments))]

/-- One annotation, or several between brackets. -/
def annotationUses : P :=
  .alt (all [.symbol '[', some1 annotationUse, .symbol ']']) annotationUse

/-! ## Variables -/

/-- A variable, or several in parentheses. -/
def bindings : P :=
  .alt (.rule .variable) (.seq (parens (commas (.rule .variable))) (opt typed))

/-- An annotation or a token that is in no construct. -/
def stray : P :=
  .alt (.rule .annotationMark)
    (.seq (.absent (.alt (.symbol '\x7d') (.token .templateClose))) .any)

end Grammar

end DocLint.Kotlin

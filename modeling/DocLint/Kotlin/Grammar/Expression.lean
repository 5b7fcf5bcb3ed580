import DocLint.Kotlin.Grammar.Declaration

/-!
# Expressions

An operand is followed by suffixes: an operator with its right operand, a type after `as` or
`is`, a member, an index, the arguments of a call. `suffixTable` gives each of them its level,
and the rule `operation level` reads an operand with the suffixes of that level and tighter
ones. A suffix takes everything that was read before it as its left side.

Three places have more than one reading.

* The sign in front of an operand binds tighter than a call: `!a.b()` calls `!a.b`.
* A `<` compares if it can, and opens type arguments only if it cannot. So `f<A>()` and
  `f<A, B>(x)` are calls, while `f<A>(x)` compares twice. Type arguments bind as loosely as a
  comparison: `a ?: f<A>()` calls `a ?: f`.
* The type of a cast takes the type arguments behind it, unless the statement would end after
  them and goes on as a comparison.
-/

namespace DocLint.Kotlin.Grammar

/-! ## Type arguments or comparison -/

/-- Names that can be read as types and as operands. -/
def plainNames : P :=
  let plain := .seq operandName (.star (.seq (.symbol '.') anyWord))
  .seq plain (.star (all [.inside .list, .operator ",", plain]))

/-- Something in angle brackets that can be read as the operands of two comparisons. -/
def plainAngles : P := all [.operator "<", plainNames, .operator ">"]

/-- What may stand in front of a lambda. -/
def lambdaFront : P := .seq (.star (.rule .annotationMark)) (opt label)

/-- A lambda as an argument. -/
def lambdaArgument : P := .seq lambdaFront (.rule .lambda)

/-- Type arguments and the arguments of a call after them, if they cannot be read as
comparisons. A lambda can always be an operand. -/
def typedCall : P :=
  all [.absent (.seq plainAngles
      (.alt (.seq lambdaFront (.symbol '\x7b')) (parens (.rule .expression)))),
    .rule .typeArguments, .alt (.rule .valueArguments) lambdaArgument]

/-- The end of a statement. -/
def statementEnd : P :=
  oneOf [.absent .stay, ahead (.symbol ';'), ahead (.symbol '\x7d'),
    ahead (.token .templateClose)]

/-- The signs of an assignment. -/
def assignmentSign : P := operatorOf ["=", "+=", "-=", "*=", "/=", "%="]

/-- Type arguments at the end of a line that are read as comparisons, with the rest of the
statement. -/
def comparisonAfterCast : P :=
  all [plainAngles, .absent .stay, .rule .expression,
    opt (all [.inside .statement, .stay, assignmentSign, .rule .expression]), statementEnd]

/-- The type of a cast or of a test. A question mark with a block comment behind it is not part
of it. -/
def castType : P :=
  let open1 := all [.star (.seq typeStep (.symbol '.')), name, ahead comparisonAfterCast]
  .alt open1
    (all [typeModifiers, typeCore, .star (.seq nullable (.absent .remarked)),
      opt (.skipped (.seq nullable .remarked)), opt intersection])

/-! ## Suffixes -/

/-- An operator and the operand after it. -/
def binary (level : Level) (sign : P) : Level × Kind × P :=
  (level, .other, all [.stay, sign, .rule (.operation level.tighter)])

/-- What can follow an operand, with its level and the kind of the node that it makes. -/
def suffixTable : List (Level × Kind × P) :=
  [ (.call, .callExpression, .seq .stay (.rule .valueArguments)),
    (.call, .callExpression, .seq .stay lambdaArgument),
    (.access, .other,
      all [.stay, oneOf [.operator ".", .operator "?.", .seq (.operator "?") (.operator ".")],
        .alt anyWord (parens (.rule .expression))]),
    (.access, .other, .seq .stay (listed '[' ']' (.rule .expression))),
    (.access, .other, .seq .stay (operatorOf ["!!", "++", "--"])),
    (.access, .other, all [.stay, opt (.symbol '?'), .operator "::", anyWord]),
    (.cast, .other,
      all [.stay, .word "as", opt (.seq .joined (.symbol '?')), castType]),
    (.check, .other, all [.stay, negatable "is", castType]),
    binary .check (negatable "in"),
    binary .multiplicative (operatorOf ["*", "/", "%"]),
    binary .additive (operatorOf ["+", "-"]),
    binary .range (operatorOf ["..", "..<"]),
    binary .elvis (.operator "?:"),
    (.comparison, .callExpression, .seq .stay typedCall),
    binary .comparison (operatorOf ["<", ">", "<=", ">="]),
    binary .equality (operatorOf ["==", "!=", "===", "!=="]),
    binary .conjunction (.operator "&&"),
    binary .disjunction (.operator "||"),
    binary .namedOperator operatorName ]

/-- The suffixes of a level and of tighter ones. -/
def suffixesFrom (level : Level) : List (Kind × P) :=
  (suffixTable.filter fun s => level.rank ≤ s.1.rank).map (·.2)

/-- An operand with the signs, annotations and labels in front of it. -/
def signed : P :=
  oneOf [
    .node .other (.seq (operatorOf ["++", "--", "-", "+", "!", "!!"]) (.rule (.operation .sign))),
    .seq (.alt (.rule .annotationMark) label) (.rule (.operation .call)), .rule .primary]

/-! ## Operands -/

/-- An argument of a call. -/
def argument : P :=
  all [.star (.rule .annotationMark), opt (.seq operandName (.operator "=")),
    opt (.operator "*"), .rule .expression]

/-- A jump with a value or without. -/
def returnExpression : P :=
  all [.word "return", opt labelReference, opt (.seq .stay (.rule .expression))]

/-- A branch with conditions, and what is done otherwise. -/
def ifExpression : P :=
  all [.word "if", parens (.rule .expression), opt (.rule .controlBody),
    opt (all [opt (.symbol ';'), .word "else", opt (.rule .controlBody)])]

/-- The condition of a branch. -/
def condition : P :=
  oneOf [.seq (negatable "in") (.rule .expression), .seq (negatable "is") (.rule .type),
    .rule .expression]

/-- A branch of a choice. -/
def whenEntry : P :=
  all [.within .list (.alt (.word "else") (commas condition)),
    opt (.seq (.word "if") (.rule .expression)), .operator "->", .rule .controlBody]

/-- A choice among several branches. -/
def whenExpression : P :=
  all [.word "when",
    opt (parens (all [.star (.rule .annotationMark),
      opt (all [.word "val", .rule .variable, .operator "="]), .rule .expression])),
    braces .statement (.star (oneOf [.symbol ';', .rule .whenEntry, stray]))]

/-- Code whose exceptions are caught. -/
def tryExpression : P :=
  all [.word "try", .rule .block,
    .star (all [.word "catch", parens (commas (.rule .variable)), .rule .block]),
    opt (.seq (.word "finally") (.rule .block))]

/-- A function without a name. -/
def anonymousFunction : P :=
  all [opt (.word "suspend"), .word "fun", .star receiverStep, .rule .parameters,
    opt colonType, opt constraints, opt (.rule .body)]

/-- An object without a name. -/
def objectLiteral : P :=
  all [opt (.word "data"), .word "object",
    .alt (.seq plainSupertypes (.rule .classBody)) (.seq supertypes (.rule .classBody))]

/-- A string with the code inside it. -/
def stringLiteral : P :=
  all [.token .stringOpen,
    .star (all [.token .templateOpen, .within .enclosed (.rule .expression),
      .token .templateClose]),
    .token .stringClose]

/-- An operand without signs and suffixes. -/
def primary : P :=
  .node .other (oneOf [.rule .string, .token .number,
    all [.symbol '.', .joined, .token .number], .token .character,
    parens (.rule .expression), .rule .lambda, ifExpression, whenExpression, tryExpression,
    .seq (.word "throw") (.rule .expression), returnExpression,
    .seq (.alt (.word "break") (.word "continue")) (opt labelReference),
    .rule .anonymousFunction, .rule .objectLiteral, listed '[' ']' (.rule .expression),
    .seq (.word "this") (opt labelReference),
    all [.word "super", opt (.rule .typeArguments), opt labelReference],
    oneOf [.word "true", .word "false", .word "null"],
    .seq (.operator "::") anyWord, .node .identifier operandName])

/-! ## Statements -/

/-- Braces around nothing but statements. -/
def plainBraces : P :=
  braces .statement (.seq (opt (.seq (commas bindings) (.operator "->")))
    (.star (.alt (.symbol ';') (.seq (.rule .statement) statementEnd))))

/-- The value that a supertype is delegated to. Braces behind it are the lambda of a call, unless
they hold something that only a class can hold. -/
def delegatedValue : P :=
  .alt (.seq (ahead (all [plainValue, ahead (.symbol '\x7b'), .absent plainBraces])) plainValue)
    (.rule .expression)

/-- The loops. The body of a loop may be left out, and is if the line ends before it. -/
def loop : P :=
  oneOf [
    all [.word "for",
      parens (all [.star (.rule .annotationMark), bindings, .word "in", .rule .expression]),
      opt (.seq .stay (.rule .controlBody))],
    all [.word "while", parens (.rule .expression), opt (.seq .stay (.rule .controlBody))],
    all [.word "do", opt (.rule .controlBody), .word "while", parens (.rule .expression)]]

/-- An expression or an assignment. -/
def assignment : P :=
  .seq (.rule .expression)
    (opt (all [.stay, assignmentSign, .within .value (.rule .expression)]))

end DocLint.Kotlin.Grammar

import DocLint.Kotlin.Grammar.Basic

/-!
# Declarations

The parts of functions, properties and classes.
-/

namespace DocLint.Kotlin.Grammar

/-- A step of a receiver in front of the name of a function or property. -/
def receiverStep : P :=
  all [name, opt (.rule .typeArguments), .star (.symbol '?'), .symbol '.']

/-- The receiver in front of the name of a function or property. -/
def receiver : P :=
  .seq (.star (.rule .annotationMark))
    (.alt (all [parens (.rule .type), .star (.symbol '?'), .symbol '.']) (.star receiverStep))

/-- The value that something starts with. -/
def initialValue : P := .seq (.operator "=") (.within .value (.rule .expression))

/-! ## Functions -/

/-- A parameter of a function. -/
def parameter : P :=
  all [opt (.rule .parameterModifiers),
    .node .parameter (.seq declaredName (opt typed)),
    opt (.seq (.operator "=") (.rule .expression))]

/-- A function with a name. -/
def namedFunction : P :=
  .node .functionDeclaration (all [opt (.rule .modifiers), .word "fun",
    opt (.rule .typeParameters), receiver, declaredName, .rule .parameters, opt colonType,
    opt constraints, opt (.rule .body)])

/-! ## Properties -/

/-- A property with its value and its accessors. -/
def property : P :=
  all [opt (.rule .modifiers), .alt (.word "val") (.word "var"), opt (.rule .typeParameters),
    receiver, bindings, opt constraints,
    opt (.alt initialValue
      (all [.stay, .word "by", .within .value (.rule .expression)])),
    .star (.rule .accessor)]

/-- The end of an accessor without a body. -/
def bareAccessor : P :=
  oneOf [.absent .stay, ahead (.symbol ';'), ahead (.symbol '\x7d'), ahead (.word "get"),
    ahead (.word "set")]

/-- What reads or writes a property. -/
def accessor : P :=
  all [.star (.symbol ';'), opt (.rule .modifiers), .alt (.word "get") (.word "set"),
    .alt (all [.rule .parameters, opt colonType, .rule .body]) bareAccessor]

/-! ## Classes -/

/-- A parameter of a class. -/
def classParameter : P :=
  all [opt (.rule .parameterModifiers), opt (.alt (.word "val") (.word "var")), anyWord,
    opt typed, opt (.seq (.operator "=") (.rule .expression))]

/-- The parameters of a class after its name. -/
def primaryConstructor : P :=
  .seq (opt (.seq (opt (.rule .modifiers)) (.word "constructor")))
    (parens (commas classParameter))

/-- What follows the name of a class or object. -/
def supertypes : P := opt (.seq (.operator ":") (.rule .delegations))

/-- A supertype: a type, with arguments or with the value that it is delegated to. -/
def delegation (value : P) : P :=
  all [.star (.rule .annotationMark), .rule .type, opt (.rule .valueArguments),
    opt (.seq (.word "by") (.within .value value))]

/-- A value with arguments and members behind it, but no lambda. -/
def plainValue : P :=
  .suffixed (.rule .primary)
    [(.callExpression, .rule .valueArguments), (.other, .seq (.operator ".") anyWord)]

/-- Supertypes none of which has a lambda behind it. -/
def plainSupertypes : P :=
  let one := delegation plainValue
  opt (all [.operator ":", one, .star (.seq (.operator ",") one)])

/-- The members between the braces of a class. -/
def members : P := .star (oneOf [.symbol ';', .rule .member, stray])

/-- A class or an interface. -/
def classDeclaration : P :=
  all [opt (.rule .modifiers),
    .alt (.word "class") (.seq (opt (.word "fun")) (.word "interface")), anyWord,
    opt (.rule .typeParameters), opt primaryConstructor, supertypes, opt constraints,
    opt (.rule .classBody)]

/-- An entry of an enumeration. -/
def enumEntry : P :=
  all [.star (.rule .annotationMark), name, opt (.rule .valueArguments), opt (.rule .classBody)]

/-- A class with its values listed. -/
def enumClass : P :=
  all [opt (.rule .modifiers), .word "enum", opt (.rule .modifiers), .word "class", anyWord,
    opt primaryConstructor, supertypes,
    opt (braces .members (.seq (commas enumEntry) members))]

/-- A single object with a name. -/
def objectDeclaration : P :=
  all [opt (.rule .modifiers), .word "object", name, supertypes, opt (.rule .classBody)]

/-- A name for a type. -/
def typeAlias : P :=
  all [opt (.rule .modifiers), .word "typealias", anyWord, opt (.rule .typeParameters),
    .operator "=", .rule .type]

/-- A constructor among the members of a class. -/
def secondaryConstructor : P :=
  all [opt (.rule .modifiers), .word "constructor", .rule .parameters,
    opt (all [.operator ":", .alt (.word "this") (.word "super"), .rule .valueArguments]),
    opt (.rule .block)]

/-- The object that belongs to a class. -/
def companionObject : P :=
  all [opt (.rule .modifiers), .word "companion", opt (.word "data"), .word "object", opt name,
    supertypes, opt (.rule .classBody)]

end DocLint.Kotlin.Grammar

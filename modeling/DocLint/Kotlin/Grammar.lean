import DocLint.Kotlin.Grammar.Expression

/-!
# The grammar of Kotlin

The grammar covers declarations, statements, expressions and types, and makes the nodes that
the outline of a file needs: functions with their parameters, types and bodies, calls with
what they call, blocks with their statements.

Text that is not Kotlin is skipped token by token, so that every source has a tree.
-/

namespace DocLint.Kotlin

namespace Grammar

/-- The expression of each rule. -/
def grammar : Nonterminal → P
  | .items => .star (oneOf [.symbol ';', .rule .statement, stray])
  | .statement =>
      .within .statement (.node .other (oneOf [.rule .declaration,
        .seq (.star (.alt (.rule .annotationMark) label)) (.alt loop assignment)]))
  | .declaration =>
      oneOf [.rule .function, .rule .property, .rule .enumClass, .rule .classDeclaration,
        .rule .objectDeclaration, .rule .typeAlias]
  | .modifiers =>
      .node .modifiers (.seq (.alt (.rule .annotationMark) firstModifier)
        (.star (.alt (.rule .annotationMark) modifier)))
  | .parameterModifiers =>
      .node .modifiers (some1 (.alt (.rule .annotationMark)
        (.seq (wordOf (modifierWords ++ looseModifierWords)) (ahead anyWord))))
  | .annotationMark =>
      let target := opt (.seq (wordOf annotationTargets) (.symbol ':'))
      .node .other (all [.symbol '@', .joined, target, annotationUses])
  | .function => namedFunction
  | .property => property
  | .accessor => accessor
  | .classDeclaration => classDeclaration
  | .enumClass => enumClass
  | .objectDeclaration => objectDeclaration
  | .typeAlias => typeAlias
  | .classBody => braces .members members
  | .member =>
      .node .other (oneOf [.seq (.word "init") (.rule .block), secondaryConstructor,
        companionObject, .rule .declaration, .rule .statement])
  | .delegations =>
      let one := delegation delegatedValue
      .seq one (.star (.seq (.operator ",") one))
  | .parameters => .node .valueParameters (parens (commas parameter))
  | .typeParameters =>
      let variance := .alt (.word "in") (.seq (.alt (.word "out") (.word "reified")) (ahead name))
      all [.symbol '<',
        .within .enclosed
          (commas (all [.star (.rule .annotationMark), opt variance, name, opt typed])),
        .symbol '>']
  | .typeArguments =>
      let variance := .alt (.word "in") (.seq (.word "out") (ahead name))
      all [.symbol '<',
        .within .enclosed (commas (.alt (.symbol '*') (.seq (opt variance) (.rule .type)))),
        .symbol '>']
  | .type =>
      .alt dynamicType
        (.node .type (all [typeModifiers, typeCore, .star nullable, opt intersection]))
  | .variable => all [.star (.rule .annotationMark), declaredName, opt typed]
  | .body =>
      .node .functionBody (.alt (.rule .block) initialValue)
  | .block => .node .block (braces .statement (.rule .items))
  | .controlBody => .alt (.rule .block) (.rule .statement)
  | .expression => .node .other (.rule (.operation .any))
  | .operation level => .suffixed (.rule .signed) (suffixesFrom level)
  | .signed => signed
  | .primary => primary
  | .valueArguments => listed '(' ')' argument
  | .lambda =>
      .node .other
        (braces .statement (.seq (opt (.seq (commas bindings) (.operator "->"))) (.rule .items)))
  | .whenEntry => whenEntry
  | .anonymousFunction => anonymousFunction
  | .objectLiteral => objectLiteral
  | .string => stringLiteral

/-- The parts at the top of a file: annotations of the whole file, its package, its
imports. -/
def fileHead : P :=
  oneOf [all [.symbol '@', .joined, .word "file", .symbol ':', annotationUses],
    .seq (.word "package") dotted,
    all [.word "import", .sameLine, dotted, opt (.seq (.operator ".") (.operator "*")),
      opt (all [.stay, .word "as", name])]]

/-- A whole file: its head and its statements. -/
def file : P := .star (oneOf [.symbol ';', .node .other fileHead, .rule .statement, stray, .any])

end Grammar

/-- The syntax tree of a source text. -/
def parse (source : List Char) : Tree :=
  let tokens := tokens source
  let place : Place := { tokens, stop := 0, setting := .statement }
  let stop := Text.byteLength source
  match Peg.run Grammar.grammar (400 * (tokens.length + 4)) Grammar.file place with
  | none => .node .sourceFile ⟨0, stop⟩ []
  | some (trees, rest) =>
      let last := match rest.tokens with
        | t :: _ => Place.commentNodes t
        | [] => []
      .node .sourceFile ⟨0, stop⟩ (trees ++ last)

end DocLint.Kotlin

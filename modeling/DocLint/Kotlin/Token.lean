import DocLint.Text.Alphanumeric
import DocLint.Text.Basic

/-!
# Kotlin tokens

The lexer cuts Kotlin source into words, numbers, characters, single symbols and the brackets
of strings and of the code inside them. A token knows its bytes, the comments in front of it
and whether a line break stands between the last of them and the token: that is all that is
needed to tell where a statement ends (`Token.endsStatement`).

Symbols are single characters. Which of them form one operator depends on the place (`>>` may
close two lists of types), so that is left to the grammar.
-/

namespace DocLint.Kotlin

open Text

/-- What a token is. -/
inductive TokenKind where
  /-- A name or a keyword. -/
  | word
  /-- A number. -/
  | number
  /-- A character between apostrophes. -/
  | character
  /-- A single character of punctuation. -/
  | symbol
  /-- The opening quotes of a string. -/
  | stringOpen
  /-- The closing quotes of a string. -/
  | stringClose
  /-- The start of code inside a string. -/
  | templateOpen
  /-- The end of code inside a string. -/
  | templateClose
  /-- The end of the source. -/
  | endOfText
deriving DecidableEq, Repr

/-- A range of bytes in the source. -/
structure Extent where
  /-- The offset of the first byte. -/
  start : Nat
  /-- The offset after the last byte. -/
  stop : Nat
deriving DecidableEq, Repr

/-- A token. -/
structure Token where
  /-- What it is. -/
  kind : TokenKind
  /-- Its characters. -/
  text : List Char
  /-- Its bytes. -/
  extent : Extent
  /-- The comments between the token before and this one. -/
  comments : List Extent
  /-- Does a line break stand right before the token, after all comments? -/
  onNewLine : Bool
  /-- Is the first of the comments a block comment? -/
  afterBlock : Bool
deriving DecidableEq, Repr

/-! ## Comments -/

/-- The part of a block comment up to its end, and the rest. Block comments nest. -/
def blockComment (depth : Nat) (afterStar : Bool) : List Char → List Char × List Char
  | [] => ([], [])
  | '*' :: s =>
      let (taken, rest) := blockComment depth true s
      ('*' :: taken, rest)
  | '/' :: s =>
      if afterStar then
        if depth ≤ 1 then (['/'], s)
        else
          let (taken, rest) := blockComment (depth - 1) false s
          ('/' :: taken, rest)
      else match s with
        | '*' :: s =>
            let (taken, rest) := blockComment (depth + 1) false s
            ('/' :: '*' :: taken, rest)
        | s =>
            let (taken, rest) := blockComment depth false s
            ('/' :: taken, rest)
  | c :: s =>
      let (taken, rest) := blockComment depth false s
      (c :: taken, rest)

/-- The comment at the front of a text, and the rest. -/
def comment? : List Char → Option (List Char × List Char)
  | '/' :: '/' :: s =>
      some ('/' :: '/' :: s.takeWhile (· ≠ '\n'), s.dropWhile (· ≠ '\n'))
  | '/' :: '*' :: s =>
      let (taken, rest) := blockComment 1 false s
      some ('/' :: '*' :: taken, rest)
  | _ => none

/-! ## Words, numbers and characters -/

/-- Can the character start a name? -/
def startsWord (c : Char) : Bool := c == '_' || (isAlphanumeric c && !c.isDigit)

/-- Can the character continue a name? -/
def inWord (c : Char) : Bool := c == '_' || isAlphanumeric c

/-- A run of digits with underscores between them, and the rest. An underscore at the end is not
part of the run. -/
def digitRun (isDigit : Char → Bool) : List Char → List Char × List Char
  | [] => ([], [])
  | c :: s =>
      if isDigit c then
        let (taken, rest) := digitRun isDigit s
        (c :: taken, rest)
      else if c = '_' then
        match digitRun isDigit s with
        | ([], _) => ([], c :: s)
        | (taken, rest) => (c :: taken, rest)
      else ([], c :: s)

/-- The exponent of a number, and the rest: a mark, a sign or none, and plain digits. -/
def exponent? : List Char → Option (List Char × List Char)
  | [] => none
  | mark :: s =>
      let (sign, digits) := match s with
        | '+' :: s => (['+'], s)
        | '-' :: s => (['-'], s)
        | s => ([], s)
      let taken := digits.takeWhile Char.isDigit
      if (mark == 'e' || mark == 'E') && !taken.isEmpty then
        some (mark :: sign ++ taken, digits.dropWhile Char.isDigit)
      else none

/-- The letters that may follow the digits of a whole number, and the rest. -/
def wholeSuffix (s : List Char) : List Char × List Char :=
  let (unsigned, s) := match s with
    | 'u' :: s => (['u'], s)
    | 'U' :: s => (['U'], s)
    | s => ([], s)
  match s with
  | 'l' :: s => (unsigned ++ ['l'], s)
  | 'L' :: s => (unsigned ++ ['L'], s)
  | s => (unsigned, s)

/-- The letter that may follow the digits of a fraction, and the rest. -/
def fractionSuffix : List Char → List Char × List Char
  | 'f' :: s => (['f'], s)
  | 'F' :: s => (['F'], s)
  | s => ([], s)

/-- What follows the whole part of a decimal number: a fraction, an exponent, a suffix or
nothing. -/
def decimalTail (s : List Char) : List Char × List Char :=
  let (fraction, s) := match s with
    | '.' :: c :: rest =>
        if c.isDigit then
          let (digits, rest) := digitRun Char.isDigit (c :: rest)
          ('.' :: digits, rest)
        else ([], s)
    | s => ([], s)
  let (power, s) := (exponent? s).getD ([], s)
  let (suffix, rest) :=
    match fractionSuffix s with
    | ([], s) => if fraction.isEmpty && power.isEmpty then wholeSuffix s else ([], s)
    | suffixed => suffixed
  (fraction ++ power ++ suffix, rest)

/-- The digits after the mark of a number in another base, if there are any. -/
def basedTail? (isDigit : Char → Bool) (s : List Char) : Option (List Char × List Char) :=
  match digitRun isDigit s with
  | ([], _) => none
  | (digits, rest) =>
      let (suffix, rest) := wholeSuffix rest
      some (digits ++ suffix, rest)

/-- Is the character a digit in base sixteen? -/
def isHexDigit (c : Char) : Bool :=
  c.isDigit || ('a' ≤ c && c ≤ 'f') || ('A' ≤ c && c ≤ 'F')

/-- The number at the front of a text that starts with a digit, and the rest. -/
def number (s : List Char) : List Char × List Char :=
  let based := match s with
    | '0' :: mark :: rest =>
        let tail :=
          if mark == 'x' || mark == 'X' then basedTail? isHexDigit rest
          else if mark == 'b' || mark == 'B' then basedTail? (fun c => c == '0' || c == '1') rest
          else none
        tail.map fun (digits, rest) => ('0' :: mark :: digits, rest)
    | _ => none
  match based with
  | some outcome => outcome
  | none =>
      let (digits, rest) := digitRun Char.isDigit s
      let (tail, rest) := decimalTail rest
      (digits ++ tail, rest)

/-- The rest of a character literal after its apostrophe, and what follows it. -/
def characterTail : List Char → List Char × List Char
  | '\\' :: c :: s =>
      let (taken, rest) := characterTail s
      ('\\' :: c :: taken, rest)
  | '\'' :: s => (['\''], s)
  | '\n' :: s => ([], '\n' :: s)
  | c :: s =>
      let (taken, rest) := characterTail s
      (c :: taken, rest)
  | [] => ([], [])

/-- The word, number or character at the front of a text, and the rest. -/
def plainToken? : List Char → Option (TokenKind × List Char × List Char)
  | [] => none
  | c :: s =>
      if startsWord c then some (.word, c :: s.takeWhile inWord, s.dropWhile inWord)
      else if c.isDigit then
        let (taken, rest) := number (c :: s)
        some (.number, taken, rest)
      else if c = '\x60' then
        match s.dropWhile (· ≠ '\x60') with
        | close :: rest => some (.word, c :: s.takeWhile (· ≠ '\x60') ++ [close], rest)
        | [] => none
      else if c = '\'' then
        let (taken, rest) := characterTail s
        some (.character, c :: taken, rest)
      else none

/-! ## The lexer -/

/-- What the lexer is inside of. -/
inductive Mode where
  /-- Code between braces. -/
  | braces
  /-- Code inside a string. -/
  | template
  /-- The text of a string: over several lines or on one. -/
  | text (raw : Bool)
deriving DecidableEq, Repr

/-- What stands between the last token and the place of the lexer. -/
structure Gap where
  /-- The comments, the last one first. -/
  comments : List Extent := []
  /-- Is there a line break after the last comment? -/
  newLine : Bool := false
  /-- Is the first comment a block comment? -/
  block : Bool := false

/-- The next piece of the text of a string: how many characters it has, and whether it ends the
string, opens code or neither. -/
def stringPiece (raw : Bool) : List Char → List Char × Option TokenKind × List Char
  | '$' :: '\x7b' :: s => (['$', '\x7b'], some .templateOpen, s)
  | '\\' :: c :: s => if raw then (['\\'], none, c :: s) else (['\\', c], none, s)
  | '"' :: '"' :: '"' :: '"' :: s =>
      if raw then (['"'], none, '"' :: '"' :: '"' :: s)
      else (['"'], some .stringClose, '"' :: '"' :: '"' :: s)
  | '"' :: '"' :: '"' :: s =>
      if raw then (['"', '"', '"'], some .stringClose, s)
      else (['"'], some .stringClose, '"' :: '"' :: s)
  | '"' :: s => if raw then (['"'], none, s) else (['"'], some .stringClose, s)
  | c :: s => ([c], none, s)
  | [] => ([], none, [])

/-- The next token of code and the mode it leads to. Anything that is not a word, a number, a
character or a bracket of a string is a symbol. -/
def codeToken (modes : List Mode) (c : Char) (s : List Char) :
    TokenKind × List Char × List Char × List Mode :=
  match plainToken? (c :: s) with
  | some (kind, taken, rest) => (kind, taken, rest, modes)
  | none =>
      match c :: s with
      | '"' :: '"' :: '"' :: rest => (.stringOpen, ['"', '"', '"'], rest, .text true :: modes)
      | '"' :: rest => (.stringOpen, ['"'], rest, .text false :: modes)
      | '\x7b' :: rest => (.symbol, ['\x7b'], rest, .braces :: modes)
      | '\x7d' :: rest =>
          match modes with
          | .template :: outer => (.templateClose, ['\x7d'], rest, outer)
          | .braces :: outer => (.symbol, ['\x7d'], rest, outer)
          | modes => (.symbol, ['\x7d'], rest, modes)
      | _ => (.symbol, [c], s, modes)

/-- The tokens of a text that starts at the byte `pos`. Each step takes at least one character,
so the bound is the length of the text. -/
def tokensFrom : Nat → List Mode → Gap → Nat → List Char → List Token
  | 0, _, gap, pos, _ => [⟨.endOfText, [], ⟨pos, pos⟩, gap.comments.reverse, gap.newLine, gap.block⟩]
  | _ + 1, _, gap, pos, [] =>
      [⟨.endOfText, [], ⟨pos, pos⟩, gap.comments.reverse, gap.newLine, gap.block⟩]
  | n + 1, .text raw :: outer, gap, pos, s =>
      let (taken, kind, rest) := stringPiece raw s
      let stop := pos + byteLength taken
      match kind with
      | none => tokensFrom n (.text raw :: outer) gap stop rest
      | some .templateOpen =>
          ⟨.templateOpen, taken, ⟨pos, stop⟩, [], false, false⟩ ::
            tokensFrom n (.template :: .text raw :: outer) {} stop rest
      | some kind => ⟨kind, taken, ⟨pos, stop⟩, [], false, false⟩ :: tokensFrom n outer {} stop rest
  | n + 1, modes, gap, pos, c :: s =>
      if isBlank c || c.toNat = 0xFEFF then
        tokensFrom n modes { gap with newLine := gap.newLine || c == '\n' || c == '\r' }
          (pos + c.utf8Size) s
      else match comment? (c :: s) with
        | some (taken, rest) =>
            let stop := pos + byteLength taken
            let block := if gap.comments.isEmpty then s.head? == some '*' else gap.block
            tokensFrom n modes { comments := ⟨pos, stop⟩ :: gap.comments, block } stop rest
        | none =>
            let (kind, taken, rest, modes) := codeToken modes c s
            let stop := pos + byteLength taken
            ⟨kind, taken, ⟨pos, stop⟩, gap.comments.reverse, gap.newLine, gap.block⟩ ::
              tokensFrom n modes {} stop rest

/-- The tokens of a source text. A first line that names an interpreter is left out. -/
def tokens (source : List Char) : List Token :=
  match source with
  | '#' :: '!' :: rest =>
      let first := '#' :: '!' :: rest.takeWhile (· ≠ '\n')
      tokensFrom (source.length + 1) [] {} (byteLength first) (rest.dropWhile (· ≠ '\n'))
  | source => tokensFrom (source.length + 1) [] {} 0 source

/-! ## Ends of statements -/

/-- Symbols that go on with a statement when they start a line. -/
def continuing : List Char := [',', '.', ':', '*', '%', '>', '<', '=', '\x7b', '[', '?', '|', '&', '/']

/-- Words that go on with a statement when they start a line. -/
def continuingWords : List (List Char) := ["as", "by", "is", "where"].map String.toList

/-- Does a statement that is complete before the token end there, without a semicolon? It does
at the end of the source, in front of an import, and at a line break unless the next characters
go on with it. -/
def Token.endsStatement (t : Token) (next : Option Token) : Bool :=
  if t.kind = .endOfText then true
  else if !t.onNewLine then t.kind = .word && (after? "import".toList t.text).isSome
  else
    let joined := next.filter fun u => u.extent.start = t.extent.stop
    match t.kind, t.text with
    | .symbol, [c] =>
        if continuing.contains c then false
        else if c = '+' ∨ c = '-' then
          joined.any fun u => u.kind = .number || u.text == [c]
        else if c = '!' then !joined.any (·.text == ['='])
        else true
    | .word, text =>
        if continuingWords.contains text || (after? "else".toList text).isSome then false
        else match after? "in".toList text with
          | some [] => false
          | some (c :: _) => isAlphanumeric c && !c.isDigit
          | none => true
    | _, _ => true

end DocLint.Kotlin

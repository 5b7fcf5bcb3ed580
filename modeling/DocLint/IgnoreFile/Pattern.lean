import DocLint.Glob

/-!
# Patterns of ignore files

A pattern of an ignore file is read as a sequence of parts and compared with the UTF-8 bytes of
a path, so `?` and a class stand for one byte. `?` and `*` do not stand for a separator, a class
may. A `**` that is a whole component stands for any number of directories, and `{a,b}` stands
for `a` or `b`; such alternatives may be nested.

* `Pattern.accepts` compares a pattern with the front of some bytes and asks a continuation
  about the rest, so that every choice is made by recursion on the pattern;
* `symbols?` takes care of backslashes and classes, and `Pattern.ofSymbols?` of stars and
  braces.
-/

namespace DocLint

namespace IgnoreFile

/-! ## Bytes -/

/-- The UTF-8 bytes of a text. -/
def bytesOf (s : List Char) : List UInt8 := s.flatMap String.utf8EncodeChar

/-- The byte of the separator. -/
def slash : UInt8 := 0x2F

/-- A range of bytes, both ends included. -/
structure ByteRange where
  /-- The first byte. -/
  first : UInt8
  /-- The last byte. -/
  last : UInt8
deriving DecidableEq, Repr

/-- Is the byte in the range? -/
def ByteRange.has (r : ByteRange) (b : UInt8) : Bool := r.first ≤ b && b ≤ r.last

/-- The range of one byte. -/
def ByteRange.single (b : UInt8) : ByteRange := ⟨b, b⟩

/-- The bytes that a range of characters allows. Of a character of several bytes each one is
allowed on its own; the dash stands between the last byte of the first character and the first
byte of the last one. -/
def byteRanges (r : CharRange) : List ByteRange :=
  let front := String.utf8EncodeChar r.first
  let back := String.utf8EncodeChar r.last
  if r.first = r.last then front.map .single
  else
    front.dropLast.map .single ++
      [⟨front.getLastD 0, back.headD 0⟩] ++ back.tail.map .single

/-- A class of bytes. -/
structure ByteClass where
  /-- The ranges that are listed. -/
  ranges : List ByteRange
  /-- Does the class hold the bytes that are not listed? -/
  negated : Bool
deriving DecidableEq, Repr

/-- Is the byte in the class? -/
def ByteClass.has (c : ByteClass) (b : UInt8) : Bool := c.negated ^^ c.ranges.any (·.has b)

/-! ## Patterns -/

/-- A pattern. -/
inductive Pattern where
  /-- What nothing has the form of. -/
  | never
  /-- Nothing. -/
  | empty
  /-- One byte of a class. -/
  | one (set : ByteClass)
  /-- Any bytes but separators. -/
  | run
  /-- Any directories in front. -/
  | leading
  /-- Directories between two separators, or one separator. -/
  | between
  /-- A separator and anything behind it. -/
  | trailing
  /-- One pattern and then the other. -/
  | seq (p q : Pattern)
  /-- One pattern or the other. -/
  | either (p q : Pattern)
deriving DecidableEq, Repr

/-- Does `rest` accept what is left after some bytes without a separator? -/
def afterRun (rest : List UInt8 → Bool) : List UInt8 → Bool
  | [] => rest []
  | b :: s => rest (b :: s) || (b != slash && afterRun rest s)

/-- Does `rest` accept the bytes after some separator? -/
def afterSeparator (rest : List UInt8 → Bool) : List UInt8 → Bool
  | [] => false
  | b :: s => (b == slash && rest s) || afterSeparator rest s

/-- Does `rest` accept some end of the bytes? -/
def someEnd (rest : List UInt8 → Bool) : List UInt8 → Bool
  | [] => rest []
  | b :: s => rest (b :: s) || someEnd rest s

namespace Pattern

/-- Does the pattern accept the front of some bytes, and `rest` what is left? -/
def accepts : Pattern → (rest : List UInt8 → Bool) → List UInt8 → Bool
  | never, _, _ => false
  | empty, rest, s => rest s
  | one set, rest, s =>
      match s with
      | [] => false
      | b :: more => set.has b && rest more
  | run, rest, s => afterRun rest s
  | leading, rest, s => rest s || afterSeparator rest s
  | between, rest, s =>
      match s with
      | [] => false
      | b :: more => b == slash && (rest more || afterSeparator rest more)
  | trailing, rest, s =>
      match s with
      | [] => false
      | b :: more => b == slash && someEnd rest more
  | seq p q, rest, s => p.accepts (q.accepts rest) s
  | either p q, rest, s => p.accepts rest s || q.accepts rest s

/-- Does a path have the form of the pattern? Directories in front of nothing are everything. -/
def matchesPath (p : Pattern) (path : List Char) : Bool :=
  p = leading || p.accepts List.isEmpty (bytesOf path)

/-! ## Putting patterns together -/

/-- The bytes of a character. -/
def ofChar (c : Char) : Pattern :=
  (String.utf8EncodeChar c).foldr (fun b p => (one ⟨[.single b], false⟩).seq p) empty

/-- Any one byte but a separator. -/
def anyByte : Pattern := one ⟨[.single slash], true⟩

/-- One pattern after the other, the last one first. A single pattern stands for itself. -/
def inOrder : List Pattern → Pattern
  | [] => empty
  | [p] => p
  | p :: ps => (inOrder ps).seq p

/-- Does the pattern stand for nothing at all? -/
def isBlank : Pattern → Bool
  | empty => true
  | seq p q => p.isBlank && q.isBlank
  | _ => false

/-- One of some patterns. Those that stand for nothing are no choice; without any other the
whole stands for nothing. -/
def oneOf (ps : List Pattern) : Pattern :=
  if ps.all isBlank then empty else (ps.filter (!·.isBlank)).foldr either never

end Pattern

/-! ## Backslashes and classes -/

/-- A symbol of a pattern. -/
inductive Symbol where
  /-- A character, which may have a meaning. -/
  | char (c : Char)
  /-- A character that stands for itself. -/
  | plain (c : Char)
  /-- Two stars, and the separator behind them if there is one. -/
  | stars (separator : Bool)
  /-- A class. -/
  | set (set : ByteClass)
deriving DecidableEq, Repr

/-- What a bracket opens. -/
inductive Bracket where
  /-- A class, and what follows it. -/
  | closed (ranges : List CharRange) (rest : List Char)
  /-- Nothing, because there is no closing bracket. -/
  | unclosed
  /-- A class with a range that ends before it starts. -/
  | invalid
deriving DecidableEq, Repr

/-- Read the ranges of a class up to its closing bracket. The ranges so far are given with the
last one first; `first` holds in front of the first member, and `dash` after a dash that may
make a range of the last member. -/
def classRanges : (first dash : Bool) → List CharRange → List Char → Bracket
  | _, _, _, [] => .unclosed
  | first, dash, acc, c :: rest =>
      if c = ']' ∧ !first then
        .closed (if dash then ⟨'-', '-'⟩ :: acc else acc).reverse rest
      else if c = '-' ∧ !first ∧ !dash then classRanges false true acc rest
      else if dash then
        match acc with
        | r :: others =>
            if r.first.toNat ≤ c.toNat then
              classRanges false false (⟨r.first, c⟩ :: others) rest
            else .invalid
        | [] => .invalid
      else classRanges false false (⟨c, c⟩ :: acc) rest

/-- Does a class that starts so list the characters that it does not hold? -/
def startsNegated : List Char → Bool
  | '!' :: _ => true
  | '^' :: _ => true
  | _ => false

/-- Read the symbols of a pattern. A bracket that opens no class stands for itself, and with it
all brackets behind it. Every step takes a character, so the bound is the length of the
pattern. -/
def symbolsWithin : Nat → (classes : Bool) → List Char → Option (List Symbol)
  | 0, _, _ => none
  | _ + 1, _, [] => some []
  | n + 1, classes, c :: rest =>
      if c = '\\' then
        match rest with
        | [] => none
        | d :: more => (symbolsWithin n classes more).map (.plain d :: ·)
      else if c = '[' ∧ classes then
        let negated := startsNegated rest
        match classRanges true false [] (if negated then rest.tail else rest) with
        | .closed ranges after =>
            (symbolsWithin n classes after).map (.set ⟨ranges.flatMap byteRanges, negated⟩ :: ·)
        | .unclosed => (symbolsWithin n false rest).map (.plain c :: ·)
        | .invalid => none
      else
        match c, rest with
        | '*', '*' :: '/' :: more => (symbolsWithin n classes more).map (.stars true :: ·)
        | '*', '*' :: more => (symbolsWithin n classes more).map (.stars false :: ·)
        | _, _ => (symbolsWithin n classes rest).map (.char c :: ·)

/-- The symbols of a pattern. A backslash at the end and a range that ends before it starts are
not valid. -/
def symbols? (s : List Char) : Option (List Symbol) := symbolsWithin (s.length + 1) true s

/-! ## Stars and braces -/

/-- Alternatives that are being read. -/
structure Choice where
  /-- The parts in front of the opening brace, the last one first. -/
  before : List Pattern
  /-- The alternatives that are complete. -/
  options : List Pattern
deriving DecidableEq, Repr

/-- The choice with one more alternative. -/
def Choice.add (choice : Choice) (parts : List Pattern) : Choice :=
  { choice with options := choice.options ++ [.inOrder parts] }

/-- May two stars be a whole component after some parts that end with this character? Inside
braces they may follow a brace or a comma, too. -/
def startsComponent (inside : Bool) (last : Option Char) (parts : List Pattern) : Bool :=
  parts.isEmpty || last == some '/' || (inside && (last == some ',' || last == some '\x7b'))

/-- May two stars be a whole component in front of these symbols? Inside braces an alternative
that has other parts may end with them. -/
def endsComponent (inside : Bool) (parts : List Pattern) : List Symbol → Bool
  | [] => true
  | next :: _ => inside && !parts.isEmpty && (next == .char ',' || next == .char '\x7d')

/-- Add a `**` component to the parts so far, the last one first. It takes the separator in
front of it along. -/
def pushDirectories (atEnd : Bool) : List Pattern → List Pattern
  | [] => [.leading]
  | .leading :: others => .leading :: others
  | .trailing :: others => .trailing :: others
  | _ :: others => (if atEnd then .trailing else .between) :: others

/-- Add two stars that are no component, and the separator behind them. -/
def pushRuns (separator : Bool) (parts : List Pattern) : List Pattern :=
  (if separator then [.ofChar '/'] else []) ++ .run :: .run :: parts

/-- Read a pattern from its symbols: inside of some open braces, the innermost first, after the
character `last` and the parts so far of this alternative, the last one first. -/
def readSymbols : List Choice → (last : Option Char) → List Pattern → List Symbol → Option Pattern
  | opened, _, parts, [] => if opened.isEmpty then some (.inOrder parts) else none
  | opened, _, parts, .set set :: rest => readSymbols opened (some ']') (.one set :: parts) rest
  | opened, _, parts, .plain c :: rest => readSymbols opened (some c) (.ofChar c :: parts) rest
  | opened, last, parts, .stars separator :: rest =>
      let inside := !opened.isEmpty
      let isComponent := startsComponent inside last parts &&
        (separator || endsComponent inside parts rest)
      readSymbols opened (some (if separator then '/' else '*'))
        (if isComponent then pushDirectories (!separator) parts else pushRuns separator parts) rest
  | opened, _, parts, .char c :: rest =>
      match c, opened with
      | '?', _ => readSymbols opened (some c) (.anyByte :: parts) rest
      | '*', _ => readSymbols opened (some c) (.run :: parts) rest
      | '\x7b', _ => readSymbols (⟨parts, []⟩ :: opened) (some c) [] rest
      | '\x7d', [] => none
      | '\x7d', choice :: outer =>
          readSymbols outer (some c) (.oneOf (choice.add parts).options :: choice.before) rest
      | ',', choice :: outer => readSymbols (choice.add parts :: outer) (some c) [] rest
      | _, _ => readSymbols opened (some c) (.ofChar c :: parts) rest

/-- Read a pattern. Braces that do not pair up are not valid. -/
def Pattern.ofText? (s : List Char) : Option Pattern := do
  readSymbols [] none [] (← symbols? s)

end IgnoreFile

end DocLint

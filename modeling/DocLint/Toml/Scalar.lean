import DocLint.Toml.Value

/-!
# TOML scalars: strings, numbers and truth values

Each reader takes its value off the front of a text and answers with the rest. A reader that
finds something else answers with nothing.
-/

namespace DocLint.Toml

open Text

/-- A reader: the value read and the rest of the text. -/
abbrev Reader (α : Type) := List Char → Option (α × List Char)

/-! ## Characters and white space -/

/-- White space within a line. -/
def isSpace (c : Char) : Bool := c == ' ' || c == '\t'

/-- The text after white space within a line. -/
def skipSpace (s : List Char) : List Char := s.dropWhile isSpace

/-- May the character stand for itself in a comment or a string? Control characters other than
the tab may not. -/
def isPlainChar (c : Char) : Bool := c == '\t' || (0x20 ≤ c.toNat && c.toNat ≠ 0x7F)

/-- Read a line break. -/
def newline? : List Char → Option (List Char)
  | '\n' :: rest => some rest
  | '\r' :: '\n' :: rest => some rest
  | _ => none

/-- The text after a comment, up to its line break. -/
def skipComment : List Char → List Char
  | '#' :: rest => rest.dropWhile isPlainChar
  | s => s

/-! ## Strings -/

/-- The value of a hexadecimal digit. -/
def hexDigit? (c : Char) : Option Nat :=
  if c.isDigit then some (c.toNat - '0'.toNat)
  else if 'a' ≤ c ∧ c ≤ 'f' then some (c.toNat - 'a'.toNat + 10)
  else if 'A' ≤ c ∧ c ≤ 'F' then some (c.toNat - 'A'.toNat + 10)
  else none

/-- Read exactly `n` hexadecimal digits after the value `acc`. -/
def hexDigits (acc : Nat) : Nat → Reader Nat
  | 0, s => some (acc, s)
  | _ + 1, [] => none
  | n + 1, c :: s => do
      let d ← hexDigit? c
      hexDigits (acc * 16 + d) n s

/-- The character with a code, if there is one. -/
def charOf? (n : Nat) : Option Char := if n.isValidChar then some (Char.ofNat n) else none

/-- Read an escape after its backslash. -/
def escape : Reader Char
  | 'b' :: s => some ('\x08', s)
  | 't' :: s => some ('\t', s)
  | 'n' :: s => some ('\n', s)
  | 'f' :: s => some ('\x0c', s)
  | 'r' :: s => some ('\r', s)
  | '"' :: s => some ('"', s)
  | '\\' :: s => some ('\\', s)
  | 'u' :: s => do
      let (n, s) ← hexDigits 0 4 s
      some (← charOf? n, s)
  | 'U' :: s => do
      let (n, s) ← hexDigits 0 8 s
      some (← charOf? n, s)
  | _ => none

/-- Read the rest of a string in quotes, the opening one already read. The bound is the length
of the text. -/
def basicBody : Nat → Reader (List Char)
  | 0, _ => none
  | _ + 1, [] => none
  | _ + 1, '"' :: s => some ([], s)
  | n + 1, '\\' :: s => do
      let (c, s) ← escape s
      let (text, s) ← basicBody n s
      some (c :: text, s)
  | n + 1, c :: s =>
      if isPlainChar c then (basicBody n s).map fun (text, s) => (c :: text, s) else none

/-- Read the rest of a literal string, the opening apostrophe already read. -/
def literalBody : Reader (List Char)
  | [] => none
  | '\'' :: s => some ([], s)
  | c :: s =>
      if isPlainChar c then (literalBody s).map fun (text, s) => (c :: text, s) else none

/-- The text after a backslash at the end of a line: all white space and line breaks up to
the next visible character. -/
def skipFolded (s : List Char) : List Char :=
  s.dropWhile fun c => isSpace c || c == '\n' || c == '\r'

/-- Is the rest of the line empty, so that a backslash in front of it joins the lines? -/
def endsLine (s : List Char) : Bool := (newline? (skipSpace s)).isSome

/-- Does a carriage return stand alone in the white space up to the next visible character? -/
def hasLoneReturn : List Char → Bool
  | '\r' :: '\n' :: s => hasLoneReturn s
  | '\r' :: _ => true
  | c :: s => if isSpace c || c == '\n' then hasLoneReturn s else false
  | [] => false

/-- Read the rest of a string over several lines that ends with three characters `quote`. Up to
two more of them right before the end belong to the text. -/
def multilineBody (quote : Char) (escapes : Bool) : Nat → Reader (List Char)
  | 0, _ => none
  | _ + 1, [] => none
  | n + 1, c :: s =>
      if c = quote then
        match s with
        | d :: e :: rest =>
            if d = quote ∧ e = quote then
              match rest with
              | f :: g :: more =>
                  if f = quote ∧ g = quote then some ([quote, quote], more)
                  else if f = quote then some ([quote], g :: more)
                  else some ([], rest)
              | [f] => if f = quote then some ([quote], []) else some ([], rest)
              | [] => some ([], [])
            else (multilineBody quote escapes n s).map fun (text, s) => (c :: text, s)
        | _ => none
      else if c = '\\' ∧ escapes then
        if endsLine s then
          if hasLoneReturn s then none else multilineBody quote escapes n (skipFolded s)
        else do
          let (c, s) ← escape s
          let (text, s) ← multilineBody quote escapes n s
          some (c :: text, s)
      else match newline? (c :: s) with
        | some s => (multilineBody quote escapes n s).map fun (text, s) => ('\n' :: text, s)
        | none =>
            if isPlainChar c then
              (multilineBody quote escapes n s).map fun (text, s) => (c :: text, s)
            else none

/-- Read a string over several lines, its opening marker already read. A line break right
after the marker is not part of it. -/
def multiline (quote : Char) (escapes : Bool) (s : List Char) : Option (List Char × List Char) :=
  multilineBody quote escapes (s.length + 1) ((newline? s).getD s)

/-- Read a string on one line. -/
def lineString : Reader (List Char)
  | '"' :: s => basicBody (s.length + 1) s
  | '\'' :: s => literalBody s
  | _ => none

/-- Read a string of any form. -/
def string : Reader (List Char)
  | '"' :: '"' :: '"' :: s => multiline '"' true s
  | '\'' :: '\'' :: '\'' :: s => multiline '\'' false s
  | s => lineString s

/-! ## Numbers -/

/-- Read digits of a class with single underscores between them. -/
def digits (p : Char → Bool) : Reader (List Char)
  | [] => none
  | c :: s =>
      if p c then
        let rest := more s
        some (c :: rest.1, rest.2)
      else none
where
  /-- The digits after a digit. -/
  more : List Char → List Char × List Char
    | '_' :: c :: s => if p c then let (ds, r) := more s; (c :: ds, r) else ([], '_' :: c :: s)
    | c :: s => if p c then let (ds, r) := more s; (c :: ds, r) else ([], c :: s)
    | [] => ([], [])

/-- The number that digits write in a base. -/
def numberOf (base : Nat) (ds : List Char) : Nat :=
  ds.foldl (fun n c => n * base + (hexDigit? c).getD 0) 0

/-- Read a sign: is it a minus? -/
def sign : List Char → Option Bool × List Char
  | '-' :: s => (some true, s)
  | '+' :: s => (some false, s)
  | s => (none, s)

/-- Read the digits of a decimal number, in which a zero can only stand first if it stands
alone. -/
def decimal : Reader (List Char)
  | '0' :: s => some (['0'], s)
  | s => digits Char.isDigit s

/-- The largest integer. -/
def maxInteger : Int := 9223372036854775807

/-- The smallest integer. -/
def minInteger : Int := -9223372036854775808

/-- The number as a value, if it has 64 bits. -/
def integerOf? (n : Int) : Option Value :=
  if minInteger ≤ n ∧ n ≤ maxInteger then some (.integer n) else none

/-- Read a number in a base given by its mark, without a sign. -/
def based : Reader Value
  | '0' :: 'x' :: s => read 16 (fun c => (hexDigit? c).isSome) s
  | '0' :: 'o' :: s => read 8 (fun c => '0' ≤ c && c ≤ '7') s
  | '0' :: 'b' :: s => read 2 (fun c => c == '0' || c == '1') s
  | _ => none
where
  /-- Read the digits after the mark. -/
  read (base : Nat) (p : Char → Bool) (s : List Char) : Option (Value × List Char) := do
    let (ds, s) ← digits p s
    some (← integerOf? (numberOf base ds), s)

/-- Read an integer. -/
def integer (s : List Char) : Option (Value × List Char) :=
  match based s with
  | some r => some r
  | none => do
      let (minus, s) := sign s
      let (ds, s) ← decimal s
      let n : Int := numberOf 10 ds
      some (← integerOf? (if minus = some true then -n else n), s)

/-- Is the positive number `m * 10 ^ e` so large that its nearest floating-point number of 64
bits is infinite? -/
def overflows (m : Nat) (e : Int) : Bool :=
  let limit := Nat.pow 2 1024 - Nat.pow 2 970
  if m = 0 then false
  else if e ≥ 400 then true
  else if e ≥ 0 then m * Nat.pow 10 e.toNat ≥ limit
  else
    let digitCount : Int := (Nat.toDigits 10 m).length
    if digitCount + e > 310 then true
    else if digitCount + e < 300 then false
    else m ≥ limit * Nat.pow 10 (-e).toNat

/-- Read the exponent of a number: the mark, a sign and digits. -/
def exponent : Reader Int
  | c :: s =>
      if c = 'e' ∨ c = 'E' then do
        let (minus, s) := sign s
        let (ds, s) ← digits Char.isDigit s
        let n : Int := numberOf 10 ds
        some (if minus = some true then -n else n, s)
      else none
  | [] => none

/-- Read the fraction of a number: a point and digits. -/
def fraction : Reader (List Char)
  | '.' :: s => digits Char.isDigit s
  | _ => none

/-- The part of a text that is in front of its rest. -/
def consumed (s rest : List Char) : String := String.ofList (s.take (s.length - rest.length))

/-- Read a number with a fraction, an exponent or both. A positive one that is too large is
refused. -/
def decimalFloat (s : List Char) : Option (Value × List Char) := do
  let (minus, s₁) := sign s
  let (whole, s₂) ← decimal s₁
  let (frac, exp, rest) ←
    match fraction s₂ with
    | some (frac, s₃) =>
        match exponent s₃ with
        | some (exp, s₄) => some (frac, exp, s₄)
        | none => some (frac, 0, s₃)
    | none => (exponent s₂).map fun (exp, s₃) => ([], exp, s₃)
  guard (minus = some true ∨ ¬overflows (numberOf 10 (whole ++ frac)) (exp - frac.length))
  some (.float (consumed s rest), rest)

/-- Read infinity or the value that is not a number. -/
def specialFloat (s : List Char) : Option (Value × List Char) := do
  let (_, s₁) := sign s
  let rest ← (after? "inf".toList s₁).or (after? "nan".toList s₁)
  some (.float (consumed s rest), rest)

/-- Read a floating-point number. -/
def float (s : List Char) : Option (Value × List Char) := (decimalFloat s).or (specialFloat s)

/-! ## Truth values -/

/-- Read a truth value. -/
def boolean (s : List Char) : Option (Value × List Char) :=
  ((after? "true".toList s).map fun rest => (.boolean true, rest)).or
    ((after? "false".toList s).map fun rest => (.boolean false, rest))

end DocLint.Toml

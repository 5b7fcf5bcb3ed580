import DocLint.Text.Basic

/-!
# JSON output

The values that reports are written as, and their text: two spaces of indentation for every
level, members in the order in which they are given, and an empty array on one line.
-/

namespace DocLint

/-- A JSON value. -/
inductive Json where
  /-- The absent value. -/
  | null
  /-- A number. -/
  | number (n : Nat)
  /-- A text. -/
  | string (s : String)
  /-- A list of values. -/
  | array (elements : List Json)
  /-- Named values. -/
  | object (members : List (String × Json))
deriving Repr

namespace Json

/-! ## Strings -/

/-- The code of a control character as four hexadecimal digits. -/
def controlEscape (c : Char) : List Char :=
  let digits := Nat.toDigits 16 c.toNat
  ['\\', 'u'] ++ List.replicate (4 - digits.length) '0' ++ digits

/-- A character inside a string. -/
def escapeChar (c : Char) : List Char :=
  if c = '"' then ['\\', '"']
  else if c = '\\' then ['\\', '\\']
  else if c = '\n' then ['\\', 'n']
  else if c = '\r' then ['\\', 'r']
  else if c = '\t' then ['\\', 't']
  else if c.toNat = 8 then ['\\', 'b']
  else if c.toNat = 12 then ['\\', 'f']
  else if c.toNat < 0x20 then controlEscape c
  else [c]

/-- A text between quotes. -/
def quote (s : String) : String := String.ofList ('"' :: s.toList.flatMap escapeChar ++ ['"'])

/-! ## Layout -/

/-- A line break and the indentation of a level. -/
def lineBreak (level : Nat) : String := "\n" ++ String.ofList (List.replicate (2 * level) ' ')

/-- Items between brackets, each on a line of its own. -/
def bracket (opening closing : String) (level : Nat) (items : List String) : String :=
  match items with
  | [] => opening ++ closing
  | items =>
      opening ++ String.intercalate "," (items.map (lineBreak (level + 1) ++ ·)) ++
        lineBreak level ++ closing

mutual

/-- The text of a value at a level of indentation. -/
def textAt (level : Nat) : Json → String
  | null => "null"
  | number n => toString n
  | string s => quote s
  | array elements => bracket "[" "]" level (elementTexts (level + 1) elements)
  | object members => bracket "\x7b" "\x7d" level (memberTexts (level + 1) members)

/-- The texts of elements. -/
def elementTexts (level : Nat) : List Json → List String
  | [] => []
  | v :: rest => textAt level v :: elementTexts level rest

/-- The texts of members with their names. -/
def memberTexts (level : Nat) : List (String × Json) → List String
  | [] => []
  | (name, v) :: rest => (quote name ++ ": " ++ textAt level v) :: memberTexts level rest

end

/-- The text of a value. -/
def text (v : Json) : String := textAt 0 v

end Json

end DocLint

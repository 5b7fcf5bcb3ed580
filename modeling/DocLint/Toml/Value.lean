import DocLint.Text.Basic

/-!
# TOML values

The data a TOML document can hold. The linter never calculates with numbers that have a
fraction or with dates, so these are kept as texts.
-/

namespace DocLint.Toml

/-- A value of a TOML document. -/
inductive Value where
  /-- A text. -/
  | string (text : String)
  /-- A whole number of 64 bits. -/
  | integer (n : Int)
  /-- A number with a fraction or an exponent, as it is written. -/
  | float (text : String)
  /-- A truth value. -/
  | boolean (b : Bool)
  /-- A date, a time or both, in the standard form. -/
  | datetime (text : String)
  /-- A list of values. -/
  | array (elements : List Value)
  /-- A table of values under keys. -/
  | table (entries : List (String × Value))
deriving Repr

namespace Value

/-- The text of a string. -/
def string? : Value → Option String
  | string text => some text
  | _ => none

/-- The number of an integer. -/
def integer? : Value → Option Int
  | integer n => some n
  | _ => none

/-- The truth value of a boolean. -/
def boolean? : Value → Option Bool
  | boolean b => some b
  | _ => none

/-- The elements of an array. -/
def array? : Value → Option (List Value)
  | array elements => some elements
  | _ => none

end Value

end DocLint.Toml

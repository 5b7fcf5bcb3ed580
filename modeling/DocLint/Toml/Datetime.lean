import DocLint.Toml.Scalar

/-!
# TOML dates and times

A date, a time of day or both, with or without the distance to universal time. The readers
answer with the text in its standard form: a `T` between date and time, a fraction of at most
nine digits without zeros at its end, a capital `Z`.

`isDatetimeText` is a wider test for texts that stand for a date or a time on their own.
-/

namespace DocLint.Toml

open Text

/-- Read exactly `n` decimal digits as a number. -/
def fixedNumber (n : Nat) (s : List Char) : Option (Nat × List Char) :=
  if (s.take n).length = n ∧ (s.take n).all Char.isDigit then
    some (numberOf 10 (s.take n), s.drop n)
  else none

/-- The part of a text that is in front of its rest, as a list. -/
def taken (s rest : List Char) : List Char := s.take (s.length - rest.length)

/-- The number of days of a month. -/
def daysIn (year month : Nat) : Nat :=
  if month = 2 then
    if (year % 4 = 0 ∧ year % 100 ≠ 0) ∨ year % 400 = 0 then 29 else 28
  else if month = 4 ∨ month = 6 ∨ month = 9 ∨ month = 11 then 30
  else 31

/-- Read a date. -/
def date (s : List Char) : Option (List Char × List Char) := do
  let (year, s₁) ← fixedNumber 4 s
  let s₁ ← after? ['-'] s₁
  let (month, s₁) ← fixedNumber 2 s₁
  guard (1 ≤ month ∧ month ≤ 12)
  let s₁ ← after? ['-'] s₁
  let (day, s₁) ← fixedNumber 2 s₁
  guard (1 ≤ day ∧ day ≤ daysIn year month)
  some (taken s s₁, s₁)

/-- Read hours and minutes; the hours are at most `maxHour`. -/
def minutes (maxHour : Nat) (s : List Char) : Option ((Nat × Nat) × List Char) := do
  let (hour, s) ← fixedNumber 2 s
  guard (hour ≤ maxHour)
  let s ← after? [':'] s
  let (minute, s) ← fixedNumber 2 s
  guard (minute ≤ 59)
  some ((hour, minute), s)

/-- The standard form of the digits of a fraction: nine of them at most, and no zeros at the
end. -/
def standardFraction (digits : List Char) : List Char :=
  match ((digits.take 9).reverse.dropWhile (· == '0')).reverse with
  | [] => []
  | digits => '.' :: digits

/-- Read a time of day; the hours are at most `maxHour`. -/
def time (maxHour : Nat) (s : List Char) : Option (List Char × List Char) := do
  let (_, s₁) ← minutes maxHour s
  let s₁ ← after? [':'] s₁
  let (second, s₁) ← fixedNumber 2 s₁
  guard (second ≤ 60)
  let whole := taken s s₁
  match s₁ with
  | '.' :: c :: rest =>
      if c.isDigit then
        some (whole ++ standardFraction (c :: rest.takeWhile Char.isDigit),
          rest.dropWhile Char.isDigit)
      else some (whole, s₁)
  | _ => some (whole, s₁)

/-- Read the distance to universal time; its hours are at most `maxHour`. No distance has a plus
sign. -/
def offset (maxHour : Nat) : Reader (List Char)
  | 'Z' :: s => some (['Z'], s)
  | 'z' :: s => some (['Z'], s)
  | '+' :: s => signed '+' s
  | '-' :: s => signed '-' s
  | _ => none
where
  /-- Read the hours and minutes after a sign. -/
  signed (sign : Char) (s : List Char) : Option (List Char × List Char) := do
    let ((hour, minute), rest) ← minutes maxHour s
    let sign := if hour = 0 ∧ minute = 0 then '+' else sign
    some (sign :: taken s rest, rest)

/-- Does the character stand between a date and a time? -/
def isDateMark (c : Char) : Bool := c == 'T' || c == 't' || c == ' '

/-- Read the time that may follow a date. -/
def timeOfDate (s : List Char) : List Char × List Char :=
  match s with
  | [] => ([], [])
  | mark :: s₁ =>
      if isDateMark mark then
        match time 23 s₁ with
        | some (clock, rest) =>
            let (zone, rest) := (offset 23 rest).getD ([], rest)
            ('T' :: clock ++ zone, rest)
        | none => ([], s)
      else ([], s)

/-- Read a date, a time or both. -/
def datetime (s : List Char) : Option (String × List Char) := do
  let (text, rest) ←
    match date s with
    | some (day, rest) =>
        let (clock, rest) := timeOfDate rest
        some (day ++ clock, rest)
    | none => time 23 s
  some (String.ofList text, rest)

/-- Is the whole text a distance to universal time? It is at most a day. -/
def isZoneText : List Char → Bool
  | ['Z'] | ['z'] => true
  | sign :: h₁ :: h₂ :: ':' :: m₁ :: m₂ :: [] =>
      (sign == '+' || sign == '-') && [h₁, h₂, m₁, m₂].all Char.isDigit &&
        numberOf 10 [h₁, h₂] * 60 + numberOf 10 [m₁, m₂] ≤ 24 * 60
  | _ => false

/-- Is the whole text a date, a time or both? An hour may be the twenty-fourth here, and a date
may have a distance to universal time without a time of day. -/
def isDatetimeText (s : List Char) : Bool :=
  match date s with
  | none => (time 24 s).any (·.2.isEmpty)
  | some (_, rest) =>
      let zone : Option (List Char) := match rest with
        | mark :: s₁ => if isDateMark mark then (time 24 s₁).map Prod.snd else some rest
        | [] => some []
      zone.any fun zone => zone.isEmpty || isZoneText zone

/-! ## Dates as tables

Where a table is asked for, a date counts as a table with one special key and its text. The
other way round, a table that starts with that key is a date. -/

/-- The key of a date that counts as a table. -/
def dateKey : String := "$__toml_private_datetime"

/-- The entries of a table or of a date that counts as one. -/
def Value.entries? : Value → Option (List (String × Value))
  | table entries => some entries
  | datetime text => some [(dateKey, string text)]
  | _ => none

/-- May a table with these entries stay as it is? If it starts with the key of a date, it has to
be a date. -/
def isSound : List (String × Value) → Bool
  | (key, v) :: more =>
      key ≠ dateKey || (more.isEmpty && v.string?.any fun text => isDatetimeText text.toList)
  | [] => true

mutual

/-- Is every table in the value sound? -/
def Value.isSettled : Value → Bool
  | .table entries => isSound entries && areSettled entries
  | .array elements => allSettled elements
  | _ => true

/-- Is every table under these keys sound? -/
def areSettled : List (String × Value) → Bool
  | [] => true
  | (_, v) :: more => v.isSettled && areSettled more

/-- Is every table in these values sound? -/
def allSettled : List Value → Bool
  | [] => true
  | v :: more => v.isSettled && allSettled more

end

/-! ## All scalars -/

/-- Read a value that holds no other values. -/
def scalar (s : List Char) : Option (Value × List Char) :=
  match string s with
  | some (text, rest) => some (.string (String.ofList text), rest)
  | none =>
      match datetime s with
      | some (text, rest) => some (.datetime text, rest)
      | none => ((float s).or (integer s)).or (boolean s)

end DocLint.Toml

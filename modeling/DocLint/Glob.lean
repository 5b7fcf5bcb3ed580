import DocLint.Text.Basic

/-!
# Glob patterns over paths

In a pattern `?` stands for any character, `*` for any text and `[…]` for one character out of
a class; all of them may stand for a separator too. A `**` that is a whole component stands for
any number of components. `Glob.parse` reads a pattern or says where it is wrong, and
`Glob.matches` tells whether a text has the form of a pattern.
-/

namespace DocLint

/-- A range of characters in a class, both ends included. -/
structure CharRange where
  /-- The first character. -/
  first : Char
  /-- The last character. -/
  last : Char
deriving DecidableEq, Repr

/-- Is the character in the range? -/
def CharRange.has (r : CharRange) (c : Char) : Bool := r.first.toNat ≤ c.toNat && c.toNat ≤ r.last.toNat

namespace Glob

/-- A part of a pattern. -/
inductive Part where
  /-- The character itself. -/
  | char (c : Char)
  /-- Any one character. -/
  | anyChar
  /-- Any text. -/
  | anyText
  /-- Any number of components, each with the separator after it. -/
  | anyComponents
  /-- A character inside the ranges. -/
  | within (ranges : List CharRange)
  /-- A character outside the ranges. -/
  | outside (ranges : List CharRange)
deriving DecidableEq, Repr

/-- What is wrong with a pattern. -/
inductive Fault where
  /-- Three or more stars in a row. -/
  | wildcards
  /-- Two stars that are no whole component. -/
  | recursiveWildcards
  /-- A class that is not closed. -/
  | range
deriving DecidableEq, Repr

/-- The fault in words. -/
def Fault.text : Fault → String
  | wildcards => "wildcards are either regular `*` or recursive `**`"
  | recursiveWildcards => "recursive wildcards must form a single path component"
  | range => "invalid range pattern"

/-- Where and how a pattern is wrong. -/
structure PatternError where
  /-- The position of the fault, in characters. -/
  position : Nat
  /-- The fault. -/
  fault : Fault
deriving DecidableEq, Repr

/-- The error in words. -/
def PatternError.message (e : PatternError) : String :=
  "Pattern syntax error near position " ++ toString e.position ++ ": " ++ e.fault.text

/-! ## Reading patterns -/

/-- The ranges that the characters of a class stand for: `a-z` is a range, any other character
stands for itself. -/
def rangesOf : List Char → List CharRange
  | a :: '-' :: b :: rest => ⟨a, b⟩ :: rangesOf rest
  | a :: rest => ⟨a, a⟩ :: rangesOf rest
  | [] => []

/-- The members of a class and what follows its closing bracket. The first member may be a
closing bracket. -/
def classMembers : List Char → Option (List Char × List Char)
  | [] => none
  | first :: rest =>
      match rest.dropWhile (· ≠ ']') with
      | [] => none
      | _ :: after => some (first :: rest.takeWhile (· ≠ ']'), after)

/-- Read a class after its opening bracket. -/
def charClass : List Char → Option (Part × List Char)
  | '!' :: rest => (classMembers rest).map fun (members, after) => (.outside (rangesOf members), after)
  | rest => (classMembers rest).map fun (members, after) => (.within (rangesOf members), after)

/-- Add components to the parts read so far, the last one first. Two in a row are one. -/
def pushComponents (parts : List Part) : List Part :=
  match parts with
  | .anyComponents :: _ :: _ => parts
  | _ => .anyComponents :: parts

/-- Read the parts of a pattern from the position `pos` on, after the character `before`. The
parts so far are given with the last one first. Every step takes a character, so the bound is
the length of the pattern. -/
def readParts : Nat → Nat → Option Char → List Part → List Char → Except PatternError (List Part)
  | 0, _, _, acc, _ => .ok acc.reverse
  | _ + 1, _, _, acc, [] => .ok acc.reverse
  | n + 1, pos, before, acc, c :: rest =>
      if c = '?' then readParts n (pos + 1) (some c) (.anyChar :: acc) rest
      else if c = '[' then
        match charClass rest with
        | none => .error ⟨pos, .range⟩
        | some (part, after) =>
            readParts n (pos + 1 + (rest.length - after.length)) (some ']') (part :: acc) after
      else if c = '*' then
        match rest with
        | '*' :: '*' :: _ => .error ⟨pos + 2, .wildcards⟩
        | '*' :: after =>
            if before = none ∨ before = some '/' then
              match after with
              | [] => .ok (pushComponents acc).reverse
              | '/' :: more => readParts n (pos + 3) (some '/') (pushComponents acc) more
              | _ => .error ⟨pos + 2, .recursiveWildcards⟩
            else .error ⟨pos - 1, .recursiveWildcards⟩
        | _ => readParts n (pos + 1) (some c) (.anyText :: acc) rest
      else readParts n (pos + 1) (some c) (.char c :: acc) rest

/-! ## Matching -/

/-- Does a part that stands for one character accept it? -/
def Part.accepts : Part → Char → Bool
  | .char d, c => c == d
  | .anyChar, _ => true
  | .within ranges, c => ranges.any (·.has c)
  | .outside ranges, c => !ranges.any (·.has c)
  | .anyText, _ => false
  | .anyComponents, _ => false

/-- Does `rest` accept some end of the text? -/
def anyEnd (rest : List Char → Bool) : List Char → Bool
  | [] => rest []
  | c :: s => rest (c :: s) || anyEnd rest s

/-- Does `rest` accept the text after some separator in it, or the empty text? -/
def anyComponentEnd (rest : List Char → Bool) : List Char → Bool
  | [] => rest []
  | c :: s => (c == '/' && rest s) || anyComponentEnd rest s

/-- Does a text have the form of these parts? -/
def matchParts : List Part → List Char → Bool
  | [], s => s.isEmpty
  | .anyText :: ps, s => anyEnd (matchParts ps) s
  | .anyComponents :: ps, s => matchParts ps s || anyComponentEnd (matchParts ps) s
  | p :: ps, s =>
      match s with
      | [] => false
      | c :: rest => p.accepts c && matchParts ps rest

end Glob

/-- A glob pattern. -/
structure Glob where
  /-- The text of the pattern. -/
  text : String
  /-- Its parts. -/
  parts : List Glob.Part
deriving DecidableEq, Repr

/-- Read a pattern. -/
def Glob.parse (text : String) : Except Glob.PatternError Glob := do
  return ⟨text, ← Glob.readParts (text.toList.length + 1) 0 none [] text.toList⟩

/-- Does a text have the form of a pattern? -/
def Glob.matches (g : Glob) (s : String) : Bool := Glob.matchParts g.parts s.toList

end DocLint

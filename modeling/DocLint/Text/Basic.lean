/-!
# Text: characters, lines and the small cuts made in them

Every rule of the linter reads text as a list of characters. This module holds the
vocabulary the rules share:

* `inRanges`: looking a code point up in a table of ranges;
* `isBlank`: the characters that count as white space;
* `trimStart`, `trimEnd`, `trim`: cutting white space off the ends;
* `splitAt`, `lines`, `pieces`: cutting a text at its line feeds;
* `cutAt`, `cutAtLast`, `erase`: cutting a text at the first or the last place where a word
  occurs, and taking the word out everywhere;
* `byteLength`: the length of a text in UTF-8 bytes, the unit of offsets and columns.

A line is a list of characters in which the line break is left out.
-/

namespace DocLint

/-- A line of text, without its line break. -/
abbrev Line := List Char

namespace Text

/-! ## Classes of characters -/

/-- Is the code point in one of the ranges? The ranges increase, so the search ends at the
first range that does not lie below the code point. -/
def inRanges (n : Nat) : List (Nat × Nat) → Bool
  | [] => false
  | (first, last) :: more => if last < n then inRanges n more else decide (first ≤ n)

/-- White space: the characters with the Unicode property `White_Space`. -/
def isBlank (c : Char) : Bool :=
  let n := c.toNat
  (0x09 ≤ n && n ≤ 0x0D) || n == 0x20 || n == 0x85 || n == 0xA0 || n == 0x1680 ||
    (0x2000 ≤ n && n ≤ 0x200A) || n == 0x2028 || n == 0x2029 || n == 0x202F || n == 0x205F ||
    n == 0x3000

/-- Does the text hold white space only? -/
def isAllBlank (s : List Char) : Bool := s.all isBlank

/-- The text from its first visible character on. -/
def trimStart (s : List Char) : List Char := s.dropWhile isBlank

/-- The text up to the last character outside the class `p`. -/
def dropEndWhile (p : Char → Bool) (s : List Char) : List Char :=
  (s.reverse.dropWhile p).reverse

/-- The text up to its last visible character. -/
def trimEnd (s : List Char) : List Char := dropEndWhile isBlank s

/-- The text between its first and its last visible character. -/
def trim (s : List Char) : List Char := trimEnd (trimStart s)

/-- The text with all white space taken out. -/
def squeeze (s : List Char) : List Char := s.filter (!isBlank ·)

/-! ## Lines -/

/-- Cut a list, most often a text, at every occurrence of `sep`. There is always one piece more
than there are separators. -/
def splitAt {α : Type} [DecidableEq α] (sep : α) : List α → List (List α)
  | [] => [[]]
  | c :: rest =>
      if c = sep then [] :: splitAt sep rest
      else match splitAt sep rest with
        | [] => [[c]]
        | piece :: more => (c :: piece) :: more

/-- The pieces of a text between its line feeds. -/
def pieces (s : List Char) : List Line := splitAt '\n' s

/-- Drop one carriage return at the end of a line. -/
def dropReturn (l : Line) : Line :=
  if l.getLast? = some '\r' then l.dropLast else l

/-- The lines of the pieces: a piece that a line feed follows loses the carriage return in
front of it, and an empty last piece is no line. -/
def linesOfPieces : List Line → List Line
  | [] => []
  | [last] => if last = [] then [] else [last]
  | piece :: more => dropReturn piece :: linesOfPieces more

/-- The lines of a text, each without its line feed and a carriage return right before it. -/
def lines (s : List Char) : List Line := linesOfPieces (pieces s)

/-- Put a separator between texts. -/
def join (sep : List Char) : List (List Char) → List Char
  | [] => []
  | [s] => s
  | s :: more => s ++ sep ++ join sep more

/-! ## Finding words -/

/-- What follows `word` at the front of a text, if the text starts with it. -/
def after? : (word s : List Char) → Option (List Char)
  | [], s => some s
  | _ :: _, [] => none
  | w :: ws, c :: cs => if w = c then after? ws cs else none

/-- A text that starts with `word` is `word` and what follows it. -/
theorem after?_eq_some_iff {word s rest : List Char} :
    after? word s = some rest ↔ s = word ++ rest := by
  induction word generalizing s with
  | nil => simp [after?]
  | cons w ws ih =>
    cases s with
    | nil => simp [after?]
    | cons c cs =>
      by_cases h : w = c
      · subst h; simp [after?, ih]
      · simp [after?, h, Ne.symm h]

/-- What precedes `word` at the end of a text, if the text ends with it. -/
def before? (word s : List Char) : Option (List Char) :=
  (after? word.reverse s.reverse).map List.reverse

/-- The text before and after the first occurrence of `word`. -/
def cutAt (word : List Char) : List Char → Option (List Char × List Char)
  | [] => if word = [] then some ([], []) else none
  | c :: rest =>
      match after? word (c :: rest) with
      | some after => some ([], after)
      | none => (cutAt word rest).map fun (before, after) => (c :: before, after)

/-- Where `word` is found, it stands between the text before it and the text after it. -/
theorem cutAt_eq_some {word s before after : List Char} (h : cutAt word s = some (before, after)) :
    s = before ++ word ++ after := by
  induction s generalizing before with
  | nil =>
      simp only [cutAt] at h
      split at h
      · rename_i hword
        cases h
        rw [hword]
        rfl
      · cases h
  | cons c rest ih =>
      simp only [cutAt] at h
      split at h
      · rename_i hafter
        cases h
        rw [after?_eq_some_iff.1 hafter]
        rfl
      · obtain ⟨cut, hcut, heq⟩ := Option.map_eq_some_iff.1 h
        cases heq
        rw [ih hcut]
        rfl

/-- The text before and after the last occurrence of `word`, which is the first one when the
text is read backwards. -/
def cutAtLast (word s : List Char) : Option (List Char × List Char) :=
  (cutAt word.reverse s.reverse).map fun (after, before) => (before.reverse, after.reverse)

/-- Does `word` occur in the text? -/
def holds (word s : List Char) : Bool := (cutAt word s).isSome

/-- Drop `word` from the front of a text as often as it stands there. The empty word is
never dropped. -/
def dropRepeated (word s : List Char) : List Char :=
  if word = [] then s
  else match _h : after? word s with
    | none => s
    | some rest => dropRepeated word rest
termination_by s.length
decreasing_by
  rename_i hword
  have := after?_eq_some_iff.1 ‹_›
  subst this
  have := List.length_pos_iff.2 hword
  simp
  omega

/-- The text with every occurrence of `word` taken out, from the front on. What is left may hold
`word` again where two parts meet. The empty word is never taken out. -/
def erase (word s : List Char) : List Char :=
  if word = [] then s
  else match _h : cutAt word s with
    | none => s
    | some (before, after) => before ++ erase word after
termination_by s.length
decreasing_by
  rename_i hword
  have := cutAt_eq_some ‹_›
  subst this
  have := List.length_pos_iff.2 hword
  simp
  omega

/-! ## Measures -/

/-- The number of UTF-8 bytes of a text. -/
def byteLength : List Char → Nat
  | [] => 0
  | c :: rest => c.utf8Size + byteLength rest

/-- Order of texts by code point, which is the order of their UTF-8 bytes. -/
def compareText : List Char → List Char → Ordering
  | [], [] => .eq
  | [], _ :: _ => .lt
  | _ :: _, [] => .gt
  | a :: as, b :: bs => (compare a.toNat b.toNat).then (compareText as bs)

/-- The characters of a text between two byte offsets. -/
def slice (start stop : Nat) : List Char → List Char := go 0
where
  /-- Walk the text with the byte offset of its first character. -/
  go (at_ : Nat) : List Char → List Char
    | [] => []
    | c :: rest =>
        if at_ < start then go (at_ + c.utf8Size) rest
        else if at_ < stop then c :: go (at_ + c.utf8Size) rest
        else []

end Text

end DocLint

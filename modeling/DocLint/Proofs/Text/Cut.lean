import DocLint.Text.Basic
import Mathlib.Data.List.DropRight

/-!
# Trimmed text: what a cut at an end leaves, and what it takes away

The cuts of `DocLint.Text` answer with what remains of a text. The lemmas here turn an answer
into the shape of the text that gave it: a text with a word at its end is some text and the
word (`before?_eq_some_iff`), and a text that trims to a word is the word with white space at
its side (`trimEnd_eq_append_iff`, `trimStart_eq_cons_iff`).

Trimming to a word is only an equivalence for words that end, or start, with a visible
character. Every fixed word of the header and of a documentation block is one.
-/

namespace DocLint.Text

/-- A text that ends with `word` is some text and `word`. -/
theorem before?_eq_some_iff {word s rest : List Char} :
    before? word s = some rest ↔ s = rest ++ word := by
  unfold before?
  rw [Option.map_eq_some_iff]
  constructor
  · intro h
    obtain ⟨t, ht, rfl⟩ := h
    rw [after?_eq_some_iff] at ht
    simpa using congrArg List.reverse ht
  · rintro rfl
    exact ⟨rest.reverse, by simp [after?_eq_some_iff], List.reverse_reverse rest⟩

/-- Where a text starts with `word`, the text after it is found. -/
@[simp] theorem after?_append (word s : List Char) : after? word (word ++ s) = some s :=
  after?_eq_some_iff.2 rfl

/-! ### Runs of characters -/

/-- A run of characters of the class `p`, at the front of a text that goes on with another
character, is what `takeWhile` takes. -/
theorem takeWhile_append_stop {p : Char → Bool} {t rest : List Char}
    (ht : ∀ a ∈ t, p a = true) (hrest : ∀ a ∈ rest.head?, p a = false) :
    (t ++ rest).takeWhile p = t ∧ (t ++ rest).dropWhile p = rest := by
  rw [List.takeWhile_append_of_pos ht, List.dropWhile_append_of_pos ht]
  cases rest with
  | nil => simp
  | cons a rest => simp [hrest a rfl]

/-! ### Dropping the end -/

theorem prefix_dropEndWhile (p : Char → Bool) (s : List Char) : dropEndWhile p s <+: s :=
  List.rdropWhile_prefix p s

/-- The front of a text is only touched if nothing is left of its end. -/
theorem dropEndWhile_append (p : Char → Bool) (s t : List Char) :
    dropEndWhile p (s ++ t) =
      if dropEndWhile p t = [] then dropEndWhile p s else s ++ dropEndWhile p t := by
  simp only [dropEndWhile, List.reverse_append, List.dropWhile_append, List.isEmpty_iff,
    List.reverse_eq_nil_iff]
  split <;> simp

/-- A character that is left keeps what is in front of it. -/
theorem dropEndWhile_append_cons {p : Char → Bool} {c : Char} (hc : p c = false)
    (s t : List Char) : dropEndWhile p (s ++ c :: t) = s ++ c :: dropEndWhile p t := by
  have hone : dropEndWhile p [c] = [c] := by simp [dropEndWhile, hc]
  have hkept : dropEndWhile p (c :: t) = c :: dropEndWhile p t := by
    rw [← List.singleton_append, dropEndWhile_append, hone]
    split
    · rename_i hnil
      rw [hnil]
    · rfl
  rw [dropEndWhile_append, hkept, if_neg (List.cons_ne_nil _ _)]

/-- What is left of a text is also left of it inside a longer one. -/
theorem infix_dropEndWhile (p : Char → Bool) (before s after : List Char) :
    dropEndWhile p s <:+: dropEndWhile p (before ++ s ++ after) := by
  rw [dropEndWhile_append]
  split
  · rw [dropEndWhile_append]
    split
    · rename_i hnil
      rw [hnil]
      exact List.nil_infix
    · exact (List.suffix_append ..).isInfix
  · have hfront : dropEndWhile p s <+: s ++ dropEndWhile p after :=
      (prefix_dropEndWhile p s).trans (List.prefix_append ..)
    rw [List.append_assoc]
    exact hfront.isInfix.trans (List.suffix_append ..).isInfix

theorem dropEndWhile_congr {p q : Char → Bool} {s : List Char} (h : ∀ c ∈ s, p c = q c) :
    dropEndWhile p s = dropEndWhile q s := by
  induction s using List.reverseRecOn with
  | nil => rfl
  | append_singleton s c ih =>
      have hc : p c = q c := h c (by simp)
      have ih := ih fun c hc => h c (List.mem_append_left _ hc)
      simp only [dropEndWhile_append, ih]
      simp [dropEndWhile, List.dropWhile_cons, hc]

/-! ### White space -/

@[simp] theorem isAllBlank_nil : isAllBlank [] = true := rfl

theorem isAllBlank_return : isAllBlank ['\r'] = true := by decide

@[simp] theorem isAllBlank_append (s t : List Char) :
    isAllBlank (s ++ t) = (isAllBlank s && isAllBlank t) := by
  simp [isAllBlank]

theorem isAllBlank_eq_true_iff {s : List Char} :
    isAllBlank s = true ↔ ∀ c ∈ s, isBlank c = true := by
  simp [isAllBlank]

/-- A text with a visible character is not blank. -/
theorem isAllBlank_eq_false_of_mem {s : List Char} {c : Char} (hc : c ∈ s)
    (hv : isBlank c = false) : isAllBlank s = false := by
  rw [← Bool.not_eq_true, isAllBlank_eq_true_iff]
  intro h
  rw [h c hc] at hv
  exact absurd hv (by simp)

/-! ### Trimming the end -/

theorem trimEnd_eq_rdropWhile (s : List Char) : trimEnd s = s.rdropWhile isBlank := rfl

/-- What trimming takes off the end is white space. -/
theorem exists_blank_trimEnd (s : List Char) : ∃ w, isAllBlank w = true ∧ s = trimEnd s ++ w := by
  refine ⟨s.rtakeWhile isBlank, ?_, ?_⟩
  · rw [isAllBlank_eq_true_iff]
    exact fun c hc => List.mem_rtakeWhile_imp hc
  · rw [trimEnd_eq_rdropWhile, List.rdropWhile_append_rtakeWhile]

/-- White space at the end makes no difference to the trimmed text. -/
theorem trimEnd_append_of_blank {w : List Char} (hw : isAllBlank w = true) (s : List Char) :
    trimEnd (s ++ w) = trimEnd s := by
  induction w using List.reverseRecOn with
  | nil => rw [List.append_nil]
  | append_singleton w c ih =>
      rw [isAllBlank_append, Bool.and_eq_true] at hw
      have hc : isBlank c = true := by simpa [isAllBlank] using hw.2
      rw [trimEnd_eq_rdropWhile, ← List.append_assoc, List.rdropWhile_concat_pos _ _ _ hc]
      exact ih hw.1

theorem visible_append {word : List Char} (hword : word.getLast?.any (!isBlank ·) = true)
    (s : List Char) : (s ++ word).getLast?.any (!isBlank ·) = true := by
  obtain ⟨c, hc, hv⟩ := (Option.any_eq_true _ _).1 hword
  rw [List.getLast?_append, hc, Option.some_or, Option.any_some]
  exact hv

/-- A text that ends with a word whose last character is visible is trimmed already. -/
theorem trimEnd_append_word {word : List Char} (hword : word.getLast?.any (!isBlank ·) = true)
    (s : List Char) : trimEnd (s ++ word) = s ++ word := by
  obtain ⟨c, hc, hv⟩ := (Option.any_eq_true _ _).1 hword
  obtain ⟨front, rfl⟩ := List.getLast?_eq_some_iff.1 hc
  rw [← List.append_assoc]
  exact List.rdropWhile_concat_neg _ _ _ (by simpa using hv)

theorem trimEnd_cons_of_visible {c : Char} (hc : isBlank c = false) (s : List Char) :
    trimEnd (c :: s) = c :: trimEnd s :=
  dropEndWhile_append_cons hc [] s

/-- A text trims to one that ends with such a word exactly if only white space comes after the
word. -/
theorem trimEnd_eq_append_iff {word : List Char} (hword : word.getLast?.any (!isBlank ·) = true)
    {s t : List Char} :
    trimEnd t = s ++ word ↔ ∃ w, isAllBlank w = true ∧ t = s ++ word ++ w := by
  constructor
  · intro h
    obtain ⟨w, hw, ht⟩ := exists_blank_trimEnd t
    exact ⟨w, hw, by rw [← h]; exact ht⟩
  · intro h
    obtain ⟨w, hw, rfl⟩ := h
    rw [trimEnd_append_of_blank hw, trimEnd_append_word hword]

/-- Blanks at the end of a line make no difference to whether it ends with such a word and
white space. -/
theorem exists_append_blank_iff {word : List Char}
    (hword : word.getLast?.any (!isBlank ·) = true) {v : List Char} (hv : isAllBlank v = true)
    {s l : List Char} :
    (∃ w, isAllBlank w = true ∧ l ++ v = s ++ word ++ w) ↔
      ∃ w, isAllBlank w = true ∧ l = s ++ word ++ w := by
  rw [← trimEnd_eq_append_iff hword, ← trimEnd_eq_append_iff hword, trimEnd_append_of_blank hv]

/-! ### Trimming the start -/

/-- White space at the start makes no difference to the trimmed text. -/
theorem trimStart_append_of_blank {w : List Char} (hw : isAllBlank w = true) (s : List Char) :
    trimStart (w ++ s) = trimStart s :=
  List.dropWhile_append_of_pos (isAllBlank_eq_true_iff.1 hw)

/-- A text trims to a text with first character `c` exactly if `c` is its first visible
character. -/
theorem trimStart_eq_cons_iff {c : Char} {s t : List Char} :
    trimStart t = c :: s ↔
      isBlank c = false ∧ ∃ w, isAllBlank w = true ∧ t = w ++ c :: s := by
  constructor
  · intro h
    have hne : t.dropWhile isBlank ≠ [] := by
      intro hnil
      exact absurd (hnil.symm.trans h) (by simp)
    refine ⟨?_, t.takeWhile isBlank, ?_, ?_⟩
    · have hhead := List.dropWhile_get_zero_not isBlank t (List.length_pos_iff.2 hne)
      simpa [show t.dropWhile isBlank = c :: s from h] using hhead
    · rw [isAllBlank_eq_true_iff]
      exact fun a ha => List.mem_takeWhile_imp ha
    · rw [← h]
      exact List.takeWhile_append_dropWhile.symm
  · intro h
    obtain ⟨hc, w, hw, rfl⟩ := h
    rw [trimStart_append_of_blank hw]
    simp [trimStart, hc]

/-! ### Trimming both ends -/

/-- White space at the start makes no difference to the trimmed text. -/
theorem trim_append_of_blank {w : List Char} (hw : isAllBlank w = true) (s : List Char) :
    trim (w ++ s) = trim s := by
  rw [trim, trimStart_append_of_blank hw, trim]

/-- A text that starts and ends with a visible character is found between white space. -/
theorem trim_between_blanks {w s v : List Char} (hw : isAllBlank w = true)
    (hv : isAllBlank v = true) (hfirst : s.head?.any (!isBlank ·) = true)
    (hlast : s.getLast?.any (!isBlank ·) = true) : trim (w ++ s ++ v) = s := by
  obtain ⟨c, hc, hvisible⟩ := (Option.any_eq_true _ _).1 hfirst
  obtain ⟨rest, rfl⟩ := List.head?_eq_some_iff.1 hc
  have hstart : trimStart (c :: rest ++ v) = c :: rest ++ v :=
    trimStart_eq_cons_iff.2 ⟨by simpa using hvisible, [], rfl, rfl⟩
  rw [List.append_assoc, trim_append_of_blank hw, trim, hstart, trimEnd_append_of_blank hv]
  exact trimEnd_append_word hlast []

theorem trim_of_visible {s : List Char} (hfirst : s.head?.any (!isBlank ·) = true)
    (hlast : s.getLast?.any (!isBlank ·) = true) : trim s = s := by
  have h := trim_between_blanks (w := []) (v := []) isAllBlank_nil isAllBlank_nil hfirst hlast
  rwa [List.nil_append, List.append_nil] at h

/-- What is left of the end of a text is also left of the text. -/
theorem trim_infix_trimEnd {s t : List Char} (h : s <:+ t) : trim s <:+: trimEnd t := by
  obtain ⟨front, hfront⟩ := (List.dropWhile_suffix isBlank).trans h
  have hinfix := infix_dropEndWhile isBlank front (trimStart s) []
  rwa [List.append_nil, trimStart, hfront] at hinfix

/-! ### Bytes -/

@[simp]
theorem byteLength_append (s t : List Char) :
    byteLength (s ++ t) = byteLength s + byteLength t := by
  induction s with
  | nil => rw [List.nil_append, byteLength, Nat.zero_add]
  | cons c s ih => rw [List.cons_append, byteLength, byteLength, ih, Nat.add_assoc]

/-! ### Order -/

/-- Texts are in the order of their lists of code points. -/
theorem compareText_eq_compare (s t : List Char) :
    compareText s t = compare (s.map Char.toNat) (t.map Char.toNat) := by
  induction s, t using compareText.induct with
  | case1 => rfl
  | case2 => rfl
  | case3 => rfl
  | case4 a s b t ih =>
      rw [compareText, ih, List.compare_eq_compareLex, List.map_cons, List.map_cons,
        List.compareLex_cons_cons]

end DocLint.Text

import DocLint.Kotlin.Comment
import DocLint.Proofs.Text.Word
import Mathlib.Data.Option.Basic

/-!
# Documentation comments: the one right in front of a declaration

The documentation of a declaration is looked up on the text in front of it. The text has to end
with an end marker, the comment is taken to start at the last start marker, and it counts only if
no other end marker stands inside. This is a search from the end, and markers can share characters
with each other and with what stands around them: `/**/` is no documentation comment, `/***/` is.

`EndsWithDoc` says what the comment is without a search. The main result is that the search finds
a comment exactly if there is one, that there is one at most, and where it stands.
-/

namespace DocLint.Kotlin

open Text

variable {text front inner front' inner' tail : List Char}

/-- White space apart, the text ends with the documentation comment around `inner`, which starts
behind `front`. No marker stands inside. -/
structure EndsWithDoc (text front inner : List Char) : Prop where
  trimEnd_eq : trimEnd text = front ++ "/**".toList ++ inner ++ "*/".toList
  no_end : ¬ "*/".toList <:+: inner
  no_start : ¬ "/**".toList <:+: inner

/-- The part of the text behind its last line feed; all of it if there is none. -/
def IsLastLine (tail text : List Char) : Prop :=
  '\n' ∉ tail ∧ (text = tail ∨ ∃ above, text = above ++ '\n' :: tail)

/-! ### Finding the comment -/

theorem trailingDoc?_eq_some_iff {c : Comment} :
    trailingDoc? text = some c ↔ ∃ front inner, EndsWithDoc text front inner ∧
      commentAfter front ("/**".toList ++ inner ++ "*/".toList) = c := by
  have hmarker : Unbordered "/**".toList.reverse := by decide
  simp only [trailingDoc?, Option.bind_eq_bind, Option.bind_eq_some_iff, Prod.exists,
    Option.guard_eq_some', before?_eq_some_iff, cutAtLast_eq_some_iff hmarker, Bool.not_eq_true',
    holds_eq_false_iff, Option.some.injEq]
  constructor
  · rintro ⟨body, htext, front, inner, ⟨rfl, hstart⟩, -, hend, rfl⟩
    exact ⟨front, inner, ⟨htext, hend, hstart⟩, rfl⟩
  · rintro ⟨front, inner, h, rfl⟩
    exact ⟨_, h.trimEnd_eq, front, inner, ⟨rfl, h.no_start⟩, (), h.no_end, rfl⟩

/-- A text has one documentation comment at its end at most. -/
theorem EndsWithDoc.unique (h : EndsWithDoc text front inner)
    (h' : EndsWithDoc text front' inner') : front = front' ∧ inner = inner' := by
  have hmarker : Unbordered "/**".toList.reverse := by decide
  have hbody : front ++ "/**".toList ++ inner = front' ++ "/**".toList ++ inner' :=
    List.append_cancel_right (h.trimEnd_eq.symm.trans h'.trimEnd_eq)
  -- Both are the cut of the same text at the last start marker.
  have hcut : cutAtLast "/**".toList (front ++ "/**".toList ++ inner) = some (front, inner) :=
    (cutAtLast_eq_some_iff hmarker).2 ⟨rfl, h.no_start⟩
  have hcut' : cutAtLast "/**".toList (front ++ "/**".toList ++ inner) = some (front', inner') :=
    (cutAtLast_eq_some_iff hmarker).2 ⟨hbody, h'.no_start⟩
  exact Prod.mk.inj (Option.some.inj (hcut.symm.trans hcut'))

/-! ### Its place -/

theorem exists_isLastLine (text : List Char) : ∃ tail, IsLastLine tail text := by
  by_cases hfeed : '\n' ∈ text
  · obtain ⟨below, above, hreverse, hbelow⟩ :=
      List.eq_append_cons_of_mem (List.mem_reverse.2 hfeed)
    refine ⟨below.reverse, by simpa using hbelow, Or.inr ⟨above.reverse, ?_⟩⟩
    simpa using congrArg List.reverse hreverse
  · exact ⟨text, hfeed, Or.inl rfl⟩

theorem IsLastLine.takeWhile_reverse (h : IsLastLine tail text) :
    text.reverse.takeWhile (· ≠ '\n') = tail.reverse := by
  obtain ⟨hfeed, htext⟩ := h
  have hclass : ∀ c ∈ tail.reverse, decide (c ≠ '\n') = true := by
    intro c hc
    exact decide_eq_true fun heq => hfeed (heq ▸ List.mem_reverse.1 hc)
  rcases htext with rfl | ⟨above, rfl⟩
  · exact List.takeWhile_eq_self_iff.2 hclass
  · rw [List.reverse_append, List.reverse_cons, List.append_assoc, List.singleton_append]
    exact (takeWhile_append_stop hclass (by simp)).1

theorem byteLength_reverse (s : List Char) : byteLength s.reverse = byteLength s := by
  induction s with
  | nil => rfl
  | cons c s ih => rw [List.reverse_cons, byteLength_append, ih, byteLength, byteLength, byteLength,
      Nat.add_zero, Nat.add_comm]

theorem IsLastLine.spanAfter_column (h : IsLastLine tail front) (length : Nat) :
    (spanAfter front length).column = 1 + byteLength tail := by
  show byteLength (front.reverse.takeWhile (· ≠ '\n')) + 1 = _
  rw [h.takeWhile_reverse, byteLength_reverse, Nat.add_comm]

theorem slice_go_append {start here : Nat} (h : start ≤ here) (text rest : List Char) :
    slice.go start (here + byteLength text) here (text ++ rest) = text := by
  induction text generalizing here with
  | nil =>
      cases rest with
      | nil => rfl
      | cons c rest => simp [slice.go, byteLength, Nat.not_lt.2 h]
  | cons c text ih =>
      have hsize := c.utf8Size_pos
      have hstop : here < here + byteLength (c :: text) := by
        rw [byteLength]
        omega
      rw [List.cons_append, slice.go, if_neg (Nat.not_lt.2 h), if_pos hstop, byteLength,
        ← Nat.add_assoc, ih (by omega)]

/-- The text up to a byte between two characters is the text in front of that byte. -/
theorem slice_append (front rest : List Char) :
    slice 0 (byteLength front) (front ++ rest) = front := by
  simpa [slice] using slice_go_append (Nat.le_refl 0) front rest

/-- **The documentation of a declaration.** Let a declaration start between two characters of a
source, with the text `before` in front of it. It has documentation exactly if `before` ends with
a documentation comment, white space apart, and no marker stands inside the comment. There is one
such comment at most. Its text, its number of bytes, the bytes in front of it, its line and its
column are those of the source. -/
theorem trailingDoc?_slice_iff (before rest : List Char) (c : Comment) :
    (trailingDoc? (slice 0 (byteLength before) (before ++ rest)) = some c ↔
      ∃ front inner tail, EndsWithDoc before front inner ∧ IsLastLine tail front ∧
        c.text.toList = "/**".toList ++ inner ++ "*/".toList ∧
        c.span.offset = byteLength front ∧ c.span.length = byteLength c.text.toList ∧
        c.span.line = 1 + front.count '\n' ∧ c.span.column = 1 + byteLength tail) ∧
    ∀ front inner front' inner', EndsWithDoc before front inner →
      EndsWithDoc before front' inner' → front = front' ∧ inner = inner' := by
  refine ⟨?_, fun _ _ _ _ h h' => h.unique h'⟩
  rw [slice_append, trailingDoc?_eq_some_iff]
  constructor
  · rintro ⟨front, inner, hdoc, rfl⟩
    obtain ⟨tail, htail⟩ := exists_isLastLine front
    have htext : (commentAfter front ("/**".toList ++ inner ++ "*/".toList)).text.toList =
        "/**".toList ++ inner ++ "*/".toList := String.toList_ofList
    refine ⟨front, inner, tail, hdoc, htail, htext, rfl, ?_, Nat.add_comm .., ?_⟩
    · rw [htext]
      rfl
    · exact htail.spanAfter_column _
  · rintro ⟨front, inner, tail, hdoc, htail, htext, hoffset, hlength, hline, hcolumn⟩
    obtain ⟨text, line, column, offset, length⟩ := c
    refine ⟨front, inner, hdoc, ?_⟩
    dsimp only at htext hoffset hlength hline hcolumn
    rw [← htail.spanAfter_column length] at hcolumn
    rw [Nat.add_comm] at hline
    rw [htext] at hlength
    subst hoffset hlength hline hcolumn
    rw [commentAfter, ← htext, String.ofList_toList]
    rfl

/-- Between two comments without a gap, the end of the first is not taken for the start of the
second. -/
example : trailingDoc? "/** a *//**/ ".toList = none ∧
    trailingDoc? "/** a *//***/ ".toList =
      some ⟨"/***/", { line := 1, column := 9, offset := 8, length := 5 }⟩ := by decide +kernel

end DocLint.Kotlin

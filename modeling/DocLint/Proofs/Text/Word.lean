import DocLint.Proofs.Text.Cut
import Mathlib.Data.List.Infix

/-!
# Words in a text: what a search for them finds

`cutAt` walks through a text until a word stands in front of it, `cutAtLast` does so from the
end, `dropRepeated` takes a word off the front again and again, and `erase` takes it out wherever it
stands. The lemmas here say what the walks find in terms of the occurrences of the word (`<:+:`)
alone.

A cut at the first occurrence leaves a text in front in which the word does not occur. The
converse needs more, since an occurrence can start in front of the cut and end behind it: `aba`
does not occur in `ab`, and yet `ab ++ aba` is cut in front of its first character. This is
impossible for a word that does not overlap with itself (`Unbordered`), and all the markers that
texts are cut at are of this kind.
-/

namespace DocLint.Text

variable {word s t before after : List Char}

theorem after?_eq_none_iff : after? word s = none ↔ ¬ word <+: s := by
  rw [Option.eq_none_iff_forall_ne_some]
  constructor
  · rintro h ⟨rest, hrest⟩
    exact h rest (after?_eq_some_iff.2 hrest.symm)
  · intro h rest hrest
    exact h ⟨rest, (after?_eq_some_iff.1 hrest).symm⟩

/-! ### Whether a word occurs -/

theorem cutAt_eq_none_iff : cutAt word s = none ↔ ¬ word <:+: s := by
  induction s with
  | nil => simp [cutAt]
  | cons c s ih =>
      rw [cutAt, List.infix_cons_iff, not_or, ← after?_eq_none_iff, ← ih]
      cases after? word (c :: s) with
      | none => simp
      | some rest => simp

theorem holds_eq_false_iff : holds word s = false ↔ ¬ word <:+: s := by
  rw [holds, Option.isSome_eq_false_iff, Option.isNone_iff_eq_none, cutAt_eq_none_iff]

/-- A character outside of a word separates its occurrences. -/
theorem infix_append_cons_iff {c : Char} (hc : c ∉ word) :
    word <:+: s ++ c :: t ↔ word <:+: s ∨ word <:+: t := by
  constructor
  · intro h
    rcases List.infix_append_iff.1 h with hs | hcons | ⟨front, back, rfl, hfront, hback⟩
    · exact Or.inl hs
    · rcases List.infix_cons_iff.1 hcons with hprefix | ht
      · rcases List.prefix_cons_iff.1 hprefix with rfl | ⟨rest, rfl, -⟩
        · exact Or.inl List.nil_infix
        · exact absurd (List.mem_cons_self ..) hc
      · exact Or.inr ht
    · rcases List.prefix_cons_iff.1 hback with rfl | ⟨rest, rfl, -⟩
      · exact Or.inl (by simpa using hfront.isInfix)
      · exact absurd (by simp) hc
  · rintro (h | h)
    · exact h.trans (List.prefix_append ..).isInfix
    · exact h.trans ((List.suffix_cons ..).trans (List.suffix_append ..)).isInfix

/-- An occurrence starts behind a text without the first character of the word. -/
theorem infix_of_infix_append {w : Char} {ws : List Char} (hw : w ∉ s)
    (h : w :: ws <:+: s ++ t) : w :: ws <:+: t := by
  induction s with
  | nil => exact h
  | cons c s ih =>
      rw [List.mem_cons, not_or] at hw
      rcases List.infix_cons_iff.1 h with hprefix | hinfix
      · exact absurd (List.cons_prefix_cons.1 hprefix).1 hw.1
      · exact ih hw.2 hinfix

/-! ### Where a word occurs first and last -/

/-- The word is not empty, and no proper part at its end is also at its front. -/
def Unbordered (word : List Char) : Prop :=
  word ≠ [] ∧ ∀ n < word.length, 0 < n → ¬ word.drop n <+: word

instance (word : List Char) : Decidable (Unbordered word) := inferInstanceAs (Decidable (_ ∧ _))

/-- An occurrence that starts before another one also ends before it. -/
theorem Unbordered.not_prefix_append (hword : Unbordered word) {front : List Char}
    (hne : front ≠ []) (hfront : ¬ word <+: front) (back : List Char) :
    ¬ word <+: front ++ (word ++ back) := by
  rintro ⟨tail, htail⟩
  rcases List.append_eq_append_iff.1 htail with ⟨more, hmore, -⟩ | ⟨overlap, hoverlap, hback⟩
  · exact hfront ⟨more, hmore.symm⟩
  -- Otherwise a part of the word is in front, and the rest of it starts the next occurrence.
  · have hborder : overlap <+: word :=
      List.prefix_of_prefix_length_le ⟨tail, hback.symm⟩ (List.prefix_append word back)
        (by simp [hoverlap])
    have hdrop : word.drop front.length = overlap := by rw [hoverlap, List.drop_left]
    by_cases hnil : overlap = []
    · exact hfront ⟨[], by simp [hoverlap, hnil]⟩
    · have hlength : word.length = front.length + overlap.length := by
        rw [hoverlap, List.length_append]
      have hpos := List.length_pos_iff.2 hnil
      exact hword.2 front.length (by omega) (List.length_pos_iff.2 hne) (hdrop ▸ hborder)

/-- A text is cut at the first occurrence of the word. -/
theorem cutAt_eq_some_iff (hword : Unbordered word) :
    cutAt word s = some (before, after) ↔ s = before ++ word ++ after ∧ ¬ word <:+: before := by
  induction s generalizing before with
  | nil =>
      simp only [cutAt, hword.1, if_false]
      refine iff_of_false (by simp) ?_
      rintro ⟨h, -⟩
      exact hword.1 (List.append_eq_nil_iff.1 (List.append_eq_nil_iff.1 h.symm).1).2
  | cons c s ih =>
      rw [cutAt]
      cases hafter : after? word (c :: s) with
      | some rest =>
          rw [after?_eq_some_iff] at hafter
          simp only [Option.some.injEq, Prod.mk.injEq]
          constructor
          · rintro ⟨rfl, rfl⟩
            exact ⟨hafter, fun h => hword.1 (List.infix_nil.1 h)⟩
          · rintro ⟨h, hbefore⟩
            by_cases hnil : before = []
            · subst hnil
              exact ⟨rfl, List.append_cancel_left (hafter.symm.trans h)⟩
            · rw [h, List.append_assoc] at hafter
              exact absurd ⟨rest, hafter.symm⟩
                (hword.not_prefix_append hnil (fun hp => hbefore hp.isInfix) after)
      | none =>
          rw [after?_eq_none_iff] at hafter
          simp only [Option.map_eq_some_iff, Prod.exists, Prod.mk.injEq]
          constructor
          · rintro ⟨front, back, hcut, rfl, rfl⟩
            obtain ⟨rfl, hfront⟩ := ih.1 hcut
            refine ⟨rfl, ?_⟩
            rw [List.infix_cons_iff]
            rintro (hp | hinfix)
            · exact hafter (hp.trans ⟨word ++ back, by simp⟩)
            · exact hfront hinfix
          · rintro ⟨h, hbefore⟩
            cases before with
            | nil => exact absurd ⟨after, h.symm⟩ hafter
            | cons d front =>
                obtain ⟨rfl, hs⟩ := List.cons.inj h
                rw [List.infix_cons_iff, not_or] at hbefore
                exact ⟨front, after, ih.2 ⟨hs, hbefore.2⟩, rfl, rfl⟩

/-- A text is cut at the last occurrence of the word. -/
theorem cutAtLast_eq_some_iff (hword : Unbordered word.reverse) :
    cutAtLast word s = some (before, after) ↔ s = before ++ word ++ after ∧ ¬ word <:+: after := by
  rw [cutAtLast, Option.map_eq_some_iff]
  constructor
  · rintro ⟨⟨back, front⟩, hcut, heq⟩
    obtain ⟨rfl, rfl⟩ := Prod.mk.inj heq
    obtain ⟨hs, hback⟩ := (cutAt_eq_some_iff hword).1 hcut
    refine ⟨by simpa using congrArg List.reverse hs, ?_⟩
    rwa [← List.reverse_infix, List.reverse_reverse]
  · rintro ⟨rfl, hafter⟩
    refine ⟨(after.reverse, before.reverse), (cutAt_eq_some_iff hword).2 ⟨by simp, ?_⟩, by simp⟩
    rwa [List.reverse_infix]

/-- The first occurrence of a character. -/
theorem cutAt_singleton {c : Char} (hc : c ∉ s) (t : List Char) :
    cutAt [c] (s ++ c :: t) = some (s, t) := by
  refine (cutAt_eq_some_iff ⟨by simp, ?_⟩).2 ⟨by simp, ?_⟩
  · intro n hn hpos
    rw [List.length_singleton] at hn
    omega
  · rwa [List.singleton_infix_iff]

/-! ### Words dropped from the front -/

/-- `rest` is left of the text if the word is dropped as often as it stands in front. -/
def LeftBehind (word s rest : List Char) : Prop :=
  (∃ n, s = (List.replicate n word).flatten ++ rest) ∧ ¬ word <+: rest

theorem dropRepeated_append (word s : List Char) :
    dropRepeated word (word ++ s) = dropRepeated word s := by
  by_cases hword : word = []
  · rw [hword, List.nil_append]
  · rw [dropRepeated, if_neg hword]
    split
    · rename_i hnone
      exact absurd (List.prefix_append word s) (after?_eq_none_iff.1 hnone)
    · rename_i rest hsome
      rw [after?_append, Option.some.injEq] at hsome
      rw [hsome]

theorem dropRepeated_of_not_prefix (h : ¬ word <+: s) : dropRepeated word s = s := by
  rw [dropRepeated]
  split
  · rfl
  · split
    · rfl
    · rename_i rest hsome
      exact absurd ⟨rest, (after?_eq_some_iff.1 hsome).symm⟩ h

theorem leftBehind_dropRepeated (hword : word ≠ []) (s : List Char) :
    LeftBehind word s (dropRepeated word s) := by
  fun_induction dropRepeated word s with
  | case1 s hnil => exact absurd hnil hword
  | case2 s _ hnone => exact ⟨⟨0, rfl⟩, after?_eq_none_iff.1 hnone⟩
  | case3 s _ rest hsome ih =>
      obtain ⟨⟨n, hn⟩, hrest⟩ := ih
      refine ⟨⟨n + 1, ?_⟩, hrest⟩
      rw [after?_eq_some_iff.1 hsome, List.replicate_succ, List.flatten_cons, List.append_assoc,
        ← hn]

theorem dropRepeated_eq_self_iff (hword : word ≠ []) :
    dropRepeated word s = s ↔ ¬ word <+: s := by
  refine ⟨fun h => ?_, dropRepeated_of_not_prefix⟩
  rw [← h]
  exact (leftBehind_dropRepeated hword s).2

theorem dropRepeated_suffix (word s : List Char) : dropRepeated word s <:+ s := by
  by_cases hword : word = []
  · rw [dropRepeated, if_pos hword]
  · obtain ⟨⟨n, hn⟩, -⟩ := leftBehind_dropRepeated hword s
    exact ⟨_, hn.symm⟩

/-! ### Words taken out -/

theorem erase_of_not_infix (h : ¬ word <:+: s) : erase word s = s := by
  rw [erase]
  split
  · rfl
  · split
    · rfl
    · rename_i before after hcut
      rw [cutAt_eq_none_iff.2 h] at hcut
      cases hcut

theorem erase_of_cutAt (hword : word ≠ [])
    (h : cutAt word s = some (before, after)) : erase word s = before ++ erase word after := by
  rw [erase, if_neg hword]
  split
  · rename_i hcut
    rw [h] at hcut
    cases hcut
  · rename_i hcut
    rw [h] at hcut
    cases hcut
    rfl

end DocLint.Text

import DocLint.Proofs.Path.Joined
import DocLint.Proofs.Report
import Mathlib.Tactic.MkIffOfInductiveProp

/-!
# The order of a report

Which of two violations comes first is said here without a comparison function. Components have
an order of their own (`Component.Before`), a path comes first by the first component in which it
differs from the other, and a violation by its file, its line and its column.

Different texts can name one path, as `a//b`, `a/./b` and `a/b/` do (`Respelled`). Sorting treats
them as one: violations at one place stay in the order in which they were reported, however
their files are written.
-/

namespace DocLint

open Text

namespace Path

/-! ### Paths in order -/

/-- The order of components: the root, a leading dot, `..`, and then the names in the order of
their characters. -/
@[mk_iff]
inductive Component.Before : Component → Component → Prop
  | root {b : Component} : b ≠ .root → Before .root b
  | here {b : Component} : b ≠ .root → b ≠ .here → Before .here b
  | up (t : List Char) : Before .up (.name t)
  | name {s t : List Char} : s < t → Before (.name s) (.name t)

/-- The path `p` comes before `q`: it ends earlier, or is smaller where they first differ. -/
def Before (p q : String) : Prop := List.Lex Component.Before (components p) (components q)

theorem compareText_eq_lt_iff (s t : List Char) : compareText s t = .lt ↔ s < t := by
  induction s, t using compareText.induct with
  | case1 => simp [compareText]
  | case2 => simp [compareText]
  | case3 => simp [compareText]
  | case4 a s b t ih =>
      rw [compareText, Ordering.then_eq_lt, ih, List.cons_lt_cons_iff, Nat.compare_eq_lt,
        Nat.compare_eq_eq, Char.toNat_inj]
      exact Iff.rfl

theorem Component.compare_eq_lt_iff {a b : Component} : a.compare b = .lt ↔ a.Before b := by
  cases a with
  | root => cases b <;> simp [compare, before_iff, rank, Nat.compare_eq_lt]
  | here => cases b <;> simp [compare, before_iff, rank, Nat.compare_eq_lt]
  | up => cases b <;> simp [compare, before_iff, rank, Nat.compare_eq_lt]
  | name s =>
      cases b with
      | name t => simp [compare, before_iff, compareText_eq_lt_iff]
      | root => simp [compare, before_iff, rank, Nat.compare_eq_lt]
      | here => simp [compare, before_iff, rank, Nat.compare_eq_lt]
      | up => simp [compare, before_iff, rank, Nat.compare_eq_lt]

theorem Component.compare_eq_eq_iff {a b : Component} : a.compare b = .eq ↔ a = b := by
  rw [compare_eq_compare_key, Std.compare_eq_iff_eq, key_injective.eq_iff]

theorem compareComponents_eq_lt_iff (as bs : List Component) :
    compareComponents as bs = .lt ↔ List.Lex Component.Before as bs := by
  induction as, bs using compareComponents.induct with
  | case1 => simp [compareComponents]
  | case2 b bs => simp [compareComponents]
  | case3 => simp [compareComponents]
  | case4 a as b bs ih =>
      rw [compareComponents, Ordering.then_eq_lt, ih, Component.compare_eq_lt_iff,
        Component.compare_eq_eq_iff, List.cons_lex_cons_iff]

theorem compare_eq_lt_iff {p q : String} : compare p q = .lt ↔ Before p q :=
  compareComponents_eq_lt_iff (components p) (components q)

/-! ### One path in different texts -/

/-- The text on the left is that on the right with one more piece, which stands for no step. -/
inductive Respelled : String → String → Prop
  | inside {piece : String} (front back : String) : isIdle piece.toList = true →
      Respelled (front ++ "/" ++ piece ++ "/" ++ back) (front ++ "/" ++ back)
  | behind {piece front : String} : isIdle piece.toList = true → front ≠ "" →
      Respelled (front ++ "/" ++ piece) front

theorem not_mem_of_isIdle {piece : List Char} (h : isIdle piece = true) : '/' ∉ piece := by
  obtain rfl | rfl : piece = [] ∨ piece = ['.'] := by simpa [isIdle] using h
  · simp
  · simp

theorem Parts.components_insert (p : Parts) {piece : List Char}
    (h : p.absolute = true ∨ p.pieces ≠ []) (hidle : isIdle piece = true)
    (more : List (List Char)) :
    Parts.components ⟨p.absolute, p.pieces ++ piece :: more⟩ =
      Parts.components ⟨p.absolute, p.pieces ++ more⟩ := by
  obtain ⟨absolute, pieces⟩ := p
  cases absolute with
  | true => simp [components, front, hidle]
  | false =>
      obtain ⟨first, rest, rfl⟩ := List.exists_cons_of_ne_nil (h.resolve_left Bool.false_ne_true)
      by_cases hdot : first = ['.']
      · simp [components, front, startsHere, hdot, hidle]
      · simp [components, front, startsHere, hdot, hidle, List.filter_cons]

theorem Respelled.components_eq {p q : String} (h : Respelled p q) :
    components p = components q := by
  cases h with
  | @inside piece front back hidle =>
      have hsplit := splitAt_append_cons (not_mem_of_isIdle hidle) back.toList
      by_cases hfront : front = ""
      · have hinsert := Parts.components_insert ⟨true, []⟩ (Or.inl rfl) hidle
        simpa [hfront, components, Parts.ofText, hsplit] using hinsert _
      · have hne : front.toList ≠ [] := mt String.toList_eq_nil_iff.1 hfront
        have hinsert := Parts.components_insert (Parts.ofText front.toList)
          (Or.inr (pieces_ofText_ne_nil front.toList)) hidle
        simpa [components, ofText_append_sep hne, hsplit] using hinsert _
  | @behind piece _ hidle hq =>
      have hne : q.toList ≠ [] := mt String.toList_eq_nil_iff.1 hq
      have hsplit := splitAt_of_not_mem (not_mem_of_isIdle hidle)
      have hinsert := Parts.components_insert (Parts.ofText q.toList)
        (Or.inr (pieces_ofText_ne_nil q.toList)) hidle
      simpa [components, ofText_append_sep hne, hsplit] using hinsert []

example : components "a//b" = components "a/./b" ∧ components "a/b/" = components "a/b" := by
  decide

end Path

/-! ### Violations in order -/

/-- What a violation is ordered by: the components of its file, its line and its column. -/
def Violation.place (v : Violation) : List Path.Component × Nat × Nat :=
  (Path.components v.location.file, v.location.span.line, v.location.span.column)

/-- The violation `v` is in an earlier file than `w`, or in the same file on an earlier line, or on
the same line in an earlier column. -/
def Violation.Before (v w : Violation) : Prop :=
  Prod.Lex (List.Lex Path.Component.Before) (Prod.Lex (· < ·) (· < ·)) v.place w.place

theorem Violation.compare_eq_lt_iff {v w : Violation} : v.compare w = .lt ↔ v.Before w := by
  simp only [compare, Before, place, Ordering.then_eq_lt, Path.compare_eq_lt_iff,
    Path.compare_eq_eq_iff, Nat.compare_eq_lt, Nat.compare_eq_eq, Prod.lex_def, Path.Before]

theorem Violation.compare_eq_eq_iff {v w : Violation} : v.compare w = .eq ↔ v.place = w.place := by
  simp only [compare, place, Ordering.then_eq_eq, Path.compare_eq_eq_iff, Nat.compare_eq_eq,
    Prod.mk.injEq]

theorem Violation.before_or_place_eq {v w : Violation} (h : v.compare w ≠ .gt) :
    v.Before w ∨ v.place = w.place := by
  cases hcompare : v.compare w with
  | lt => exact Or.inl (compare_eq_lt_iff.1 hcompare)
  | eq => exact Or.inr (compare_eq_eq_iff.1 hcompare)
  | gt => exact absurd hcompare h

namespace Report

variable (report : Report)

theorem sorted_sorted : report.sorted.sorted = report.sorted := by
  have hordered : report.sorted.violations.Pairwise fun v w => Violation.le v w = true :=
    report.stableSort_sorted.ordered.imp bne_iff_ne.2
  rw [sorted, List.mergeSort_of_pairwise hordered]

/-- Sorting a report only moves violations, puts them in the order of their places and leaves those
at one place in the order in which they were reported; sorting it once more changes nothing. The
order of paths on which this rests is total and transitive, and paths tie exactly if they have
the same components, as different spellings of a path do. -/
theorem sorted_by_place :
    report.sorted.violations.Perm report.violations ∧
      report.sorted.filesChecked = report.filesChecked ∧
      report.sorted.violations.Pairwise (fun v w => v.Before w ∨ v.place = w.place) ∧
      (∀ v : Violation, report.sorted.violations.filter (·.place = v.place) =
        report.violations.filter (·.place = v.place)) ∧
      report.sorted.sorted = report.sorted ∧
      (∀ p q, Path.compare p q = .lt ↔ Path.Before p q) ∧
      (∀ p q, Path.compare p q = .eq ↔ Path.components p = Path.components q) ∧
      (∀ p q, Path.Respelled p q → Path.compare p q = .eq) ∧
      (∀ p, Path.compare p p ≠ .gt) ∧
      (∀ p q r, Path.compare p q ≠ .gt → Path.compare q r ≠ .gt → Path.compare p r ≠ .gt) ∧
      ∀ p q, Path.compare p q ≠ .gt ∨ Path.compare q p ≠ .gt := by
  have hsort := report.stableSort_sorted
  refine ⟨hsort.perm, rfl, hsort.ordered.imp Violation.before_or_place_eq, fun v => ?_,
    report.sorted_sorted, fun p q => Path.compare_eq_lt_iff, fun p q => Path.compare_eq_eq_iff,
    fun p q h => Path.compare_eq_eq_iff.2 h.components_eq, fun p => ?_, fun p q r hpq hqr => ?_,
    fun p q => ?_⟩
  · simpa only [Violation.compare_eq_eq_iff] using hsort.stable v
  · rw [Path.compare_eq_eq_iff.2 rfl]
    decide
  · exact bne_iff_ne.1 (ne_gt_trans p q r (bne_iff_ne.2 hpq) (bne_iff_ne.2 hqr))
  · simpa using @ne_gt_total _ Path.compare _ p q

end Report

end DocLint

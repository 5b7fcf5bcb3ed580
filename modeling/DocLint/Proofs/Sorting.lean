import Mathlib.Data.List.Basic
import Mathlib.Data.List.Perm.Basic

/-!
# Sorting by a comparison

Files are sorted by their paths and violations by their places, both with a comparison under
which different values can tie. `StableSort` says what sorting does then, without an algorithm:
nothing is lost, the comparison never decreases, and values that tie keep their order.

Where no two values tie, the sorted list is strictly increasing (`increasing_mergeSort`) and
depends on nothing but its elements (`eq_of_perm_of_increasing`).
-/

namespace DocLint

variable {α : Type} {cmp : α → α → Ordering} {xs ys : List α}

/-- Each element comes before all those behind it. -/
def Increasing (cmp : α → α → Ordering) (xs : List α) : Prop :=
  xs.Pairwise fun a b => cmp a b = .lt

/-- The list `ys` is `xs` in the order of `cmp`, and elements that tie keep their order. -/
structure StableSort (cmp : α → α → Ordering) (xs ys : List α) : Prop where
  perm : ys.Perm xs
  ordered : ys.Pairwise fun a b => cmp a b ≠ .gt
  stable : ∀ a, ys.filter (cmp · a = .eq) = xs.filter (cmp · a = .eq)

section

variable [Std.TransCmp cmp]

theorem bne_gt_eq_isLE (o : Ordering) : (o != .gt) = o.isLE := by
  cases o <;> rfl

theorem ne_gt_trans (a b c : α) (hab : (cmp a b != .gt) = true) (hbc : (cmp b c != .gt) = true) :
    (cmp a c != .gt) = true := by
  rw [bne_gt_eq_isLE] at hab hbc ⊢
  exact Std.TransCmp.isLE_trans hab hbc

theorem ne_gt_total (a b : α) : (cmp a b != .gt || cmp b a != .gt) = true := by
  rw [@Std.OrientedCmp.eq_swap _ cmp _ b a]
  cases cmp a b <;> rfl

theorem stableSort_mergeSort (cmp : α → α → Ordering) [Std.TransCmp cmp] (xs : List α) :
    StableSort cmp xs (xs.mergeSort fun a b => cmp a b != .gt) where
  perm := List.mergeSort_perm _ _
  ordered := by
    refine (List.pairwise_mergeSort ne_gt_trans ne_gt_total xs).imp ?_
    exact bne_iff_ne.1
  stable a := by
    -- Elements that tie with `a` tie with each other, so that sorting leaves them in place.
    have htied : (xs.filter (cmp · a = .eq)).Pairwise fun b c => (cmp b c != .gt) = true := by
      refine List.pairwise_of_forall_mem_list fun b hb c hc => ?_
      have hb : cmp b a = .eq := by simpa using (List.mem_filter.1 hb).2
      have hc : cmp a c = .eq := Std.OrientedCmp.eq_symm (by simpa using (List.mem_filter.1 hc).2)
      rw [Std.TransCmp.eq_trans hb hc]
      rfl
    have hsub := (List.sublist_mergeSort ne_gt_trans ne_gt_total htied List.filter_sublist).filter
      (cmp · a = .eq)
    rw [List.filter_filter] at hsub
    simp only [Bool.and_self] at hsub
    refine (hsub.eq_of_length ?_).symm
    exact ((List.mergeSort_perm xs _).filter _).length_eq.symm

theorem increasing_mergeSort (h : xs.Pairwise fun a b => cmp a b ≠ .eq) :
    Increasing cmp (xs.mergeSort fun a b => cmp a b != .gt) := by
  have hsort := stableSort_mergeSort cmp xs
  have hdistinct := (hsort.perm.pairwise_iff fun hne heq => hne (Std.OrientedCmp.eq_symm heq)).2 h
  refine (hsort.ordered.and hdistinct).imp ?_
  rintro a b ⟨hle, hne⟩
  cases hcmp : cmp a b with
  | lt => rfl
  | eq => exact absurd hcmp hne
  | gt => exact absurd hcmp hle

theorem eq_of_perm_of_increasing (hperm : xs.Perm ys) (hxs : Increasing cmp xs)
    (hys : Increasing cmp ys) : xs = ys := by
  refine List.Perm.eq_of_pairwise ?_ hxs hys hperm
  intro a b _ _ hab hba
  rw [@Std.OrientedCmp.eq_swap _ cmp _ a b, hba] at hab
  exact absurd hab (by decide)

end

end DocLint

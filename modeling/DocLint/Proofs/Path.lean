import DocLint.Path
import DocLint.Proofs.Text.Cut

/-!
# The order of paths

Paths are compared component by component, and components by their kind and then by their name.
Written as lists of numbers (`sortKey`), paths are in the order of these lists, the first
difference deciding. So the comparison is total and transitive, and two paths tie exactly if they
have the same components, however they are spelled (`compare_eq_eq_iff`).
-/

namespace DocLint.Path

open Text

/-- The code points of a name; other components have none. -/
def Component.codes : Component → List Nat
  | name text => text.map Char.toNat
  | _ => []

/-- The numbers by which components are compared. -/
def Component.key (c : Component) : List Nat := c.rank :: c.codes

theorem Component.compare_eq_compare_key (a b : Component) :
    a.compare b = Ord.compare a.key b.key := by
  rw [List.compare_eq_compareLex, key, key, List.compareLex_cons_cons,
    ← List.compare_eq_compareLex]
  cases a with
  | name s =>
      cases b with
      | name t => exact compareText_eq_compare s t
      | root => rfl
      | here => rfl
      | up => rfl
  | root => cases b <;> rfl
  | here => cases b <;> rfl
  | up => cases b <;> rfl

theorem Component.key_injective : Function.Injective Component.key := by
  intro a b h
  obtain ⟨hrank, hcodes⟩ := List.cons.inj h
  cases a with
  | name s =>
      cases b with
      | name t =>
          have heq : s = t := Function.Injective.list_map (fun _ _ => Char.toNat_inj.1) hcodes
          rw [heq]
      | root => cases hrank
      | here => cases hrank
      | up => cases hrank
  | root => cases b <;> first | rfl | cases hrank
  | here => cases b <;> first | rfl | cases hrank
  | up => cases b <;> first | rfl | cases hrank

theorem compareComponents_eq_compare_keys (as bs : List Component) :
    compareComponents as bs = Ord.compare (as.map Component.key) (bs.map Component.key) := by
  induction as, bs using compareComponents.induct with
  | case1 => rfl
  | case2 => rfl
  | case3 => rfl
  | case4 a as b bs ih =>
      rw [compareComponents, ih, Component.compare_eq_compare_key, List.map_cons, List.map_cons]
      simp only [List.compare_eq_compareLex, List.compareLex_cons_cons]

/-- The numbers by which paths are compared. -/
def sortKey (path : String) : List (List Nat) := (components path).map Component.key

theorem compare_eq_compareOn : compare = compareOn sortKey := by
  funext p q
  exact compareComponents_eq_compare_keys (components p) (components q)

instance : Std.TransCmp compare := by
  rw [compare_eq_compareOn]
  infer_instance

/-- Paths tie exactly if they have the same components. -/
theorem compare_eq_eq_iff {p q : String} : compare p q = .eq ↔ components p = components q := by
  rw [compare_eq_compareOn, compareOn, Std.compare_eq_iff_eq, sortKey, sortKey]
  exact (Function.Injective.list_map Component.key_injective).eq_iff

end DocLint.Path

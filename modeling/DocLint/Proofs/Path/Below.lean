import DocLint.Path
import DocLint.Proofs.Text.Lines
import Mathlib.Data.List.DropRight

/-!
# Paths below a directory

A path is below a directory if its components start with those of the directory. What is left is
kept as text (`relativeTo?`), with the separators and dots at the cut dropped. This module shows
that the text left over is read again as the components that were left over
(`components_relativeTo?`): the cut makes no new root and no leading dot, and idle pieces inside
make no difference.
-/

namespace DocLint.Path

open Text

/-- The components of a path behind those of a directory. -/
def below (base path : String) : List Component :=
  (components path).drop (components base).length

/-! ### Idle pieces -/

theorem filter_dropWhile_not {α : Type} (p : α → Bool) (xs : List α) :
    (xs.dropWhile p).filter (!p ·) = xs.filter (!p ·) := by
  induction xs with
  | nil => rfl
  | cons x xs ih =>
      cases hx : p x with
      | true => simp [hx, ih]
      | false => simp [hx]

theorem filter_dropIdleEnd (pieces : List (List Char)) :
    (dropIdleEnd pieces).filter (!isIdle ·) = pieces.filter (!isIdle ·) := by
  rw [dropIdleEnd, List.filter_reverse, filter_dropWhile_not, List.filter_reverse,
    List.reverse_reverse]

theorem filter_dropIdle (pieces : List (List Char)) :
    (dropIdleEnd (dropIdleStart pieces)).filter (!isIdle ·) = pieces.filter (!isIdle ·) := by
  rw [filter_dropIdleEnd, dropIdleStart, filter_dropWhile_not]

theorem filter_dropSteps (n : Nat) (pieces : List (List Char)) :
    (dropSteps n pieces).filter (!isIdle ·) = (pieces.filter (!isIdle ·)).drop n := by
  fun_induction dropSteps n pieces with
  | case1 pieces => rfl
  | case2 n => rfl
  | case3 n piece more hidle ih => simp [hidle, ih]
  | case4 n piece more hidle ih => simp [hidle, ih]

theorem suffix_dropSteps (n : Nat) (pieces : List (List Char)) : dropSteps n pieces <:+ pieces := by
  fun_induction dropSteps n pieces with
  | case1 pieces => exact List.suffix_refl _
  | case2 n => exact List.suffix_refl _
  | case3 n piece more hidle ih => exact ih.trans (List.suffix_cons ..)
  | case4 n piece more hidle ih => exact ih.trans (List.suffix_cons ..)

theorem prefix_dropIdleEnd (pieces : List (List Char)) : dropIdleEnd pieces <+: pieces :=
  List.rdropWhile_prefix isIdle pieces

theorem dropIdle_subset (pieces : List (List Char)) :
    dropIdleEnd (dropIdleStart pieces) ⊆ pieces :=
  List.Subset.trans (prefix_dropIdleEnd _).subset (List.dropWhile_suffix isIdle).subset

theorem isIdle_of_mem_head?_dropIdle {pieces : List (List Char)} {piece : List Char}
    (h : piece ∈ (dropIdleEnd (dropIdleStart pieces)).head?) : isIdle piece = false := by
  have hhead : (dropIdleStart pieces).head? = some piece := by
    obtain ⟨back, hback⟩ := prefix_dropIdleEnd (dropIdleStart pieces)
    rw [← hback, List.head?_append, Option.mem_def.1 h]
    rfl
  have hstart := List.head?_dropWhile_not isIdle pieces
  rw [dropIdleStart] at hhead
  rw [hhead] at hstart
  simpa using hstart

/-! ### Text and components -/

theorem ofText_of_head?_ne {s : List Char} (h : s.head? ≠ some '/') :
    Parts.ofText s = ⟨false, splitAt '/' s⟩ := by
  refine Parts.ofText.eq_2 s fun rest hrest => h ?_
  rw [hrest]
  rfl

theorem not_mem_of_mem_pieces_ofText {s piece : List Char} (h : piece ∈ (Parts.ofText s).pieces) :
    '/' ∉ piece := by
  unfold Parts.ofText at h
  split at h
  · exact not_mem_of_mem_splitAt h
  · exact not_mem_of_mem_splitAt h

theorem mem_pieces_of_mem_front {p : Parts} {piece : List Char} (h : piece ∈ p.front.2) :
    piece ∈ p.pieces := by
  unfold Parts.front at h
  split at h
  · exact h
  · split at h
    · exact List.mem_of_mem_tail h
    · exact h

theorem length_front_le (p : Parts) : p.front.1.length ≤ 1 := by
  unfold Parts.front
  split
  · simp
  · split <;> simp

theorem components_eq (path : String) : components path =
    (Parts.ofText path.toList).front.1 ++
      ((Parts.ofText path.toList).front.2.filter (!isIdle ·)).map componentOf := rfl

theorem exists_components_of_isAbsolute {path : String} (h : isAbsolute path = true) :
    ∃ more, components path = .root :: more := by
  obtain ⟨rest, hrest⟩ := List.head?_eq_some_iff.1 (of_decide_eq_true h)
  simp [components, hrest, Parts.ofText, Parts.components, Parts.front]

/-- A text whose first piece is a step has no root and no leading dot. -/
theorem components_of_splitAt {path : String} {first : List Char} {more : List (List Char)}
    (h : splitAt '/' path.toList = first :: more) (hfirst : isIdle first = false) :
    components path = componentOf first :: (more.filter (!isIdle ·)).map componentOf := by
  have hhead : path.toList.head? ≠ some '/' := by
    intro hhead
    obtain ⟨rest, hrest⟩ := List.head?_eq_some_iff.1 hhead
    rw [hrest, splitAt, if_pos rfl] at h
    obtain ⟨rfl, -⟩ := List.cons.inj h
    exact absurd hfirst (by decide)
  have hdot : first ≠ ['.'] := by
    rintro rfl
    exact absurd hfirst (by decide)
  simp [components, ofText_of_head?_ne hhead, h, Parts.components, Parts.front, Parts.startsHere,
    hdot, hfirst]

theorem components_join {pieces : List (List Char)} (hsep : ∀ piece ∈ pieces, '/' ∉ piece)
    (hfirst : ∀ piece ∈ pieces.head?, isIdle piece = false) :
    components (String.ofList (join ['/'] pieces)) =
      (pieces.filter (!isIdle ·)).map componentOf := by
  cases pieces with
  | nil => rfl
  | cons first more =>
      have hidle : isIdle first = false := hfirst first rfl
      have hsplit : splitAt '/' (String.ofList (join ['/'] (first :: more))).toList =
          first :: more := by
        rw [String.toList_ofList, splitAt_join (by simp) hsep]
      rw [components_of_splitAt hsplit hidle]
      simp [hidle]

/-- What is left of a path below a directory has the components that are left. -/
theorem components_relativeTo? {base path : String} (hbase : components base ≠ [])
    (h : components base <+: components path) :
    ∃ relative, relativeTo? base path = some relative ∧ components relative = below base path := by
  have hprefix : (components base).isPrefixOf (Parts.ofText path.toList).components = true :=
    List.isPrefixOf_iff_prefix.2 h
  have hrelative : relativeTo? base path = some (String.ofList (join ['/']
      (dropIdleEnd (dropIdleStart (dropSteps
        ((components base).length - (Parts.ofText path.toList).front.1.length)
        (Parts.ofText path.toList).front.2))))) := by
    simp [relativeTo?, hprefix, hbase]
  refine ⟨_, hrelative, ?_⟩
  rw [components_join ?_ fun piece hpiece => isIdle_of_mem_head?_dropIdle hpiece]
  · -- The root or the leading dot of the path is also the first step of the directory.
    have hfront : (Parts.ofText path.toList).front.1.length ≤ (components base).length :=
      (length_front_le _).trans (List.length_pos_iff.2 hbase)
    rw [filter_dropIdle, filter_dropSteps, below, components_eq path, List.drop_append,
      List.drop_eq_nil_of_le hfront, List.nil_append, List.map_drop]
  · intro piece hpiece
    have hmem := (suffix_dropSteps _ _).subset (dropIdle_subset _ hpiece)
    exact not_mem_of_mem_pieces_ofText (mem_pieces_of_mem_front hmem)

end DocLint.Path

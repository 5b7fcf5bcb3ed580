import DocLint.Proofs.Path.Below

/-!
# The ancestors of a path

The ancestors of a path are found by cutting its text, one step after the other. A cut keeps the
text in front of it, so that `a//b/./c` has the ancestors `a//b`, `a` and the empty path. What the
cuts leave means what it should: each ancestor has the components of the path without the last
ones, down to the root or to the empty path (`map_components_ancestors`).

The text of an ancestor is written from parts and read again. That this changes nothing is due to
the form of the parts (`Parts.Spelled`), which every cut keeps.
-/

namespace DocLint.Path

open Text

/-! ### Parts that can be written -/

/-- The parts are those of some text: no piece has a separator in it, and a path that does not start
at the root does not start with a separator either. -/
structure Parts.Spelled (p : Parts) : Prop where
  no_separator : ∀ piece ∈ p.pieces, '/' ∉ piece
  starts : p.absolute = false → ∀ more, p.pieces = [] :: more → more = []

namespace Parts

variable {p : Parts}

theorem Spelled.of_front {pieces : List (List Char)} (h : p.Spelled)
    (hpieces : pieces <+: p.pieces) : Spelled ⟨p.absolute, pieces⟩ where
  no_separator piece hpiece := h.no_separator piece (hpieces.subset hpiece)
  starts habs more hmore := by
    obtain rfl : pieces = [] :: more := hmore
    obtain ⟨back, hback⟩ := hpieces
    exact (List.append_eq_nil_iff.1 (h.starts habs (more ++ back) hback.symm)).1

theorem spelled_ofText (s : List Char) : (ofText s).Spelled where
  no_separator _ := not_mem_of_mem_pieces_ofText
  starts habs more hmore := by
    have hhead : s.head? ≠ some '/' := by
      intro hhead
      obtain ⟨rest, rfl⟩ := List.head?_eq_some_iff.1 hhead
      simp [ofText] at habs
    rw [ofText_of_head?_ne hhead] at hmore
    cases s with
    | nil => exact (List.cons.inj hmore).2.symm
    | cons c s =>
        have hc : c ≠ '/' := by simpa using hhead
        obtain ⟨first, back, hsplit⟩ := List.exists_cons_of_ne_nil (splitAt_ne_nil '/' s)
        simp [splitAt, hc, hsplit] at hmore

/-- The text of parts is read as these parts, but that no piece at all is read as an empty one. -/
theorem Spelled.ofText_text (h : p.Spelled) :
    ofText p.text = ⟨p.absolute, if p.pieces = [] then [[]] else p.pieces⟩ := by
  obtain ⟨absolute, pieces⟩ := p
  have hsplit : splitAt '/' (join ['/'] pieces) = if pieces = [] then [[]] else pieces := by
    split
    · rename_i hnil
      rw [hnil]
      rfl
    · rename_i hne
      exact splitAt_join hne h.no_separator
  cases absolute with
  | true => simp [text, ofText, hsplit]
  | false =>
      have hhead : (join ['/'] pieces).head? ≠ some '/' := by
        intro hhead
        cases pieces with
        | nil => simp [join] at hhead
        | cons first more =>
            obtain ⟨back, hback⟩ := prefix_join ['/'] first more
            cases first with
            | nil =>
                obtain rfl := h.starts rfl more rfl
                simp [join] at hhead
            | cons c first =>
                rw [← hback] at hhead
                obtain rfl : c = '/' := by simpa using hhead
                exact h.no_separator _ (List.mem_cons_self ..) (List.mem_cons_self ..)
      simp [text, ofText_of_head?_ne hhead, hsplit]

theorem Spelled.components_text (h : p.Spelled) :
    Path.components (String.ofList p.text) = p.components := by
  rw [Path.components, String.toList_ofList, h.ofText_text]
  obtain ⟨absolute, pieces⟩ := p
  split
  · rename_i hnil
    obtain rfl : pieces = [] := hnil
    cases absolute <;> rfl
  · rfl

theorem isAbsolute_iff_ofText {path : String} :
    isAbsolute path = (ofText path.toList).absolute := by
  unfold ofText
  split
  · rename_i hpath
    simp [isAbsolute, hpath]
  · rename_i hnot
    have hhead : path.toList.head? ≠ some '/' := by
      intro hhead
      obtain ⟨rest, hrest⟩ := List.head?_eq_some_iff.1 hhead
      exact hnot rest hrest
    simp [isAbsolute, hhead]

theorem Spelled.isAbsolute_text (h : p.Spelled) :
    isAbsolute (String.ofList p.text) = p.absolute := by
  rw [isAbsolute_iff_ofText, String.toList_ofList, h.ofText_text]

/-! ### Cutting off the last step -/

theorem components_eq_of_absolute (h : p.absolute = true) :
    p.components = .root :: (p.pieces.filter (!isIdle ·)).map componentOf := by
  simp [components, front, h]

theorem components_concat {absolute : Bool} {init : List (List Char)} {last : List Char}
    (hlast : isIdle last = false) :
    components ⟨absolute, init ++ [last]⟩ = components ⟨absolute, init⟩ ++ [componentOf last] := by
  have hdot : last ≠ ['.'] := by
    rintro rfl
    exact absurd hlast (by decide)
  cases absolute with
  | true => simp [components, front, hlast]
  | false =>
      cases init with
      | nil => simp [components, front, startsHere, hdot, hlast]
      | cons first init =>
          by_cases hfirst : first = ['.']
          · simp [components, front, startsHere, hfirst, hlast]
          · cases hidle : isIdle first <;>
              simp [components, front, startsHere, hfirst, hidle, hlast]

theorem dropIdleEnd_cases (pieces : List (List Char)) : dropIdleEnd pieces = [] ∨
    ∃ init last, dropIdleEnd pieces = init ++ [last] ∧ isIdle last = false := by
  rcases List.eq_nil_or_concat' (dropIdleEnd pieces) with hnil | ⟨init, last, hconcat⟩
  · exact Or.inl hnil
  · have hconcat' : List.rdropWhile isIdle pieces = init ++ [last] := hconcat
    have hlast := List.rdropWhile_last_not isIdle pieces (by simp [hconcat'])
    exact Or.inr ⟨init, last, hconcat, by simpa [hconcat'] using hlast⟩

/-- What is left when idle pieces at the end are dropped: nothing, a leading dot alone, or pieces of
which the last one is a step. -/
theorem trimmed_cases (p : Parts) :
    ∃ pieces, p.trimmed = ⟨p.absolute, pieces⟩ ∧ pieces <+: p.pieces ∧
      p.components = components ⟨p.absolute, pieces⟩ ∧
      (pieces = [] ∨ (p.absolute = false ∧ pieces = [['.']]) ∨
        ∃ init last, pieces = init ++ [last] ∧ isIdle last = false) := by
  obtain ⟨absolute, pieces⟩ := p
  by_cases hhere : startsHere ⟨absolute, pieces⟩ = true
  · obtain ⟨rfl, more, rfl⟩ : absolute = false ∧ ∃ more, pieces = ['.'] :: more := by
      simpa [startsHere, List.head?_eq_some_iff] using hhere
    refine ⟨['.'] :: dropIdleEnd more, by simp [trimmed, hhere], ?_, ?_, ?_⟩
    · simpa using prefix_dropIdleEnd more
    · simp [components, front, startsHere, filter_dropIdleEnd]
    · rcases dropIdleEnd_cases more with hnil | ⟨init, last, hmore, hlast⟩
      · exact Or.inr (Or.inl ⟨rfl, by rw [hnil]⟩)
      · exact Or.inr (Or.inr ⟨['.'] :: init, last, by rw [hmore]; rfl, hlast⟩)
  · refine ⟨dropIdleEnd pieces, by simp [trimmed, hhere], prefix_dropIdleEnd pieces, ?_, ?_⟩
    · have hthere : startsHere ⟨absolute, dropIdleEnd pieces⟩ = false := by
        obtain ⟨back, hback⟩ := prefix_dropIdleEnd pieces
        rw [← hback] at hhere
        cases hdrop : dropIdleEnd pieces with
        | nil => simp [startsHere]
        | cons first more => simpa [startsHere, hdrop] using hhere
      cases absolute with
      | true => simp [components, front, filter_dropIdleEnd]
      | false => simp [components, front, hhere, hthere, filter_dropIdleEnd]
    · exact (dropIdleEnd_cases pieces).imp id Or.inr

/-- A cut takes off the last component. The root and the empty path have nothing to take off. -/
theorem parent?_cases (p : Parts) :
    (p.parent? = none ∧ p.components = if p.absolute then [.root] else []) ∨
    ∃ q c, p.parent? = some q ∧ q.absolute = p.absolute ∧ q.pieces <+: p.pieces ∧
      p.components = q.components ++ [c] := by
  obtain ⟨pieces, htrimmed, hprefix, hcomponents, hcases⟩ := trimmed_cases p
  unfold parent?
  rw [htrimmed, hcomponents]
  rcases hcases with rfl | ⟨habs, rfl⟩ | ⟨init, last, rfl, hlast⟩
  · refine Or.inl ⟨by simp, ?_⟩
    cases p.absolute <;> rfl
  · refine Or.inr ⟨⟨false, []⟩, .here, ?_, habs.symm, List.nil_prefix, ?_⟩
    · simp [startsHere, habs]
    · rw [habs]
      rfl
  · obtain ⟨front, hfront, hinit, hparent, -⟩ := trimmed_cases ⟨p.absolute, init⟩
    refine Or.inr ⟨⟨p.absolute, front⟩, componentOf last, ?_, rfl, ?_, ?_⟩
    · -- The last piece is a step, so it is no leading dot that stands alone.
      have halone : startsHere ⟨p.absolute, init ++ [last]⟩ = true → init ≠ [] := by
        intro hhere hnil
        have hdot : last = ['.'] := by
          simpa [startsHere, hnil] using (Bool.and_eq_true_iff.1 hhere).2
        rw [hdot] at hlast
        exact absurd hlast (by decide)
      have halone' : ¬ (startsHere ⟨p.absolute, init ++ [last]⟩ = true ∧ init = []) :=
        fun h => halone h.1 h.2
      simp [hfront, halone']
    · exact hinit.trans ((List.prefix_append init [last]).trans hprefix)
    · rw [components_concat hlast, hparent]

/-! ### Cutting off one step after the other -/

/-- The number of ancestors, the path itself included: one for each component, and the empty path
at the end of those that do not start at the root. -/
def height (p : Parts) : Nat := p.components.length + if p.absolute then 0 else 1

theorem height_pos (p : Parts) : 0 < p.height := by
  cases habs : p.absolute with
  | true => simp [height, components, front, habs]
  | false => simp [height, habs]

theorem map_components_ancestors (n : Nat) (p : Parts) (hn : p.height ≤ n + 1) :
    (ancestors n p).map components =
      (List.range p.height).map fun i => p.components.take (p.components.length - i) := by
  induction n generalizing p with
  | zero =>
      have hheight : p.height = 1 := Nat.le_antisymm hn p.height_pos
      simp [ancestors, hheight]
  | succ n ih =>
      rcases parent?_cases p with ⟨hparent, hcomponents⟩ | ⟨q, c, hparent, habs, -, hcomponents⟩
      · cases habs : p.absolute <;> simp [ancestors, hparent, height, hcomponents, habs]
      · have hheight : p.height = q.height + 1 := by
          simp only [height, hcomponents, habs, List.length_append, List.length_singleton]
          omega
        have htake (i : Nat) : p.components.take (p.components.length - (i + 1)) =
            q.components.take (q.components.length - i) := by
          rw [hcomponents, List.length_append, List.length_singleton, Nat.add_sub_add_right,
            List.take_append_of_le_length (Nat.sub_le ..)]
        rw [ancestors, hparent, List.map_cons, ih q (by omega), hheight, List.range_succ_eq_map,
          List.map_cons, List.map_map]
        simp [Function.comp_def, htake]

theorem Spelled.of_mem_ancestors (h : p.Spelled) {n : Nat} {q : Parts} (hq : q ∈ ancestors n p) :
    q.Spelled ∧ q.absolute = p.absolute := by
  induction n generalizing p with
  | zero =>
      obtain rfl : q = p := by simpa [ancestors] using hq
      exact ⟨h, rfl⟩
  | succ n ih =>
      rcases parent?_cases p with ⟨hparent, -⟩ | ⟨r, c, hparent, habs, hprefix, -⟩
      · obtain rfl : q = p := by simpa [ancestors, hparent] using hq
        exact ⟨h, rfl⟩
      · have hr : r.Spelled := by simpa [← habs] using h.of_front hprefix
        rw [ancestors, hparent, List.mem_cons] at hq
        rcases hq with rfl | hq
        · exact ⟨h, rfl⟩
        · exact habs ▸ ih hr hq

theorem ancestors_eq_cons (n : Nat) (p : Parts) : ∃ above, ancestors n p = p :: above := by
  cases n with
  | zero => exact ⟨[], rfl⟩
  | succ n =>
      rw [ancestors]
      cases p.parent? with
      | none => exact ⟨[], rfl⟩
      | some q => exact ⟨_, rfl⟩

theorem length_front (p : Parts) :
    p.front.1.length + p.front.2.length = p.pieces.length + if p.absolute then 1 else 0 := by
  obtain ⟨absolute, pieces⟩ := p
  cases absolute with
  | true => simp [front, Nat.add_comm]
  | false =>
      cases pieces with
      | nil => rfl
      | cons first more =>
          by_cases hfirst : first = ['.'] <;> simp [front, startsHere, hfirst, Nat.add_comm]

-- The bound on the number of cuts is never reached.
theorem height_le (p : Parts) : p.height ≤ p.pieces.length + 1 := by
  have hfilter : (p.front.2.filter (!isIdle ·)).length ≤ p.front.2.length :=
    List.length_filter_le ..
  have hfront := p.length_front
  cases habs : p.absolute <;> simp [height, components, habs] at hfront ⊢ <;> omega

end Parts

/-- The number of ancestors of a path, the path itself included. -/
def height (path : String) : Nat := (Parts.ofText path.toList).height

theorem height_of_isAbsolute {path : String} (h : isAbsolute path = true) :
    height path = (components path).length := by
  rw [Parts.isAbsolute_iff_ofText] at h
  simp [height, Parts.height, h, components]

theorem height_of_not_isAbsolute {path : String} (h : isAbsolute path = false) :
    height path = (components path).length + 1 := by
  rw [Parts.isAbsolute_iff_ofText] at h
  simp [height, Parts.height, h, components]

theorem exists_ancestors (path : String) :
    ∃ above, Parts.ancestors ((Parts.ofText path.toList).pieces.length + 1)
        (Parts.ofText path.toList) = Parts.ofText path.toList :: above ∧
      ancestors path = path :: above.map (String.ofList ·.text) ∧
      ∀ q ∈ above, q.Spelled ∧ q.absolute = isAbsolute path := by
  obtain ⟨above, habove⟩ := Parts.ancestors_eq_cons
    ((Parts.ofText path.toList).pieces.length + 1) (Parts.ofText path.toList)
  refine ⟨above, habove, by simp [ancestors, habove], fun q hq => ?_⟩
  rw [Parts.isAbsolute_iff_ofText]
  exact (Parts.spelled_ofText _).of_mem_ancestors (habove ▸ List.mem_cons_of_mem _ hq)

theorem isAbsolute_of_mem_ancestors {path dir : String} (h : dir ∈ ancestors path) :
    isAbsolute dir = isAbsolute path := by
  obtain ⟨above, -, hancestors, hspelled⟩ := exists_ancestors path
  rw [hancestors, List.mem_cons, List.mem_map] at h
  rcases h with rfl | ⟨q, hq, rfl⟩
  · rfl
  · rw [(hspelled q hq).1.isAbsolute_text, (hspelled q hq).2]

/-- The ancestors of a path have its components without the last ones. -/
theorem map_components_ancestors (path : String) :
    (ancestors path).map components = (List.range (height path)).map fun i =>
      (components path).take ((components path).length - i) := by
  obtain ⟨above, habove, hancestors, hspelled⟩ := exists_ancestors path
  have hparts := Parts.map_components_ancestors _ (Parts.ofText path.toList)
    ((Parts.height_le _).trans (Nat.le_succ _))
  have hread : (above.map (String.ofList ·.text)).map components = above.map Parts.components := by
    rw [List.map_map]
    exact List.map_congr_left fun q hq => (hspelled q hq).1.components_text
  rw [habove] at hparts
  rw [hancestors, List.map_cons, hread]
  exact hparts

/-- A path with a last component has a parent without it. -/
theorem exists_parent? {path : String} {steps : List Component} {last : Component}
    (h : components path = steps ++ [last]) (hlast : last ≠ .root) :
    ∃ dir, parent? path = some dir ∧ components dir = steps ∧ isAbsolute dir = isAbsolute path := by
  rcases Parts.parent?_cases (Parts.ofText path.toList) with
    ⟨-, hnone⟩ | ⟨q, c, hparent, habs, hprefix, hcomponents⟩
  · rw [show (Parts.ofText path.toList).components = steps ++ [last] from h] at hnone
    have hroot : (steps ++ [last]).getLast? = some last := by simp
    rw [hnone] at hroot
    split at hroot
    · exact absurd (Option.some.inj hroot).symm hlast
    · simp at hroot
  · have hq : q.Spelled := by
      simpa [← habs] using (Parts.spelled_ofText path.toList).of_front hprefix
    rw [show (Parts.ofText path.toList).components = steps ++ [last] from h] at hcomponents
    refine ⟨String.ofList q.text, by simp [parent?, hparent], ?_, ?_⟩
    · rw [hq.components_text]
      exact (List.append_inj' hcomponents rfl).1.symm
    · rw [hq.isAbsolute_text, habs, Parts.isAbsolute_iff_ofText]

end DocLint.Path

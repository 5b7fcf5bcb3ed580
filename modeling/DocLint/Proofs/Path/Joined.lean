import DocLint.Proofs.Path.Ancestors

/-!
# Joined paths

A relative path means something from a directory only. Seen from an absolute one, it has the
components of the directory and then its own, but for a dot at its start
(`components_joinTo`). So two spellings of a path that are seen from one directory differ in
nothing but idle pieces.
-/

namespace DocLint.Path

open Text

variable {base dir path name : String}

/-- The steps of a path: its components, but for the root or a leading dot. -/
def steps (path : String) : List Component :=
  ((Parts.ofText path.toList).pieces.filter (!isIdle ·)).map componentOf

theorem components_of_isAbsolute (h : isAbsolute path = true) :
    components path = .root :: steps path :=
  Parts.components_eq_of_absolute (Parts.isAbsolute_iff_ofText ▸ h)

theorem components_of_not_isAbsolute (h : isAbsolute path = false) :
    components path = steps path ∨ components path = .here :: steps path := by
  rw [Parts.isAbsolute_iff_ofText] at h
  unfold components steps
  generalize Parts.ofText path.toList = p at h
  obtain ⟨absolute, pieces⟩ := p
  obtain rfl : absolute = false := h
  by_cases hhere : Parts.startsHere ⟨false, pieces⟩ = true
  · obtain ⟨more, rfl⟩ : ∃ more, pieces = ['.'] :: more := by
      simpa [Parts.startsHere, List.head?_eq_some_iff] using hhere
    exact Or.inr (by simp [Parts.components, Parts.front, Parts.startsHere, isIdle])
  · exact Or.inl (by simp [Parts.components, Parts.front, hhere])

theorem componentOf_injective : Function.Injective componentOf := by
  intro piece other h
  unfold componentOf at h
  split at h <;> split at h <;> simp_all

theorem pieces_ofText_of_not_isAbsolute (h : isAbsolute path = false) :
    (Parts.ofText path.toList).pieces = splitAt '/' path.toList := by
  rw [ofText_of_head?_ne (of_decide_eq_false h)]

theorem pieces_ofText_ne_nil (s : List Char) : (Parts.ofText s).pieces ≠ [] := by
  unfold Parts.ofText
  split
  · exact splitAt_ne_nil _ _
  · exact splitAt_ne_nil _ _

/-! ### Joining -/

/-- The separator that a join puts behind a directory, unless it ends with one. -/
def gap (base : String) : List Char :=
  if base = "" ∨ base.toList.getLast? = some '/' then [] else ['/']

theorem joinTo_of_isAbsolute (h : isAbsolute path = true) : joinTo base path = path := by
  simp [joinTo, h]

theorem toList_joinTo (h : isAbsolute path = false) :
    (joinTo base path).toList = base.toList ++ gap base ++ path.toList := by
  by_cases hgap : base = "" ∨ base.toList.getLast? = some '/'
  · simp [joinTo, h, gap, hgap]
  · simp [joinTo, h, gap, hgap]

theorem isAbsolute_joinTo (h : isAbsolute base = true) : isAbsolute (joinTo base path) = true := by
  cases hpath : isAbsolute path with
  | true => rw [joinTo_of_isAbsolute hpath, hpath]
  | false =>
      obtain ⟨rest, hrest⟩ := List.head?_eq_some_iff.1 (of_decide_eq_true h)
      simp [isAbsolute, toList_joinTo hpath, hrest]

theorem isAbsolute_joinTo_of_not (hdir : isAbsolute dir = false) (hname : isAbsolute name = false) :
    isAbsolute (joinTo dir name) = false := by
  by_cases hempty : dir = ""
  · simp [hempty, joinTo, hname]
  · obtain ⟨c, rest, hrest⟩ := List.exists_cons_of_ne_nil (mt String.toList_eq_nil_iff.1 hempty)
    simpa [isAbsolute, toList_joinTo hname, hrest] using hdir

theorem gap_joinTo (hdir : isAbsolute dir = false) : gap (joinTo base dir) = gap dir := by
  by_cases hempty : dir = ""
  · subst hempty
    by_cases hgap : base = "" ∨ base.toList.getLast? = some '/'
    · simp [gap, joinTo, hdir, hgap]
    · simp [gap, joinTo, hdir, hgap]
  · obtain ⟨init, last, hlast⟩ :=
      (List.eq_nil_or_concat' dir.toList).resolve_left (mt String.toList_eq_nil_iff.1 hempty)
    have hne : joinTo base dir ≠ "" := by
      rw [← String.toList_inj.ne, toList_joinTo hdir, hlast]
      simp
    simp [gap, hempty, hne, toList_joinTo hdir, hlast]

/-- It does not matter which two of three paths are joined first. -/
theorem joinTo_joinTo (hname : isAbsolute name = false) :
    joinTo base (joinTo dir name) = joinTo (joinTo base dir) name := by
  cases hdir : isAbsolute dir with
  | true => rw [joinTo_of_isAbsolute hdir, joinTo_of_isAbsolute (isAbsolute_joinTo hdir)]
  | false =>
      rw [← String.toList_inj, toList_joinTo (isAbsolute_joinTo_of_not hdir hname),
        toList_joinTo hname, toList_joinTo hname, toList_joinTo hdir, gap_joinTo hdir]
      simp

theorem ofText_append_sep {s : List Char} (hs : s ≠ []) (t : List Char) :
    Parts.ofText (s ++ '/' :: t) =
      ⟨(Parts.ofText s).absolute, (Parts.ofText s).pieces ++ splitAt '/' t⟩ := by
  obtain ⟨c, rest, rfl⟩ := List.exists_cons_of_ne_nil hs
  by_cases hc : c = '/'
  · simp [hc, Parts.ofText, splitAt_append_sep]
  · have hhead (more : List Char) : (c :: more).head? ≠ some '/' := by simpa using hc
    rw [List.cons_append, ofText_of_head?_ne (hhead _), ofText_of_head?_ne (hhead _),
      ← List.cons_append, splitAt_append_sep]

/-- The pieces of a joined path are those of the directory, but for an empty one at its end, and
then its own. -/
theorem exists_pieces_joinTo (base : String) (hpath : isAbsolute path = false) :
    ∃ front, Parts.ofText (joinTo base path).toList =
        ⟨isAbsolute base, front ++ splitAt '/' path.toList⟩ ∧
      front.filter (!isIdle ·) = (Parts.ofText base.toList).pieces.filter (!isIdle ·) := by
  rw [toList_joinTo hpath, Parts.isAbsolute_iff_ofText]
  by_cases hempty : base = ""
  · subst hempty
    exact ⟨[], ofText_of_head?_ne (of_decide_eq_false hpath), rfl⟩
  · obtain ⟨init, last, htext⟩ :=
      (List.eq_nil_or_concat' base.toList).resolve_left (mt String.toList_eq_nil_iff.1 hempty)
    by_cases hlast : last = '/'
    · have hgap : gap base = [] := by simp [gap, htext, hlast]
      rw [hgap, htext, hlast, List.append_nil, List.append_assoc, List.singleton_append]
      cases init with
      | nil => exact ⟨[], rfl, rfl⟩
      | cons c init =>
          have hne : c :: init ≠ [] := List.cons_ne_nil c init
          rw [ofText_append_sep hne, ofText_append_sep hne]
          exact ⟨_, rfl, by simp [splitAt, isIdle]⟩
    · have hgap : gap base = ['/'] := by simp [gap, hempty, htext, hlast]
      rw [hgap, List.append_assoc, List.singleton_append, ofText_append_sep (by simp [htext])]
      exact ⟨_, rfl, rfl⟩

/-- A path has the steps of the directory that it is seen from, and then its own. -/
theorem components_joinTo (hbase : isAbsolute base = true) (hpath : isAbsolute path = false) :
    components (joinTo base path) = components base ++ steps path := by
  obtain ⟨front, hparts, hfront⟩ := exists_pieces_joinTo base hpath
  rw [components_of_isAbsolute (isAbsolute_joinTo hbase), components_of_isAbsolute hbase, steps,
    steps, steps, hparts, pieces_ofText_of_not_isAbsolute hpath]
  simp [hfront]

end DocLint.Path

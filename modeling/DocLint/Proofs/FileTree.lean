import DocLint.FileTree
import DocLint.Proofs.Path.Joined

/-!
# Following paths

A path is followed piece by piece from the root. An idle piece asks only whether there is a
directory, and so does every piece after it. So idle pieces in front of a name make no difference
(`FileSystem.foldlM_step_concat`), and what an entry of a directory is does not depend on how the
path of the directory is spelled (`FileSystem.trail_joinTo_congr`).
-/

namespace DocLint.FileSystem

open Text DocLint.Path

variable {fs : FileSystem} {trail : Trail} {content : FileContent} {path dir dir' name : String}

/-! ### Pieces -/

theorem foldlM_step_of_file (h : fs.endOf trail = .file content) (piece : List Char)
    (more : List (List Char)) :
    (piece :: more).foldlM fs.step trail = .error .notDirectory := by
  simp [List.foldlM_cons, step, h, bind, Except.bind]

theorem step_of_isIdle {piece : List Char} (h : isIdle piece = true) :
    fs.step trail piece =
      if (fs.endOf trail).isDirectory then .ok trail else .error .notDirectory := by
  unfold step
  cases fs.endOf trail with
  | file content => rfl
  | directory entries => simp [h, FileTree.isDirectory]

/-- Pieces in front of another one may leave out the idle ones. -/
theorem foldlM_step_concat (pieces : List (List Char)) (last : List Char) (trail : Trail) :
    (pieces ++ [last]).foldlM fs.step trail =
      (pieces.filter (!isIdle ·) ++ [last]).foldlM fs.step trail := by
  induction pieces generalizing trail with
  | nil => rfl
  | cons piece pieces ih =>
      cases hidle : isIdle piece with
      | false => simp [hidle, ih]
      | true =>
          have hfilter : (piece :: pieces).filter (!isIdle ·) = pieces.filter (!isIdle ·) := by
            simp [hidle]
          rw [hfilter, ← ih, List.cons_append, List.foldlM_cons, step_of_isIdle hidle]
          cases hend : fs.endOf trail with
          | directory entries => rfl
          | file content =>
              obtain ⟨first, more, hcons⟩ :=
                List.exists_cons_of_ne_nil (List.concat_ne_nil last pieces)
              rw [hcons, foldlM_step_of_file hend]
              rfl

/-! ### Entries of a directory -/

/-- The name is that of an entry: it is one piece, and not an idle one. -/
structure IsEntryName (name : String) : Prop where
  ne_empty : name ≠ ""
  no_separator : '/' ∉ name.toList

theorem IsEntryName.isAbsolute (h : IsEntryName name) : isAbsolute name = false := by
  refine decide_eq_false fun hhead => h.no_separator (List.mem_of_mem_head? ?_)
  exact hhead

theorem trail_joinTo (hname : IsEntryName name) :
    fs.trail (joinTo dir name) =
      ((Parts.ofText (joinTo fs.workingDir dir).toList).pieces.filter (!isIdle ·) ++
        [name.toList]).foldlM fs.step [] := by
  have hne : (joinTo dir name).isEmpty = false := by
    rw [Bool.eq_false_iff, ne_eq, String.isEmpty_iff, ← String.toList_eq_nil_iff,
      toList_joinTo hname.isAbsolute]
    simp [hname.ne_empty]
  obtain ⟨front, hparts, hfront⟩ :=
    exists_pieces_joinTo (joinTo fs.workingDir dir) hname.isAbsolute
  rw [splitAt_of_not_mem hname.no_separator] at hparts
  rw [FileSystem.trail, hne, joinTo_joinTo hname.isAbsolute, hparts, ← hfront]
  exact foldlM_step_concat front name.toList []

/-- The components of a path, seen from the working directory. -/
def seen (fs : FileSystem) (path : String) : List Component :=
  components (joinTo fs.workingDir path)

/-- What an entry of a directory is does not depend on the spelling of the directory. -/
theorem trail_joinTo_congr (h : isAbsolute fs.workingDir = true) (hname : IsEntryName name)
    (hdir : fs.seen dir = fs.seen dir') :
    fs.trail (joinTo dir name) = fs.trail (joinTo dir' name) := by
  rw [seen, seen, components_of_isAbsolute (isAbsolute_joinTo h),
    components_of_isAbsolute (isAbsolute_joinTo h)] at hdir
  have hpieces := componentOf_injective.list_map (List.cons.inj hdir).2
  rw [trail_joinTo hname, trail_joinTo hname, hpieces]

/-! ### Files -/

theorem isFile_of_trail_eq (h : fs.trail path = fs.trail dir) : fs.isFile path = fs.isFile dir := by
  rw [isFile, find, h, isFile, find]

theorem has_of_trail_eq (h : fs.trail path = fs.trail dir) : fs.has path = fs.has dir := by
  rw [has, find, h, has, find]

theorem isDirectory_of_foldlM_concat {pieces : List (List Char)} {last : List Char} {found : Trail}
    (hlast : isIdle last = true) (h : (pieces ++ [last]).foldlM fs.step trail = .ok found) :
    (fs.endOf found).isDirectory = true := by
  rw [List.foldlM_append] at h
  cases hpieces : pieces.foldlM fs.step trail with
  | error e => simp [hpieces, bind, Except.bind] at h
  | ok reached =>
      by_cases hdirectory : (fs.endOf reached).isDirectory = true
      · have hfound : reached = found := by
          simpa [hpieces, step_of_isIdle hlast, hdirectory, bind, Except.bind, pure,
            Except.pure] using h
        exact hfound ▸ hdirectory
      · simp [hpieces, step_of_isIdle hlast, hdirectory, bind, Except.bind] at h

theorem exists_pieces_seen (fs : FileSystem) (path : String) :
    ∃ front, (Parts.ofText (joinTo fs.workingDir path).toList).pieces =
      front ++ (Parts.ofText path.toList).pieces := by
  cases hpath : isAbsolute path with
  | true => exact ⟨[], by rw [joinTo_of_isAbsolute hpath, List.nil_append]⟩
  | false =>
      obtain ⟨front, hparts, -⟩ := exists_pieces_joinTo fs.workingDir hpath
      exact ⟨front, by rw [hparts, pieces_ofText_of_not_isAbsolute hpath]⟩

/-- The last piece of the path of a file is a step. -/
theorem exists_last_of_isFile (h : fs.isFile path = true) :
    ∃ init last, Parts.ofText path.toList = ⟨isAbsolute path, init ++ [last]⟩ ∧
      isIdle last = false := by
  obtain ⟨init, last, hpieces⟩ :=
    (List.eq_nil_or_concat' _).resolve_left (pieces_ofText_ne_nil path.toList)
  refine ⟨init, last, ?_, Bool.eq_false_iff.2 fun hlast => ?_⟩
  · rw [← hpieces, Parts.isAbsolute_iff_ofText]
  · cases htrail : fs.trail path with
    | error e => simp [isFile, find, htrail, Except.map, Except.toOption] at h
    | ok found =>
        have hfile : (fs.endOf found).isDirectory = false := by
          simpa [isFile, find, htrail, Except.map, Except.toOption] using h
        obtain ⟨front, hfront⟩ := exists_pieces_seen fs path
        rw [FileSystem.trail, hfront, hpieces, ← List.append_assoc] at htrail
        split at htrail
        · cases htrail
        · rw [isDirectory_of_foldlM_concat hlast htrail] at hfile
          cases hfile

/-- The last component of the path of a file is a step. -/
theorem exists_components_of_isFile (h : fs.isFile path = true) :
    ∃ steps last, components path = steps ++ [last] ∧ last ≠ .root ∧ last ≠ .here := by
  obtain ⟨init, last, hparts, hlast⟩ := exists_last_of_isFile h
  refine ⟨_, componentOf last, by rw [components, hparts, Parts.components_concat hlast], ?_⟩
  unfold componentOf
  split <;> simp

end DocLint.FileSystem

import DocLint.Text.Basic
import Mathlib.Data.List.Forall2

/-!
# Lines and pieces: one text, cut at its line feeds in two ways

`pieces` cuts a text at its line feeds and keeps every character between them. `lines` also
takes the carriage return off a line that a line feed ends, and drops an empty last piece.
The checks of a header use both, so what one of them finds on the lines has to be carried
over to the pieces.

`PieceOf` relates a line to the piece it comes from. `exists_pieces_append` says that the
pieces of a text are the pieces of its lines, one for one, with at most empty pieces after
them. `exists_pieces_append_left` and `exists_pieces_append_right` find the pieces of a text
among those of a longer one.
-/

namespace DocLint.Text

/-- The piece is the line, with or without a carriage return at its end. -/
def PieceOf (piece l : Line) : Prop := piece = l ∨ piece = l ++ ['\r']

theorem pieceOf_dropReturn (piece : Line) : PieceOf piece (dropReturn piece) := by
  unfold dropReturn
  split
  · rename_i h
    obtain ⟨l, rfl⟩ := List.getLast?_eq_some_iff.1 h
    exact Or.inr (by simp)
  · exact Or.inl rfl

/-- A property of lines that a carriage return at the end does not spoil holds of the piece
of every line that has it. -/
theorem PieceOf.imp {p : Line → Prop} (hp : ∀ l, p l → p (l ++ ['\r'])) {l piece : Line}
    (h : PieceOf piece l) (hl : p l) : p piece := by
  rcases h with rfl | rfl
  · exact hl
  · exact hp l hl

/-- And one that a carriage return at the end does not bring about holds of the line of every
piece that has it. -/
theorem PieceOf.of_piece {p : Line → Prop} (hp : ∀ l, p (l ++ ['\r']) → p l) {l piece : Line}
    (h : PieceOf piece l) (hpiece : p piece) : p l := by
  rcases h with rfl | rfl
  · exact hpiece
  · exact hp l hpiece

theorem PieceOf.iff {p : Line → Prop} (hadd : ∀ l, p l → p (l ++ ['\r']))
    (hdrop : ∀ l, p (l ++ ['\r']) → p l) {l piece : Line} (h : PieceOf piece l) :
    p piece ↔ p l :=
  ⟨h.of_piece hdrop, h.imp hadd⟩

/-- A property that a carriage return does not spoil goes from a list of lines to their
pieces. -/
theorem forall_mem_of_forall₂_pieceOf {p : Line → Prop} (hp : ∀ l, p l → p (l ++ ['\r']))
    {raw ls : List Line} (h : List.Forall₂ PieceOf raw ls) (hls : ∀ l ∈ ls, p l) :
    ∀ piece ∈ raw, p piece := by
  induction h with
  | nil => simp
  | cons hpiece _ ih =>
      obtain ⟨hl, hls⟩ := List.forall_mem_cons.1 hls
      exact List.forall_mem_cons.2 ⟨hpiece.imp hp hl, ih hls⟩

/-- Where one of two related lists is cut, so is the other. -/
theorem exists_append_of_forall₂ {α β : Type} {R : α → β → Prop} {l : List α} {m n : List β}
    (h : List.Forall₂ R l (m ++ n)) :
    ∃ l₁ l₂, l = l₁ ++ l₂ ∧ List.Forall₂ R l₁ m ∧ List.Forall₂ R l₂ n :=
  ⟨l.take m.length, l.drop m.length, (List.take_append_drop ..).symm,
    List.forall₂_take_append _ _ _ h, List.forall₂_drop_append _ _ _ h⟩

theorem exists_linesOfPieces_append (ps : List Line) :
    ∃ raw tail, ps = raw ++ tail ∧ List.Forall₂ PieceOf raw (linesOfPieces ps) ∧
      ∀ piece ∈ tail, piece = [] := by
  induction ps using linesOfPieces.induct with
  | case1 => exact ⟨[], [], rfl, .nil, by simp⟩
  | case2 => exact ⟨[], [[]], rfl, by simp [linesOfPieces], by simp⟩
  | case3 last h =>
      refine ⟨[last], [], by simp, ?_, by simp⟩
      rw [linesOfPieces, if_neg h]
      exact .cons (Or.inl rfl) .nil
  | case4 piece more h ih =>
      obtain ⟨raw, tail, rfl, hraw, htail⟩ := ih
      refine ⟨piece :: raw, tail, rfl, ?_, htail⟩
      rw [linesOfPieces.eq_3 _ _ h]
      exact .cons (pieceOf_dropReturn piece) hraw

/-- The pieces of a text are the pieces of its lines, followed by empty pieces only. -/
theorem exists_pieces_append (s : List Char) :
    ∃ raw tail, pieces s = raw ++ tail ∧ List.Forall₂ PieceOf raw (lines s) ∧
      ∀ piece ∈ tail, piece = [] :=
  exists_linesOfPieces_append (pieces s)

/-! ### No line holds a line feed -/

theorem splitAt_ne_nil {α : Type} [DecidableEq α] (sep : α) (s : List α) : splitAt sep s ≠ [] := by
  cases s with
  | nil => simp [splitAt]
  | cons c s =>
      simp only [splitAt]
      split
      · simp
      · split <;> simp

/-- The separator is in none of the pieces. -/
theorem not_mem_of_mem_splitAt {α : Type} [DecidableEq α] {sep : α} {s piece : List α}
    (h : piece ∈ splitAt sep s) : sep ∉ piece := by
  induction s generalizing piece with
  | nil =>
      rw [splitAt, List.mem_singleton] at h
      rw [h]
      exact List.not_mem_nil
  | cons c s ih =>
      rw [splitAt] at h
      split at h
      · rcases List.mem_cons.1 h with rfl | h
        · exact List.not_mem_nil
        · exact ih h
      · rename_i hc
        split at h
        · rename_i hnil
          exact absurd hnil (splitAt_ne_nil sep s)
        · rename_i first more hcons
          rcases List.mem_cons.1 h with rfl | h
          · have hfirst : sep ∉ first := ih (hcons ▸ List.mem_cons_self ..)
            simpa [Ne.symm hc] using hfirst
          · exact ih (hcons ▸ List.mem_cons_of_mem _ h)

/-- Every line comes from a piece. -/
theorem exists_piece_of_mem_linesOfPieces {ps : List Line} {l : Line} (h : l ∈ linesOfPieces ps) :
    ∃ piece ∈ ps, PieceOf piece l := by
  induction ps using linesOfPieces.induct with
  | case1 => simp [linesOfPieces] at h
  | case2 => simp [linesOfPieces] at h
  | case3 last hne =>
      rw [linesOfPieces, if_neg hne, List.mem_singleton] at h
      exact ⟨last, List.mem_singleton.2 rfl, Or.inl h.symm⟩
  | case4 piece more hmore ih =>
      rw [linesOfPieces.eq_3 _ _ hmore] at h
      rcases List.mem_cons.1 h with rfl | h
      · exact ⟨piece, List.mem_cons_self .., pieceOf_dropReturn piece⟩
      · obtain ⟨p, hp, hl⟩ := ih h
        exact ⟨p, List.mem_cons_of_mem _ hp, hl⟩

/-- No line holds a line feed. -/
theorem not_mem_of_mem_lines {s : List Char} {l : Line} (h : l ∈ lines s) : '\n' ∉ l := by
  obtain ⟨piece, hpiece, hl⟩ := exists_piece_of_mem_linesOfPieces h
  have hfeed : '\n' ∉ piece := not_mem_of_mem_splitAt hpiece
  rcases hl with rfl | rfl
  · exact hfeed
  · exact fun hmem => hfeed (List.mem_append_left _ hmem)

/-! ### Counting pieces and putting them together -/

/-- There is one piece more than there are separators. -/
theorem length_splitAt {α : Type} [DecidableEq α] (sep : α) (s : List α) :
    (splitAt sep s).length = s.count sep + 1 := by
  induction s with
  | nil => rfl
  | cons c s ih =>
      obtain ⟨first, more, hs⟩ := List.exists_cons_of_ne_nil (splitAt_ne_nil sep s)
      rw [hs] at ih
      by_cases hc : c = sep
      · simp [splitAt, hc, hs, ih]
      · simpa [splitAt, hc, hs] using ih

/-- Where two texts meet, the last piece of the one and the first of the other become one. -/
theorem exists_splitAt_append {α : Type} [DecidableEq α] (sep : α) (s t : List α) :
    ∃ front last first back, splitAt sep s = front ++ [last] ∧ splitAt sep t = first :: back ∧
      splitAt sep (s ++ t) = front ++ (last ++ first) :: back := by
  induction s with
  | nil =>
      obtain ⟨first, back, ht⟩ := List.exists_cons_of_ne_nil (splitAt_ne_nil sep t)
      exact ⟨[], [], first, back, rfl, ht, ht⟩
  | cons c s ih =>
      obtain ⟨front, last, first, back, hs, ht, happend⟩ := ih
      by_cases hc : c = sep
      · refine ⟨[] :: front, last, first, back, ?_, ht, ?_⟩ <;> simp [splitAt, hc, hs, happend]
      · cases front with
        | nil => refine ⟨[], c :: last, first, back, ?_, ht, ?_⟩ <;> simp [splitAt, hc, hs, happend]
        | cons piece front =>
            refine ⟨(c :: piece) :: front, last, first, back, ?_, ht, ?_⟩ <;>
              simp [splitAt, hc, hs, happend]

theorem splitAt_of_not_mem {α : Type} [DecidableEq α] {sep : α} {s : List α} (h : sep ∉ s) :
    splitAt sep s = [s] := by
  induction s with
  | nil => rfl
  | cons c s ih =>
      rw [List.mem_cons, not_or] at h
      rw [splitAt, if_neg (Ne.symm h.1), ih h.2]

theorem splitAt_append_cons {α : Type} [DecidableEq α] {sep : α} {s : List α} (h : sep ∉ s)
    (t : List α) : splitAt sep (s ++ sep :: t) = s :: splitAt sep t := by
  induction s with
  | nil => simp [splitAt]
  | cons c s ih =>
      rw [List.mem_cons, not_or] at h
      rw [List.cons_append, splitAt, if_neg (Ne.symm h.1), ih h.2]

theorem join_cons_cons (sep s t : List Char) (more : List (List Char)) :
    join sep (s :: t :: more) = s ++ sep ++ join sep (t :: more) := rfl

/-- A text is its pieces with line feeds between them. -/
theorem join_pieces (s : List Char) : join ['\n'] (pieces s) = s := by
  unfold pieces
  induction s with
  | nil => rfl
  | cons c s ih =>
      obtain ⟨first, more, hs⟩ := List.exists_cons_of_ne_nil (splitAt_ne_nil '\n' s)
      rw [hs] at ih
      by_cases hc : c = '\n'
      · simp [splitAt, hc, hs, join, ih]
      · cases more <;> simpa [splitAt, hc, hs, join] using ih

/-- Texts without the separator are the pieces of the text that they make up. -/
theorem splitAt_join {sep : Char} {ls : List (List Char)} (hne : ls ≠ [])
    (hsep : ∀ l ∈ ls, sep ∉ l) : splitAt sep (join [sep] ls) = ls := by
  induction ls with
  | nil => exact absurd rfl hne
  | cons l ls ih =>
      obtain ⟨hl, hls⟩ := List.forall_mem_cons.1 hsep
      cases ls with
      | nil => exact splitAt_of_not_mem hl
      | cons next ls =>
          rw [join_cons_cons, List.append_assoc, List.singleton_append, splitAt_append_cons hl]
          exact congrArg (l :: ·) (ih (by simp) hls)

/-- Lines are the pieces of the text that they make up. -/
theorem pieces_join {ls : List Line} (hne : ls ≠ []) (hfeed : ∀ l ∈ ls, '\n' ∉ l) :
    pieces (join ['\n'] ls) = ls :=
  splitAt_join hne hfeed

theorem join_append (sep : List Char) (front : List (List Char)) (s : List Char)
    (back : List (List Char)) :
    join sep (front ++ s :: back) = front.flatMap (· ++ sep) ++ join sep (s :: back) := by
  induction front with
  | nil => rfl
  | cons first front ih =>
      rw [List.flatMap_cons, List.append_assoc, ← ih, List.cons_append]
      exact join.eq_3 _ _ _ (by simp)

theorem prefix_join (sep s : List Char) (back : List (List Char)) :
    s <+: join sep (s :: back) := by
  cases back with
  | nil => exact List.prefix_refl s
  | cons next back => exact (List.prefix_append ..).trans (List.prefix_append ..)

theorem length_join_map_le {α : Type} {f g : α → List Char} {xs : List α} (sep : List Char)
    (h : ∀ x ∈ xs, (f x).length ≤ (g x).length) :
    (join sep (xs.map f)).length ≤ (join sep (xs.map g)).length := by
  induction xs with
  | nil => exact Nat.le_refl _
  | cons x xs ih =>
      obtain ⟨hx, hxs⟩ := List.forall_mem_cons.1 h
      cases xs with
      | nil => exact hx
      | cons y ys =>
          have ih := ih hxs
          simp only [List.map_cons, join_cons_cons, List.length_append] at ih ⊢
          omega

/-- Texts that are not longer than others, one for one, make up the same row only if they are the
same texts. -/
theorem join_map_eq_iff {α : Type} {f g : α → List Char} {xs : List α} (sep : List Char)
    (h : ∀ x ∈ xs, (f x).length ≤ (g x).length) :
    join sep (xs.map f) = join sep (xs.map g) ↔ ∀ x ∈ xs, f x = g x := by
  constructor
  · intro heq
    induction xs with
    | nil => simp
    | cons x xs ih =>
        obtain ⟨hx, hxs⟩ := List.forall_mem_cons.1 h
        cases xs with
        | nil => simpa [join] using heq
        | cons y ys =>
            have hle := length_join_map_le sep hxs
            simp only [List.map_cons, join_cons_cons, List.append_assoc] at heq hle
            have hlength := congrArg List.length heq
            simp only [List.length_append] at hlength
            obtain ⟨hfirst, hrest⟩ := List.append_inj heq (by omega)
            exact List.forall_mem_cons.2 ⟨hfirst, ih hxs (List.append_cancel_left hrest)⟩
  · intro heq
    rw [List.map_congr_left heq]

/-- In front of a piece of a text stand the pieces before it, each with its line feed. -/
theorem exists_append_of_pieces {s : List Char} {front back : List Line} {piece : Line}
    (h : pieces s = front ++ piece :: back) :
    ∃ after, s = front.flatMap (· ++ ['\n']) ++ piece ++ after := by
  obtain ⟨after, hafter⟩ := prefix_join ['\n'] piece back
  refine ⟨after, ?_⟩
  rw [List.append_assoc, hafter, ← join_append, ← h, join_pieces]

theorem splitAt_eq_splitOn {α : Type} [DecidableEq α] (sep : α) (s : List α) :
    splitAt sep s = s.splitOn sep := by
  induction s with
  | nil => simp [splitAt]
  | cons c s ih =>
      rw [splitAt, ih]
      simp only [List.splitOn_eq_splitOnP, List.splitOnP_cons_eq_if_modifyHead, beq_iff_eq]
      cases hsplit : s.splitOnP (· == sep) with
      | nil => exact absurd hsplit (List.splitOnP_ne_nil _ s)
      | cons first more => rfl

theorem splitAt_append_sep {α : Type} [DecidableEq α] (sep : α) (s t : List α) :
    splitAt sep (s ++ sep :: t) = splitAt sep s ++ splitAt sep t := by
  simp only [splitAt_eq_splitOn, List.splitOn_append_cons_self]

theorem linesOfPieces_eq_self {ls : List Line}
    (hvisible : ∀ l ∈ ls, l.getLast?.any (!isBlank ·) = true) : linesOfPieces ls = ls := by
  induction ls using linesOfPieces.induct with
  | case1 => rfl
  | case2 => simp at hvisible
  | case3 last h => rw [linesOfPieces, if_neg h]
  | case4 piece more hmore ih =>
      obtain ⟨hpiece, hrest⟩ := List.forall_mem_cons.1 hvisible
      have hreturn : piece.getLast? ≠ some '\r' := by
        intro h
        rw [h] at hpiece
        exact absurd hpiece (by decide)
      rw [linesOfPieces.eq_3 _ _ hmore, ih hrest, dropReturn, if_neg hreturn]

/-- Lines that end with a visible character are read back from the text that they make up. -/
theorem lines_intercalate {ls : List Line} (hfeed : ∀ l ∈ ls, '\n' ∉ l)
    (hvisible : ∀ l ∈ ls, l.getLast?.any (!isBlank ·) = true) :
    lines (['\n'].intercalate ls) = ls := by
  by_cases hne : ls = []
  · rw [hne]
    rfl
  · rw [lines, pieces, splitAt_eq_splitOn, List.splitOn_intercalate _ hfeed hne,
      linesOfPieces_eq_self hvisible]

/-- Every piece gives one line, apart from an empty one at the end. -/
theorem length_linesOfPieces_cons {piece : Line} {more : List Line}
    (h : ¬ (piece = [] ∧ more = [])) :
    (linesOfPieces (piece :: more)).length = (linesOfPieces more).length + 1 := by
  cases more with
  | nil =>
      have hpiece : piece ≠ [] := fun hnil => h ⟨hnil, rfl⟩
      simp [linesOfPieces, hpiece]
  | cons next more => simp [linesOfPieces]

/-- A line has the number of the piece that it comes from, and does not come from an empty piece
at the end. -/
theorem exists_piece_of_getElem?_linesOfPieces {ps : List Line} {i : Nat} {l : Line}
    (h : (linesOfPieces ps)[i]? = some l) :
    ∃ front piece back, ps = front ++ piece :: back ∧ front.length = i ∧ PieceOf piece l ∧
      ¬ (piece = [] ∧ back = []) := by
  induction ps using linesOfPieces.induct generalizing i with
  | case1 => simp [linesOfPieces] at h
  | case2 => simp [linesOfPieces] at h
  | case3 last hne =>
      rw [linesOfPieces, if_neg hne, List.getElem?_singleton, Option.ite_none_right_eq_some,
        Option.some.injEq] at h
      obtain ⟨rfl, rfl⟩ := h
      exact ⟨[], last, [], rfl, rfl, Or.inl rfl, fun hnil => hne hnil.1⟩
  | case4 piece more hmore ih =>
      rw [linesOfPieces.eq_3 _ _ hmore] at h
      cases i with
      | zero =>
          obtain rfl : dropReturn piece = l := by simpa using h
          exact ⟨[], piece, more, rfl, rfl, pieceOf_dropReturn piece, fun hnil => hmore hnil.2⟩
      | succ i =>
          obtain ⟨front, piece', back, rfl, rfl, hl, hne⟩ := ih (by simpa using h)
          exact ⟨piece :: front, piece', back, rfl, rfl, hl, hne⟩

/-! ### A text inside another -/

/-- What is put behind a text adds at most to its last piece. -/
theorem exists_pieces_append_right {s : List Char} {front back : List Line} {piece : Line}
    (h : pieces s = front ++ piece :: back) (t : List Char) :
    ∃ post more, pieces (s ++ t) = front ++ (piece ++ post) :: more ∧
      (back ≠ [] → post = [] ∧ more ≠ []) := by
  obtain ⟨init, last, first, rest, hs, -, happend⟩ := exists_splitAt_append '\n' s t
  rw [pieces, happend]
  rw [pieces, hs] at h
  -- Is the piece the last one of `s`, which the pieces of `t` go on from?
  rcases List.eq_nil_or_concat back with rfl | ⟨mid, final, rfl⟩
  · obtain ⟨rfl, hlast⟩ := List.append_inj' h rfl
    obtain rfl : last = piece := by simpa using hlast
    exact ⟨first, rest, rfl, fun hne => absurd rfl hne⟩
  · have hcut : init ++ [last] = (front ++ piece :: mid) ++ [final] := by simpa using h
    obtain ⟨rfl, -⟩ := List.append_inj' hcut rfl
    exact ⟨[], mid ++ (last ++ first) :: rest, by simp, fun _ => ⟨rfl, by simp⟩⟩

/-- What is put in front of a text moves its pieces down, and adds at most to the first. -/
theorem exists_pieces_append_left {t : List Char} {front back : List Line} {piece : Line}
    (h : pieces t = front ++ piece :: back) (s : List Char) :
    ∃ pre above, pieces (s ++ t) = above ++ (pre ++ piece) :: back ∧
      above.length = s.count '\n' + front.length ∧ (front ≠ [] → pre = []) := by
  obtain ⟨init, last, first, rest, hs, ht, happend⟩ := exists_splitAt_append '\n' s t
  have hinit : init.length = s.count '\n' := by
    simpa [hs] using length_splitAt '\n' s
  rw [pieces, happend]
  rw [pieces, ht] at h
  cases front with
  | nil =>
      obtain ⟨rfl, rfl⟩ := List.cons.inj h
      exact ⟨last, init, rfl, by simp [hinit], by simp⟩
  | cons first' front =>
      obtain ⟨rfl, rfl⟩ := List.cons.inj h
      refine ⟨[], init ++ (last ++ first) :: front, by simp, ?_, fun _ => rfl⟩
      simp [hinit]

end DocLint.Text

import DocLint.Proofs.Header.Attribution

/-!
# Overlooked headers: rejected texts in which no clause is blamed

The checks by position are run on a text that the gate has rejected, to tell which clause is
at fault. Between the markers of a header they look at every line, so a text that has both
markers and is still rejected should have a clause to blame. Two kinds of text slip through:

* a header without any description. Its five lines are enough for the count, and among no
  description lines none is bad;
* a header with a description of nineteen characters that a carriage return and a line feed
  end. The gate takes the carriage return off; the checks by position count it as the
  twentieth character.

`Placement` is what the checks by position are content with, and `Overlooked` says in which of
these ways a placement fails to be a header. The main result, `attributeClauses_blames_iff`,
is that there is no third way.
-/

namespace DocLint.Header

open Text

variable {g : Grammar} {name text : String}

/-! ### What the checks by position accept -/

/-- Lines in which every clause is well formed at the place where it is looked for. The markers
are not looked at, and there may be no description. -/
structure Placement (g : Grammar) (name : String) where
  start : Line
  update : Line
  fileName : Line
  description : List Line
  author : Line
  last : Line
  update_ok : g.IsUpdateLine update
  fileName_ok : isFileNameOf name fileName = true
  description_ok : ∀ l ∈ description, IsDescriptionLine l
  author_ok : IsAuthorLine author

/-- The lines in order. -/
def Placement.lines (p : Placement g name) : List Line :=
  p.start :: p.update :: p.fileName :: (p.description ++ [p.author, p.last])

theorem Placement.minLines_le_length (p : Placement g name) : minLines ≤ p.lines.length := by
  simp [Placement.lines, minLines]

/-- A list of at least five lines has all the places that are looked at. -/
theorem exists_places {ls : List Line} (h : minLines ≤ ls.length) :
    ∃ start update fileName description author last,
      ls = start :: update :: fileName :: (description ++ [author, last]) := by
  match ls, h with
  | start :: update :: fileName :: rest, h =>
      have hrest : 2 ≤ rest.length := by
        simp only [minLines, List.length_cons] at h
        omega
      obtain ⟨author, last, hlast⟩ : ∃ author last, rest.drop (rest.length - 2) = [author, last] :=
        List.length_eq_two.1 (by rw [List.length_drop]; omega)
      refine ⟨start, update, fileName, rest.take (rest.length - 2), author, last, ?_⟩
      rw [← hlast, List.take_append_drop]
  | [], h => simp [minLines] at h
  | [_], h => simp [minLines] at h
  | [_, _], h => simp [minLines] at h

theorem blamed_eq_nil_iff {start update fileName author last : Line} {description : List Line} :
    blamed g name (start :: update :: fileName :: (description ++ [author, last])) = [] ↔
      g.IsUpdateLine update ∧ isFileNameOf name fileName = true ∧
      (∀ l ∈ description, IsDescriptionLine l) ∧ IsAuthorLine author := by
  rw [blamed_positions, ← Grammar.isUpdateLine_iff, ← isAuthor_iff]
  simp only [updateIssue?, fileNameIssue?, authorIssue?, ← isDescription_iff,
    List.append_eq_nil_iff, Option.toList_eq_nil_iff, Option.map_eq_none_iff,
    List.findIdx?_eq_none_iff, ite_eq_left_iff, reduceCtorEq, imp_false, not_not, and_assoc,
    Bool.not_eq_false']

/-- The checks by position pass exactly the texts that are a placement, blank lines at the end
apart. -/
theorem attributeClauses_yields_true_iff :
    (attributeClauses g name text).Yields true [] ↔
      ∃ p : Placement g name, p.lines = dropBlankTail (pieces text.toList) := by
  by_cases hlength : minLines ≤ (dropBlankTail (pieces text.toList)).length
  · have hrun : (attributeClauses g name text).Yields _ _ := attributeClauses_yields_blamed hlength
    obtain ⟨start, update, fileName, description, author, last, hplaces⟩ := exists_places hlength
    constructor
    · intro htrue
      have hnil : blamed g name (dropBlankTail (pieces text.toList)) = [] :=
        (hrun.unique htrue).2
      rw [hplaces] at hnil
      obtain ⟨hupdate, hfileName, hdescription, hauthor⟩ := blamed_eq_nil_iff.1 hnil
      exact ⟨⟨start, update, fileName, description, author, last, hupdate, hfileName, hdescription,
        hauthor⟩, hplaces.symm⟩
    · intro hp
      obtain ⟨p, hp⟩ := hp
      have hnil : blamed g name (dropBlankTail (pieces text.toList)) = [] := by
        rw [← hp]
        exact blamed_eq_nil_iff.2 ⟨p.update_ok, p.fileName_ok, p.description_ok, p.author_ok⟩
      rw [hnil] at hrun
      exact hrun
  · have hrun : (attributeClauses g name text).Yields _ _ :=
      attributeClauses_yields_tooFewLines (Nat.not_le.1 hlength)
    refine iff_of_false ?_ ?_
    · intro htrue
      exact absurd (hrun.unique htrue).1 Bool.false_ne_true
    · intro hp
      obtain ⟨p, hp⟩ := hp
      exact hlength (hp ▸ p.minLines_le_length)

/-- A text that does not pass has a clause to blame. -/
theorem exists_blamed_iff :
    (∃ first rest, (attributeClauses g name text).Yields false (first :: rest)) ↔
      ¬ (attributeClauses g name text).Yields true [] := by
  obtain ⟨issues, hrun, -⟩ := exists_yields_attributeClauses g name text
  constructor
  · intro hblamed htrue
    obtain ⟨first, rest, hfalse⟩ := hblamed
    exact absurd (hfalse.unique htrue).1 Bool.false_ne_true
  · intro hfail
    cases issues with
    | nil => exact absurd hrun hfail
    | cons first rest => exact ⟨first, rest, hrun⟩

/-! ### Between the markers -/

/-- The first line opens a block and the last line that is not blank closes one. -/
def Marked (ls : List Line) : Prop :=
  ∃ start middle last blanks, ls = start :: (middle ++ last :: blanks) ∧
    IsBlockStart start ∧ IsBlockEnd last ∧ ∀ l ∈ blanks, isAllBlank l = true

/-- Between the markers the checks by position see the pieces of the lines, one for one. -/
theorem exists_dropBlankTail_pieces {s : List Char} {start last : Line} {middle blanks : List Line}
    (hlines : lines s = start :: (middle ++ last :: blanks)) (hlast : IsBlockEnd last)
    (hblanks : ∀ l ∈ blanks, isAllBlank l = true) :
    ∃ start' middle' last', dropBlankTail (pieces s) = start' :: (middle' ++ [last']) ∧
      List.Forall₂ PieceOf middle' middle := by
  have hreturn : isAllBlank ['\r'] = true := by decide
  obtain ⟨raw, tail, hpieces, hraw, htail⟩ := exists_pieces_append s
  rw [hlines] at hraw
  obtain ⟨start', raw', -, hraw', rfl⟩ := List.forall₂_cons_right_iff.1 hraw
  obtain ⟨middle', rest, rfl, hmiddle, hrest⟩ := exists_append_of_forall₂ hraw'
  obtain ⟨last', blanks', hlast', hblanks', rfl⟩ := List.forall₂_cons_right_iff.1 hrest
  refine ⟨start', middle', last', ?_, hmiddle⟩
  have hvisible : isAllBlank last' = false :=
    (hlast'.imp (fun _ hl => hl.append_blank hreturn) hlast).isAllBlank_eq_false
  have hblank : ∀ l ∈ blanks' ++ tail, isAllBlank l = true := by
    rw [List.forall_mem_append]
    refine ⟨forall_mem_of_forall₂_pieceOf (fun _ hl => by simp [hl, hreturn]) hblanks' hblanks, ?_⟩
    intro l hl
    rw [htail l hl]
    rfl
  have hsplit : pieces s = (start' :: middle') ++ last' :: (blanks' ++ tail) := by
    simp [hpieces]
  rw [hsplit, dropBlankTail_append hvisible hblank]
  rfl

/-- The piece of a line has the carriage return that makes the line long enough. -/
def IsShortDescription (piece : Line) : Prop :=
  ∃ t, t.length = 19 ∧ piece = " * ".toList ++ t ++ ['\r']

/-- A description line is one as a line of the text, or is too short there. -/
theorem isDescriptionLine_or_short {l piece : Line} (h : PieceOf piece l)
    (hpiece : IsDescriptionLine piece) : IsDescriptionLine l ∨ IsShortDescription piece := by
  rcases h with rfl | rfl
  · exact Or.inl hpiece
  · rcases hpiece.of_append_return with hl | ⟨t, hlen, rfl⟩
    · exact Or.inl hl
    · exact Or.inr ⟨t, hlen, rfl⟩

theorem forall_isDescriptionLine_or_exists_short {raw ls : List Line}
    (h : List.Forall₂ PieceOf raw ls) (hraw : ∀ piece ∈ raw, IsDescriptionLine piece) :
    (∀ l ∈ ls, IsDescriptionLine l) ∨ ∃ piece ∈ raw, IsShortDescription piece := by
  induction h with
  | nil => exact Or.inl (by simp)
  | cons hpiece _ ih =>
      obtain ⟨hfirst, hrest⟩ := List.forall_mem_cons.1 hraw
      rcases isDescriptionLine_or_short hpiece hfirst with hl | hshort
      · rcases ih hrest with hls | ⟨piece, hmem, hshort⟩
        · exact Or.inl (List.forall_mem_cons.2 ⟨hl, hls⟩)
        · exact Or.inr ⟨piece, List.mem_cons_of_mem _ hmem, hshort⟩
      · exact Or.inr ⟨_, List.mem_cons_self .., hshort⟩

/-- The text passes the checks by position, but has no description, or one that is too short
without its carriage return. -/
def Overlooked (g : Grammar) (name text : String) : Prop :=
  ∃ p : Placement g name, p.lines = dropBlankTail (pieces text.toList) ∧
    (p.description = [] ∨ ∃ piece ∈ p.description, IsShortDescription piece)

/-- Between the markers, a placement whose description is there and long enough is a header. -/
theorem Placement.overlooked_or_exists_form (p : Placement g name)
    (hp : p.lines = dropBlankTail (pieces text.toList))
    (hmarked : Marked (Text.lines text.toList)) :
    Overlooked g name text ∨ ∃ h : Form g, h.lines = Text.lines text.toList := by
  have hreturn : isAllBlank ['\r'] = true := by decide
  obtain ⟨start, middle, last, blanks, hlines, hstart, hlast, hblanks⟩ := hmarked
  obtain ⟨start', middle', last', hpieces, hmiddle⟩ :=
    exists_dropBlankTail_pieces hlines hlast hblanks
  -- The placement and the markers cut the same pieces, so the places are pieces of `middle`.
  have hgroup : p.lines =
      p.start :: (p.update :: p.fileName :: (p.description ++ [p.author]) ++ [p.last]) := by
    simp [Placement.lines]
  have hplaces := (List.cons.inj (hgroup.symm.trans (hp.trans hpieces))).2
  obtain ⟨rfl, -⟩ := List.append_inj' hplaces rfl
  obtain ⟨update, rest, hupdate, hrest, rfl⟩ := List.forall₂_cons_left_iff.1 hmiddle
  obtain ⟨fileName, body, hfileName, hbody, rfl⟩ := List.forall₂_cons_left_iff.1 hrest
  obtain ⟨description, authors, rfl, hdescription, hauthors⟩ :=
    exists_append_of_forall₂ hbody.flip
  obtain ⟨author, more, hauthor, hmore, rfl⟩ := List.forall₂_cons_right_iff.1 hauthors
  obtain rfl := List.forall₂_nil_right_iff.1 hmore
  by_cases hne : p.description = []
  · exact Or.inl ⟨p, hp, Or.inl hne⟩
  rcases forall_isDescriptionLine_or_exists_short hdescription.flip p.description_ok with
    hlong | hshort
  · refine Or.inr ⟨{
      start := start
      update := update
      fileName := fileName
      description := description
      author := author
      blockEnd := last
      blanks := blanks
      start_ok := hstart
      update_ok := ?_
      fileName_ok := ?_
      description_ne_nil := ?_
      description_ok := hlong
      author_ok := ?_
      blockEnd_ok := hlast
      blanks_ok := hblanks }, ?_⟩
    · exact PieceOf.of_piece (fun _ hl => hl.of_append_blank hreturn) hupdate p.update_ok
    · have hname : fileName? fileName = some name.toList :=
        PieceOf.of_piece (p := (fileName? · = some name.toList))
          (fun _ hl => fileName?_of_append_blank hreturn hl) hfileName
          (of_decide_eq_true p.fileName_ok)
      exact isFileName_iff.1 (Option.isSome_iff_exists.2 ⟨_, hname⟩)
    · rintro rfl
      exact hne (List.forall₂_nil_left_iff.1 hdescription)
    · exact PieceOf.of_piece (fun _ hl => hl.of_append_blank hreturn) hauthor p.author_ok
    · simp [Form.lines, hlines]
  · exact Or.inl ⟨p, hp, Or.inr hshort⟩

/-- **Attribution between the markers.** A text that has both markers and is rejected by the
gate gets at least one clause blamed, whatever the name of its file, unless it is overlooked for
want of a description or for a short description in front of a carriage return. -/
theorem attributeClauses_blames_iff {g : Grammar} {text : String}
    (hmarked : Marked (lines text.toList)) (hreject : (validate g text).onEmpty.1 = false)
    (name : String) :
    (∃ first rest, (attributeClauses g name text).Yields false (first :: rest)) ↔
      ¬ Overlooked g name text := by
  rw [exists_blamed_iff, attributeClauses_yields_true_iff]
  refine not_congr ⟨?_, ?_⟩
  · intro hp
    obtain ⟨p, hp⟩ := hp
    rcases p.overlooked_or_exists_form hp hmarked with hover | hform
    · exact hover
    · rw [validate_eq_true_iff.2 hform] at hreject
      exact absurd hreject (by simp)
  · intro hover
    obtain ⟨p, hp, -⟩ := hover
    exact ⟨p, hp⟩

/-! ### Near misses -/

/-- A header with a description of nineteen characters. -/
def shortHeader : String :=
  "/**\n * Copyright Acme, Inc. 2018. All rights reserved.\n" ++
  " * Main.kt\n * Starts the program.\n * @author Ada Byron Feb 2, 2018\n */\n"

/-- The same header with carriage returns. -/
def shortHeaderReturns : String :=
  "/**\r\n * Copyright Acme, Inc. 2018. All rights reserved.\r\n" ++
  " * Main.kt\r\n * Starts the program.\r\n * @author Ada Byron Feb 2, 2018\r\n */\r\n"

/-- A header without a description. -/
def bareHeader : String :=
  "/**\n * Copyright Acme, Inc. 2018. All rights reserved.\n" ++
  " * Main.kt\n * @author Ada Byron Feb 2, 2018\n */\n"

theorem append_eq_ofList {s t : String} {cs ds : List Char} (hs : s = String.ofList cs)
    (ht : t = String.ofList ds) : s ++ t = String.ofList (cs ++ ds) := by
  rw [hs, ht, String.ofList_append]

/-- What there is to compute on the characters of a text to see that the gate rejects it although
it has both markers. -/
structure Rejected (cs : List Char) : Prop where
  lines_eq : lines cs = "/**".toList :: ((lines cs).tail.dropLast ++ [" */".toList])
  stops : (Layout.ofLines {} (lines cs)).isOk = false

theorem Rejected.marked {cs : List Char} (h : Rejected cs) :
    Marked (lines (String.ofList cs).toList) := by
  rw [String.toList_ofList]
  exact ⟨_, _, _, _, h.lines_eq, isBlockStart_iff.1 (by decide), isBlockEnd_iff.1 (by decide),
    by simp⟩

theorem Rejected.not_validate {cs : List Char} (h : Rejected cs) :
    (validate {} (String.ofList cs)).onEmpty.1 = false := by
  unfold validate Layout.parse
  rw [String.toList_ofList]
  cases hcut : Layout.ofLines {} (lines cs) with
  | ok layout =>
      have hstops := h.stops
      rw [hcut] at hstops
      exact absurd hstops (by simp [Except.isOk, Except.toBool])
  | error stop => rfl

/-- Between plain line feeds the short description is blamed. -/
theorem attributeClauses_blames_shortHeader :
    Marked (lines shortHeader.toList) ∧ (validate {} shortHeader).onEmpty.1 = false ∧
      ∃ first rest, (attributeClauses {} "Main" shortHeader).Yields false (first :: rest) := by
  obtain ⟨cs, htext, hreject, hblamed⟩ : ∃ cs, shortHeader = String.ofList cs ∧ Rejected cs ∧
      blamed {} "Main" (dropBlankTail (pieces cs)) ≠ [] := by
    unfold shortHeader
    exact ⟨_, append_eq_ofList rfl rfl, ⟨by decide +kernel, by decide +kernel⟩, by decide +kernel⟩
  rw [htext]
  refine ⟨hreject.marked, hreject.not_validate,
    (attributeClauses_blames_iff hreject.marked hreject.not_validate "Main").2 ?_⟩
  intro hover
  obtain ⟨p, hp, -⟩ := hover
  rw [String.toList_ofList] at hp
  rw [← hp] at hblamed
  exact hblamed (blamed_eq_nil_iff.2 ⟨p.update_ok, p.fileName_ok, p.description_ok, p.author_ok⟩)

/-- What there is to compute to see that nothing of a rejected text is blamed. -/
structure Passed (cs : List Char) : Prop extends Rejected cs where
  minLines_le : minLines ≤ (dropBlankTail (pieces cs)).length
  blamed_eq : blamed {} "Main" (dropBlankTail (pieces cs)) = []

theorem Passed.yields_true {cs : List Char} (h : Passed cs) :
    (attributeClauses {} "Main" (String.ofList cs)).Yields true [] := by
  have hrun : (attributeClauses {} "Main" (String.ofList cs)).Yields _ _ :=
    attributeClauses_yields_blamed (by rw [String.toList_ofList]; exact h.minLines_le)
  rw [String.toList_ofList, h.blamed_eq] at hrun
  exact hrun

/-- With carriage returns the short description is overlooked, and so is a missing one. -/
theorem attributeClauses_overlooks_short_and_bare :
    (Marked (lines shortHeaderReturns.toList) ∧
      (validate {} shortHeaderReturns).onEmpty.1 = false ∧
      (attributeClauses {} "Main" shortHeaderReturns).Yields true []) ∧
    Marked (lines bareHeader.toList) ∧ (validate {} bareHeader).onEmpty.1 = false ∧
      (attributeClauses {} "Main" bareHeader).Yields true [] := by
  obtain ⟨short, hshort, hpassed⟩ : ∃ cs, shortHeaderReturns = String.ofList cs ∧ Passed cs := by
    unfold shortHeaderReturns
    exact ⟨_, append_eq_ofList rfl rfl, ⟨by decide +kernel, by decide +kernel⟩,
      by decide +kernel, by decide +kernel⟩
  obtain ⟨bare, hbare, hpassed'⟩ : ∃ cs, bareHeader = String.ofList cs ∧ Passed cs := by
    unfold bareHeader
    exact ⟨_, append_eq_ofList rfl rfl, ⟨by decide +kernel, by decide +kernel⟩,
      by decide +kernel, by decide +kernel⟩
  rw [hshort, hbare]
  exact ⟨⟨hpassed.marked, hpassed.not_validate, hpassed.yields_true⟩,
    hpassed'.marked, hpassed'.not_validate, hpassed'.yields_true⟩

end DocLint.Header

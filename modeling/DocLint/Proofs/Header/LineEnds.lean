import DocLint.Header.Record
import DocLint.Proofs.Header.Overlooked
import DocLint.Proofs.Text.Returns

/-!
# Line ends: what a carriage return changes

A text without carriage returns and the same text with one in front of every line feed have the
same lines, so the gate and the reading of values cannot tell them apart. The checks by position
cut the text into pieces and see a carriage return at the end of every piece but the last.

No clause minds the carriage return but one. A description line is told by its number of
characters, and the carriage return counts. So a line with nineteen characters passes for a
description if, and only if, a carriage return follows it. Since a check of a description stops
at the first fault, this is seen exactly if the first fault is such a line (`FaultIsShort`).
-/

namespace DocLint

namespace Header

open Text

variable {g : Grammar} {name : String} {raw ls : List Line} {l piece : Line}

/-! ### Pieces with and without carriage returns -/

/-- The pieces `raw` are the lines `ls` with a carriage return at the end of each, where only
that of the last one may be missing. -/
def Returned (raw ls : List Line) : Prop :=
  ∃ front last last', ls = front ++ [last] ∧ raw = front.map addReturn ++ [last'] ∧
    PieceOf last' last

theorem returned_addReturns (h : ls ≠ []) : Returned (addReturns ls) ls := by
  obtain ⟨front, last, rfl⟩ := (List.eq_nil_or_concat' ls).resolve_left h
  exact ⟨front, last, last, rfl, addReturns_concat front last, Or.inl rfl⟩

theorem returned_map (h : ls ≠ []) : Returned (ls.map addReturn) ls := by
  obtain ⟨front, last, rfl⟩ := (List.eq_nil_or_concat' ls).resolve_left h
  exact ⟨front, last, addReturn last, rfl, by simp, Or.inr rfl⟩

theorem Returned.forall₂ (h : Returned raw ls) : List.Forall₂ PieceOf raw ls := by
  obtain ⟨front, last, last', rfl, rfl, hlast⟩ := h
  induction front with
  | nil => exact .cons hlast .nil
  | cons l front ih => exact .cons (Or.inr rfl) ih

theorem isAllBlank_addReturn (l : Line) : isAllBlank (addReturn l) = isAllBlank l := by
  rw [addReturn, isAllBlank_append, isAllBlank_return, Bool.and_true]

theorem isAllBlank_of_pieceOf (h : PieceOf piece l) : isAllBlank piece = isAllBlank l := by
  rcases h with rfl | rfl
  · rfl
  · exact isAllBlank_addReturn l

/-- Blank lines at the end are dropped from both in the same place. -/
theorem returned_dropBlankTail (h : Returned raw ls) :
    Returned (dropBlankTail raw) (dropBlankTail ls) := by
  obtain ⟨front, last, last', rfl, rfl, hlast⟩ := h
  have hsame := isAllBlank_of_pieceOf hlast
  cases hblank : isAllBlank last with
  | false =>
      rw [hblank] at hsame
      rw [dropBlankTail_append hsame (by simp), dropBlankTail_append hblank (by simp)]
      exact ⟨front, last, last', rfl, rfl, hlast⟩
  | true =>
      rw [hblank] at hsame
      cases front with
      | nil => exact ⟨[], last, last', rfl, rfl, hlast⟩
      | cons first front =>
          -- The last line is dropped, and the first one that stays has its carriage return.
          have hdrop : (fun l => isAllBlank l) ∘ addReturn = isAllBlank :=
            funext isAllBlank_addReturn
          have hraw : dropBlankTail ((first :: front).map addReturn ++ [last']) =
              (first :: (front.reverse.dropWhile isAllBlank).reverse).map addReturn := by
            simp [dropBlankTail, hsame, ← List.map_reverse, List.dropWhile_map, hdrop]
          have hls : dropBlankTail (first :: front ++ [last]) =
              first :: (front.reverse.dropWhile isAllBlank).reverse := by
            simp [dropBlankTail, hblank]
          rw [hraw, hls]
          exact returned_map (List.cons_ne_nil _ _)

theorem pieceOf_lineAt (h : List.Forall₂ PieceOf raw ls) (i : Nat) :
    PieceOf (lineAt raw i) (lineAt ls i) := by
  induction h generalizing i with
  | nil => exact Or.inl rfl
  | cons hl _ ih =>
      cases i with
      | zero => exact hl
      | succ i => exact ih i

/-- No line in the place of a description is the last one. -/
theorem descriptionPart_of_returned (h : Returned raw ls) :
    descriptionPart raw = (descriptionPart ls).map addReturn := by
  obtain ⟨front, last, last', rfl, rfl, -⟩ := h
  simp [descriptionPart, List.take_append_of_le_length]

/-! ### Clauses that do not mind -/

theorem updateIssue?_of_pieceOf (h : PieceOf piece l) :
    updateIssue? g piece = updateIssue? g l := by
  have hiff : g.IsUpdateLine piece ↔ g.IsUpdateLine l :=
    h.iff (fun _ hl => hl.append_blank isAllBlank_return)
      fun _ hl => hl.of_append_blank isAllBlank_return
  rw [← Grammar.isUpdateLine_iff, ← Grammar.isUpdateLine_iff, ← Bool.eq_iff_iff] at hiff
  rw [updateIssue?, updateIssue?, hiff]

theorem fileNameIssue?_of_pieceOf (h : PieceOf piece l) :
    fileNameIssue? name piece = fileNameIssue? name l := by
  have hiff : fileName? piece = some name.toList ↔ fileName? l = some name.toList :=
    h.iff (p := (fileName? · = some name.toList))
      (fun _ hl => fileName?_append_blank isAllBlank_return hl)
      fun _ hl => fileName?_of_append_blank isAllBlank_return hl
  have hsame : isFileNameOf name piece = isFileNameOf name l := decide_eq_decide.2 hiff
  rw [fileNameIssue?, fileNameIssue?, hsame]

theorem authorIssue?_of_pieceOf (h : PieceOf piece l) : authorIssue? piece = authorIssue? l := by
  have hiff : IsAuthorLine piece ↔ IsAuthorLine l :=
    h.iff (fun _ hl => hl.append_blank isAllBlank_return)
      fun _ hl => hl.of_append_blank isAllBlank_return
  rw [← isAuthor_iff, ← isAuthor_iff, ← Bool.eq_iff_iff] at hiff
  rw [authorIssue?, authorIssue?, hiff]

/-! ### The clause that does -/

/-- One character more would make it a description line. -/
def IsOneShort (l : Line) : Prop := ∃ t, l = " * ".toList ++ t ∧ t.length = 19 ∧ '\n' ∉ t

theorem isDescriptionLine_addReturn_iff :
    IsDescriptionLine (addReturn l) ↔ IsDescriptionLine l ∨ IsOneShort l := by
  constructor
  · intro h
    refine h.of_append_return.imp_right ?_
    rintro ⟨t, hlen, rfl⟩
    obtain ⟨t', heq, -, hfeed⟩ := h
    obtain rfl : t ++ ['\r'] = t' := by simpa [addReturn] using heq
    exact ⟨t, rfl, hlen, fun hmem => hfeed (List.mem_append_left _ hmem)⟩
  · rintro (h | ⟨t, rfl, hlen, hfeed⟩)
    · exact h.append_return
    · exact ⟨t ++ ['\r'], List.append_assoc .., by simp [hlen], by simpa using hfeed⟩

/-- The first line that is no description line is one character short of it. -/
def FaultIsShort (description : List Line) : Prop :=
  ∃ l, description.find? (!isDescription ·) = some l ∧ IsOneShort l

/-- A test that holds less often finds the same place exactly if it holds there. -/
theorem findIdx?_eq_findIdx?_iff {α : Type} {p q : α → Bool}
    (h : ∀ a, q a = true → p a = true) (as : List α) :
    as.findIdx? q = as.findIdx? p ↔ ∀ a, as.find? p = some a → q a = true := by
  induction as with
  | nil => simp
  | cons a as ih =>
      cases hp : p a with
      | true =>
          cases hq : q a with
          | true => simp [List.findIdx?_cons, hp, hq]
          | false => simp [List.findIdx?_cons, hp, hq]
      | false =>
          have hq : q a = false := by
            rw [← Bool.not_eq_true]
            intro hq
            rw [h a hq] at hp
            exact absurd hp (by simp)
          rw [List.findIdx?_cons, List.findIdx?_cons, hq, hp, List.find?_cons_of_neg (by simp [hp]),
            ← ih]
          exact Option.map_inj_right (by simp)

theorem findIdx?_map_addReturn_eq_iff (description : List Line) :
    (description.map addReturn).findIdx? (!isDescription ·) =
        description.findIdx? (!isDescription ·) ↔ ¬ FaultIsShort description := by
  have hweaker (l : Line) (h : (!isDescription (addReturn l)) = true) :
      (!isDescription l) = true := by
    rw [Bool.not_eq_true', ← Bool.not_eq_true, isDescription_iff] at h ⊢
    exact fun hl => h hl.append_return
  rw [List.findIdx?_map, Function.comp_def, findIdx?_eq_findIdx?_iff hweaker, FaultIsShort,
    not_exists]
  refine forall_congr' fun l => ?_
  rw [not_and, Bool.not_eq_true', ← Bool.not_eq_true, isDescription_iff,
    isDescriptionLine_addReturn_iff, not_or]
  -- A line that is found is no description line, so it can only be short.
  refine forall_congr' fun hfind => and_iff_right ?_
  simpa [← isDescription_iff] using List.find?_some hfind

theorem descriptionPart_of_length_lt (h : ls.length < minLines) : descriptionPart ls = [] := by
  unfold descriptionPart
  rw [List.drop_eq_nil_iff, List.length_take]
  simp only [minLines, headLength] at h ⊢
  omega

/-- Carriage returns change what is found in a description exactly if its first fault is that it
is too short by one. -/
theorem Returned.descriptionBlockIssue?_eq_iff (h : Returned raw ls) :
    descriptionBlockIssue? raw = descriptionBlockIssue? ls ↔
      ¬ FaultIsShort (descriptionPart ls) := by
  have hlength : raw.length = ls.length := h.forall₂.length_eq
  rw [← findIdx?_map_addReturn_eq_iff, ← descriptionPart_of_returned h]
  by_cases hshort : ls.length < minLines
  · have hraw : raw.length < minLines := hlength ▸ hshort
    rw [descriptionPart_of_length_lt hraw, descriptionPart_of_length_lt hshort]
    simp [descriptionBlockIssue?, hraw, hshort]
  · unfold descriptionBlockIssue?
    rw [hlength, if_neg hshort, if_neg hshort]
    refine Option.map_inj_right fun i j hij => ?_
    simpa using congrArg Issue.line hij

theorem Returned.blamed_eq_iff (h : Returned raw ls) (g : Grammar) (name : String) :
    blamed g name raw = blamed g name ls ↔ ¬ FaultIsShort (descriptionPart ls) := by
  rw [← h.descriptionBlockIssue?_eq_iff]
  unfold blamed
  dsimp only
  rw [h.forall₂.length_eq, updateIssue?_of_pieceOf (pieceOf_lineAt h.forall₂ 1),
    fileNameIssue?_of_pieceOf (pieceOf_lineAt h.forall₂ 2),
    authorIssue?_of_pieceOf (pieceOf_lineAt h.forall₂ _), List.append_cancel_right_eq,
    List.append_cancel_left_eq]
  cases descriptionBlockIssue? raw <;> cases descriptionBlockIssue? ls <;> simp

/-! ### The checks of a header -/

/-- The text with a carriage return in front of every line feed. -/
def returned (text : String) : String := String.ofList (withReturns text.toList)

theorem returned_pieces (text : String) :
    Returned (pieces (returned text).toList) (pieces text.toList) := by
  rw [returned, String.toList_ofList, pieces_withReturns]
  exact returned_addReturns (splitAt_ne_nil _ _)

theorem parse_returned {text : String} (hreturn : '\r' ∉ text.toList) :
    Layout.parse g (returned text) = Layout.parse g text := by
  rw [Layout.parse, Layout.parse, returned, String.toList_ofList, lines_withReturns hreturn]

theorem attributeClauses_returned_iff (text : String) :
    attributeClauses g name (returned text) = attributeClauses g name text ↔
      ¬ FaultIsShort (descriptionPart (dropBlankTail (pieces text.toList))) := by
  have hpieces := returned_dropBlankTail (returned_pieces text)
  have hlength := hpieces.forall₂.length_eq
  by_cases hshort : (dropBlankTail (pieces text.toList)).length < minLines
  · have hshort' := hlength.trans_lt hshort
    have hrun : (attributeClauses g name (returned text)).Yields _ _ :=
      attributeClauses_yields_tooFewLines hshort'
    rw [hrun.eq_iff (attributeClauses_yields_tooFewLines hshort),
      descriptionPart_of_length_lt hshort]
    simp [FaultIsShort]
  · have hlong := Nat.not_lt.1 hshort
    have hlong' := hlong.trans_eq hlength.symm
    have hrun : (attributeClauses g name (returned text)).Yields _ _ :=
      attributeClauses_yields_blamed hlong'
    rw [hrun.eq_iff (attributeClauses_yields_blamed hlong), ← hpieces.blamed_eq_iff g name]
    exact ⟨And.right, fun h => ⟨congrArg List.isEmpty h, h⟩⟩

/-- **Line ends.** A text without carriage returns, and the same text with one in front of every
line feed, are the same to the gate and to the reading of values. They are the same to the check
of a description, and to the checks by position, unless the first fault of the description is a
line that is too short by one character, and then they never are. -/
theorem returns_matter_iff (g : Grammar) (name text : String) (hreturn : '\r' ∉ text.toList) :
    validate g (returned text) = validate g text ∧
    readHeader g (returned text) = readHeader g text ∧
    (checkDescriptionBlock (returned text) = checkDescriptionBlock text ↔
      ¬ FaultIsShort (descriptionPart (pieces text.toList))) ∧
    (attributeClauses g name (returned text) = attributeClauses g name text ↔
      ¬ FaultIsShort (descriptionPart (dropBlankTail (pieces text.toList)))) := by
  refine ⟨?_, ?_, ?_, attributeClauses_returned_iff text⟩
  · rw [validate, validate, parse_returned hreturn]
  · rw [readHeader, readHeader, parse_returned hreturn]
  · rw [checkDescriptionBlock, checkDescriptionBlock, Check.passes_inj]
    exact (returned_pieces text).descriptionBlockIssue?_eq_iff

/-- The header that is shown as an example is the same with either line end. -/
theorem returns_matter_not_exampleHeader :
    '\r' ∉ IssueKind.exampleHeader.toList ∧
    checkDescriptionBlock (returned IssueKind.exampleHeader) =
      checkDescriptionBlock IssueKind.exampleHeader ∧
    attributeClauses {} "TestFile" (returned IssueKind.exampleHeader) =
      attributeClauses {} "TestFile" IssueKind.exampleHeader := by
  obtain ⟨hreturn, hfind, hfind'⟩ : '\r' ∉ IssueKind.exampleHeader.toList ∧
      (descriptionPart (pieces IssueKind.exampleHeader.toList)).find? (!isDescription ·) = none ∧
      (descriptionPart (dropBlankTail (pieces IssueKind.exampleHeader.toList))).find?
        (!isDescription ·) = none := by
    simp only [IssueKind.exampleHeader, String.toList_append]
    decide +kernel
  obtain ⟨-, -, hblock, hclauses⟩ := returns_matter_iff {} "TestFile" _ hreturn
  refine ⟨hreturn, hblock.2 ?_, hclauses.2 ?_⟩
  · simp [FaultIsShort, hfind]
  · simp [FaultIsShort, hfind']

/-- A description of nineteen characters is at fault, and with carriage returns it is not. -/
theorem returns_hide_shortHeader :
    '\r' ∉ shortHeader.toList ∧
    (checkDescriptionBlock shortHeader).Yields false [{ kind := .description, line := some 3 }] ∧
    (checkDescriptionBlock (returned shortHeader)).Yields true [] ∧
    (attributeClauses {} "Main" shortHeader).Yields false
      [{ kind := .description, line := some 3 }] ∧
    (attributeClauses {} "Main" (returned shortHeader)).Yields true [] := by
  obtain ⟨cs, htext, hreturn, ⟨hblock, hlength, hblamed⟩, hblock', hlength', hblamed'⟩ :
      ∃ cs, shortHeader = String.ofList cs ∧ '\r' ∉ cs ∧
        (descriptionBlockIssue? (pieces cs) = some { kind := .description, line := some 3 } ∧
          minLines ≤ (dropBlankTail (pieces cs)).length ∧
          blamed {} "Main" (dropBlankTail (pieces cs)) =
            [{ kind := .description, line := some 3 }]) ∧
        descriptionBlockIssue? (pieces (withReturns cs)) = none ∧
        minLines ≤ (dropBlankTail (pieces (withReturns cs))).length ∧
        blamed {} "Main" (dropBlankTail (pieces (withReturns cs))) = [] := by
    unfold shortHeader
    exact ⟨_, append_eq_ofList rfl rfl, by decide +kernel, by decide +kernel, by decide +kernel⟩
  have hplain : shortHeader.toList = cs := by rw [htext, String.toList_ofList]
  have hreturned : (returned shortHeader).toList = withReturns cs := by
    rw [returned, String.toList_ofList, hplain]
  rw [← hplain] at hreturn hblock hlength hblamed
  rw [← hreturned] at hblock' hlength' hblamed'
  have hrun : (checkDescriptionBlock shortHeader).Yields _ _ := Check.yields_passes _
  have hrun' : (checkDescriptionBlock (returned shortHeader)).Yields _ _ := Check.yields_passes _
  have hclauses : (attributeClauses {} "Main" shortHeader).Yields _ _ :=
    attributeClauses_yields_blamed hlength
  have hclauses' : (attributeClauses {} "Main" (returned shortHeader)).Yields _ _ :=
    attributeClauses_yields_blamed hlength'
  rw [hblock] at hrun
  rw [hblock'] at hrun'
  rw [hblamed] at hclauses
  rw [hblamed'] at hclauses'
  exact ⟨hreturn, hrun, hrun', hclauses, hclauses'⟩

end Header

end DocLint

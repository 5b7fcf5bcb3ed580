import DocLint.Proofs.Header.Overlooked

/-!
# Faults: exactly the clauses that are not well formed at their places

The check by position goes through the clauses in the order of their lines, and the description
lines among them are found by counting from both ends. `Fault` says of an issue that its clause
is at fault, by the indices of the lines alone. On a list of at least five lines the issues that
are reported are the faults (`mem_blamed_iff`), and their lines increase
(`exists_places_of_blamed`). These two facts determine the list of issues.

The lines that are counted are those of `UpToBlankTail`.
-/

namespace DocLint.Header

open Text

variable {g : Grammar} {name : String} {ls : List Line} {issue : Issue}

/-! ### The lines that are counted -/

/-- The lines between the line feeds of a text, up to the last one that is not blank. The first
line counts even if it is blank. -/
structure UpToBlankTail (s : List Char) (ls : List Line) : Prop where
  ne_nil : ls ≠ []
  pieces_eq : ∃ blanks, pieces s = ls ++ blanks ∧ ∀ l ∈ blanks, isAllBlank l = true
  last_visible : ∀ front last, ls = front ++ [last] → front ≠ [] → isAllBlank last = false

theorem upToBlankTail_dropBlankTail (s : List Char) :
    UpToBlankTail s (dropBlankTail (pieces s)) := by
  obtain ⟨first, more, hs⟩ := List.exists_cons_of_ne_nil (splitAt_ne_nil '\n' s)
  have hs : pieces s = first :: more := hs
  have hdrop : dropBlankTail (pieces s) = first :: more.rdropWhile isAllBlank := by
    rw [hs]
    rfl
  rw [hdrop]
  refine ⟨by simp, ⟨more.rtakeWhile isAllBlank, ?_, ?_⟩, ?_⟩
  · rw [hs, List.cons_append, List.rdropWhile_append_rtakeWhile]
  · exact fun l hl => List.mem_rtakeWhile_imp hl
  · intro front last hlast hfront
    obtain ⟨first', front, rfl⟩ := List.exists_cons_of_ne_nil hfront
    have htail : more.rdropWhile isAllBlank = front ++ [last] := (List.cons.inj hlast).2
    have hne : more.rdropWhile isAllBlank ≠ [] := by simp [htail]
    have hvisible := List.rdropWhile_last_not isAllBlank more hne
    simpa [htail] using hvisible

theorem upToBlankTail_iff {s : List Char} :
    UpToBlankTail s ls ↔ ls = dropBlankTail (pieces s) := by
  constructor
  · rintro ⟨hne, ⟨blanks, hs, hblanks⟩, hlast⟩
    obtain ⟨front, last, rfl⟩ := List.eq_nil_or_concat' ls |>.resolve_left hne
    rw [hs, List.append_assoc, List.singleton_append]
    by_cases hfront : front = []
    · -- The only line is kept without a look at it.
      have hnil : blanks.rdropWhile isAllBlank = [] := List.rdropWhile_eq_nil_iff.2 hblanks
      subst hfront
      show [last] = last :: blanks.rdropWhile isAllBlank
      rw [hnil]
    · exact (dropBlankTail_append (hlast front last rfl hfront) hblanks).symm
  · rintro rfl
    exact upToBlankTail_dropBlankTail s

theorem not_mem_of_mem_dropBlankTail {s : List Char} {l : Line}
    (hl : l ∈ dropBlankTail (pieces s)) : '\n' ∉ l := by
  obtain ⟨blanks, hs, -⟩ := (upToBlankTail_dropBlankTail s).pieces_eq
  have hpiece : l ∈ pieces s := by
    rw [hs]
    exact List.mem_append_left blanks hl
  exact not_mem_of_mem_splitAt hpiece

/-! ### Faults -/

/-- The issue is about a clause that is not well formed at its place among the lines. Of the
description lines, which are all but the first three and the last two, it is the first. -/
inductive Fault (g : Grammar) (name : String) (ls : List Line) : Issue → Prop
  | updateLine {l : Line} : ls[1]? = some l → ¬ g.IsUpdateLine l →
      Fault g name ls { kind := .updateLine, line := some 1, sample := some g.sampleUpdateLine }
  | fileName {l : Line} : ls[2]? = some l → ¬ (IsFileNameLine l ∧ NamesFile name l) →
      Fault g name ls (otherFile name)
  | description {i : Nat} {l : Line} : 3 ≤ i → i + 3 ≤ ls.length → ls[i]? = some l →
      ¬ IsDescriptionLine l →
      (∀ j l', 3 ≤ j → j < i → ls[j]? = some l' → IsDescriptionLine l') →
      Fault g name ls { kind := .description, line := some i }
  | author {i : Nat} {l : Line} : i + 2 = ls.length → ls[i]? = some l → ¬ IsAuthorLine l →
      Fault g name ls { kind := .author, line := some i }

theorem isFileNameOf_iff {l : Line} :
    isFileNameOf name l = true ↔ IsFileNameLine l ∧ NamesFile name l := by
  constructor
  · intro h
    have hread : fileName? l = some name.toList := of_decide_eq_true h
    have hline : IsFileNameLine l := isFileName_iff.1 (by rw [isFileName, hread]; rfl)
    exact ⟨hline, (isFileNameOf_iff_namesFile hline name).1 h⟩
  · rintro ⟨hline, hname⟩
    exact (isFileNameOf_iff_namesFile hline name).2 hname

/-! ### The issue of each clause -/

theorem mem_updateIssue?_iff {l : Line} {n : Nat} :
    issue ∈ ((updateIssue? g l).map (·.atLine n)).toList ↔ ¬ g.IsUpdateLine l ∧
      { kind := .updateLine, line := some n, sample := some g.sampleUpdateLine } = issue := by
  rw [← Grammar.isUpdateLine_iff, updateIssue?]
  split <;> simp [*, Issue.atLine, eq_comm]

theorem mem_fileNameIssue?_iff {l : Line} :
    issue ∈ ((fileNameIssue? name l).map (·.atLine 2)).toList ↔
      ¬ (IsFileNameLine l ∧ NamesFile name l) ∧ otherFile name = issue := by
  rw [← isFileNameOf_iff, map_atLine_fileNameIssue?]
  split <;> simp [*, eq_comm]

theorem mem_authorIssue?_iff {l : Line} {n : Nat} :
    issue ∈ ((authorIssue? l).map (·.atLine n)).toList ↔ ¬ IsAuthorLine l ∧
      { kind := .author, line := some n } = issue := by
  rw [← isAuthor_iff, authorIssue?]
  split <;> simp [*, Issue.atLine, eq_comm]

/-- Of the description lines the first one at fault is blamed. -/
theorem mem_descriptionIssue?_iff {description : List Line} {n : Nat} :
    issue ∈ ((description.findIdx? (!isDescription ·)).map fun i =>
        ({ kind := .description, line := some (n + i) } : Issue)).toList ↔
      ∃ i, (∃ l, description[i]? = some l ∧ ¬ IsDescriptionLine l) ∧
        (∀ j l, j < i → description[j]? = some l → IsDescriptionLine l) ∧
        { kind := .description, line := some (n + i) } = issue := by
  simp only [Option.mem_toList, Option.map_eq_some_iff, List.findIdx?_eq_some_iff_getElem,
    ← isDescription_iff, List.getElem?_eq_some_iff]
  constructor
  · rintro ⟨i, ⟨hi, hfault, hbefore⟩, rfl⟩
    refine ⟨i, ⟨_, ⟨hi, rfl⟩, by simpa using hfault⟩, ?_, rfl⟩
    rintro j l hj ⟨hlength, rfl⟩
    simpa using hbefore j hj
  · rintro ⟨i, ⟨l, ⟨hi, rfl⟩, hfault⟩, hbefore, rfl⟩
    refine ⟨i, ⟨hi, by simpa using hfault, ?_⟩, rfl⟩
    intro j hj
    simpa using hbefore j _ hj ⟨by omega, rfl⟩

/-! ### All issues -/

section Places

theorem length_places (start update fileName : Line) (description : List Line)
    (author last : Line) :
    (start :: update :: fileName :: (description ++ [author, last])).length =
      description.length + 5 := by
  simp

variable {start update fileName author last : Line} {description : List Line}

theorem getElem?_description {i : Nat} (hi : i < description.length) :
    (start :: update :: fileName :: (description ++ [author, last]))[3 + i]? =
      description[i]? := by
  simp [Nat.add_comm 3, List.getElem?_append_left hi]

theorem getElem?_author :
    (start :: update :: fileName :: (description ++ [author, last]))[3 + description.length]? =
      some author := by
  simp [Nat.add_comm 3]

end Places

theorem mem_blamed_iff (h : minLines ≤ ls.length) :
    issue ∈ blamed g name ls ↔ Fault g name ls issue := by
  obtain ⟨start, update, fileName, description, author, last, rfl⟩ := exists_places h
  have hlength := length_places start update fileName description author last
  have hhead : headLength = 3 := rfl
  rw [blamed_positions, hhead, List.mem_append, List.mem_append, List.mem_append,
    mem_updateIssue?_iff, mem_fileNameIssue?_iff, mem_descriptionIssue?_iff, mem_authorIssue?_iff]
  constructor
  · rintro (((⟨hfault, rfl⟩ | ⟨hfault, rfl⟩) | ⟨i, ⟨l, hl, hfault⟩, hbefore, rfl⟩) | ⟨hfault, rfl⟩)
    · exact .updateLine rfl hfault
    · exact .fileName rfl hfault
    · have hi : i < description.length := (List.getElem?_eq_some_iff.1 hl).1
      refine .description (by omega) (by omega) ((getElem?_description hi).trans hl) hfault ?_
      intro j l' hfirst hj hl'
      obtain ⟨k, rfl⟩ := Nat.exists_eq_add_of_le hfirst
      rw [getElem?_description (by omega)] at hl'
      exact hbefore k l' (by omega) hl'
    · exact .author (by omega) getElem?_author hfault
  · intro h
    cases h with
    | updateLine hl hfault =>
        obtain rfl := Option.some.inj hl
        exact .inl (.inl (.inl ⟨hfault, rfl⟩))
    | fileName hl hfault =>
        obtain rfl := Option.some.inj hl
        exact .inl (.inl (.inr ⟨hfault, rfl⟩))
    | @description i l hfirst hlast hl hfault hbefore =>
        obtain ⟨k, rfl⟩ := Nat.exists_eq_add_of_le hfirst
        rw [getElem?_description (by omega)] at hl
        refine .inl (.inr ⟨k, ⟨l, hl, hfault⟩, ?_, rfl⟩)
        intro j l' hj hl'
        exact hbefore (3 + j) l' (by omega) (by omega)
          ((getElem?_description (by omega)).trans hl')
    | @author i l hi hl hfault =>
        obtain rfl : i = 3 + description.length := by omega
        rw [getElem?_author] at hl
        obtain rfl := Option.some.inj hl
        exact .inr ⟨hfault, rfl⟩

/-! ### The order of the issues -/

theorem sublist_atLine (issue? : Option Issue) (n : Nat) :
    ((issue?.map (·.atLine n)).toList.map (·.line)).Sublist [some n] := by
  cases issue? with
  | none => exact List.nil_sublist _
  | some issue => exact List.Sublist.refl _

/-- Each clause is blamed once at most, and the clauses are at increasing lines. -/
theorem exists_sublist_of_blamed (g : Grammar) (name : String) (h : minLines ≤ ls.length) :
    ∃ lines : List Nat, ((blamed g name ls).map (·.line)).Sublist (lines.map some) ∧
      lines.Pairwise (· < ·) ∧ ∀ n ∈ lines, n < ls.length := by
  have hplaces (n : Nat) : [1, 2, headLength + n].Pairwise (· < ·) ∧
      ∀ place ∈ [1, 2, headLength + n], place < n + 5 := by
    grind [headLength]
  have hplaces' {i n : Nat} (hi : i < n) : [1, 2, headLength + i, headLength + n].Pairwise (· < ·) ∧
      ∀ place ∈ [1, 2, headLength + i, headLength + n], place < n + 5 := by
    grind [headLength]
  obtain ⟨start, update, fileName, description, author, last, rfl⟩ := exists_places h
  have hhead := (sublist_atLine (updateIssue? g update) 1).append
    (sublist_atLine (fileNameIssue? name fileName) 2)
  have hauthor := sublist_atLine (authorIssue? author) (headLength + description.length)
  rw [blamed_positions, length_places]
  simp only [List.map_append]
  cases hfind : description.findIdx? (!isDescription ·) with
  | none =>
      exact ⟨[1, 2, headLength + description.length],
        (hhead.append (List.Sublist.refl [])).append hauthor, hplaces description.length⟩
  | some i =>
      have hi : i < description.length := (List.findIdx?_eq_some_iff_getElem.1 hfind).1
      exact ⟨[1, 2, headLength + i, headLength + description.length],
        (hhead.append (List.Sublist.refl [some (headLength + i)])).append hauthor, hplaces' hi⟩

theorem exists_places_of_blamed (g : Grammar) (name : String) (h : minLines ≤ ls.length) :
    ∃ places : List Nat, (blamed g name ls).map (·.line) = places.map some ∧
      places.Pairwise (· < ·) ∧ ∀ n ∈ places, n < ls.length := by
  obtain ⟨lines, hsub, hincreasing, hbound⟩ := exists_sublist_of_blamed g name h
  obtain ⟨places, hplaces, heq⟩ := List.sublist_map_iff.1 hsub
  exact ⟨places, heq, hincreasing.sublist hplaces, fun n hn => hbound n (hplaces.subset hn)⟩

/-! ### The description lines on their own -/

theorem filter_atLine {issue? : Option Issue} {kind : IssueKind} (n : Nat)
    (h : ∀ issue ∈ issue?, issue.kind ≠ kind) :
    (issue?.map (·.atLine n)).toList.filter (·.kind = kind) = [] := by
  cases issue? with
  | none => rfl
  | some issue => exact List.filter_eq_nil_iff.2 (by simpa [Issue.atLine] using h)

/-- Only the check of the description lines blames the description. -/
theorem filter_blamed_description (g : Grammar) (name : String) (h : minLines ≤ ls.length) :
    (blamed g name ls).filter (·.kind = .description) = (descriptionBlockIssue? ls).toList := by
  have hupdate (l : Line) : ∀ issue ∈ updateIssue? g l, issue.kind ≠ .description := by
    unfold updateIssue?
    split <;> simp
  have hfileName (l : Line) : ∀ issue ∈ fileNameIssue? name l, issue.kind ≠ .description := by
    unfold fileNameIssue?
    split <;> simp
  have hauthor (l : Line) : ∀ issue ∈ authorIssue? l, issue.kind ≠ .description := by
    unfold authorIssue?
    split <;> simp
  have hdescription : ∀ issue ∈ (descriptionBlockIssue? ls).toList, issue.kind = .description := by
    intro issue hissue
    rw [descriptionBlockIssue?, if_neg (Nat.not_lt.2 h), Option.mem_toList] at hissue
    obtain ⟨i, -, rfl⟩ := Option.map_eq_some_iff.1 hissue
    rfl
  simp only [blamed, List.filter_append]
  rw [filter_atLine 1 (hupdate _), filter_atLine 2 (hfileName _), filter_atLine _ (hauthor _),
    List.nil_append, List.nil_append, List.append_nil]
  exact List.filter_eq_self.2 fun issue hissue => decide_eq_true (hdescription issue hissue)

/-- **What the check by position reports.** Let `ls` be the lines of a text up to the last one
that is not blank. If they are fewer than five, this is all that is reported. Otherwise exactly
the faults of the lines are reported, in the order of their lines and each of them once, and the
check passes if there are none. The faults of the description are those that are found if these
lines, put together again, are checked for their description alone. -/
theorem attributeClauses_reports_faults (g : Grammar) (name text : String) :
    ∃ ls, (∀ ls', UpToBlankTail text.toList ls' ↔ ls' = ls) ∧
      (ls.length < 5 →
        (attributeClauses g name text).Yields false [{ kind := .tooFewLines }]) ∧
      (5 ≤ ls.length → ∃ issues, (attributeClauses g name text).Yields issues.isEmpty issues ∧
        (∀ issue, issue ∈ issues ↔ Fault g name ls issue) ∧
        (∃ places : List Nat, issues.map (·.line) = places.map some ∧
          places.Pairwise (· < ·) ∧ ∀ n ∈ places, n < ls.length) ∧
        ∃ found, found = issues.filter (·.kind = .description) ∧
          (checkDescriptionBlock (String.ofList (join ['\n'] ls))).Yields found.isEmpty found) := by
  refine ⟨dropBlankTail (pieces text.toList), fun _ => upToBlankTail_iff,
    attributeClauses_yields_tooFewLines, ?_⟩
  intro hlength
  refine ⟨_, attributeClauses_yields_blamed hlength, fun _ => mem_blamed_iff hlength,
    exists_places_of_blamed g name hlength, _, rfl, ?_⟩
  have hne := (upToBlankTail_dropBlankTail text.toList).ne_nil
  rw [filter_blamed_description g name hlength, checkDescriptionBlock, String.toList_ofList,
    pieces_join hne fun _ hl => not_mem_of_mem_dropBlankTail hl]
  cases hfound : descriptionBlockIssue? (dropBlankTail (pieces text.toList)) with
  | none => exact Check.yields_passes none
  | some issue => exact Check.yields_passes (some issue)

end DocLint.Header

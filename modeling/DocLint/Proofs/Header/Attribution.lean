import DocLint.Header.Check
import DocLint.Proofs.Check
import DocLint.Proofs.Header.Form

/-!
# Attribution: the checks by position against the header language

`attributeClauses` looks at fixed places: the lines with index one and two, the lines between
them and the last two, and the line before the last. It cuts the text into pieces and not into
lines, so it sees carriage returns that the gate does not see, and it counts from the last line
that is not blank and not from the first closing marker.

The two views are brought together in two steps. The pieces of a header's text are a header
again, since no clause minds a carriage return at the end of its line (`Form.exists_pieces`).
And on a list of at least five lines the positions are those of a form, whatever the lines hold
(`blamed_positions`).
-/

namespace DocLint.Header

open Text

variable {g : Grammar}

/-! ### A carriage return spoils no clause -/

/-- The pieces of a header's lines are the lines of a header that names the same file. -/
theorem Form.exists_of_forall₂_pieceOf (h : Form g) {raw : List Line}
    (hraw : List.Forall₂ PieceOf raw h.lines) :
    ∃ h' : Form g, h'.lines = raw ∧ fileName? h'.fileName = fileName? h.fileName := by
  have hreturn : isAllBlank ['\r'] = true := by decide
  -- The pieces come one by one with the lines, so they are cut where the form is cut.
  rw [lines_eq_body, body, List.append_assoc] at hraw
  obtain ⟨start, raw₁, hstart, hraw₁, rfl⟩ := List.forall₂_cons_right_iff.1 hraw
  obtain ⟨update, raw₂, hupdate, hraw₂, rfl⟩ := List.forall₂_cons_right_iff.1 hraw₁
  obtain ⟨fileName, raw₃, hfileName, hraw₃, rfl⟩ := List.forall₂_cons_right_iff.1 hraw₂
  have hdescription := List.forall₂_take_append _ _ _ hraw₃
  obtain ⟨author, rest, hauthor, hrest, hdrop⟩ :=
    List.forall₂_cons_right_iff.1 (List.forall₂_drop_append _ _ _ hraw₃)
  obtain ⟨blockEnd, blanks, hblockEnd, hblanks, rfl⟩ := List.forall₂_cons_right_iff.1 hrest
  obtain ⟨name, hname⟩ := Option.isSome_iff_exists.1 (isFileName_iff.2 h.fileName_ok)
  have hname' : fileName? fileName = some name :=
    hfileName.imp (p := (fileName? · = some name))
      (fun _ hl => fileName?_append_blank hreturn hl) hname
  refine ⟨{
    start := start
    update := update
    fileName := fileName
    description := raw₃.take h.description.length
    author := author
    blockEnd := blockEnd
    blanks := blanks
    start_ok := hstart.imp (fun _ hl => hl.append_blank hreturn) h.start_ok
    update_ok := hupdate.imp (fun _ hl => hl.append_blank hreturn) h.update_ok
    fileName_ok := isFileName_iff.1 (Option.isSome_iff_exists.2 ⟨name, hname'⟩)
    description_ne_nil := ?_
    description_ok := forall_mem_of_forall₂_pieceOf (fun _ hl => hl.append_return) hdescription
      h.description_ok
    author_ok := hauthor.imp (fun _ hl => hl.append_blank hreturn) h.author_ok
    blockEnd_ok := hblockEnd.imp (fun _ hl => hl.append_blank hreturn) h.blockEnd_ok
    blanks_ok := forall_mem_of_forall₂_pieceOf (fun _ hl => by simp [hl, hreturn]) hblanks
      h.blanks_ok }, ?_, hname'.trans hname.symm⟩
  · intro hnil
    rw [hnil, List.forall₂_nil_left_iff] at hdescription
    exact h.description_ne_nil hdescription
  · rw [lines_eq_body, body, List.append_assoc]
    show start :: update :: fileName :: (raw₃.take h.description.length ++
      author :: blockEnd :: blanks) = _
    rw [← hdrop, List.take_append_drop]

/-- The form with more blank lines after it. -/
def Form.appendBlanks (h : Form g) (tail : List Line) (htail : ∀ l ∈ tail, isAllBlank l = true) :
    Form g :=
  { h with
    blanks := h.blanks ++ tail
    blanks_ok := List.forall_mem_append.2 ⟨h.blanks_ok, htail⟩ }

theorem Form.lines_appendBlanks (h : Form g) {tail : List Line}
    (htail : ∀ l ∈ tail, isAllBlank l = true) :
    (h.appendBlanks tail htail).lines = h.lines ++ tail := by
  simp [Form.lines, Form.appendBlanks]

/-- The pieces of a text whose lines are a header are a header that names the same file. -/
theorem Form.exists_pieces (h : Form g) {s : List Char} (hlines : h.lines = Text.lines s) :
    ∃ h' : Form g, h'.lines = pieces s ∧ fileName? h'.fileName = fileName? h.fileName := by
  obtain ⟨raw, tail, hpieces, hraw, htail⟩ := exists_pieces_append s
  rw [← hlines] at hraw
  obtain ⟨h', rfl, hname⟩ := h.exists_of_forall₂_pieceOf hraw
  have hblank : ∀ l ∈ tail, isAllBlank l = true := by
    intro l hl
    rw [htail l hl]
    rfl
  exact ⟨h'.appendBlanks tail hblank, by rw [lines_appendBlanks, hpieces], hname⟩

/-! ### The lines that are looked at -/

/-- Blank lines after a visible line are dropped, and nothing else. -/
theorem dropBlankTail_append {front blanks : List Line} {l : Line} (hl : isAllBlank l = false)
    (hblanks : ∀ b ∈ blanks, isAllBlank b = true) :
    dropBlankTail (front ++ l :: blanks) = front ++ [l] := by
  have hdrop (more : List Line) :
      ((more ++ l :: blanks).reverse.dropWhile isAllBlank).reverse = more ++ [l] := by
    rw [List.reverse_append, List.reverse_cons, List.append_assoc,
      List.dropWhile_append_of_pos (by simpa using hblanks), List.singleton_append,
      List.dropWhile_cons_of_neg (by simp [hl])]
    simp
  cases front with
  | nil =>
      -- The first line is kept without a look at it.
      have hnil : (blanks.reverse.dropWhile isAllBlank) = [] := by simpa using hblanks
      simp [dropBlankTail, hnil]
  | cons first more => simp only [List.cons_append, dropBlankTail, hdrop]

/-- Of the lines of a header those from the opening to the closing marker are looked at. -/
theorem Form.dropBlankTail_lines (h : Form g) :
    dropBlankTail h.lines =
      h.start :: h.update :: h.fileName :: (h.description ++ [h.author, h.blockEnd]) := by
  have hlines : h.lines = (h.start :: h.update :: h.fileName :: (h.description ++ [h.author])) ++
      h.blockEnd :: h.blanks := by
    simp [Form.lines]
  rw [hlines, dropBlankTail_append h.blockEnd_ok.isAllBlank_eq_false h.blanks_ok]
  simp

/-- The positions of a list of at least five lines, and what is blamed at each of them. The
description lines are all those between the first three and the last two. -/
theorem blamed_positions (g : Grammar) (name : String) (start update fileName author last : Line)
    (description : List Line) :
    blamed g name (start :: update :: fileName :: (description ++ [author, last])) =
      ((updateIssue? g update).map (·.atLine 1)).toList ++
      ((fileNameIssue? name fileName).map (·.atLine 2)).toList ++
      ((description.findIdx? (!isDescription ·)).map fun i =>
        ({ kind := .description, line := some (headLength + i) } : Issue)).toList ++
      ((authorIssue? author).map (·.atLine (headLength + description.length))).toList := by
  have hlength : (start :: update :: fileName :: (description ++ [author, last])).length - 2 =
      headLength + description.length := by
    simp [headLength]
    omega
  have hshort : ¬ (start :: update :: fileName :: (description ++ [author, last])).length <
      minLines := by
    simp [minLines]
  have hauthor : lineAt (start :: update :: fileName :: (description ++ [author, last]))
      (headLength + description.length) = author := by
    simp [lineAt, headLength, Nat.add_comm 3]
  have hdescription : descriptionPart
      (start :: update :: fileName :: (description ++ [author, last])) = description := by
    unfold descriptionPart
    rw [hlength]
    simp [headLength, Nat.add_comm 3]
  unfold blamed descriptionBlockIssue?
  dsimp only
  rw [if_neg hshort, hlength, hauthor, hdescription]
  rfl

/-- On a list of at least five lines, the check by position reports what is blamed. -/
theorem attributeClauses_yields_blamed {g : Grammar} {name text : String}
    (h : minLines ≤ (dropBlankTail (pieces text.toList)).length) :
    (attributeClauses g name text).Yields
      (blamed g name (dropBlankTail (pieces text.toList))).isEmpty
      (blamed g name (dropBlankTail (pieces text.toList))) := by
  unfold attributeClauses
  dsimp only
  rw [if_neg (Nat.not_lt.2 h)]
  -- What is blamed does not matter from here on, only that all of it is reported.
  generalize blamed g name (dropBlankTail (pieces text.toList)) = issues
  have hrun : Check.Yields (issues.forM Check.report >>= fun _ => pure issues.isEmpty)
      issues.isEmpty (issues ++ []) :=
    (Check.yields_forM_report issues).bind (Check.yields_pure issues.isEmpty)
  rw [List.append_nil] at hrun
  exact hrun

/-- On a shorter list, the number of the lines is all it reports. -/
theorem attributeClauses_yields_tooFewLines {g : Grammar} {name text : String}
    (h : (dropBlankTail (pieces text.toList)).length < minLines) :
    (attributeClauses g name text).Yields false [{ kind := .tooFewLines }] := by
  unfold attributeClauses
  dsimp only
  rw [if_pos h]
  exact (Check.yields_report _).bind (Check.yields_pure false)

/-- The issues about the clauses of a header in the file `name`, at whatever line. -/
inductive ClauseIssue (g : Grammar) (name : String) : Issue → Prop
  | tooFewLines : ClauseIssue g name { kind := .tooFewLines }
  | updateLine (line : Option Nat) :
      ClauseIssue g name { kind := .updateLine, line, sample := some g.sampleUpdateLine }
  | fileName (line : Option Nat) :
      ClauseIssue g name
        { kind := .fileName
          line
          detail := some ("expected \"" ++ name ++ ".kt\"")
          sample := some (" * " ++ name ++ ".kt") }
  | description (line : Option Nat) : ClauseIssue g name { kind := .description, line }
  | author (line : Option Nat) : ClauseIssue g name { kind := .author, line }

/-- Only clauses are blamed. -/
theorem clauseIssue_of_mem_blamed {g : Grammar} {name : String} {ls : List Line} {issue : Issue}
    (h : issue ∈ blamed g name ls) : ClauseIssue g name issue := by
  simp only [blamed, List.mem_append, Option.mem_toList, Option.map_eq_some_iff] at h
  rcases h with ((h | h) | h) | h
  · obtain ⟨blame, hblame, rfl⟩ := h
    cases (Option.ite_none_left_eq_some.1 hblame).2
    exact .updateLine (some 1)
  · obtain ⟨blame, hblame, rfl⟩ := h
    cases (Option.ite_none_left_eq_some.1 hblame).2
    exact .fileName (some 2)
  · unfold descriptionBlockIssue? at h
    split at h
    · cases h
      exact .tooFewLines
    · obtain ⟨i, -, rfl⟩ := Option.map_eq_some_iff.1 h
      exact .description (some (headLength + i))
  · obtain ⟨blame, hblame, rfl⟩ := h
    cases (Option.ite_none_left_eq_some.1 hblame).2
    exact .author (some (ls.length - 2))

/-- The issue is about the place of a clause: it has the kind of one, and says no more about an
author line than that it is not well formed. -/
def IsClauseIssue (issue : Issue) : Prop :=
  issue.kind ∈ [.tooFewLines, .updateLine, .fileName, .description, .author] ∧
    (issue.kind = .author → issue.detail = none)

theorem ClauseIssue.isClauseIssue {g : Grammar} {name : String} {issue : Issue}
    (h : ClauseIssue g name issue) : IsClauseIssue issue := by
  cases h <;> simp [IsClauseIssue]

/-- Whatever the lines are, the check by position reports issues about clauses only. -/
theorem clauseIssue_of_mem_attributeClauses {g : Grammar} {name text : String} {issue : Issue}
    (h : issue ∈ (attributeClauses g name text).onEmpty.2) : ClauseIssue g name issue := by
  by_cases hlength : (dropBlankTail (pieces text.toList)).length < minLines
  · rw [(attributeClauses_yields_tooFewLines hlength).onEmpty, List.mem_singleton] at h
    rw [h]
    exact .tooFewLines
  · rw [(attributeClauses_yields_blamed (Nat.not_lt.1 hlength)).onEmpty] at h
    exact clauseIssue_of_mem_blamed h

/-- The check by position reports issues about clauses only, and fails if there is one. -/
theorem exists_yields_attributeClauses (g : Grammar) (name text : String) :
    ∃ issues, (attributeClauses g name text).Yields issues.isEmpty issues ∧
      ∀ issue ∈ issues, IsClauseIssue issue := by
  by_cases hlength : (dropBlankTail (pieces text.toList)).length < minLines
  · refine ⟨[{ kind := .tooFewLines }], attributeClauses_yields_tooFewLines hlength, ?_⟩
    simp [IsClauseIssue]
  · exact ⟨_, attributeClauses_yields_blamed (Nat.not_lt.1 hlength),
      fun _ h => (clauseIssue_of_mem_blamed h).isClauseIssue⟩

/-! ### Headers that pass the gate -/

/-- The gate lets a text through exactly if its lines are those of a form. -/
theorem validate_eq_true_iff {g : Grammar} {text : String} :
    (validate g text).onEmpty.1 = true ↔ ∃ h : Form g, h.lines = lines text.toList := by
  unfold validate
  cases hparse : Layout.parse g text with
  | ok layout =>
      obtain ⟨h, hlines, -⟩ := ofLines_eq_ok_iff.1 hparse
      exact iff_of_true rfl ⟨h, hlines⟩
  | error stop => exact iff_of_false Bool.false_ne_true (not_exists_form_of_stop hparse)

/-- The issue of a header of another file than `name`, at the file-name line. -/
def otherFile (name : String) : Issue where
  kind := .fileName
  line := some 2
  detail := some ("expected \"" ++ name ++ ".kt\"")
  sample := some (" * " ++ name ++ ".kt")

theorem map_atLine_fileNameIssue? (name : String) (l : Line) :
    (fileNameIssue? name l).map (·.atLine 2) =
      if isFileNameOf name l then none else some (otherFile name) := by
  unfold fileNameIssue?
  split <;> rfl

/-- Of a header nothing is blamed but the name of the file. -/
theorem Form.blamed_lines (h : Form g) (name : String) :
    blamed g name (dropBlankTail h.lines) =
      if isFileNameOf name h.fileName then [] else [otherFile name] := by
  have hupdate : updateIssue? g h.update = none :=
    if_pos (Grammar.isUpdateLine_iff.2 h.update_ok)
  have hauthor : authorIssue? h.author = none := if_pos (isAuthor_iff.2 h.author_ok)
  have hdescription : h.description.findIdx? (!isDescription ·) = none := by
    rw [List.findIdx?_eq_none_iff]
    intro l hl
    rw [isDescription_iff.2 (h.description_ok l hl)]
    rfl
  rw [h.dropBlankTail_lines, blamed_positions, map_atLine_fileNameIssue?, hupdate, hauthor,
    hdescription]
  split <;> rfl

/-- A text whose lines are a header passes the check by position if it names the file, and
otherwise fails with the one issue. -/
theorem Form.yields_attributeClauses (h : Form g) {text : String}
    (hlines : h.lines = Text.lines text.toList) (name : String) :
    (attributeClauses g name text).Yields (isFileNameOf name h.fileName)
      (if isFileNameOf name h.fileName then [] else [otherFile name]) := by
  obtain ⟨h', hpieces, hname⟩ := h.exists_pieces hlines
  have hlength : minLines ≤ (dropBlankTail (pieces text.toList)).length := by
    rw [← hpieces, h'.dropBlankTail_lines]
    simp [minLines]
  have hsame : isFileNameOf name h'.fileName = isFileNameOf name h.fileName := by
    unfold isFileNameOf
    rw [hname]
  have hrun : (attributeClauses g name text).Yields _ _ := attributeClauses_yields_blamed hlength
  rw [← hpieces, h'.blamed_lines, hsame] at hrun
  split at hrun <;> simpa [*] using hrun

/-- **The gate and the checks by position agree.** On a text that passes the gate, whatever
its line ends and however many blank lines follow, the checks by position answer whether the
file-name line names the file. If it does they add nothing to the log, and otherwise they add
one issue, which points at the file-name line. -/
theorem attributeClauses_of_validate {g : Grammar} {text : String}
    (hvalid : (validate g text).onEmpty.1 = true) (name : String) :
    ∃ layout, Layout.parse g text = .ok layout ∧
      (NamesFile name layout.fileName → (attributeClauses g name text).Yields true []) ∧
      (¬ NamesFile name layout.fileName → ∃ issue, issue.kind = .fileName ∧
        issue.line = some 2 ∧ (attributeClauses g name text).Yields false [issue]) := by
  obtain ⟨h, hlines⟩ := validate_eq_true_iff.1 hvalid
  have hrun := h.yields_attributeClauses hlines name
  refine ⟨h.layout, h.parse_eq_ok hlines, ?_, ?_⟩
  · intro hname
    rw [(isFileNameOf_iff_namesFile h.fileName_ok name).2 hname] at hrun
    exact hrun
  · intro hname
    have hother : isFileNameOf name h.fileName = false :=
      Bool.eq_false_iff.2 (mt (isFileNameOf_iff_namesFile h.fileName_ok name).1 hname)
    rw [hother] at hrun
    exact ⟨otherFile name, rfl, rfl, hrun⟩

/-- A header with line ends of both kinds and blank lines after it. -/
def mixedHeader : String :=
  "/**\r\n" ++
  " * Copyright Acme, Inc. 2018. All rights reserved.\n" ++
  " * Main.kt \r\n" ++
  " * Starts the program and waits.\r\n" ++
  " * @author Ada Byron Feb 2, 2018\n" ++
  " */\r\n" ++
  "\r\n" ++
  "  \n"

theorem attributeClauses_mixedHeader :
    (validate {} mixedHeader).onEmpty.1 = true ∧
      (attributeClauses {} "Main" mixedHeader).Yields true [] ∧
      ∃ issue, issue.kind = .fileName ∧ issue.line = some 2 ∧
        (attributeClauses {} "Other" mixedHeader).Yields false [issue] := by
  have hline : (Layout.parse {} mixedHeader).toOption.map (·.fileName) =
      some " * Main.kt ".toList := by
    unfold Layout.parse mixedHeader
    simp only [String.toList_append]
    decide +kernel
  have hvalid : (validate {} mixedHeader).onEmpty.1 = true := by
    unfold validate
    cases hparse : Layout.parse {} mixedHeader with
    | ok layout => rfl
    | error stop =>
        rw [hparse] at hline
        exact absurd hline (by simp [Except.toOption])
  obtain ⟨layout, hparse, hsame, -⟩ := attributeClauses_of_validate hvalid "Main"
  obtain ⟨layout', hparse', -, hother⟩ := attributeClauses_of_validate hvalid "Other"
  obtain rfl : layout = layout' := Except.ok.inj (hparse.symm.trans hparse')
  have hfileName : layout.fileName = " * Main.kt ".toList := by
    rw [hparse] at hline
    exact Option.some.inj hline
  refine ⟨hvalid, hsame ⟨[' '], by decide, hfileName⟩, hother ?_⟩
  intro hname
  obtain ⟨w, -, hw⟩ := hname
  rw [hfileName] at hw
  exact absurd hw (by simp)

end DocLint.Header

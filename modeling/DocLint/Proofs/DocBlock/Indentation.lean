import DocLint.Proofs.DocBlock.Mismatch

/-!
# Indentation: what stands in front of the lines of a block

The documentation of a member is indented, so its lines start with spaces or tabs, but for the
first one, which starts at the marker. An `Indentation` has a run of spaces and tabs for every line
of a text, and `Indentation.indent` puts them in.

Behind the first line the matcher reads a line only from its first visible character on. So it
gives the same answer for the lines without their indentation (`matchClauses_map_trimStart`), down
to the clause and the line of a mismatch. The opening marker is different. It is compared with the
whole line up to white space at its end.
-/

namespace DocLint

open Text

/-! ### Indented texts -/

/-- A run of spaces and tabs for each line, counted from zero. -/
structure Indentation where
  run : Nat → List Char
  mem_run : ∀ n, ∀ c ∈ run n, c = ' ' ∨ c = '\t'

namespace Indentation

variable (i : Indentation)

/-- The pieces of a text from line `n` on, each with the run of its line in front. An empty last
piece is no line. -/
def indentPieces (n : Nat) : List Line → List Line
  | [] => []
  | piece :: more =>
      (if piece = [] ∧ more = [] then [] else i.run n ++ piece) :: indentPieces (n + 1) more

/-- The text with the run of each line in front of it. -/
def indent (text : String) : String :=
  String.ofList (join ['\n'] (i.indentPieces 0 (pieces text.toList)))

theorem isAllBlank_run (n : Nat) : isAllBlank (i.run n) = true := by
  rw [isAllBlank_eq_true_iff]
  intro c hc
  rcases i.mem_run n c hc with rfl | rfl <;> decide

theorem dropReturn_run_append (n : Nat) (l : Line) :
    dropReturn (i.run n ++ l) = i.run n ++ dropReturn l := by
  rcases List.eq_nil_or_concat l with rfl | ⟨front, last, rfl⟩
  · have hlast : (i.run n).getLast? ≠ some '\r' := by
      intro h
      rcases i.mem_run n _ (List.mem_of_getLast? h) with h | h <;> cases h
    simp [dropReturn, hlast]
  · rw [List.concat_eq_append, ← List.append_assoc]
    simp only [dropReturn, List.getLast?_concat, List.dropLast_concat]
    split <;> simp

theorem indentPieces_eq_nil_iff {n : Nat} {ps : List Line} : i.indentPieces n ps = [] ↔ ps = [] := by
  cases ps <;> simp [indentPieces]

theorem linesOfPieces_indentPieces (n : Nat) (ps : List Line) :
    linesOfPieces (i.indentPieces n ps) =
      (linesOfPieces ps).mapIdx fun k l => i.run (n + k) ++ l := by
  induction ps using linesOfPieces.induct generalizing n with
  | case1 => rfl
  | case2 => simp [indentPieces, linesOfPieces]
  | case3 last hlast => simp [indentPieces, linesOfPieces, hlast]
  | case4 piece more hmore ih =>
      have hmore : more ≠ [] := by simpa using hmore
      have hindented : i.indentPieces (n + 1) more ≠ [] := by
        rwa [ne_eq, indentPieces_eq_nil_iff]
      rw [indentPieces, if_neg (by simp [hmore]), linesOfPieces.eq_3 _ _ (by simpa using hindented),
        linesOfPieces.eq_3 _ _ (by simpa using hmore), ih, dropReturn_run_append]
      simp [Nat.add_assoc, Nat.add_comm 1]

theorem not_mem_of_mem_indentPieces (n : Nat) {ps : List Line} (hps : ∀ piece ∈ ps, '\n' ∉ piece) :
    ∀ piece ∈ i.indentPieces n ps, '\n' ∉ piece := by
  have hrun (n : Nat) : '\n' ∉ i.run n := by
    intro h
    rcases i.mem_run n _ h with h | h <;> cases h
  induction ps generalizing n with
  | nil => simp [indentPieces]
  | cons piece more ih =>
      obtain ⟨hpiece, hmore⟩ := List.forall_mem_cons.1 hps
      refine List.forall_mem_cons.2 ⟨?_, ih (n + 1) hmore⟩
      split
      · simp
      · simp [hrun, hpiece]

/-- The lines of the indented text are those of the text, each behind its run. -/
theorem lines_indent (text : String) :
    lines (i.indent text).toList = (lines text.toList).mapIdx fun n l => i.run n ++ l := by
  have hne : i.indentPieces 0 (pieces text.toList) ≠ [] := by
    rw [ne_eq, indentPieces_eq_nil_iff]
    exact splitAt_ne_nil _ _
  have hfeed : ∀ piece ∈ i.indentPieces 0 (pieces text.toList), '\n' ∉ piece :=
    i.not_mem_of_mem_indentPieces 0 fun piece hpiece => not_mem_of_mem_splitAt hpiece
  rw [indent, String.toList_ofList, lines, pieces_join hne hfeed, linesOfPieces_indentPieces]
  simp [lines]

end Indentation

/-! ### Lines without their indentation -/

theorem trimStart_trimStart (l : Line) : trimStart (trimStart l) = trimStart l :=
  List.dropWhile_idempotent isBlank l

theorem starText?_trimStart (l : Line) : starText? (trimStart l) = starText? l := by
  rw [starText?, trimStart_trimStart, starText?]

namespace DocClause

variable {clause : DocClause}

theorem opens_trimStart (h : clause ≠ .start) (l : Line) :
    clause.opens (trimStart l) = clause.opens l := by
  cases clause with
  | start => exact absurd rfl h
  | description => simp [opens, isFreeLine, starText?_trimStart]
  | param name => simp [opens, isParamLine, afterTag?, starText?_trimStart]
  | result type => simp [opens, isTagLine, afterTag?, starText?_trimStart]
  | throws => simp [opens, isTagLine, afterTag?, starText?_trimStart]
  | catches => simp [opens, isTagLine, afterTag?, starText?_trimStart]
  | blockEnd =>
      show isDocEnd (trimStart l) = isDocEnd l
      rw [isDocEnd, trim, trimStart_trimStart]
      rfl

theorem leaves_map_trimStart (clause : DocClause) (ls : List Line) :
    clause.leaves (ls.map trimStart) = (clause.leaves ls).map trimStart := by
  have hfree : isFreeLine ∘ trimStart = isFreeLine := by
    funext l
    simp [isFreeLine, starText?_trimStart]
  cases clause <;> simp [leaves, List.dropWhile_map, hfree]

theorem take?_map_trimStart (h : clause ≠ .start) (ls : List Line) :
    clause.take? (ls.map trimStart) = (clause.take? ls).map (List.map trimStart) := by
  cases ls with
  | nil => simp [take?_nil]
  | cons l more =>
      rw [List.map_cons, take?_cons, take?_cons, opens_trimStart h, leaves_map_trimStart]
      simp only [List.map_eq_nil_iff]
      split <;> rfl

end DocClause

/-- Clauses other than the start read a line from its first visible character on. -/
theorem matchClauses_map_trimStart {clauses : List DocClause} (h : .start ∉ clauses) (pos : Nat)
    (ls : List Line) :
    matchClauses clauses pos (ls.map trimStart) = matchClauses clauses pos ls := by
  induction clauses generalizing pos ls with
  | nil => rfl
  | cons clause more ih =>
      obtain ⟨hclause, hmore⟩ := not_or.1 (List.mem_cons.not.1 h)
      rw [matchClauses, matchClauses, DocClause.take?_map_trimStart (Ne.symm hclause)]
      cases clause.take? ls with
      | none => rfl
      | some rest => simp [ih hmore]

theorem Indentation.map_trimStart_mapIdx (i : Indentation) (ls : List Line) :
    (ls.mapIdx fun n l => i.run (n + 1) ++ l).map trimStart = ls.map trimStart := by
  refine List.ext_getElem (by simp) fun n h h' => ?_
  simp [trimStart_append_of_blank (i.isAllBlank_run (n + 1))]

namespace DocGrammar

theorem start_not_mem_tail (g : DocGrammar) :
    .start ∉ DocClause.description :: (g.tags ++ [.blockEnd]) := by
  have htags : .start ∉ g.tags := fun h => isTag_of_mem_tags h
  simp [htags]

theorem matchText_of_lines_eq_cons {g : DocGrammar} {text : String} {l : Line} {ls : List Line}
    (h : lines text.toList = l :: ls) :
    g.matchText text = if isDocStart l
      then matchClauses (.description :: (g.tags ++ [.blockEnd])) 1 ls else .error ⟨.start, 0⟩ := by
  rw [matchText, clauses_eq_tags, h, matchClauses]
  cases hl : isDocStart l with
  | true => simp [DocClause.take?, hl]
  | false => simp [DocClause.take?, hl]

theorem isDocStart_run_append (i : Indentation) (h : i.run 0 ≠ []) (l : Line) :
    isDocStart (i.run 0 ++ l) = false := by
  rw [← Bool.not_eq_true, isDocStart_iff]
  intro hstart
  obtain ⟨w, -, hw⟩ := hstart
  obtain ⟨c, more, hrun⟩ := List.exists_cons_of_ne_nil h
  have hc := i.mem_run 0 c (by simp [hrun])
  rw [hrun] at hw
  obtain ⟨rfl, -⟩ := List.cons.inj hw
  rcases hc with hc | hc <;> cases hc

/-- **Indentation.** Whatever spaces and tabs are put in front of the lines of a text, for the
grammar of any requirements the answer of the matcher depends on those in front of the first line
only. If there are none, the answer is that for the text itself, with the same clause and the same
line if it is a mismatch. If there are some, the text leaves the grammar at the opening marker. -/
theorem matchText_indent (steps : List Step) (i : Indentation) (text : String) :
    (ofSteps steps).matchText (i.indent text) =
      if i.run 0 = [] then (ofSteps steps).matchText text else .error ⟨.start, 0⟩ := by
  cases hlines : lines text.toList with
  | nil =>
      have hindent : lines (i.indent text).toList = [] := by rw [i.lines_indent, hlines]; rfl
      simp [matchText, hlines, hindent, clauses_eq_tags, matchClauses, DocClause.take?]
  | cons l ls =>
      have hindent : lines (i.indent text).toList =
          (i.run 0 ++ l) :: ls.mapIdx fun n l => i.run (n + 1) ++ l := by
        rw [i.lines_indent, hlines, List.mapIdx_cons]
      rw [matchText_of_lines_eq_cons hindent, matchText_of_lines_eq_cons hlines]
      by_cases hrun : i.run 0 = []
      · -- The other lines are the same from their first visible character on.
        have hstart := start_not_mem_tail (ofSteps steps)
        have htail := matchClauses_map_trimStart hstart 1 (ls.mapIdx fun n l => i.run (n + 1) ++ l)
        rw [i.map_trimStart_mapIdx, matchClauses_map_trimStart hstart] at htail
        rw [if_pos hrun, hrun, List.nil_append, htail]
      · simp [isDocStart_run_append i hrun, hrun]

/-- Every line behind the first one on a column of its own. -/
def staircase : Indentation where
  run n := List.replicate n '\t'
  mem_run _ _ hc := Or.inr (List.eq_of_mem_replicate hc)

/-- The mismatch stays where it is, and a line feed at the end begins no line. -/
example : staircase.indent "/**\n * Halts.\n */\n" = "/**\n\t * Halts.\n\t\t */\n" ∧
    (ofSteps [.throws 1]).matchText (staircase.indent "/**\n * Halts.\n */\n") =
      .error ⟨.throws, 2⟩ := by decide +kernel

end DocGrammar

end DocLint

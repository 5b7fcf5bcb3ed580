import DocLint.Proofs.DocBlock.Skeleton
import DocLint.Proofs.Text.Returns

/-!
# Mismatches: the first line at which a block leaves its grammar

Where a block does not match, the matcher answers with a line. This module shows that nothing in
front of that line is wrong, and that the line itself cannot be mended by what comes after it:
some block that matches has the same lines up to there, and no block that matches has that line
too. The matcher never looks back, so both halves say that it has not taken too much before.

A clause looks at its first line and then takes free lines as far as they go
(`DocClause.take?_cons`). What it takes is a block of the clause, and it takes the same off every
list of lines that has the same next line (`DocClause.exists_taken`). By induction this holds of
all clauses up to the one that fails (`exists_taken_of_matchClauses`), and the skeleton of the
other clauses is what completes the block.

The end is different from the other clauses, since it also wants to be the last. A closing marker
that lines follow is where the block is complete, and is reported although it is not wrong itself.
-/

namespace DocLint

open Text
open scoped Computability

/-! ### One clause -/

namespace DocClause

variable {clause : DocClause} {l : Line} {ls rest more : List Line}

/-- The test of the first line of a clause. -/
def opens : DocClause → Line → Bool
  | start => isDocStart
  | description => isFreeLine
  | param name => isParamLine name
  | result type => isTagLine " @return " type
  | throws => isTagLine " @throws" ""
  | catches => isTagLine " @catch " ""
  | blockEnd => isDocEnd

/-- What a clause leaves of the lines after its first one. -/
def leaves : DocClause → List Line → List Line
  | description, rest => rest.dropWhile isFreeLine
  | param _, rest => rest.dropWhile isFreeLine
  | _, rest => rest

theorem take?_nil (clause : DocClause) : clause.take? [] = none := by
  cases clause <;> rfl

/-- A clause is there if its first line is, and the end only if no line follows. -/
theorem take?_cons (clause : DocClause) (l : Line) (more : List Line) :
    clause.take? (l :: more) =
      if clause.opens l = true ∧ (clause = .blockEnd → more = []) then some (clause.leaves more)
      else none := by
  cases clause with
  | blockEnd =>
      cases more with
      | nil => simp [take?, opens, leaves]
      | cons l' more => simp [take?]
  | _ => simp [take?, opens, leaves]

theorem take?_cons_eq_some_iff : clause.take? (l :: more) = some rest ↔
    (clause.opens l = true ∧ (clause = .blockEnd → more = [])) ∧ clause.leaves more = rest := by
  rw [take?_cons, Option.ite_none_right_eq_some, Option.some.injEq]

/-- The lines that continue a clause are a block of it together with its first line. -/
theorem exists_continued (hopens : clause.opens l = true) (more : List Line) :
    ∃ free, more = free ++ clause.leaves more ∧ l :: free ∈ clause.language ∧
      ∀ next back, clause.leaves more = next :: back → ∀ back',
        clause.leaves (free ++ next :: back') = next :: back' := by
  have hone {p : Line → Prop} (hl : p l) : [l] ∈ oneLine p := ⟨l, hl, rfl⟩
  have hfree {p : Line → Prop} (hl : p l) :
      l :: more.takeWhile isFreeLine ∈ oneLine p * freeLines :=
    mem_oneLine_mul_iff.2 ⟨l, _, rfl, hl, mem_freeLines_iff.2 fun _ h => List.mem_takeWhile_imp h⟩
  have hsplit : more = more.takeWhile isFreeLine ++ more.dropWhile isFreeLine :=
    List.takeWhile_append_dropWhile.symm
  -- Free lines end at a line that is not free, and this does not depend on what follows it.
  have hstop : ∀ next back, more.dropWhile isFreeLine = next :: back → ∀ back',
      (more.takeWhile isFreeLine ++ next :: back').dropWhile isFreeLine = next :: back' := by
    intro next back hdrop back'
    have hnext : isFreeLine next = false := by
      have hhead := List.head?_dropWhile_not isFreeLine more
      rw [hdrop] at hhead
      simpa using hhead
    rw [List.dropWhile_append_of_pos fun _ h => List.mem_takeWhile_imp h,
      List.dropWhile_cons_of_neg (by simp [hnext])]
  cases clause with
  | start => exact ⟨[], rfl, hone (isDocStart_iff.1 hopens), fun _ _ _ _ => rfl⟩
  | description => exact ⟨_, hsplit, hfree (isFreeLine_iff.1 hopens), hstop⟩
  | param name => exact ⟨_, hsplit, hfree (isParamLine_iff.1 hopens), hstop⟩
  | result type => exact ⟨[], rfl, hone (isTagLine_iff.1 hopens), fun _ _ _ _ => rfl⟩
  | throws => exact ⟨[], rfl, hone (isTagLine_iff.1 hopens), fun _ _ _ _ => rfl⟩
  | catches => exact ⟨[], rfl, hone (isTagLine_iff.1 hopens), fun _ _ _ _ => rfl⟩
  | blockEnd => exact ⟨[], rfl, hone (isDocEnd_iff.1 hopens), fun _ _ _ _ => rfl⟩

/-- What a clause takes off is a block of it, and it takes the same off all lines that go on with
the same line. -/
theorem exists_taken (h : clause.take? ls = some rest) :
    ∃ taken, ls = taken ++ rest ∧ taken ∈ clause.language ∧
      ∀ next back, rest = next :: back → ∀ back',
        clause.take? (taken ++ next :: back') = some (next :: back') := by
  cases ls with
  | nil =>
      rw [take?_nil] at h
      exact absurd h (by simp)
  | cons l more =>
      obtain ⟨⟨hopens, hlast⟩, rfl⟩ := take?_cons_eq_some_iff.1 h
      obtain ⟨free, hmore, hblock, hstop⟩ := exists_continued hopens more
      refine ⟨l :: free, by rw [List.cons_append, ← hmore], hblock, ?_⟩
      intro next back hrest back'
      refine take?_cons_eq_some_iff.2 ⟨⟨hopens, fun hend => ?_⟩, hstop next back hrest back'⟩
      -- The end is only taken off where nothing is left.
      rw [hend, hlast hend] at hrest
      exact absurd hrest (by simp [leaves])

/-- A clause that is not there fails on its first line, whatever follows it. Only a closing marker
fails on what follows. -/
theorem take?_cons_eq_none (h : clause.take? (l :: more) = none) :
    (∀ more', clause.take? (l :: more') = none) ∨ clause = .blockEnd ∧ EndLine l ∧ more ≠ [] := by
  simp only [take?_cons, ite_eq_right_iff, reduceCtorEq, imp_false, not_and] at h ⊢
  by_cases hopens : clause.opens l = true
  · obtain ⟨hend, hmore⟩ := Classical.not_imp.1 (h hopens)
    subst hend
    exact .inr ⟨rfl, isDocEnd_iff.1 hopens, hmore⟩
  · exact .inl fun _ hl => absurd hl hopens

end DocClause

/-! ### All clauses up to the one that fails -/

variable {clauses : List DocClause} {pos : Nat} {ls : List Line} {stop : Mismatch}

/-- The clauses in front of the one that fails have taken the lines in front of the one where it
fails. They take the same off all lines that go on with the same line. -/
theorem exists_taken_of_matchClauses (h : matchClauses clauses pos ls = .error stop) :
    ∃ done more taken rest, clauses = done ++ stop.expected :: more ∧ ls = taken ++ rest ∧
      stop.line = pos + taken.length ∧ taken ∈ (done.map DocClause.language).prod ∧
      stop.expected.take? rest = none ∧
      ∀ next back, rest = next :: back → ∀ back',
        matchClauses clauses pos (taken ++ next :: back') =
          matchClauses (stop.expected :: more) stop.line (next :: back') := by
  induction clauses generalizing pos ls with
  | nil => exact absurd h (by simp [matchClauses])
  | cons clause more ih =>
      rw [matchClauses] at h
      split at h
      · rename_i hnone
        cases h
        exact ⟨[], more, [], ls, rfl, rfl, rfl, Language.nil_mem_one, hnone, fun _ _ _ _ => rfl⟩
      · rename_i rest hrest
        obtain ⟨first, rfl, hfirst, hsame⟩ := DocClause.exists_taken hrest
        have hpos (rest : List Line) : (first ++ rest).length - rest.length = first.length := by
          rw [List.length_append, Nat.add_sub_cancel]
        rw [hpos] at h
        obtain ⟨done, more', taken, tail, hclauses, rfl, hline, htaken, hnone, hrun⟩ := ih h
        refine ⟨clause :: done, more', first ++ taken, tail, by rw [hclauses, List.cons_append],
          (List.append_assoc ..).symm, ?_, ?_, hnone, ?_⟩
        · rw [hline, List.length_append, Nat.add_assoc]
        · rw [List.map_cons, List.prod_cons]
          exact Language.mem_mul.2 ⟨first, hfirst, taken, htaken, rfl⟩
        · intro next back hnext back'
          have htake : clause.take? (first ++ (taken ++ next :: back')) =
              some (taken ++ next :: back') := by
            cases taken with
            | nil => exact hsame next back hnext back'
            | cons l taken => exact hsame l (taken ++ tail) rfl (taken ++ next :: back')
          rw [List.append_assoc, matchClauses, htake]
          dsimp only
          rw [hpos]
          exact hrun next back hnext back'

/-! ### The whole block -/

namespace DocGrammar

variable {g : DocGrammar} {text : String}

/-- What a mismatch of a text with a grammar says. -/
structure LeavesAt (g : DocGrammar) (text : String) (stop : Mismatch) : Prop where
  /-- The line is one of the text, or the one after its last. -/
  line_le : stop.line ≤ (lines text.toList).length
  /-- The lines in front of it can be completed to a block that matches. -/
  completable : ∃ block : String,
    (lines text.toList).take stop.line <+: lines block.toList ∧ g.matchText block = .ok ()
  /-- With the line they cannot be completed any more, unless the line is a closing marker that
  would have to be the last line. -/
  earliest : ∀ l, (lines text.toList)[stop.line]? = some l →
    (∀ block : String, (lines text.toList).take (stop.line + 1) <+: lines block.toList →
      g.matchText block ≠ .ok ()) ∨
    stop.expected = .blockEnd ∧ EndLine l ∧ stop.line + 1 < (lines text.toList).length ∧
      ∃ block : String, lines block.toList = (lines text.toList).take (stop.line + 1) ∧
        g.matchText block = .ok ()

/-- The end stands only at the end. -/
theorem eq_nil_of_clauses_eq {done more : List DocClause}
    (h : g.clauses = done ++ .blockEnd :: more) : more = [] := by
  rcases List.eq_nil_or_concat' more with rfl | ⟨front, last, rfl⟩
  · rfl
  · rw [clauses_eq_tags, ← List.cons_append, ← List.cons_append, ← List.cons_append,
      ← List.append_assoc] at h
    obtain ⟨h, -⟩ := List.append_inj' h rfl
    have hmem : DocClause.blockEnd ∈ .start :: .description :: g.tags := by
      rw [h]
      simp
    have htags : DocClause.blockEnd ∈ g.tags := by simpa using hmem
    exact absurd (isTag_of_mem_tags htags) id

/-- Blocks of the clauses up to some place and the sample lines of the others make a block that
matches. -/
theorem StaysOnLines.exists_block (hg : g.StaysOnLines) {done more : List DocClause}
    (hclauses : g.clauses = done ++ more) {taken : List Line}
    (htaken : taken ∈ (done.map DocClause.language).prod) (hlines : taken ⊆ lines text.toList) :
    ∃ block : String, lines block.toList = taken ++ more.map (·.sampleLine.toList) ∧
      g.matchText block = .ok () := by
  have hfeed : ∀ l ∈ taken ++ more.map (·.sampleLine.toList), '\n' ∉ l := by
    intro l hl
    rcases List.mem_append.1 hl with hl | hl
    · exact not_mem_of_mem_lines (hlines hl)
    · obtain ⟨clause, hclause, rfl⟩ := List.mem_map.1 hl
      have hstays := staysOnLines_iff_clauses.1 hg clause (by simp [hclauses, hclause])
      exact hstays.not_mem_sampleLine
  obtain ⟨block, hblock⟩ := exists_text_of_lines hfeed
  refine ⟨block, hblock, ?_⟩
  rw [matchText_eq_ok_iff, hblock, language_eq_prod, hclauses, List.map_append, List.prod_append]
  exact Language.mem_mul.2
    ⟨taken, htaken, _, map_mem_prod_map DocClause.sampleLine_mem_language more, rfl⟩

/-- With a closing marker in its place the block is complete. -/
theorem StaysOnLines.exists_block_of_endLine (hg : g.StaysOnLines) {done more : List DocClause}
    (hclauses : g.clauses = done ++ .blockEnd :: more) {taken : List Line} {l : Line}
    (htaken : taken ∈ (done.map DocClause.language).prod) (hl : EndLine l)
    (hlines : taken ++ [l] ⊆ lines text.toList) :
    ∃ block : String, lines block.toList = taken ++ [l] ∧ g.matchText block = .ok () := by
  obtain rfl := eq_nil_of_clauses_eq hclauses
  have hcomplete : taken ++ [l] ∈
      ((done ++ [DocClause.blockEnd]).map DocClause.language).prod := by
    rw [List.map_append, List.prod_append, List.map_singleton, List.prod_singleton]
    exact Language.mem_mul.2 ⟨taken, htaken, [l], ⟨l, hl, rfl⟩, rfl⟩
  have hall : g.clauses = (done ++ [.blockEnd]) ++ [] := by rw [hclauses, List.append_nil]
  obtain ⟨block, hblock, hmatch⟩ := hg.exists_block hall hcomplete hlines
  rw [List.map_nil, List.append_nil] at hblock
  exact ⟨block, hblock, hmatch⟩

/-- **The position of a mismatch.** Where a text leaves a grammar whose names and types stay on
their lines, the lines in front of the reported one can be completed to a block that matches, and
with the reported line they cannot. The only exception is a closing marker in its place which
lines follow; up to that marker, the text is a block that matches. -/
theorem matchText_error_leavesAt (hg : g.StaysOnLines) {stop : Mismatch}
    (h : g.matchText text = .error stop) : g.LeavesAt text stop := by
  obtain ⟨done, more, taken, rest, hclauses, hlines, hline, htaken, hnone, hrun⟩ :=
    exists_taken_of_matchClauses h
  rw [Nat.zero_add] at hline
  refine ⟨?_, ?_, ?_⟩
  · rw [hlines, hline, List.length_append]
    omega
  · obtain ⟨block, hblock, hmatch⟩ :=
      hg.exists_block hclauses htaken (hlines ▸ List.subset_append_left taken rest)
    refine ⟨block, ?_, hmatch⟩
    rw [hlines, hline, List.take_left, hblock]
    exact List.prefix_append ..
  · intro l hl
    rw [hlines, hline, List.getElem?_append_right (Nat.le_refl _), Nat.sub_self,
      ← List.head?_eq_getElem?] at hl
    obtain ⟨back, rfl⟩ := List.head?_eq_some_iff.1 hl
    have hfront : (lines text.toList).take (stop.line + 1) = taken ++ [l] := by
      rw [hlines, hline, List.take_length_add_append]
      rfl
    rw [hfront]
    rcases DocClause.take?_cons_eq_none hnone with hfails | ⟨hend, hmarker, hback⟩
    · refine .inl fun block hprefix hmatch => ?_
      obtain ⟨back', hblock⟩ := hprefix
      rw [matchText, ← hblock, List.append_assoc, List.singleton_append, hrun l back rfl,
        matchClauses, hfails] at hmatch
      exact absurd hmatch (by simp)
    · have hblock := hg.exists_block_of_endLine (hend ▸ hclauses) htaken hmarker
        (hfront ▸ List.take_subset ..)
      refine .inr ⟨hend, hmarker, ?_, hblock⟩
      have hlength := List.length_pos_iff.2 hback
      rw [hlines, hline, List.length_append, List.length_cons]
      omega

/-- The first of two parameters is documented, and the block ends in the place of the second. -/
def halfDescribed : String :=
  "/**\n * Divides.\n * @param dividend what is divided\n */\n"

theorem matchText_error_leavesAt_halfDescribed :
    (ofSteps [.params ["dividend", "divisor"]]).StaysOnLines ∧
    (ofSteps [.params ["dividend", "divisor"]]).matchText halfDescribed =
      .error ⟨.param "divisor", 3⟩ ∧
    (ofSteps [.params ["dividend", "divisor"]]).LeavesAt halfDescribed ⟨.param "divisor", 3⟩ := by
  have hg : (ofSteps [.params ["dividend", "divisor"]]).StaysOnLines := by
    simp [StaysOnLines, ofSteps, add]
  have herror : (ofSteps [.params ["dividend", "divisor"]]).matchText halfDescribed =
      .error ⟨.param "divisor", 3⟩ := by
    decide +kernel
  exact ⟨hg, herror, matchText_error_leavesAt hg herror⟩

end DocGrammar

end DocLint

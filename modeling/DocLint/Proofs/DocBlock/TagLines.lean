import DocLint.Proofs.DocBlock.Skeleton

/-!
# Tag lines: none is missing and none is left over

A block that matches its grammar has exactly one line with an `@` for every clause with a tag. The
sign is what tells the clauses apart: free lines, and so descriptions and the lines that continue a
parameter, have none, and neither have the markers. So the number of lines with a tag is the same
in all blocks of a grammar (`countP_hasTag_of_matchText`), whatever the lines say.

It follows that no block that matches can be made into another one by taking out one line with a tag
or by putting one in, even where the line is a copy of another.
-/

namespace DocLint

open Text
open scoped Computability

/-! ### Which lines have a tag -/

/-- Does the line hold the sign of a tag? -/
def hasTag (l : Line) : Bool := l.contains '@'

theorem StartLine.hasTag_eq_false {l : Line} (h : StartLine l) : hasTag l = false := by
  obtain ⟨w, hw, rfl⟩ := h
  simp [hasTag, not_mem_of_isAllBlank hw]

theorem EndLine.hasTag_eq_false {l : Line} (h : EndLine l) : hasTag l = false := by
  obtain ⟨v, w, hv, hw, rfl⟩ := h
  simp [hasTag, not_mem_of_isAllBlank hv, not_mem_of_isAllBlank hw]

theorem FreeLine.hasTag_eq_false {l : Line} (h : FreeLine l) : hasTag l = false := by
  simpa [hasTag] using h.1

theorem TagLine.hasTag_eq_true {tag word : String} {l : Line} (hat : '@' ∈ tag.toList)
    (h : TagLine tag word l) : hasTag l = true := by
  obtain ⟨t, -, -, w, -, rfl⟩ := h
  simp [hasTag, hat]

theorem ParamLine.hasTag_eq_true {name : String} {l : Line} (h : ParamLine name l) :
    hasTag l = true := by
  obtain ⟨c, t, -, -, -, w, -, rfl⟩ := h
  simp [hasTag]

theorem countP_hasTag_of_mem_freeLines {ls : List Line} (h : ls ∈ freeLines) :
    ls.countP hasTag = 0 := by
  rw [List.countP_eq_zero]
  intro l hl
  simp [(isFreeLine_iff.1 (mem_freeLines_iff.1 h l hl)).hasTag_eq_false]

/-! ### Clauses -/

/-- Is this a clause with a tag? -/
def DocClause.isTagged : DocClause → Bool
  | param _ | result _ | throws | catches => true
  | start | description | blockEnd => false

theorem DocClause.countP_hasTag_of_mem_language {clause : DocClause} {part : List Line}
    (h : part ∈ clause.language) : part.countP hasTag = clause.isTagged.toNat := by
  cases clause with
  | start =>
      obtain ⟨l, hl, rfl⟩ := h
      simp [hl.hasTag_eq_false, isTagged]
  | description =>
      obtain ⟨l, rest, rfl, hl, hrest⟩ := mem_oneLine_mul_iff.1 h
      simp [hl.hasTag_eq_false, countP_hasTag_of_mem_freeLines hrest, isTagged]
  | param name =>
      obtain ⟨l, rest, rfl, hl, hrest⟩ := mem_oneLine_mul_iff.1 h
      simp [hl.hasTag_eq_true, countP_hasTag_of_mem_freeLines hrest, isTagged]
  | result type =>
      obtain ⟨l, hl, rfl⟩ := h
      simp [hl.hasTag_eq_true (by decide), isTagged]
  | throws =>
      obtain ⟨l, hl, rfl⟩ := h
      simp [hl.hasTag_eq_true (by decide), isTagged]
  | catches =>
      obtain ⟨l, hl, rfl⟩ := h
      simp [hl.hasTag_eq_true (by decide), isTagged]
  | blockEnd =>
      obtain ⟨l, hl, rfl⟩ := h
      simp [hl.hasTag_eq_false, isTagged]

/-- There are as many lines with a tag as clauses with a tag, wherever the cuts are. -/
theorem countP_hasTag_of_mem_prod {clauses : List DocClause} {ls : List Line}
    (h : ls ∈ (clauses.map DocClause.language).prod) :
    ls.countP hasTag = clauses.countP DocClause.isTagged := by
  induction clauses generalizing ls with
  | nil =>
      obtain rfl : ls = [] := h
      rfl
  | cons clause more ih =>
      rw [List.map_cons, List.prod_cons] at h
      obtain ⟨part, hpart, rest, hrest, rfl⟩ := Language.mem_mul.1 h
      rw [List.countP_append, DocClause.countP_hasTag_of_mem_language hpart, ih hrest,
        List.countP_cons, Nat.add_comm]
      cases clause.isTagged <;> rfl

namespace DocGrammar

variable {g : DocGrammar} {text text' : String} {l : Line}

theorem paramCount_eq (g : DocGrammar) : g.paramCount = g.params.length := by
  simp [paramCount, clauses, List.countP_append, Function.comp_def, List.countP_replicate]

theorem requiresReturn_eq (g : DocGrammar) : g.requiresReturn = g.result.isSome := by
  cases h : g.result <;>
    simp [requiresReturn, clauses, h, List.countP_append, Function.comp_def, List.countP_replicate]

theorem count_clauses (g : DocGrammar) {clause : DocClause} (hparam : ∀ name, clause ≠ .param name)
    (hresult : ∀ type, clause ≠ .result type) :
    g.clauses.count clause = [DocClause.start, .description].count clause +
      (List.replicate g.throws DocClause.throws).count clause +
      (List.replicate g.catches DocClause.catches).count clause +
      [DocClause.blockEnd].count clause := by
  have hparams : (g.params.map DocClause.param).count clause = 0 := by
    simp [List.count_eq_zero, Ne.symm (hparam _)]
  have hresults : (g.result.toList.map DocClause.result).count clause = 0 := by
    simp [List.count_eq_zero, Ne.symm (hresult _)]
  simp only [clauses, List.count_append, hparams, hresults, Nat.add_zero]

theorem throwsCount_eq (g : DocGrammar) : g.throwsCount = g.throws := by
  rw [throwsCount, count_clauses g (by simp) (by simp)]
  simp [List.count_replicate]

theorem catchCount_eq (g : DocGrammar) : g.catchCount = g.catches := by
  rw [catchCount, count_clauses g (by simp) (by simp)]
  simp [List.count_replicate]

theorem countP_isTagged (g : DocGrammar) : g.clauses.countP DocClause.isTagged =
    g.paramCount + g.requiresReturn.toNat + g.throwsCount + g.catchCount := by
  have hparams : (g.params.map DocClause.param).countP DocClause.isTagged = g.params.length := by
    simp [DocClause.isTagged]
  have hresult : (g.result.toList.map DocClause.result).countP DocClause.isTagged =
      g.result.isSome.toNat := by
    cases g.result <;> rfl
  have hthrows : (List.replicate g.throws DocClause.throws).countP DocClause.isTagged =
      g.throws := by
    simp [List.countP_replicate, DocClause.isTagged]
  have hcatches : (List.replicate g.catches DocClause.catches).countP DocClause.isTagged =
      g.catches := by
    simp [List.countP_replicate, DocClause.isTagged]
  have hends : [DocClause.start, .description].countP DocClause.isTagged = 0 ∧
      [DocClause.blockEnd].countP DocClause.isTagged = 0 := ⟨rfl, rfl⟩
  rw [paramCount_eq, requiresReturn_eq, throwsCount_eq, catchCount_eq, clauses]
  simp only [List.countP_append, hparams, hresult, hthrows, hcatches, hends, Nat.zero_add,
    Nat.add_zero]

/-- A block that matches has one line with a tag for each clause with a tag. -/
theorem countP_hasTag_of_matchText (h : g.matchText text = .ok ()) :
    (lines text.toList).countP hasTag =
      g.paramCount + g.requiresReturn.toNat + g.throwsCount + g.catchCount := by
  rw [matchText_eq_ok_iff, language_eq_prod] at h
  rw [countP_hasTag_of_mem_prod h, countP_isTagged]

end DocGrammar

/-! ### One line more or less -/

theorem hasTag_of_pieceOf {piece l : Line} (h : PieceOf piece l) : hasTag piece = hasTag l := by
  rcases h with rfl | rfl
  · rfl
  · simp [hasTag]

theorem countP_hasTag_of_forall₂ {raw ls : List Line} (h : List.Forall₂ PieceOf raw ls) :
    raw.countP hasTag = ls.countP hasTag := by
  induction h with
  | nil => rfl
  | cons hpiece _ ih => rw [List.countP_cons, List.countP_cons, ih, hasTag_of_pieceOf hpiece]

theorem countP_hasTag_pieces (s : List Char) :
    (pieces s).countP hasTag = (lines s).countP hasTag := by
  obtain ⟨raw, tail, hpieces, hraw, htail⟩ := exists_pieces_append s
  have hzero : tail.countP hasTag = 0 := by
    rw [List.countP_eq_zero]
    intro piece hpiece
    rw [htail piece hpiece]
    decide
  rw [hpieces, List.countP_append, hzero, Nat.add_zero, countP_hasTag_of_forall₂ hraw]

/-- The text `s'` is `s` with the line `l` put in, at any place. The texts are compared by their
lines, so that the line ends do not count, or by what stands between their line feeds, so that the
rest of the text stays as it is. -/
inductive AddsLine (l : Line) (s s' : List Char) : Prop
  | ofLines (front back : List Line) (h : lines s = front ++ back)
      (h' : lines s' = front ++ l :: back)
  | ofPieces (front back : List Line) (h : pieces s = front ++ back)
      (h' : pieces s' = front ++ l :: back)

theorem AddsLine.countP_hasTag {l : Line} {s s' : List Char} (h : AddsLine l s s')
    (hl : '@' ∈ l) : (lines s').countP hasTag = (lines s).countP hasTag + 1 := by
  have hl : hasTag l = true := by simpa [hasTag] using hl
  cases h with
  | ofLines front back h h' => simp [h, h', hl, Nat.add_assoc]
  | ofPieces front back h h' => simp [← countP_hasTag_pieces, h, h', hl, Nat.add_assoc]

namespace DocGrammar

variable {g : DocGrammar} {text text' : String} {l : Line}

theorem exists_mismatch_of_addsLine (h : g.matchText text = .ok ()) (hl : '@' ∈ l)
    (hadds : AddsLine l text.toList text'.toList ∨ AddsLine l text'.toList text.toList) :
    ∃ stop, g.matchText text' = .error stop := by
  cases h' : g.matchText text' with
  | error stop => exact ⟨stop, rfl⟩
  | ok _ =>
      have hcount := (countP_hasTag_of_matchText h).trans (countP_hasTag_of_matchText h').symm
      rcases hadds with hadds | hadds
      · rw [hadds.countP_hasTag hl] at hcount
        omega
      · rw [hadds.countP_hasTag hl] at hcount
        omega

end DocGrammar

theorem yields_checkDocBlock_of_mismatch {f : Function} {text : String} {span : Span}
    {stop : Mismatch} (h : (DocGrammar.ofFunction f).matchText text = .error stop) :
    ∃ issue, issue.kind = .docBlockMismatch ∧
      (checkDocBlock (f.withDoc ⟨text, span⟩)).Yields false [issue] := by
  have hgrammar : DocGrammar.ofFunction (f.withDoc ⟨text, span⟩) = DocGrammar.ofFunction f := rfl
  have hissue : ∃ issue, issue.kind = .docBlockMismatch ∧
      docIssue? (f.withDoc ⟨text, span⟩) = some issue := by
    simp only [docIssue?, Function.withDoc] at hgrammar ⊢
    rw [hgrammar, h]
    exact ⟨_, rfl, rfl⟩
  obtain ⟨issue, hkind, hissue⟩ := hissue
  refine ⟨issue, hkind, ?_⟩
  rw [checkDocBlock, hissue]
  exact Check.yields_passes (some issue)

namespace DocGrammar

/-- **Tag lines.** For the grammar of any requirements, every block that matches has as many lines
with an `@` as the grammar has clauses for parameters, the result, thrown and caught exceptions
together. So every text that comes from it by taking out a line with an `@`, or by putting one in
anywhere, does not match, and for every function with this grammar the check of that text adds one
issue, about the mismatch. -/
theorem matchText_counts_tagLines {steps : List Step} {text : String}
    (h : (ofSteps steps).matchText text = .ok ()) :
    (lines text.toList).countP hasTag = (ofSteps steps).paramCount +
      (ofSteps steps).requiresReturn.toNat + (ofSteps steps).throwsCount +
        (ofSteps steps).catchCount ∧
    ∀ (l : Line) (text' : String), '@' ∈ l →
      AddsLine l text.toList text'.toList ∨ AddsLine l text'.toList text.toList →
      (∃ stop, (ofSteps steps).matchText text' = .error stop) ∧
      ∀ (f : Function) (span : Span), ofFunction f = ofSteps steps →
        ∃ issue, issue.kind = .docBlockMismatch ∧
          (checkDocBlock (f.withDoc ⟨text', span⟩)).Yields false [issue] := by
  refine ⟨countP_hasTag_of_matchText h, fun l text' hl hadds => ?_⟩
  obtain ⟨stop, hstop⟩ := exists_mismatch_of_addsLine h hl hadds
  refine ⟨⟨stop, hstop⟩, fun f span hf => ?_⟩
  rw [← hf] at hstop
  exact yields_checkDocBlock_of_mismatch hstop

/-- A function that throws once. -/
def failing : Function where
  name := "fail"
  body := ["throw IOException()"]

/-- The thrown exception is described. -/
def describedOnce : String := "/**\n * Fails.\n * @throws IOException\n */"

/-- It is described twice, in the same words. -/
def describedTwice : String :=
  "/**\n * Fails.\n * @throws IOException\n * @throws IOException\n */"

theorem matchText_counts_tagLines_describedOnce :
    (ofSteps [.throws 1]).matchText describedOnce = .ok () ∧
    ofFunction failing = ofSteps [.throws 1] ∧
    AddsLine " * @throws IOException".toList describedOnce.toList
      describedTwice.toList ∧
    ∃ issue, issue.kind = .docBlockMismatch ∧
      (checkDocBlock (failing.withDoc ⟨describedTwice, {}⟩)).Yields false [issue] := by
  have hmatch : (ofSteps [.throws 1]).matchText describedOnce = .ok () := by decide +kernel
  have hgrammar : ofFunction failing = ofSteps [.throws 1] := by decide +kernel
  have hadds : AddsLine " * @throws IOException".toList describedOnce.toList
      describedTwice.toList :=
    .ofPieces ["/**".toList, " * Fails.".toList]
      [" * @throws IOException".toList, " */".toList] (by decide +kernel)
      (by decide +kernel)
  exact ⟨hmatch, hgrammar, hadds,
    ((matchText_counts_tagLines hmatch).2 _ describedTwice (by decide) (.inl hadds)).2 failing {}
      hgrammar⟩

end DocGrammar

end DocLint

import DocLint.DocBlock.Check
import DocLint.Proofs.Check
import DocLint.Proofs.DocBlock.Language
import DocLint.Proofs.Text.Lines
import Mathlib.Tactic.TFAE

/-!
# Skeletons: the block that fits if any block fits

An issue about the documentation of a function shows a skeleton, one line for each clause of the
grammar with placeholders for the free text. Clause by clause the skeleton is always in the
language of the grammar (`skeletonLines_mem_language`), whatever the names and types are. What
can go wrong is the step from lines to text: a name or a type that holds a line feed breaks its
line in two.

No other block does better. A block that matches has the names and types on its lines, so the
names and types hold no line feed (`staysOnLines_of_matchText`). This makes the skeleton a test
of whether a grammar can be met at all.
-/

namespace DocLint

open Text
open scoped Computability

/-! ### Words of a product of languages -/

theorem map_mem_prod_map {α : Type} {f : α → Line} {L : α → Language Line}
    (h : ∀ a, [f a] ∈ L a) (as : List α) : as.map f ∈ (as.map L).prod := by
  induction as with
  | nil => exact Language.nil_mem_one
  | cons a as ih =>
      rw [List.map_cons, List.map_cons, List.prod_cons]
      exact Language.mem_mul.2 ⟨[f a], h a, as.map f, ih, rfl⟩

/-- Every factor of a product has a part of its own in each word. -/
theorem exists_subset_of_mem_prod {Ls : List (Language Line)} {ls : List Line}
    (hls : ls ∈ Ls.prod) {L : Language Line} (hL : L ∈ Ls) : ∃ part ∈ L, part ⊆ ls := by
  induction Ls generalizing ls with
  | nil => exact absurd hL List.not_mem_nil
  | cons L' Ls ih =>
      rw [List.prod_cons] at hls
      obtain ⟨front, hfront, rest, hrest, rfl⟩ := Language.mem_mul.1 hls
      rcases List.mem_cons.1 hL with rfl | hL
      · exact ⟨front, hfront, List.subset_append_left front rest⟩
      · obtain ⟨part, hpart, hsub⟩ := ih hrest hL
        exact ⟨part, hpart, List.Subset.trans hsub (List.subset_append_right front rest)⟩

/-! ### The line of a clause -/

namespace DocClause

/-- Does the word that the clause fixes stay on one line? -/
def StaysOnLine : DocClause → Prop
  | param name => '\n' ∉ name.toList
  | result type => '\n' ∉ type.toList
  | _ => True

theorem toList_sampleLine_param (name : String) : (param name).sampleLine.toList =
    " *".toList ++ (" @param ".toList ++ name.toList ++ " <description>".toList) := by
  simp [sampleLine]

theorem toList_sampleLine_result (type : String) : (result type).sampleLine.toList =
    " *".toList ++ (" @return ".toList ++ type.toList ++ " <description>".toList) := by
  simp [sampleLine]

theorem starLine_margin {t : List Char} (ht : t.head? ≠ some '/') :
    StarLine t (" *".toList ++ t) :=
  ⟨ht, [' '], by decide, rfl⟩

/-- The sample line of a clause is a block of the clause, even if it holds a line feed. -/
theorem sampleLine_mem_language (clause : DocClause) :
    [clause.sampleLine.toList] ∈ clause.language := by
  have hone {p : Line → Prop} {l : Line} (h : p l) : [l] ∈ oneLine p * freeLines :=
    mem_oneLine_mul_iff.2 ⟨l, [], rfl, h, mem_freeLines_iff.2 (by simp)⟩
  cases clause with
  | start => exact ⟨_, ⟨[], by decide, by decide⟩, rfl⟩
  | description =>
      exact hone ⟨by decide, " <description>".toList, starLine_margin (by decide)⟩
  | param name =>
      rw [toList_sampleLine_param]
      exact hone ⟨' ', "<description>".toList, by decide, by decide, starLine_margin (by simp)⟩
  | result type =>
      rw [toList_sampleLine_result]
      exact ⟨_, ⟨" <description>".toList, by decide, starLine_margin (by simp)⟩, rfl⟩
  | throws =>
      exact ⟨_, ⟨" <exception> <description>".toList, by decide, starLine_margin (by decide)⟩, rfl⟩
  | catches =>
      exact ⟨_, ⟨"<exception> <description>".toList, by decide, starLine_margin (by decide)⟩, rfl⟩
  | blockEnd => exact ⟨_, ⟨[' '], [], by decide, by decide, by decide⟩, rfl⟩

/-- Every sample line ends with a placeholder or a marker. -/
theorem sampleLine_visible (clause : DocClause) :
    clause.sampleLine.toList.getLast?.any (!isBlank ·) = true := by
  have hplaceholder (front : List Char) :
      (front ++ " <description>".toList).getLast?.any (!isBlank ·) = true := by
    rw [List.getLast?_append_of_ne_nil _ (by decide)]
    decide
  cases clause with
  | param name =>
      rw [toList_sampleLine_param, ← List.append_assoc]
      exact hplaceholder _
  | result type =>
      rw [toList_sampleLine_result, ← List.append_assoc]
      exact hplaceholder _
  | _ => decide

theorem StaysOnLine.not_mem_sampleLine {clause : DocClause} (h : clause.StaysOnLine) :
    '\n' ∉ clause.sampleLine.toList := by
  cases clause with
  | param name =>
      rw [toList_sampleLine_param]
      simpa [StaysOnLine] using h
  | result type =>
      rw [toList_sampleLine_result]
      simpa [StaysOnLine] using h
  | _ => decide

/-- What a block of a clause has on one of its lines stays on that line. -/
theorem staysOnLine_of_mem_language {clause : DocClause} {part : List Line}
    (hpart : part ∈ clause.language) (hfeed : ∀ l ∈ part, '\n' ∉ l) : clause.StaysOnLine := by
  cases clause with
  | param name =>
      obtain ⟨l, rest, rfl, ⟨c, t, -, -, -, w, -, rfl⟩, -⟩ := mem_oneLine_mul_iff.1 hpart
      have hl := hfeed _ (List.mem_cons_self ..)
      intro hmem
      exact hl (by simp [hmem])
  | result type =>
      obtain ⟨l, ⟨t, -, -, w, -, rfl⟩, rfl⟩ := hpart
      have hl := hfeed _ (List.mem_cons_self ..)
      intro hmem
      exact hl (by simp [hmem])
  | _ => trivial

end DocClause

/-! ### The whole block -/

namespace DocGrammar

variable {g : DocGrammar} {text : String}

/-- No name of a parameter and no type of a result holds a line feed. -/
def StaysOnLines (g : DocGrammar) : Prop :=
  (∀ name ∈ g.params, '\n' ∉ name.toList) ∧ ∀ type ∈ g.result, '\n' ∉ type.toList

theorem language_eq_prod (g : DocGrammar) :
    g.language = (g.clauses.map DocClause.language).prod := by
  rw [language_eq_tags, clauses_eq_tags]
  simp

theorem staysOnLines_iff_clauses :
    g.StaysOnLines ↔ ∀ clause ∈ g.clauses, clause.StaysOnLine := by
  constructor
  · intro h clause hclause
    rw [clauses_eq_tags] at hclause
    simp only [tags, List.mem_cons, List.mem_append, List.mem_map, List.mem_replicate,
      Option.mem_toList, List.not_mem_nil, or_false] at hclause
    rcases hclause with rfl | rfl | (((⟨name, hname, rfl⟩ | ⟨type, htype, rfl⟩) | ⟨-, rfl⟩) |
      ⟨-, rfl⟩) | rfl
    case inr.inr.inl.inl.inl.inl => exact h.1 name hname
    case inr.inr.inl.inl.inl.inr => exact h.2 type htype
    all_goals trivial
  · intro h
    refine ⟨fun name hname => h (.param name) ?_, fun type htype => h (.result type) ?_⟩
    · simp [clauses, hname]
    · simp [clauses, Option.mem_def.1 htype]

/-- Line by line, the skeleton is a block of the grammar. -/
theorem skeletonLines_mem_language (g : DocGrammar) :
    g.skeletonLines.map String.toList ∈ g.language := by
  rw [language_eq_prod, skeletonLines, List.map_map]
  exact map_mem_prod_map DocClause.sampleLine_mem_language g.clauses

theorem StaysOnLines.lines_skeleton (h : g.StaysOnLines) :
    lines g.skeleton.toList = g.skeletonLines.map String.toList := by
  rw [skeleton, String.toList_intercalate]
  refine lines_intercalate ?_ ?_
  · intro l hl
    simp only [skeletonLines, List.map_map, List.mem_map] at hl
    obtain ⟨clause, hclause, rfl⟩ := hl
    exact (staysOnLines_iff_clauses.1 h clause hclause).not_mem_sampleLine
  · intro l hl
    simp only [skeletonLines, List.map_map, List.mem_map] at hl
    obtain ⟨clause, -, rfl⟩ := hl
    exact clause.sampleLine_visible

theorem StaysOnLines.matchText_skeleton (h : g.StaysOnLines) :
    g.matchText g.skeleton = .ok () := by
  rw [matchText_eq_ok_iff, h.lines_skeleton]
  exact g.skeletonLines_mem_language

/-- A block that matches has every name and type on one of its lines. -/
theorem staysOnLines_of_matchText (h : g.matchText text = .ok ()) : g.StaysOnLines := by
  rw [matchText_eq_ok_iff, language_eq_prod] at h
  refine staysOnLines_iff_clauses.2 fun clause hclause => ?_
  obtain ⟨part, hpart, hsub⟩ := exists_subset_of_mem_prod h (List.mem_map_of_mem hclause)
  exact DocClause.staysOnLine_of_mem_language hpart fun l hl => not_mem_of_mem_lines (hsub hl)

end DocGrammar

/-! ### The example of an issue -/

/-- The function with another documentation block. -/
def Function.withDoc (f : Function) (doc : Comment) : Function := { f with doc := some doc }

theorem docIssue?_withDoc_eq_none_iff {f : Function} {doc : Comment} :
    docIssue? (f.withDoc doc) = none ↔
      (DocGrammar.ofFunction f).matchText doc.text = .ok () := by
  have hgrammar : DocGrammar.ofFunction (f.withDoc doc) = DocGrammar.ofFunction f := rfl
  simp only [docIssue?, Function.withDoc] at hgrammar ⊢
  rw [hgrammar]
  cases (DocGrammar.ofFunction f).matchText doc.text with
  | ok _ => simp
  | error mismatch => simp

/-- The example of an issue is the skeleton, whether the block is missing or does not match. -/
theorem sample?_of_docIssue? {f : Function} {issue : Issue} (h : docIssue? f = some issue) :
    issue.sample? = some (DocGrammar.ofFunction f).skeleton := by
  unfold docIssue? at h
  split at h
  · cases h
    rfl
  · split at h
    · cases h
    · cases h
      rfl

namespace DocGrammar

/-- **The skeleton fits if anything fits.** For the grammar of any requirements, some block
matches, the skeleton matches, and no name and no type holds a line feed: each of these says the
same. So a function that can be documented at all passes with the example of the issue that is
reported for it, wherever the example is put. -/
theorem skeleton_matches_iff_satisfiable :
    (∀ steps : List Step, List.TFAE [
      ∃ text, (ofSteps steps).matchText text = .ok (),
      (ofSteps steps).matchText (ofSteps steps).skeleton = .ok (),
      (ofSteps steps).StaysOnLines]) ∧
    ∀ (f : Function) (doc : Comment), (checkDocBlock (f.withDoc doc)).Yields true [] →
      ∀ issue ∈ (checkDocBlock f).onEmpty.2, ∃ block, issue.sample? = some block ∧
        ∀ span, (checkDocBlock (f.withDoc ⟨block, span⟩)).Yields true [] := by
  constructor
  · intro steps
    tfae_have 1 → 3 := fun ⟨_, h⟩ => staysOnLines_of_matchText h
    tfae_have 3 → 2 := fun h => h.matchText_skeleton
    tfae_have 2 → 1 := fun h => ⟨_, h⟩
    tfae_finish
  · intro f doc hdoc issue hissue
    have hmatch := docIssue?_withDoc_eq_none_iff.1 (Check.yields_passes_true_iff.1 hdoc)
    have hreported : docIssue? f = some issue := by
      rw [checkDocBlock, (Check.yields_passes (docIssue? f)).onEmpty] at hissue
      exact Option.mem_toList.1 hissue
    refine ⟨(ofFunction f).skeleton, sample?_of_docIssue? hreported, fun span => ?_⟩
    refine Check.yields_passes_true_iff.2 (docIssue?_withDoc_eq_none_iff.2 ?_)
    exact (staysOnLines_of_matchText hmatch).matchText_skeleton

/-- A function with a result and a throwing part, of which only a parameter is documented. -/
def halfDocumented : Function where
  name := "divide"
  params := ["a", "b"]
  returnType := some " Int "
  body := ["if (b == 0) throw ArithmeticException()", "return a / b"]
  doc := some ⟨"/**\n * Divides.\n * @param a the dividend\n */", {}⟩

/-- A block that documents all of it. -/
def fullBlock : Comment where
  text := "/**\n * Divides.\n * @param a the dividend\n * @param b the divisor, not zero\n" ++
    " * @return Int the quotient, cut off\n * @throws ArithmeticException\n */"

theorem skeleton_mends_halfDocumented :
    (checkDocBlock (halfDocumented.withDoc fullBlock)).Yields true [] ∧
    ∃ issue ∈ (checkDocBlock halfDocumented).onEmpty.2, issue.kind = .docBlockMismatch ∧
      ∃ block, issue.sample? = some block ∧
        ∀ span, (checkDocBlock (halfDocumented.withDoc ⟨block, span⟩)).Yields true [] := by
  have hmatch : (ofFunction halfDocumented).matchText fullBlock.text = .ok () := by
    unfold matchText fullBlock
    simp only [String.toList_append]
    decide +kernel
  have hfull : (checkDocBlock (halfDocumented.withDoc fullBlock)).Yields true [] :=
    Check.yields_passes_true_iff.2 (docIssue?_withDoc_eq_none_iff.2 hmatch)
  obtain ⟨issue, hissue, hkind⟩ : ∃ issue, docIssue? halfDocumented = some issue ∧
      issue.kind = .docBlockMismatch := by
    have hkind : (docIssue? halfDocumented).map (·.kind) = some .docBlockMismatch := by
      decide +kernel
    exact Option.map_eq_some_iff.1 hkind
  have hmem : issue ∈ (checkDocBlock halfDocumented).onEmpty.2 := by
    rw [checkDocBlock, (Check.yields_passes _).onEmpty]
    exact Option.mem_toList.2 hissue
  exact ⟨hfull, issue, hmem, hkind,
    skeleton_matches_iff_satisfiable.2 halfDocumented fullBlock hfull issue hmem⟩

end DocGrammar

end DocLint

import DocLint.Proofs.Check.Run

/-!
# Samples: the line that an issue shows

An issue about a clause of a header shows a line that would do. For the description and the
author this is a fixed line, for the file name it is made of the name, and for the copyright of
the organization that the project names. A sample is put together by joining texts and judged by
reading them, so it may be refused by the very check that shows it.

This does happen, for copyright lines only. An organization is read up to the comma behind it and
must start with a capital letter. The reader asks this of every line, also of a project that names
its organization. If the name of the project's organization starts with a small letter or has a
comma, the sample is refused, and since the name is compared too, so is every other line
(`Grammar.isUpdateLine_sample_iff`, `Grammar.satisfiable_of_isUpdateLine`).
-/

namespace DocLint

open Header Text

namespace Header

/-! ### The sample of each clause -/

/-- The project names no organization, or one that can be read from a copyright line. -/
def Grammar.Satisfiable (g : Grammar) : Prop :=
  ∀ organization ∈ g.organization,
    organization.toList.head?.any Char.isUpper = true ∧ ',' ∉ organization.toList

/-- What the sample of a copyright line says. -/
def Grammar.sampleUpdate (g : Grammar) : UpdateLine where
  organization := (g.organization.getD "Organization").toList
  years := ⟨"2018".toList, some "2020".toList⟩

theorem Grammar.toList_sampleUpdateLine (g : Grammar) :
    g.sampleUpdateLine.toList = g.sampleUpdate.written := by
  have hend : ", Inc. 2018-2020. All rights reserved.".toList = ", Inc. ".toList ++
      ("2018".toList ++ '-' :: "2020".toList) ++ ". All rights reserved.".toList := by
    decide +kernel
  rw [sampleUpdateLine, String.toList_append, String.toList_append, hend]
  unfold sampleUpdate UpdateLine.written YearSpan.written
  dsimp only
  simp only [List.append_assoc]

/-- A project with a copyright line names an organization that can be read from it. -/
theorem Grammar.satisfiable_of_isUpdateLine {g : Grammar} {l : Line}
    (h : g.isUpdateLine l = true) : g.Satisfiable := by
  obtain ⟨line, hline, hsame, -⟩ := Grammar.isUpdateLine_iff.1 h
  intro organization horganization
  rw [← hsame organization horganization]
  exact ⟨hline.capital, hline.comma⟩

/-- The sample of a copyright line is one exactly if the project can have one. -/
theorem Grammar.isUpdateLine_sample_iff {g : Grammar} :
    g.isUpdateLine g.sampleUpdateLine.toList = true ↔ g.Satisfiable := by
  refine ⟨Grammar.satisfiable_of_isUpdateLine, fun h => ?_⟩
  rw [Grammar.isUpdateLine_iff, g.toList_sampleUpdateLine]
  have hname : g.sampleUpdate.organization.head?.any Char.isUpper = true ∧
      ',' ∉ g.sampleUpdate.organization := by
    unfold sampleUpdate
    cases horganization : g.organization with
    | none => exact ⟨by decide, by decide⟩
    | some organization => exact h organization horganization
  have hyears : YearSpan.WellFormed ⟨"2018".toList, some "2020".toList⟩ :=
    ⟨⟨by decide, by simp⟩, by simp [IsYear]⟩
  refine ⟨g.sampleUpdate, ⟨hname.1, hname.2, hyears⟩, ?_, [], rfl, (List.append_nil _).symm⟩
  intro organization horganization
  rw [sampleUpdate, Option.mem_def.1 horganization]
  rfl

theorem isFileNameOf_sample {name : String} (hne : name.toList ≠ []) (hfeed : '\n' ∉ name.toList) :
    isFileNameOf name (" * " ++ name ++ ".kt").toList = true := by
  rw [isFileNameOf, decide_eq_true_iff, fileName?_eq_some_iff]
  exact ⟨⟨hne, hfeed⟩, [], rfl, by simp⟩

theorem exists_sample_description : ∃ sample, IssueKind.description.sample? = some sample ∧
    isDescription sample.toList = true ∧ '\n' ∉ sample.toList :=
  ⟨_, rfl, by decide +kernel, by decide +kernel⟩

theorem exists_sample_author : ∃ sample, IssueKind.author.sample? = some sample ∧
    isAuthor sample.toList = true ∧ '\n' ∉ sample.toList :=
  ⟨_, rfl, by decide +kernel, by decide +kernel⟩

/-! ### The sample of an issue -/

/-- The test of the clause that an issue is about, for the kinds that are about one line. -/
def clauseTest? (g : Grammar) (name : String) : IssueKind → Option (Line → Bool)
  | .updateLine => some g.isUpdateLine
  | .fileName => some (isFileNameOf name)
  | .description => some isDescription
  | .author => some isAuthor
  | _ => none

/-- The sample of an issue about a clause passes the test of the clause exactly if, for a
copyright line, the project can have one. -/
theorem ClauseIssue.exists_sample {g : Grammar} {name : String} (hne : name.toList ≠ [])
    (hfeed : '\n' ∉ name.toList) {issue : Issue} (h : ClauseIssue g name issue)
    {test : Line → Bool} (htest : clauseTest? g name issue.kind = some test) :
    ∃ sample, issue.sample? = some sample ∧
      (test sample.toList = true ↔ (issue.kind = .updateLine → g.Satisfiable)) := by
  cases h with
  | tooFewLines => cases htest
  | updateLine line =>
      cases htest
      exact ⟨_, rfl, by simpa using Grammar.isUpdateLine_sample_iff⟩
  | fileName line =>
      cases htest
      exact ⟨_, rfl, by simpa using isFileNameOf_sample hne hfeed⟩
  | description line =>
      cases htest
      obtain ⟨sample, hsample, hpasses, -⟩ := exists_sample_description
      exact ⟨sample, hsample, by simpa using hpasses⟩
  | author line =>
      cases htest
      obtain ⟨sample, hsample, hpasses, -⟩ := exists_sample_author
      exact ⟨sample, hsample, by simpa using hpasses⟩

end Header

/-! ### The checks that show samples -/

/-- The calls that check clauses of a header in the file `name`. -/
inductive CheckCall.OfClauses (g : Grammar) (name : String) : CheckCall → Prop
  | updateLine (l : Line) : OfClauses g name (.checkUpdateLine g l)
  | fileName (l : Line) : OfClauses g name (.checkFileName name l)
  | description (l : Line) : OfClauses g name (.checkDescriptionLine l)
  | author (l : Line) : OfClauses g name (.checkAuthorLine l)
  | positions (text : String) : OfClauses g name (.attributeClauses g name text)

theorem CheckCall.OfClauses.clauseIssue {g : Grammar} {name : String} {call : CheckCall}
    (h : call.OfClauses g name) {issue : Issue} (hissue : issue ∈ call.issues) :
    ClauseIssue g name issue := by
  -- A check of one line reports the issue of the line, if there is one.
  have hpasses {issue? : Option Issue}
      (hissue : issue ∈ (CheckAnswer.verdict <$> Check.passes issue?).onEmpty.2) :
      issue? = some issue := by
    rw [((Check.yields_passes issue?).map _).onEmpty] at hissue
    exact Option.mem_toList.1 hissue
  cases h with
  | updateLine l =>
      cases (Option.ite_none_left_eq_some.1 (hpasses hissue)).2
      exact .updateLine none
  | fileName l =>
      cases (Option.ite_none_left_eq_some.1 (hpasses hissue)).2
      exact .fileName none
  | description l =>
      cases (Option.ite_none_left_eq_some.1 (hpasses hissue)).2
      exact .description none
  | author l =>
      cases (Option.ite_none_left_eq_some.1 (hpasses hissue)).2
      exact .author none
  | positions text => exact clauseIssue_of_mem_attributeClauses hissue

/-- **The sample of an issue.** Let a check of clauses report an issue about a copyright line, a
file-name line, a description line or an author line. The issue shows a sample. The sample passes
the test of its clause exactly if the issue is not about a copyright line, or the organization of
the project starts with a capital letter and has no comma. If the sample does not pass, no line
does. -/
theorem sample_passes_iff {g : Grammar} {name : String} (hne : name.toList ≠ [])
    (hfeed : '\n' ∉ name.toList) {call : CheckCall} (hcall : call.OfClauses g name)
    {issue : Issue} (hissue : issue ∈ call.issues) {test : Line → Bool}
    (htest : clauseTest? g name issue.kind = some test) :
    ∃ sample, issue.sample? = some sample ∧
      (test sample.toList = true ↔ (issue.kind = .updateLine → g.Satisfiable)) ∧
      ((∃ l, test l = true) → test sample.toList = true) := by
  obtain ⟨sample, hsample, hpasses⟩ := (hcall.clauseIssue hissue).exists_sample hne hfeed htest
  refine ⟨sample, hsample, hpasses, ?_⟩
  rintro ⟨l, hl⟩
  rw [hpasses]
  intro hkind
  rw [hkind] at htest
  cases htest
  exact Grammar.satisfiable_of_isUpdateLine hl

/-- The sample that the check of copyright lines shows to a project. -/
theorem sample_passes_iff_acmeWidgets :
    "Main".toList ≠ [] ∧ '\n' ∉ "Main".toList ∧
    ∃ issue ∈ (CheckCall.checkUpdateLine { organization := some "Acme Widgets" }
        " * Copyright Acme Widgets, Inc. 2018 - 2020".toList).issues,
      issue.kind = .updateLine ∧ ∃ sample, issue.sample? = some sample ∧
        Grammar.isUpdateLine { organization := some "Acme Widgets" } sample.toList = true := by
  let g : Grammar := { organization := some "Acme Widgets" }
  let call : CheckCall := .checkUpdateLine g " * Copyright Acme Widgets, Inc. 2018 - 2020".toList
  obtain ⟨issue, hissue, hkind⟩ : ∃ issue ∈ call.issues, issue.kind = .updateLine := by
    decide +kernel
  have hne : "Main".toList ≠ [] := by decide
  have hfeed : '\n' ∉ "Main".toList := by decide
  have htest : clauseTest? g "Main" issue.kind = some g.isUpdateLine := by
    rw [hkind]
    rfl
  obtain ⟨sample, hsample, hpasses, -⟩ :=
    sample_passes_iff hne hfeed (.updateLine _) hissue htest
  refine ⟨hne, hfeed, issue, hissue, hkind, sample, hsample, hpasses.2 fun _ => ?_⟩
  simp [Grammar.Satisfiable, g]

/-- A check refuses the line that it shows itself: the organization has a small first letter. -/
theorem sample_refused_eBay :
    ∃ issue ∈ (CheckCall.checkUpdateLine { organization := some "eBay" }
        " * Copyright eBay, Inc. 2018-2020. All rights reserved.".toList).issues,
      issue.kind = .updateLine ∧
      issue.sample? = some " * Copyright eBay, Inc. 2018-2020. All rights reserved." ∧
      Grammar.isUpdateLine { organization := some "eBay" }
        " * Copyright eBay, Inc. 2018-2020. All rights reserved.".toList = false := by
  decide +kernel

end DocLint

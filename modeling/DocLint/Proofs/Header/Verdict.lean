import DocLint.Proofs.Header.Attribution
import DocLint.Proofs.Header.Values
import DocLint.Rule.Check

/-!
# The verdict on a file header

The rule on file headers makes up to three passes over a text: the gate, the check of the file
name on the lines the gate cut out, and the search for the values. Each of them can report. The
verdict says that they never report twice: a text is silent, or has the one issue about its
name, or has the issue of the gate and then, if that is asked for, those of the checks by
position.

The search for the values is only made on headers, where it finds everything
(`Form.exists_yields_recordOf`), so none of its issues is ever seen.
-/

namespace DocLint

open Header Text

variable {g : Grammar} {perClause : Bool} {stem text : String}

/-! ### The passes put together -/

/-- On a header the rule reports the file name, if it is not that of the file. -/
theorem yields_headerIssues_of_form (h : Form g) (hlines : h.lines = lines text.toList) :
    (headerIssues g perClause stem text).Yields ()
      (if isFileNameOf stem h.fileName then [] else [otherFile stem]) := by
  obtain ⟨record, -, hrecord⟩ := h.exists_yields_recordOf
  unfold headerIssues
  by_cases hname : isFileNameOf stem h.fileName = true
  · have hissue : fileNameIssue? stem h.layout.fileName = none := if_pos hname
    simp only [h.parse_eq_ok hlines, hissue, h.readHeader_eq hlines, if_pos hname]
    exact hrecord.discard
  · have hissue : fileNameIssue? stem h.layout.fileName = some _ := if_neg hname
    simp only [h.parse_eq_ok hlines, hissue, if_neg hname]
    exact Check.yields_report (otherFile stem)

/-- On any other text the rule reports where it stops being a header, and then the clauses. -/
theorem yields_headerIssues_of_stop {stop : Stop} (hparse : Layout.parse g text = .error stop) :
    (headerIssues g perClause stem text).Yields ()
      (stop.issue :: if perClause then (attributeClauses g stem text).onEmpty.2 else []) := by
  obtain ⟨issues, hrun, -⟩ := exists_yields_attributeClauses g stem text
  unfold headerIssues
  simp only [hparse]
  cases perClause with
  | false => exact (Check.yields_report stop.issue).bind (Check.yields_pure ())
  | true =>
      rw [hrun.onEmpty]
      exact (Check.yields_report stop.issue).bind hrun.discard

/-! ### The verdict -/

/-- What the issues of a header text in the file `stem` may be. -/
structure HeaderVerdict (g : Grammar) (perClause : Bool) (stem text : String)
    (issues : List Issue) : Prop where
  /-- There are none exactly on a header with the name of the file. -/
  accepted : issues = [] ↔ ∃ h : Form g, h.lines = lines text.toList ∧ NamesFile stem h.fileName
  /-- A header with another name has one issue, at its file-name line. -/
  misnamed : ∀ h : Form g, h.lines = lines text.toList → ¬ NamesFile stem h.fileName →
    ∃ issue, issues = [issue] ∧ issue.kind = .fileName ∧ issue.line = some 2
  /-- A text that is no header has an issue that says so, and after it those of the checks by
  position if they are asked for. -/
  malformed : (¬ ∃ h : Form g, h.lines = lines text.toList) →
    ∃ first, first.kind = .headerMalformed ∧
      issues = first :: if perClause then (attributeClauses g stem text).onEmpty.2 else []
  /-- No search for a value ever fails. -/
  extracted : ∀ issue ∈ issues, issue.kind ≠ .yearRange ∧ issue.kind ≠ .creationDate ∧
    (issue.kind = .author → issue.detail ≠ some "no author name")

namespace HeaderVerdict

/-- Silence is the verdict on a header with the name of the file. -/
theorem nil_of_namesFile (h : Form g) (hlines : h.lines = lines text.toList)
    (hname : NamesFile stem h.fileName) : HeaderVerdict g perClause stem text [] where
  accepted := iff_of_true rfl ⟨h, hlines, hname⟩
  misnamed := by
    intro h' hlines' hother
    rw [Form.lines_injective (hlines'.trans hlines.symm)] at hother
    exact absurd hname hother
  malformed := fun hno => absurd ⟨h, hlines⟩ hno
  extracted := by simp

/-- The one issue about the name is the verdict on a header with another name. -/
theorem otherFile_of_not_namesFile (h : Form g) (hlines : h.lines = lines text.toList)
    (hother : ¬ NamesFile stem h.fileName) :
    HeaderVerdict g perClause stem text [otherFile stem] where
  accepted := by
    refine iff_of_false (List.cons_ne_nil _ _) ?_
    intro hform
    obtain ⟨h', hlines', hname⟩ := hform
    rw [Form.lines_injective (hlines'.trans hlines.symm)] at hname
    exact hother hname
  misnamed := fun _ _ _ => ⟨otherFile stem, rfl, rfl, rfl⟩
  malformed := fun hno => absurd ⟨h, hlines⟩ hno
  extracted := by
    intro issue hissue
    rw [List.mem_singleton] at hissue
    rw [hissue]
    simp [otherFile]

/-- The issue of the gate and those of the checks by position are the verdict on a text that is
no header. -/
theorem cons_of_not_form (hno : ¬ ∃ h : Form g, h.lines = lines text.toList) (stop : Stop) :
    HeaderVerdict g perClause stem text
      (stop.issue :: if perClause then (attributeClauses g stem text).onEmpty.2 else []) where
  accepted := by
    refine iff_of_false (List.cons_ne_nil _ _) ?_
    intro hform
    obtain ⟨h, hlines, -⟩ := hform
    exact hno ⟨h, hlines⟩
  misnamed := fun h hlines _ => absurd ⟨h, hlines⟩ hno
  malformed := fun _ => ⟨stop.issue, rfl, rfl⟩
  extracted := by
    obtain ⟨issues, hrun, hclause⟩ := exists_yields_attributeClauses g stem text
    rw [hrun.onEmpty]
    intro issue hissue
    rcases List.mem_cons.1 hissue with rfl | hissue
    · simp [Stop.issue]
    · -- An author line may be blamed, but not with the words of the search for a name.
      have hmem : issue ∈ issues := by
        split at hissue
        · exact hissue
        · exact absurd hissue List.not_mem_nil
      obtain ⟨hkind, hauthor⟩ := hclause issue hmem
      refine ⟨?_, ?_, ?_⟩
      · intro h
        rw [h] at hkind
        exact absurd hkind (by decide)
      · intro h
        rw [h] at hkind
        exact absurd hkind (by decide)
      · intro h
        rw [hauthor h]
        exact (Option.some_ne_none _).symm

end HeaderVerdict

/-- **The verdict on a file header.** For every grammar, every text and every file, with the
checks by position or without them, the issues that the rule collects are those of the
verdict. -/
theorem headerIssues_verdict (g : Grammar) (perClause : Bool) (stem text : String) :
    HeaderVerdict g perClause stem text (headerIssues g perClause stem text).onEmpty.2 := by
  cases hparse : Layout.parse g text with
  | ok layout =>
      obtain ⟨h, hlines, -⟩ := ofLines_eq_ok_iff.1 hparse
      rw [(yields_headerIssues_of_form h hlines).onEmpty]
      by_cases hname : NamesFile stem h.fileName
      · rw [if_pos ((isFileNameOf_iff_namesFile h.fileName_ok stem).2 hname)]
        exact .nil_of_namesFile h hlines hname
      · rw [if_neg (mt (isFileNameOf_iff_namesFile h.fileName_ok stem).1 hname)]
        exact .otherFile_of_not_namesFile h hlines hname
  | error stop =>
      rw [(yields_headerIssues_of_stop hparse).onEmpty]
      exact .cons_of_not_form (not_exists_form_of_stop hparse) stop

end DocLint

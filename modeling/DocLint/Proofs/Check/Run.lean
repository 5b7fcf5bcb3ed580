import DocLint.DocBlock.Check
import DocLint.Proofs.Header.Attribution
import DocLint.Proofs.Header.Values

/-!
# Runs of checks: a log that only grows

Checks are called one after the other on one log, in any order and any number of times. This
module lists the calls there are (`CheckCall`) and shows that a run of them is made of
independent steps: what a call answers and adds is what it answers and adds on an empty log.

The answer and the log also agree. A call that fails has added an issue, and a call that
succeeds has added none (`Check.ReportsFailure`). For most calls this is read off their shape,
since they are put together from `Check.passes` and `Check.found`. Two need more:

* reading a header searches for three values after the gate, and a search that failed would
  report a second time. It cannot, as every header has all its values;
* the check by position makes four checks, and each of them may report.
-/

namespace DocLint

open Header Text

namespace Check

variable {α β : Type}

/-- The check succeeds exactly if it adds nothing, and adds at most `most` issues. -/
def ReportsFailure (succeeds : α → Bool) (most : Nat) (check : Check α) : Prop :=
  ∃ a issues, check.Yields a issues ∧ (succeeds a = true ↔ issues = []) ∧ issues.length ≤ most

theorem Yields.map {check : Check α} {a : α} {issues : List Issue} (h : check.Yields a issues)
    (f : α → β) : Yields (f <$> check) (f a) issues := by
  intro log
  show (f (check.run log).1, (check.run log).2) = _
  rw [h log]

/-- A run of checks adds what each of them adds, in the order of the run. -/
theorem yields_mapM {run : β → Check α} {a : β → α} {issues : β → List Issue}
    (h : ∀ b, (run b).Yields (a b) (issues b)) (bs : List β) :
    Yields (bs.mapM run) (bs.map a) (bs.flatMap issues) := by
  induction bs with
  | nil => exact yields_pure []
  | cons b bs ih =>
      rw [List.mapM_cons]
      have hrest : Yields (bs.mapM run >>= fun as => pure (a b :: as)) (a b :: bs.map a)
          (bs.flatMap issues ++ []) := ih.bind (yields_pure _)
      rw [List.append_nil] at hrest
      exact (h b).bind hrest

theorem ReportsFailure.map {succeeds : α → Bool} {succeeds' : β → Bool} {most : Nat}
    {check : Check α} {f : α → β} (h : check.ReportsFailure succeeds most)
    (hf : ∀ a, succeeds' (f a) = succeeds a) : ReportsFailure succeeds' most (f <$> check) := by
  obtain ⟨a, issues, hrun, hsucceeds, hmost⟩ := h
  rw [← hf a] at hsucceeds
  exact ⟨f a, issues, hrun.map f, hsucceeds, hmost⟩

theorem reportsFailure_of_silent {succeeds : α → Bool} {check : Check α} {a : α}
    (h : check.Yields a []) (ha : succeeds a = true) (most : Nat) :
    check.ReportsFailure succeeds most :=
  ⟨a, [], h, by simp [ha], Nat.zero_le most⟩

theorem reportsFailure_report {succeeds : α → Bool} {a : α} (ha : succeeds a = false)
    (issue : Issue) : ReportsFailure succeeds 1 (do report issue; pure a) :=
  ⟨a, [issue], (yields_report issue).bind (yields_pure a), by simp [ha], Nat.le_refl 1⟩

theorem reportsFailure_passes (issue? : Option Issue) : (passes issue?).ReportsFailure id 1 := by
  cases issue? with
  | none => exact reportsFailure_of_silent (yields_pure true) rfl 1
  | some issue => exact reportsFailure_report rfl issue

theorem reportsFailure_found (value : Option α) (issue : Issue) :
    (found value issue).ReportsFailure Option.isSome 1 := by
  cases value with
  | some a => exact reportsFailure_of_silent (yields_pure (some a)) rfl 1
  | none => exact reportsFailure_report rfl issue

end Check

/-! ### The calls -/

/-- A call of a check with its arguments. -/
inductive CheckCall where
  | validateHeader (g : Grammar) (text : String)
  | checkUpdateLine (g : Grammar) (l : Line)
  | checkFileName (name : String) (l : Line)
  | checkDescriptionLine (l : Line)
  | checkDescriptionBlock (text : String)
  | checkAuthorLine (l : Line)
  | attributeClauses (g : Grammar) (name text : String)
  | readHeader (g : Grammar) (text : String)
  | readYearRange (text : String)
  | readAuthorName (text : String)
  | readCreationDate (text : String)
  | checkDocBlock (f : Function)

/-- What a call answers. -/
inductive CheckAnswer where
  | verdict (valid : Bool)
  | record (value : Option HeaderRecord)
  | years (value : Option YearSpan)
  | text (value : Option String)

/-- Is the answer that the text is valid, or a value? -/
def CheckAnswer.succeeds : CheckAnswer → Bool
  | verdict valid => valid
  | record value => value.isSome
  | years value => value.isSome
  | text value => value.isSome

namespace CheckCall

/-- Make the call. -/
def run : CheckCall → Check CheckAnswer
  | validateHeader g text => .verdict <$> Header.validate g text
  | checkUpdateLine g l => .verdict <$> Header.checkUpdateLine g l
  | checkFileName name l => .verdict <$> Header.checkFileName name l
  | checkDescriptionLine l => .verdict <$> Header.checkDescriptionLine l
  | checkDescriptionBlock text => .verdict <$> Header.checkDescriptionBlock text
  | checkAuthorLine l => .verdict <$> Header.checkAuthorLine l
  | attributeClauses g name text => .verdict <$> Header.attributeClauses g name text
  | readHeader g text => .record <$> Header.readHeader g text
  | readYearRange text => .years <$> Header.readYearRange text
  | readAuthorName text => .text <$> Header.readAuthorName text
  | readCreationDate text => .text <$> Header.readCreationDate text
  | checkDocBlock f => .verdict <$> DocLint.checkDocBlock f

/-- The answer of a call on an empty log. -/
def answer (call : CheckCall) : CheckAnswer := call.run.onEmpty.1

/-- The issues that a call adds to an empty log. -/
def issues (call : CheckCall) : List Issue := call.run.onEmpty.2

/-- The largest number of issues that a call adds. -/
def mostIssues : CheckCall → Nat
  | attributeClauses _ _ _ => 4
  | _ => 1

end CheckCall

/-! ### Checks made of several parts -/

theorem reportsFailure_validate (g : Grammar) (text : String) :
    (validate g text).ReportsFailure id 1 := by
  unfold validate
  cases Layout.parse g text with
  | ok layout => exact Check.reportsFailure_of_silent (Check.yields_pure true) rfl 1
  | error stop => exact Check.reportsFailure_report rfl stop.issue

/-- The gate reports once, and what passes it has every value. -/
theorem reportsFailure_readHeader (g : Grammar) (text : String) :
    (readHeader g text).ReportsFailure Option.isSome 1 := by
  unfold readHeader
  cases hparse : Layout.parse g text with
  | ok layout =>
      obtain ⟨h, -, rfl⟩ := ofLines_eq_ok_iff.1 hparse
      obtain ⟨record, -, hrecord⟩ := h.exists_yields_recordOf
      exact Check.reportsFailure_of_silent hrecord rfl 1
  | error stop => exact Check.reportsFailure_report rfl stop.issue

theorem length_blamed_le (g : Grammar) (name : String) (ls : List Line) :
    (blamed g name ls).length ≤ 4 := by
  have hpart (issue? : Option Issue) : issue?.toList.length ≤ 1 := by
    cases issue? <;> simp
  simp only [blamed, List.length_append]
  have hupdate := hpart ((updateIssue? g (lineAt ls 1)).map (·.atLine 1))
  have hfileName := hpart ((fileNameIssue? name (lineAt ls 2)).map (·.atLine 2))
  have hdescription := hpart (descriptionBlockIssue? ls)
  have hauthor := hpart ((authorIssue? (lineAt ls (ls.length - 2))).map (·.atLine (ls.length - 2)))
  omega

theorem reportsFailure_attributeClauses (g : Grammar) (name text : String) :
    (attributeClauses g name text).ReportsFailure id 4 := by
  by_cases hlength : (dropBlankTail (pieces text.toList)).length < minLines
  · exact ⟨false, _, attributeClauses_yields_tooFewLines hlength, by simp, by simp⟩
  · refine ⟨_, _, attributeClauses_yields_blamed (Nat.not_lt.1 hlength), ?_,
      length_blamed_le ..⟩
    exact List.isEmpty_iff

theorem CheckCall.reportsFailure (call : CheckCall) :
    call.run.ReportsFailure CheckAnswer.succeeds call.mostIssues := by
  cases call with
  | validateHeader g text => exact (reportsFailure_validate g text).map fun _ => rfl
  | attributeClauses g name text =>
      exact (reportsFailure_attributeClauses g name text).map fun _ => rfl
  | readHeader g text => exact (reportsFailure_readHeader g text).map fun _ => rfl
  | readYearRange text => exact (Check.reportsFailure_found _ _).map fun _ => rfl
  | readAuthorName text => exact (Check.reportsFailure_found _ _).map fun _ => rfl
  | readCreationDate text => exact (Check.reportsFailure_found _ _).map fun _ => rfl
  -- The other checks are about one line or one block, and pass or name what is wrong.
  | _ => exact (Check.reportsFailure_passes _).map fun _ => rfl

/-! ### Whole runs -/

/-- What holds of a call whenever it is made. -/
structure CheckCall.Disciplined (call : CheckCall) : Prop where
  /-- On every log it gives the same answer and adds the same issues at the end. -/
  appends : call.run.Yields call.answer call.issues
  /-- It succeeds exactly if it adds nothing. -/
  succeeds_iff : call.answer.succeeds = true ↔ call.issues = []
  /-- If it fails it adds an issue, and only the check by position may add more than one. -/
  fails : call.answer.succeeds = false →
    1 ≤ call.issues.length ∧ call.issues.length ≤ call.mostIssues

theorem CheckCall.disciplined (call : CheckCall) : call.Disciplined := by
  obtain ⟨a, issues, hrun, hsucceeds, hmost⟩ := call.reportsFailure
  have hanswer : call.answer = a := congrArg Prod.fst hrun.onEmpty
  have hissues : call.issues = issues := congrArg Prod.snd hrun.onEmpty
  rw [← hanswer, ← hissues] at hrun hsucceeds
  rw [← hissues] at hmost
  refine ⟨hrun, hsucceeds, fun hfails => ⟨?_, hmost⟩⟩
  -- A call that adds nothing succeeds, so one that fails adds something.
  rw [Nat.one_le_iff_ne_zero, Ne, List.length_eq_zero_iff, ← hsucceeds, hfails]
  exact Bool.false_ne_true

/-- **The log of a run.** Whatever calls are made and whatever the log holds before them, the log
afterwards is the log before them with the issues of each call in the order of the calls, and
each answer and each list of issues is the one that the call has on an empty log. Every call of
the run succeeds exactly if it adds nothing, and adds one issue if it fails, the check by
position up to four. -/
theorem run_log_discipline (calls : List CheckCall) :
    Check.Yields (calls.mapM CheckCall.run) (calls.map CheckCall.answer)
      (calls.flatMap CheckCall.issues) ∧
    ∀ call ∈ calls, call.Disciplined :=
  ⟨Check.yields_mapM (fun call => call.disciplined.appends) calls, fun call _ => call.disciplined⟩

end DocLint

import DocLint.Issue

/-!
# The log of a check: what it answers and what it adds

A check can see the log as a state, but no check of the linter looks at it. `Check.Yields` says
so: on every log the check gives the same answer and adds the same issues at the end. The
lemmas here follow the ways checks are put together, so that the answer and the issues of a
check are read off its parts without running it.
-/

namespace DocLint.Check

variable {α β : Type}

/-- On every log, the check answers `a` and adds `issues` at the end. -/
def Yields (check : Check α) (a : α) (issues : List Issue) : Prop :=
  ∀ log, check.run log = (a, log ++ issues)

theorem Yields.onEmpty {check : Check α} {a : α} {issues : List Issue}
    (h : check.Yields a issues) : check.onEmpty = (a, issues) := by
  unfold Check.onEmpty
  rw [h []]
  rfl

/-- A check has one answer and one list of issues. -/
theorem Yields.unique {check : Check α} {a b : α} {issues more : List Issue}
    (h : check.Yields a issues) (h' : check.Yields b more) : a = b ∧ issues = more :=
  Prod.mk.inj (h.onEmpty.symm.trans h'.onEmpty)

/-- Checks are the same exactly if they answer and add the same. -/
theorem Yields.eq_iff {check check' : Check α} {a b : α} {issues more : List Issue}
    (h : check.Yields a issues) (h' : check'.Yields b more) :
    check = check' ↔ a = b ∧ issues = more := by
  constructor
  · rintro rfl
    exact h.unique h'
  · rintro ⟨rfl, rfl⟩
    exact funext fun log => (h log).trans (h' log).symm

theorem yields_pure (a : α) : Yields (pure a) a [] := by
  intro log
  rw [List.append_nil]
  rfl

theorem yields_report (issue : Issue) : (report issue).Yields () [issue] := by
  intro log
  rfl

theorem Yields.bind {check : Check α} {next : α → Check β} {a : α} {b : β}
    {issues more : List Issue} (h : check.Yields a issues) (hnext : (next a).Yields b more) :
    Yields (check >>= next) b (issues ++ more) := by
  intro log
  show (next (check.run log).1).run (check.run log).2 = _
  rw [h log]
  show (next a).run (log ++ issues) = _
  rw [hnext, List.append_assoc]

theorem Yields.discard {check : Check α} {a : α} {issues : List Issue}
    (h : check.Yields a issues) : Yields (discard check) () issues := by
  intro log
  show ((), (check.run log).2) = _
  rw [h log]

/-- An issue that is there is added, and makes the check fail. -/
theorem yields_passes (issue? : Option Issue) :
    (passes issue?).Yields issue?.isNone issue?.toList := by
  cases issue? with
  | none => exact yields_pure true
  | some issue => exact (yields_report issue).bind (yields_pure false)

theorem yields_passes_true_iff {issue? : Option Issue} :
    (passes issue?).Yields true [] ↔ issue? = none := by
  constructor
  · intro h
    exact Option.isNone_iff_eq_none.1 ((yields_passes issue?).unique h).1
  · rintro rfl
    exact yields_pure true

theorem passes_inj {issue? issue'? : Option Issue} :
    passes issue? = passes issue'? ↔ issue? = issue'? := by
  rw [(yields_passes issue?).eq_iff (yields_passes issue'?)]
  cases issue? <;> cases issue'? <;> simp

/-- A value that is there is the answer, and nothing is added. -/
theorem yields_found {value : Option α} {a : α} (h : value = some a) (issue : Issue) :
    (found value issue).Yields (some a) [] := by
  rw [h]
  exact yields_pure (some a)

theorem yields_forM_report (issues : List Issue) :
    Yields (issues.forM report) () issues := by
  induction issues with
  | nil => exact yields_pure ()
  | cons issue issues ih => exact (yields_report issue).bind ih

end DocLint.Check

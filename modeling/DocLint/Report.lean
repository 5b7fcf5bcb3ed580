import DocLint.Path
import DocLint.Violation

/-!
# Reports: the violations of a run

A report counts its violations by severity and orders them by file, line and column. The
files are compared as paths, and violations at the same place keep their order.
-/

namespace DocLint

/-- How many violations there are of each severity. -/
structure Counts where
  /-- The number of errors. -/
  errors : Nat
  /-- The number of warnings. -/
  warnings : Nat
  /-- The number of remarks. -/
  infos : Nat
deriving DecidableEq, Repr

/-- The counts in words. -/
def Counts.text (c : Counts) : String :=
  toString c.errors ++ " error(s), " ++ toString c.warnings ++ " warning(s), " ++
    toString c.infos ++ " info(s)"

/-- What a run found. -/
structure Report where
  /-- The violations. -/
  violations : List Violation := []
  /-- The number of files that were checked. -/
  filesChecked : Nat := 0
deriving DecidableEq, Repr

/-- Order of violations by file, line and column. -/
def Violation.compare (a b : Violation) : Ordering :=
  (Path.compare a.location.file b.location.file).then
    ((Ord.compare a.location.span.line b.location.span.line).then
      (Ord.compare a.location.span.column b.location.span.column))

/-- Does `a` come before `b`, or stand at the same place? -/
def Violation.le (a b : Violation) : Bool := a.compare b != .gt

namespace Report

/-- The number of violations of a severity. -/
def countOf (report : Report) (severity : Severity) : Nat :=
  report.violations.countP (·.severity = severity)

/-- The number of violations of each severity. -/
def counts (report : Report) : Counts :=
  ⟨report.countOf .error, report.countOf .warning, report.countOf .info⟩

/-- Is there a violation at least as grave as `severity`? -/
def reaches (report : Report) (severity : Severity) : Bool :=
  report.violations.any (·.severity.reaches severity)

/-- The report with its violations in the order of their places. -/
def sorted (report : Report) : Report :=
  { report with violations := report.violations.mergeSort Violation.le }

end Report

end DocLint

import DocLint.Proofs.Path
import DocLint.Proofs.Sorting
import DocLint.Report

/-!
# Reports: violations in the order of their places

Violations are compared by file, line and column. Each of the three comparisons is transitive, so
theirs is, and sorting a report is a stable sort by it.
-/

namespace DocLint

theorem Violation.compare_eq_compareLex :
    Violation.compare = compareLex (compareOn fun v => Path.sortKey v.location.file)
      (compareLex (compareOn fun v => v.location.span.line)
        (compareOn fun v => v.location.span.column)) := by
  funext v w
  rw [Violation.compare, Path.compare_eq_compareOn]
  rfl

instance : Std.TransCmp Violation.compare := by
  rw [Violation.compare_eq_compareLex]
  infer_instance

theorem Report.stableSort_sorted (report : Report) :
    StableSort Violation.compare report.violations report.sorted.violations :=
  stableSort_mergeSort Violation.compare report.violations

end DocLint

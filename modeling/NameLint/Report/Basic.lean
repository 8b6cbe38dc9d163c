import NameLint.Report.Violation

/-!
# Reports

What a scan found: violations, files that could not be checked, and how many could. Reports are joined,
and sorting puts one into the only order that depends on its content alone.
-/

namespace NameLint.Report

/-- The result of a scan. -/
structure ScanReport where
  violations : List Violation := []
  failures : List Failure := []
  filesChecked : Nat := 0
  deriving DecidableEq, Repr

namespace ScanReport

/-- Whether there is any violation. -/
def hasViolations (r : ScanReport) : Bool := !r.violations.isEmpty

/-- Adds a violation. -/
def addViolation (r : ScanReport) (v : Violation) : ScanReport :=
  { r with violations := r.violations ++ [v] }

/-- Adds a failure. -/
def addFailure (r : ScanReport) (f : Failure) : ScanReport :=
  { r with failures := r.failures ++ [f] }

/-- Adds to the number of files that could be checked. -/
def addChecked (r : ScanReport) (count : Nat) : ScanReport :=
  { r with filesChecked := r.filesChecked + count }

/-- The results of two scans. -/
def extend (r s : ScanReport) : ScanReport :=
  ⟨r.violations ++ s.violations, r.failures ++ s.failures, r.filesChecked + s.filesChecked⟩

/-- The report in order; what is equal in order stays as it was. -/
def sort (r : ScanReport) : ScanReport :=
  { r with
    violations := r.violations.mergeSort fun v w => !w.isBefore v
    failures := r.failures.mergeSort fun f g => !g.isBefore f }

/-- The scan on one line. -/
def summary (r : ScanReport) : String :=
  let skipped :=
    if r.failures.isEmpty then "" else ", " ++ toString r.failures.length ++ " file(s) skipped"
  "Found " ++ toString r.violations.length ++ " violation(s) in " ++ toString r.filesChecked
    ++ " file(s)" ++ skipped

end ScanReport

end NameLint.Report

import NameLint.Config.Basic
import NameLint.Report.Basic
import NameLint.Scan.Check
import NameLint.Scan.Discovery
import NameLint.Source.Decode

/-!
# Scanning

A scan checks every file that is found and gathers the results in a report. A file that cannot be checked
is told of in the report and does not end the scan.
-/

namespace NameLint.Scan

open NameLint.Config NameLint.Declaration NameLint.FileTree NameLint.Ignore NameLint.Report

/-- Why a file cannot be checked. -/
inductive FileError where
  | unreadable (fault : Fault)
  | malformed (reason : ExtractError)
  deriving DecidableEq, Repr

/-- The text of an error. -/
def FileError.message : FileError → String
  | .unreadable fault => "failed to read file: " ++ fault.message
  | .malformed reason => "malformed source: " ++ reason.message

/-- How to scan. -/
structure Scanner where
  config : Configuration := .empty
  filter : IgnoreFilter := .none
  /-- Whether a directory that is reached twice ends the scan. -/
  strict : Bool := false
  /-- How deep braces may be nested. -/
  depthLimit : Nat := defaultDepthLimit

namespace Scanner

/-- The violations in a file. -/
def checkFile (s : Scanner) (t : Tree) (path : Path) : Except FileError (List Violation) :=
  match t.read path with
  | .error fault => .error (.unreadable fault)
  | .ok bytes =>
    match Source.decode bytes with
    | .error reason => .error (.malformed reason)
    | .ok text =>
      match checkText s.config s.depthLimit path text with
      | .error reason => .error (.malformed reason)
      | .ok violations => .ok violations

/-- The report on one file. -/
def reportFile (s : Scanner) (t : Tree) (path : Path) : ScanReport :=
  match s.checkFile t path with
  | .ok violations => ⟨violations, [], 1⟩
  | .error e => ⟨[], [⟨path, e.message⟩], 0⟩

/-- The report on several files. -/
def reportFiles (s : Scanner) (t : Tree) (files : List Path) : ScanReport :=
  files.foldl (fun report path => report.extend (s.reportFile t path)) ⟨[], [], 0⟩

/-- Scans what some paths stand for. -/
def scan (s : Scanner) (t : Tree) (paths : List Path) : Except ScanError ScanReport :=
  (discover t s.filter s.strict paths).map fun files => (s.reportFiles t files).sort

end Scanner

end NameLint.Scan

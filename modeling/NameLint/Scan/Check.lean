import NameLint.Config.Basic
import NameLint.Declaration.Occurrence
import NameLint.Report.Violation

/-!
# Checking a source text

The declared names of a text are measured against the patterns of their contexts. A text whose braces are
refused contributes no violation.
-/

namespace NameLint.Scan

open NameLint.Config NameLint.Declaration NameLint.FileTree NameLint.Naming NameLint.Report

/-- The violation that a declared name is, if its context is bound and the name does not fit. -/
def evaluate (config : Configuration) (file : Path) (o : Occurrence) : Option Violation :=
  match config.pattern? o.context with
  | none => none
  | some pattern =>
    if pattern.fits o.name then none
    else some ⟨file, o.place, o.name, o.context, pattern.name, pattern.suggest o.name⟩

/-- The violations of a text. -/
def checkText (config : Configuration) (limit : Nat) (file : Path) (text : String) :
    Except ExtractError (List Violation) :=
  let extraction := extract text limit
  match extraction.failed with
  | some e => .error e
  | none => .ok (extraction.found.filterMap (evaluate config file))

end NameLint.Scan

import Mathlib
import NameLint.Proofs.Report.Order

/-!
# The canonical order of a report

A report is made up by adding violations, failures and counts to it and by extending it by other reports. Sorted, it
depends on what was added alone, if no two violations are in one place under one name and no two failures tell of one
path. Paths count by their components, and so a sorted report does not depend on how they are written either.
-/

namespace NameLint.Report

open NameLint.FileTree

/-! ## Making up reports -/

/-- Something that is added to a report. -/
inductive Addition where
  | violation (v : Violation)
  | failure (f : Failure)
  /-- A number of files that could be checked. -/
  | checked (count : Nat)
  /-- All of another report. -/
  | report (r : ScanReport)

namespace Addition

/-- The report with the addition. -/
def addTo (r : ScanReport) : Addition → ScanReport
  | .violation v => r.addViolation v
  | .failure f => r.addFailure f
  | .checked count => r.addChecked count
  | .report s => r.extend s

/-- What is added. -/
def content : Addition → ScanReport
  | .violation v => { violations := [v] }
  | .failure f => { failures := [f] }
  | .checked count => { filesChecked := count }
  | .report s => s

theorem addTo_eq_extend (r : ScanReport) (a : Addition) : a.addTo r = r.extend a.content := by
  cases a <;> simp [addTo, content, ScanReport.extend, ScanReport.addViolation, ScanReport.addFailure,
    ScanReport.addChecked]

end Addition

namespace ScanReport

/-- The report that some additions make up, one after the other. -/
def ofAdditions (additions : List Addition) : ScanReport :=
  additions.foldl Addition.addTo {}

/-- All violations, all failures and the count of some additions, as they come. -/
def total (additions : List Addition) : ScanReport where
  violations := additions.flatMap (·.content.violations)
  failures := additions.flatMap (·.content.failures)
  filesChecked := (additions.map (·.content.filesChecked)).sum

theorem foldl_addTo (r : ScanReport) (additions : List Addition) :
    additions.foldl Addition.addTo r = r.extend (total additions) := by
  induction additions generalizing r with
  | nil => simp [extend, total]
  | cons a additions ih =>
      rw [List.foldl_cons, ih, a.addTo_eq_extend]
      simp [extend, total, Nat.add_assoc]

theorem ofAdditions_eq (additions : List Addition) : ofAdditions additions = total additions := by
  rw [ofAdditions, foldl_addTo]
  simp [extend]

end ScanReport

/-! ## Places and writings of paths -/

namespace Violation

variable {v w : Violation}

/-- Two violations are in the same place under the same name. -/
def SamePlace (v w : Violation) : Prop :=
  v.file.components = w.file.components ∧ v.place = w.place ∧ v.identifier = w.identifier

/-- Two violations differ at most in how the path is written. -/
def Alike (v w : Violation) : Prop :=
  v.file.components = w.file.components ∧ { v with file := w.file } = w

/-- The order of violations: by the components of the paths, then by line, by column and by name. -/
def Before (v w : Violation) : Prop :=
  v.file.Before w.file ∨ v.file.components = w.file.components ∧
    (v.place.line < w.place.line ∨ v.place.line = w.place.line ∧
      (v.place.column < w.place.column ∨ v.place.column = w.place.column ∧ v.identifier < w.identifier))

theorem isBefore_iff : v.isBefore w = true ↔ v.Before w := by
  simp [isBefore, Before, Path.isBefore_iff, Path.isSame]

theorem samePlace_iff_tied : v.SamePlace w ↔ Precedes.Tied isBefore v w = true := by
  constructor
  · rintro ⟨hfile, hplace, hidentifier⟩
    have hself := precedes.tied_self w
    simp only [Precedes.Tied, isBefore, Path.isBefore, Path.isSame, hfile, hplace, hidentifier] at hself ⊢
    exact hself
  · intro htied
    have hfile : v.file.components = w.file.components := by
      simpa [Path.isSame] using isSame_of_tied htied
    simp only [Precedes.Tied, Bool.and_eq_true, Bool.not_eq_true', Bool.eq_false_iff, ne_eq, isBefore_iff, Before,
      hfile, true_and, not_or, not_and, String.not_lt] at htied
    obtain ⟨⟨-, hline, hcolumn⟩, -, hline', hcolumn'⟩ := htied
    have hsameLine : v.place.line = w.place.line := by omega
    obtain ⟨hcolumn, hname⟩ := hcolumn hsameLine
    obtain ⟨hcolumn', hname'⟩ := hcolumn' hsameLine.symm
    have hsameColumn : v.place.column = w.place.column := by omega
    refine ⟨hfile, ?_, String.le_antisymm (hname' hsameColumn.symm) (hname hsameColumn)⟩
    cases hv : v.place
    cases hw : w.place
    simp_all

/-- How paths are written makes no difference to the order. -/
theorem Alike.isBefore_eq {v v' w w' : Violation} (hv : v.Alike v') (hw : w.Alike w') :
    v.isBefore w = v'.isBefore w' := by
  obtain ⟨hvfile, hv⟩ := hv
  obtain ⟨hwfile, hw⟩ := hw
  rw [← hv, ← hw]
  simp only [isBefore, Path.isBefore, Path.isSame, hvfile, hwfile]

end Violation

namespace Failure

variable {f g : Failure}

/-- Two failures differ at most in how the path is written. -/
def Alike (f g : Failure) : Prop :=
  f.path.components = g.path.components ∧ f.reason = g.reason

/-- The order of failures, by the components of the paths. -/
def Before (f g : Failure) : Prop :=
  f.path.Before g.path

theorem isBefore_iff : f.isBefore g = true ↔ f.Before g :=
  Path.isBefore_iff f.path g.path

theorem samePath_iff_tied : f.path.components = g.path.components ↔ Precedes.Tied isBefore f g = true := by
  rw [Precedes.Tied, Bool.and_eq_true, Bool.not_eq_true', Bool.not_eq_true', isBefore, isBefore,
    ← Path.isSame_iff, Path.isSame, beq_iff_eq]

theorem Alike.isBefore_eq {f f' g g' : Failure} (hf : f.Alike f') (hg : g.Alike g') :
    f.isBefore g = f'.isBefore g' := by
  rw [isBefore, isBefore, Path.isBefore, Path.isBefore, hf.1, hg.1]

end Failure

/-! ## Sorted reports -/

/-- Two lists hold the same, up to their order and to a relation. -/
def SameUpTo {α : Type} (R : α → α → Prop) (xs ys : List α) : Prop :=
  ∃ zs, xs.Perm zs ∧ List.Forall₂ R zs ys

namespace ScanReport

variable {r s : ScanReport} {as bs : List Addition}

/-- No two violations are in the same place under the same name, and no two failures tell of the same path. -/
structure Distinct (r : ScanReport) : Prop where
  violations : r.violations.Pairwise fun v w => ¬ v.SamePlace w
  failures : r.failures.Pairwise fun f g => f.path.components ≠ g.path.components

/-- Two reports hold related violations and failures in the same order, and the same count. -/
structure Related (R : Violation → Violation → Prop) (S : Failure → Failure → Prop) (r s : ScanReport) : Prop where
  violations : List.Forall₂ R r.violations s.violations
  failures : List.Forall₂ S r.failures s.failures
  filesChecked : r.filesChecked = s.filesChecked

theorem Distinct.untied_violations (h : r.Distinct) :
    r.violations.Pairwise fun v w => Precedes.Tied Violation.isBefore v w = false :=
  h.violations.imp fun hplace => Bool.eq_false_iff.mpr (Violation.samePlace_iff_tied.not.mp hplace)

theorem Distinct.untied_failures (h : r.Distinct) :
    r.failures.Pairwise fun f g => Precedes.Tied Failure.isBefore f g = false :=
  h.failures.imp fun hpath => Bool.eq_false_iff.mpr (Failure.samePath_iff_tied.not.mp hpath)

/-- Reports that hold the same up to order are sorted alike, whatever relation it is that the order does not see. -/
theorem related_sort {R : Violation → Violation → Prop} {S : Failure → Failure → Prop}
    (hR : ∀ {v v' w w'}, R v v' → R w w' → v.isBefore w = v'.isBefore w')
    (hS : ∀ {f f' g g'}, S f f' → S g g' → f.isBefore g = f'.isBefore g') (hs : s.Distinct)
    (hviolations : SameUpTo R r.violations s.violations) (hfailures : SameUpTo S r.failures s.failures)
    (hchecked : r.filesChecked = s.filesChecked) : Related R S r.sort s.sort where
  violations := by
    obtain ⟨zs, hperm, hsame⟩ := hviolations
    exact Violation.precedes.forall₂_mergeSort hR hperm hsame hs.untied_violations
  failures := by
    obtain ⟨zs, hperm, hsame⟩ := hfailures
    exact Failure.precedes.forall₂_mergeSort hS hperm hsame hs.untied_failures
  filesChecked := hchecked

theorem Related.eq (h : Related (· = ·) (· = ·) r s) : r = s := by
  obtain ⟨hviolations, hfailures, hchecked⟩ := h
  rw [List.forall₂_eq_eq_eq] at hviolations hfailures
  cases r
  cases s
  simp_all

theorem Distinct.sort_violations (h : r.Distinct) : r.sort.violations.Pairwise Violation.Before :=
  (Violation.precedes.pairwise_before_mergeSort h.untied_violations).imp Violation.isBefore_iff.mp

theorem Distinct.sort_failures (h : r.Distinct) : r.sort.failures.Pairwise Failure.Before :=
  (Failure.precedes.pairwise_before_mergeSort h.untied_failures).imp Failure.isBefore_iff.mp

theorem sort_sort (r : ScanReport) : r.sort.sort = r.sort := by
  simp only [sort, mk.injEq, and_true]
  exact ⟨Violation.precedes.mergeSort_mergeSort r.violations, Failure.precedes.mergeSort_mergeSort r.failures⟩

/-- Additions that come to the same violations and failures in any order, and to the same count, make up one sorted
report; and if paths are written in other ways, reports that differ in that only. A sorted report holds what was
added, each violation and failure before those behind it in order, and is not changed by sorting it again. -/
theorem sort_ofAdditions_canonical (has : (total as).Distinct) :
    ((total bs).violations.Perm (total as).violations → (total bs).failures.Perm (total as).failures →
      (total bs).filesChecked = (total as).filesChecked → (ofAdditions bs).sort = (ofAdditions as).sort) ∧
    (SameUpTo Violation.Alike (total bs).violations (total as).violations →
      SameUpTo Failure.Alike (total bs).failures (total as).failures →
      (total bs).filesChecked = (total as).filesChecked →
      Related Violation.Alike Failure.Alike (ofAdditions bs).sort (ofAdditions as).sort) ∧
    (ofAdditions as).sort.violations.Perm (total as).violations ∧
    (ofAdditions as).sort.failures.Perm (total as).failures ∧
    (ofAdditions as).sort.filesChecked = (total as).filesChecked ∧
    (ofAdditions as).sort.violations.Pairwise Violation.Before ∧
    (ofAdditions as).sort.failures.Pairwise Failure.Before ∧
    (ofAdditions as).sort.sort = (ofAdditions as).sort := by
  rw [ofAdditions_eq, ofAdditions_eq]
  refine ⟨fun hviolations hfailures hchecked => ?_, fun hviolations hfailures hchecked => ?_,
    List.mergeSort_perm .., List.mergeSort_perm .., rfl, has.sort_violations, has.sort_failures, sort_sort _⟩
  · have hsameViolations : SameUpTo (· = ·) (total bs).violations (total as).violations :=
      ⟨_, hviolations, by rw [List.forall₂_eq_eq_eq]⟩
    have hsameFailures : SameUpTo (· = ·) (total bs).failures (total as).failures :=
      ⟨_, hfailures, by rw [List.forall₂_eq_eq_eq]⟩
    refine (related_sort ?_ ?_ has hsameViolations hsameFailures hchecked).eq
    · rintro _ _ _ _ rfl rfl
      rfl
    · rintro _ _ _ _ rfl rfl
      rfl
  · exact related_sort Violation.Alike.isBefore_eq Failure.Alike.isBefore_eq has hviolations hfailures hchecked

/-- A violation in a directory. -/
def inDirectory : Violation := ⟨"a/b.cpp", ⟨1, 7⟩, "x", .global .variable, "PascalCase", none⟩

/-- A violation in a file beside the directory. -/
def besideDirectory : Violation := ⟨"a.cpp", ⟨2, 5⟩, "y", .global .variable, "PascalCase", none⟩

/-- A file that could not be checked. -/
def unchecked : Failure := ⟨"a.h", "not UTF-8"⟩

theorem sort_ofAdditions_canonical_directory :
    (total [.violation besideDirectory, .checked 1, .report ⟨[inDirectory], [unchecked], 2⟩]).Distinct ∧
      (ofAdditions [.report ⟨[inDirectory], [], 3⟩, .failure unchecked, .violation besideDirectory]).sort =
        (ofAdditions [.violation besideDirectory, .checked 1, .report ⟨[inDirectory], [unchecked], 2⟩]).sort := by
  have hdistinct :
      (total [.violation besideDirectory, .checked 1, .report ⟨[inDirectory], [unchecked], 2⟩]).Distinct := by
    refine ⟨List.pairwise_pair.mpr fun hplace => ?_, List.pairwise_singleton ..⟩
    exact absurd hplace.2.2 (by decide)
  refine ⟨hdistinct, ?_⟩
  exact (sort_ofAdditions_canonical hdistinct).1 (List.Perm.swap ..) (List.Perm.refl _) rfl

end ScanReport

end NameLint.Report

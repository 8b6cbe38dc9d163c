import NameLint.Scan.Scanner

/-!
# Checking one file

The violations in a file are the names in its text that do not fit the patterns of their contexts, if the text
can be read to its end. Otherwise the report on the file is one failure and nothing else.
-/

namespace NameLint.Scan

open NameLint.Config NameLint.Declaration NameLint.FileTree NameLint.Report

/-! ## Violations -/

section

variable {config : Configuration} {limit : Nat} {file : Path} {text : String}

theorem evaluate_eq_some_iff {o : Occurrence} {v : Violation} :
    evaluate config file o = some v ↔
      ∃ pattern, config.pattern? o.context = some pattern ∧ pattern.fits o.name = false ∧
        v = ⟨file, o.place, o.name, o.context, pattern.name, pattern.suggest o.name⟩ := by
  unfold evaluate
  cases config.pattern? o.context with
  | none => simp
  | some pattern => cases hfits : pattern.fits o.name <;> simp [hfits, eq_comm (a := v)]

theorem checkText_eq_ok_iff {violations : List Violation} :
    checkText config limit file text = .ok violations ↔
      (extract text limit).failed = none ∧
        violations = (extract text limit).found.filterMap (evaluate config file) := by
  unfold checkText
  cases hfailed : (extract text limit).failed <;> simp [hfailed, eq_comm]

end

/-! ## The text of a file -/

/-- A file holds a text that can be read to its end. -/
def Holds (t : Tree) (limit : Nat) (f : Path) (text : String) : Prop :=
  ∃ bytes, t.read f = .ok bytes ∧ Source.decode bytes = .ok text ∧ (extract text limit).failed = none

namespace Scanner

variable {s : Scanner} {t : Tree} {f : Path}

theorem checkFile_eq_ok_iff {violations : List Violation} :
    s.checkFile t f = .ok violations ↔
      ∃ text, Holds t s.depthLimit f text ∧
        violations = (extract text s.depthLimit).found.filterMap (evaluate s.config f) := by
  cases hread : t.read f with
  | error fault => simp [checkFile, Holds, hread]
  | ok bytes =>
      cases hdecode : Source.decode bytes with
      | error reason => simp [checkFile, Holds, hread, hdecode]
      | ok text =>
          have hcheck : s.checkFile t f = .ok violations ↔
              checkText s.config s.depthLimit f text = .ok violations := by
            unfold checkFile
            cases hcheck : checkText s.config s.depthLimit f text <;> simp [hread, hdecode, hcheck]
          rw [hcheck, checkText_eq_ok_iff]
          constructor
          · rintro ⟨hfailed, rfl⟩
            exact ⟨text, ⟨bytes, hread, hdecode, hfailed⟩, rfl⟩
          · rintro ⟨text', ⟨bytes', hread', hdecode', hfailed⟩, rfl⟩
            cases hread.symm.trans hread'
            cases hdecode.symm.trans hdecode'
            exact ⟨hfailed, rfl⟩

/-! ## Files that can be checked -/

/-- Whether a file can be checked. -/
def isChecked (s : Scanner) (t : Tree) (f : Path) : Bool := (s.checkFile t f).isOk

theorem isChecked_iff : s.isChecked t f = true ↔ ∃ text, Holds t s.depthLimit f text := by
  rw [isChecked]
  cases hcheck : s.checkFile t f with
  | ok violations =>
      obtain ⟨text, hholds, -⟩ := checkFile_eq_ok_iff.mp hcheck
      exact ⟨fun _ => ⟨text, hholds⟩, fun _ => rfl⟩
  | error e =>
      refine ⟨fun h => (nomatch h), fun ⟨text, hholds⟩ => ?_⟩
      cases hcheck.symm.trans (checkFile_eq_ok_iff.mpr ⟨text, hholds, rfl⟩)

theorem pathExists_of_isChecked (h : s.isChecked t f = true) : t.pathExists f = true := by
  obtain ⟨text, bytes, hread, -⟩ := isChecked_iff.mp h
  unfold Tree.read at hread
  unfold Tree.pathExists Tree.lookup?
  split at hread
  · cases hread
  · split at hread
    · simp [*]
    all_goals cases hread

/-- Whether a file can be checked depends only on what its path leads to. -/
theorem isChecked_congr {g : Path} (h : t.resolve f = t.resolve g) : s.isChecked t f = s.isChecked t g := by
  have hread : t.read f = t.read g := by rw [Tree.read, Tree.read, h]
  rw [Bool.eq_iff_iff, isChecked_iff, isChecked_iff]
  simp only [Holds, hread]

/-! ## The report on one file -/

theorem reportFile_of_ok {violations : List Violation} (h : s.checkFile t f = .ok violations) :
    s.reportFile t f = ⟨violations, [], 1⟩ := by
  rw [reportFile, h]

theorem reportFile_of_error {e : FileError} (h : s.checkFile t f = .error e) :
    s.reportFile t f = ⟨[], [⟨f, e.message⟩], 0⟩ := by
  rw [reportFile, h]

theorem mem_violations_iff {v : Violation} :
    v ∈ (s.reportFile t f).violations ↔
      ∃ text, Holds t s.depthLimit f text ∧
        ∃ o ∈ (extract text s.depthLimit).found, evaluate s.config f o = some v := by
  cases hcheck : s.checkFile t f with
  | error e =>
      rw [reportFile_of_error hcheck]
      refine ⟨fun h => (nomatch h), fun ⟨text, hholds, _⟩ => ?_⟩
      cases hcheck.symm.trans (checkFile_eq_ok_iff.mpr ⟨text, hholds, rfl⟩)
  | ok violations =>
      rw [reportFile_of_ok hcheck]
      constructor
      · intro h
        obtain ⟨text, hholds, rfl⟩ := checkFile_eq_ok_iff.mp hcheck
        exact ⟨text, hholds, List.mem_filterMap.mp h⟩
      · rintro ⟨text, hholds, ho⟩
        cases hcheck.symm.trans (checkFile_eq_ok_iff.mpr ⟨text, hholds, rfl⟩)
        exact List.mem_filterMap.mpr ho

theorem of_mem_violations {v : Violation} (h : v ∈ (s.reportFile t f).violations) :
    v.file = f ∧ s.isChecked t f = true := by
  obtain ⟨text, hholds, o, -, ho⟩ := mem_violations_iff.mp h
  obtain ⟨pattern, -, -, rfl⟩ := evaluate_eq_some_iff.mp ho
  exact ⟨rfl, isChecked_iff.mpr ⟨text, hholds⟩⟩

theorem path_of_mem_failures {x : Failure} (h : x ∈ (s.reportFile t f).failures) : x.path = f := by
  cases hcheck : s.checkFile t f with
  | error e => simp_all [reportFile_of_error hcheck]
  | ok violations => simp [reportFile_of_ok hcheck] at h

theorem filesChecked_reportFile : (s.reportFile t f).filesChecked = if s.isChecked t f then 1 else 0 := by
  rw [isChecked, reportFile]
  cases s.checkFile t f <;> rfl

theorem filesChecked_add_failures_reportFile :
    (s.reportFile t f).filesChecked + (s.reportFile t f).failures.length = 1 := by
  cases hcheck : s.checkFile t f with
  | error e => simp [reportFile_of_error hcheck]
  | ok violations => simp [reportFile_of_ok hcheck]

end Scanner

end NameLint.Scan

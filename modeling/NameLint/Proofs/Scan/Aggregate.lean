import NameLint.Proofs.Report.Order
import NameLint.Proofs.Scan.Check
import NameLint.Proofs.Scan.Discovery

/-!
# Reports on several files

The report on several files is put together from reports on each. Files do not influence each other, and the
order in which they are checked does not matter, as what ties in a report is from one file.
-/

namespace NameLint.Scan

open NameLint.Declaration NameLint.FileTree NameLint.Ignore NameLint.Report

/-! ## Listings of different files -/

/-- Two paths that are told apart, also when they lead nowhere. -/
def Apart (t : Tree) (f g : Path) : Prop := identity t f ≠ identity t g ∧ f.isSame g = false

theorem apart_of_resolve {t : Tree} {f g : Path} {q r : Location} (hf : t.resolve f = .ok q)
    (hg : t.resolve g = .ok r) (hne : q ≠ r) : Apart t f g := by
  constructor
  · intro h
    cases hg.symm.trans (resolve_eq_of_identity hf ⟨r, hg⟩ h)
    exact hne rfl
  · rw [Bool.eq_false_iff]
    intro h
    exact hne (Tree.resolve_unique_of_components hf hg (beq_iff_eq.mp h))

namespace Listing

variable {t : Tree} {l l' : Listing} {i : List Component} {f : Path}

/-- Files that are all different are listed as they come. -/
theorem Faithful.files_foldl_add (h : l.Faithful t) (paths : List Path)
    (hnodup : ((l.files ++ paths).map (identity t)).Nodup) :
    (paths.foldl (·.add t) l).files = l.files ++ paths := by
  induction paths generalizing l with
  | nil => simp
  | cons path rest ih =>
      have hnew : identity t path ∉ l.seen := by
        intro hseen
        obtain ⟨f, hf, hidentity⟩ := (h.seen _).mp hseen
        rw [List.map_append, List.map_cons] at hnodup
        exact (List.nodup_append.mp hnodup).2.2 _ (List.mem_map.mpr ⟨f, hf, rfl⟩) _
          (List.mem_cons_self ..) hidentity
      have hadd : (l.add t path).files = l.files ++ [path] := by
        simp [Listing.add, hnew]
      rw [List.foldl_cons, ih (h.add path) (by simpa [hadd] using hnodup), hadd, List.append_assoc]
      rfl

/-- What is not listed when it is added changes nothing. -/
theorem add_of_not_mem (h : f ∉ (l.add t f).files) : l.add t f = l := by
  unfold Listing.add at h ⊢
  split
  · rfl
  · simp_all

theorem mem_files_foldl_add (paths : List Path) (h : f ∈ l.files) :
    f ∈ (paths.foldl (·.add t) l).files := by
  induction paths generalizing l with
  | nil => exact h
  | cons path rest ih => exact ih (mem_files_add h path)

/-- Two listings that may differ in the files with one identity, but in no others. -/
structure SameBut (t : Tree) (i : List Component) (l l' : Listing) : Prop where
  seen : ∀ j, j ≠ i → (j ∈ l.seen ↔ j ∈ l'.seen)
  files : (l.files.filter fun f => identity t f ≠ i) = l'.files.filter fun f => identity t f ≠ i

theorem SameBut.refl (t : Tree) (i : List Component) (l : Listing) : SameBut t i l l :=
  ⟨fun _ _ => Iff.rfl, rfl⟩

/-- A file with that identity makes no other difference. -/
theorem SameBut.add_right (h : SameBut t i l l') {path : Path} (hpath : identity t path = i) :
    SameBut t i l (l'.add t path) := by
  unfold Listing.add
  split
  · exact h
  · refine ⟨fun j hj => ?_, ?_⟩
    · rw [h.seen j hj, hpath, List.mem_cons]
      exact ⟨.inr, fun hmem => hmem.resolve_left hj⟩
    · rw [h.files]
      simp [hpath]

theorem SameBut.symm (h : SameBut t i l l') : SameBut t i l' l :=
  ⟨fun j hj => (h.seen j hj).symm, h.files.symm⟩

theorem SameBut.add (h : SameBut t i l l') (path : Path) : SameBut t i (l.add t path) (l'.add t path) := by
  by_cases hpath : identity t path = i
  · exact ((h.add_right hpath).symm.add_right hpath).symm
  · have hseen := h.seen _ hpath
    unfold Listing.add
    by_cases hold : identity t path ∈ l.seen
    · simpa [hold, hseen.mp hold] using h
    · have hold' : identity t path ∉ l'.seen := fun hmem => hold (hseen.mpr hmem)
      simp only [List.contains_iff_mem, hold, hold', if_false]
      refine ⟨fun j hj => ?_, ?_⟩
      · rw [List.mem_cons, List.mem_cons, h.seen j hj]
      · rw [List.filter_append, List.filter_append, h.files]

theorem SameBut.foldl_add (h : SameBut t i l l') (paths : List Path) :
    SameBut t i (paths.foldl (·.add t) l) (paths.foldl (·.add t) l') := by
  induction paths generalizing l l' with
  | nil => exact h
  | cons path rest ih => exact ih (h.add path)

end Listing

namespace Scanner

variable {s : Scanner} {t : Tree} {f : Path} {files files' : List Path}

/-! ## Several files -/

theorem reportFiles_eq (s : Scanner) (t : Tree) (files : List Path) :
    s.reportFiles t files =
      ⟨files.flatMap fun f => (s.reportFile t f).violations, files.flatMap fun f => (s.reportFile t f).failures,
        files.countP (s.isChecked t)⟩ := by
  have hfold : ∀ r : ScanReport, files.foldl (fun report path => report.extend (s.reportFile t path)) r =
      r.extend ⟨files.flatMap fun f => (s.reportFile t f).violations,
        files.flatMap fun f => (s.reportFile t f).failures, files.countP (s.isChecked t)⟩ := by
    induction files with
    | nil => simp [ScanReport.extend]
    | cons f files ih =>
        intro r
        rw [List.foldl_cons, ih]
        simp only [ScanReport.extend, filesChecked_reportFile, List.flatMap_cons, List.countP_cons,
          List.append_assoc, ScanReport.mk.injEq, true_and]
        omega
  rw [reportFiles, hfold]
  simp [ScanReport.extend]

theorem reportFiles_append (s : Scanner) (t : Tree) (files files' : List Path) :
    s.reportFiles t (files ++ files') = (s.reportFiles t files).extend (s.reportFiles t files') := by
  simp [reportFiles_eq, ScanReport.extend]

theorem filesChecked_add_failures (s : Scanner) (t : Tree) (files : List Path) :
    (s.reportFiles t files).filesChecked + (s.reportFiles t files).failures.length = files.length := by
  rw [reportFiles_eq]
  induction files with
  | nil => rfl
  | cons f files ih =>
      have hone := filesChecked_add_failures_reportFile (s := s) (t := t) (f := f)
      rw [filesChecked_reportFile] at hone
      simp only [List.flatMap_cons, List.countP_cons, List.length_append, List.length_cons] at ih ⊢
      omega

/-- What ties with a violation is from one file: two that can be checked do not have the same components. -/
theorem violations_tied_congr (hdistinct : (files.map (identity t)).Nodup)
    (hperm : (files.filter (s.isChecked t)).Perm (files'.filter (s.isChecked t))) (v : Violation) :
    (files.flatMap fun f => (s.reportFile t f).violations).filter (Precedes.Tied Violation.isBefore v) =
      (files'.flatMap fun f => (s.reportFile t f).violations).filter
        (Precedes.Tied Violation.isBefore v) := by
  have hkey : ∀ files : List Path, ∀ f ∈ files, ∀ w ∈ (s.reportFile t f).violations,
      Precedes.Tied Violation.isBefore v w = true → (v.file.isSame f && s.isChecked t f) = true := by
    intro files f _ w hw htied
    obtain ⟨rfl, hchecked⟩ := of_mem_violations hw
    rw [Violation.isSame_of_tied htied, hchecked, Bool.and_self]
  have hone : (files.filter (s.isChecked t)).Pairwise fun f g =>
      ¬ (v.file.isSame f = true ∧ v.file.isSame g = true) := by
    refine ((List.pairwise_map.mp hdistinct).filter _).imp_of_mem fun {f g} hf hg hne hsame => hne ?_
    obtain ⟨q, hq⟩ := resolve_of_pathExists (pathExists_of_isChecked (List.mem_filter.mp hf).2)
    obtain ⟨r, hr⟩ := resolve_of_pathExists (pathExists_of_isChecked (List.mem_filter.mp hg).2)
    simp only [Path.isSame, beq_iff_eq] at hsame
    rw [identity_of_resolve hq, identity_of_resolve hr,
      Tree.resolve_unique_of_components hq hr (hsame.1.symm.trans hsame.2)]
  rw [filter_flatMap_eq (hkey files), filter_flatMap_eq (hkey files'), ← List.filter_filter,
    ← List.filter_filter, filter_eq_of_perm hperm hone]

theorem failures_tied_congr (happart : files.Pairwise fun f g => f.isSame g = false)
    (hperm : files.Perm files') (x : Failure) :
    (files.flatMap fun f => (s.reportFile t f).failures).filter (Precedes.Tied Failure.isBefore x) =
      (files'.flatMap fun f => (s.reportFile t f).failures).filter (Precedes.Tied Failure.isBefore x) := by
  have hkey : ∀ files : List Path, ∀ f ∈ files, ∀ y ∈ (s.reportFile t f).failures,
      Precedes.Tied Failure.isBefore x y = true → x.path.isSame f = true := by
    intro files f _ y hy htied
    obtain rfl := path_of_mem_failures hy
    exact Failure.isSame_of_tied htied
  have hone : files.Pairwise fun f g => ¬ (x.path.isSame f = true ∧ x.path.isSame g = true) := by
    refine happart.imp fun {f g} hfg hsame => ?_
    simp only [Path.isSame, beq_iff_eq, beq_eq_false_iff_ne] at hsame hfg
    exact hfg (hsame.1.symm.trans hsame.2)
  rw [filter_flatMap_eq (hkey files), filter_flatMap_eq (hkey files'), filter_eq_of_perm hperm hone]

/-- The order in which different files are checked does not show in a sorted report. -/
theorem sort_reportFiles_perm (hdistinct : (files.map (identity t)).Nodup)
    (happart : files.Pairwise fun f g => f.isSame g = false) (hperm : files.Perm files') :
    (s.reportFiles t files).sort = (s.reportFiles t files').sort := by
  rw [reportFiles_eq, reportFiles_eq]
  exact ScanReport.sort_congr (violations_tied_congr hdistinct (hperm.filter _))
    (failures_tied_congr happart hperm) (hperm.countP_eq _)

/-! ## Scans -/

theorem scan_eq_ok_iff {paths : List Path} {report : ScanReport} :
    s.scan t paths = .ok report ↔
      ∃ files, discover t s.filter s.strict paths = .ok files ∧ report = (s.reportFiles t files).sort := by
  unfold scan
  cases discover t s.filter s.strict paths <;> simp [Except.map, eq_comm]

/-- The files among some paths to files: those that the filter does not skip. -/
def kept (s : Scanner) (t : Tree) (paths : List Path) : List Path :=
  paths.filter fun f => !s.filter.skips t f false

theorem flatMap_filesOf_of_plain {paths : List Path} (hplain : ∀ f ∈ paths, t.isDirectory f = false) :
    paths.flatMap (filesOf t s.filter) = s.kept t paths := by
  induction paths with
  | nil => rfl
  | cons f rest ih =>
      obtain ⟨hf, hrest⟩ := List.forall_mem_cons.mp hplain
      rw [List.flatMap_cons, ih hrest, filesOf, hf, kept, kept, List.filter_cons]
      cases s.filter.skips t f false <;> simp

/-- A scan of different files is the report on those that are kept. -/
theorem scan_of_plain {paths : List Path} (hplain : ∀ f ∈ paths, t.isDirectory f = false)
    (happart : paths.Pairwise (Apart t)) :
    s.scan t paths = .ok (s.reportFiles t (s.kept t paths)).sort := by
  have hkept : (s.kept t paths).Pairwise (Apart t) := happart.filter _
  have hnodup : ((s.kept t paths).map (identity t)).Nodup := List.pairwise_map.mpr (hkept.imp And.left)
  have hunbroken : ∀ path ∈ paths, Unbroken t s.filter s.strict path := fun path hpath hdirectory => by
    simp [hplain path hpath] at hdirectory
  have hgathered : (gathered t s.filter paths).files = s.kept t paths := by
    rw [gathered, flatMap_filesOf_of_plain hplain]
    exact Listing.faithful_empty.files_foldl_add _ hnodup
  refine scan_eq_ok_iff.mpr ⟨_, discover_eq_ok_iff.mpr ⟨hunbroken, rfl⟩, ?_⟩
  rw [hgathered]
  exact sort_reportFiles_perm hnodup (hkept.imp And.right) (List.mergeSort_perm ..).symm

theorem scan_append {paths paths' : List Path} (hplain : ∀ f ∈ paths ++ paths', t.isDirectory f = false)
    (happart : (paths ++ paths').Pairwise (Apart t)) :
    ∃ a b, s.scan t paths = .ok a ∧ s.scan t paths' = .ok b ∧
      s.scan t (paths ++ paths') = .ok (a.extend b).sort ∧
      s.scan t (paths ++ paths') = .ok (b.extend a).sort := by
  obtain ⟨hplain₁, hplain₂⟩ := List.forall_mem_append.mp hplain
  obtain ⟨happart₁, happart₂, -⟩ := List.pairwise_append.mp happart
  have hkept : (s.kept t (paths ++ paths')).Pairwise (Apart t) := happart.filter _
  have hsplit : s.kept t (paths ++ paths') = s.kept t paths ++ s.kept t paths' := List.filter_append ..
  refine ⟨_, _, scan_of_plain hplain₁ happart₁, scan_of_plain hplain₂ happart₂, ?_, ?_⟩
  · rw [scan_of_plain hplain happart, ScanReport.sort_extend_sort, hsplit, reportFiles_append]
  · rw [scan_of_plain hplain happart, ScanReport.sort_extend_sort, ← reportFiles_append]
    refine congrArg Except.ok (sort_reportFiles_perm (List.pairwise_map.mpr (hkept.imp And.left))
      (hkept.imp And.right) ?_)
    rw [hsplit]
    exact List.perm_append_comm

/-! ## What each file contributes -/

/-- What a report says of some files: each of them is counted or fails, a file whose text can be read has its
violations and no failure, any other one failure and no violation, and nothing is said of other files. -/
structure ReportsOn (s : Scanner) (t : Tree) (files : List Path) (report : ScanReport) : Prop where
  total : report.filesChecked + report.failures.length = files.length
  read : ∀ f ∈ files, ∀ text, Holds t s.depthLimit f text →
    report.failures.filter (·.path == f) = [] ∧
      (report.violations.filter (·.file == f)).Perm
        ((extract text s.depthLimit).found.filterMap (evaluate s.config f))
  unread : ∀ f ∈ files, (∀ text, ¬ Holds t s.depthLimit f text) →
    report.violations.filter (·.file == f) = [] ∧
      ∃ e, s.checkFile t f = .error e ∧ report.failures.filter (·.path == f) = [⟨f, e.message⟩]
  violations : ∀ v ∈ report.violations, v.file ∈ files
  failures : ∀ x ∈ report.failures, x.path ∈ files

theorem nodup_of_discover {paths : List Path} (h : discover t s.filter s.strict paths = .ok files) :
    (files.map (identity t)).Nodup := by
  obtain ⟨-, rfl⟩ := discover_eq_ok_iff.mp h
  obtain ⟨hfaithful, -⟩ := Listing.faithful_empty.foldl_add (t := t) (paths.flatMap (filesOf t s.filter))
  exact ((List.mergeSort_perm ..).map _).nodup_iff.mpr hfaithful.nodup

theorem failures_perm_of_file (hnodup : files.Nodup) (hf : f ∈ files) :
    ((s.reportFiles t files).sort.failures.filter (·.path == f)).Perm (s.reportFile t f).failures := by
  rw [← filter_flatMap_of_key hnodup hf fun f x hx => path_of_mem_failures (s := s) (t := t) hx,
    reportFiles_eq]
  exact (List.mergeSort_perm ..).filter _

theorem violations_perm_of_file (hnodup : files.Nodup) (hf : f ∈ files) :
    ((s.reportFiles t files).sort.violations.filter (·.file == f)).Perm (s.reportFile t f).violations := by
  rw [← filter_flatMap_of_key hnodup hf fun f v hv => (of_mem_violations (s := s) (t := t) hv).1,
    reportFiles_eq]
  exact (List.mergeSort_perm ..).filter _

/-- The report on different files says of each what is to be said. -/
theorem reportsOn (hnodup : files.Nodup) : s.ReportsOn t files (s.reportFiles t files).sort where
  total := by
    rw [← filesChecked_add_failures s t files]
    exact congrArg ((s.reportFiles t files).filesChecked + ·) (List.length_mergeSort ..)
  read f hf text hholds := by
    have hfailures := failures_perm_of_file (s := s) (t := t) hnodup hf
    have hviolations := violations_perm_of_file (s := s) (t := t) hnodup hf
    rw [reportFile_of_ok (checkFile_eq_ok_iff.mpr ⟨text, hholds, rfl⟩)] at hfailures hviolations
    exact ⟨List.perm_nil.mp hfailures, hviolations⟩
  unread f hf hnone := by
    have hfailures := failures_perm_of_file (s := s) (t := t) hnodup hf
    have hviolations := violations_perm_of_file (s := s) (t := t) hnodup hf
    obtain ⟨e, hcheck⟩ : ∃ e, s.checkFile t f = .error e := by
      cases hcheck : s.checkFile t f with
      | error e => exact ⟨e, rfl⟩
      | ok violations =>
          obtain ⟨text, hholds, -⟩ := checkFile_eq_ok_iff.mp hcheck
          exact absurd hholds (hnone text)
    rw [reportFile_of_error hcheck] at hfailures hviolations
    exact ⟨List.perm_nil.mp hviolations, e, hcheck, List.perm_singleton.mp hfailures⟩
  violations v hv := by
    have hmem := (List.mergeSort_perm ..).mem_iff.mp hv
    rw [reportFiles_eq] at hmem
    obtain ⟨f, hf, hin⟩ := List.mem_flatMap.mp hmem
    exact (of_mem_violations hin).1 ▸ hf
  failures x hx := by
    have hmem := (List.mergeSort_perm ..).mem_iff.mp hx
    rw [reportFiles_eq] at hmem
    obtain ⟨f, hf, hin⟩ := List.mem_flatMap.mp hmem
    exact path_of_mem_failures hin ▸ hf

/-! ## A file that cannot be checked -/

/-- What else leads to a file that cannot be checked cannot be checked either. -/
theorem isChecked_of_identity {g : Path} {q : Location} (hf : t.resolve f = .ok q)
    (hunchecked : s.isChecked t f = false) (h : identity t g = identity t f) : s.isChecked t g = false := by
  rw [Bool.eq_false_iff]
  intro hchecked
  have hg := resolve_eq_of_identity hf (resolve_of_pathExists (pathExists_of_isChecked hchecked)) h.symm
  rw [← isChecked_congr (hf.trans hg.symm), hunchecked] at hchecked
  cases hchecked

theorem gathered_append (filter : IgnoreFilter) (before after : List Path) :
    gathered t filter (before ++ after) =
      (after.flatMap (filesOf t filter)).foldl (·.add t) (gathered t filter before) := by
  simp only [gathered, List.flatMap_append, List.foldl_append]

theorem gathered_insert (filter : IgnoreFilter) (before after : List Path) (hplain : t.isDirectory f = false) :
    gathered t filter (before ++ f :: after) =
      (after.flatMap (filesOf t filter)).foldl (·.add t)
        (if filter.skips t f false then gathered t filter before else (gathered t filter before).add t f) := by
  rw [gathered_append, List.flatMap_cons, List.foldl_append, filesOf, hplain]
  cases filter.skips t f false <;> rfl

/-- A path to no directory makes no difference in the files that are told apart from it. -/
theorem sameBut_gathered {before after : List Path} (hplain : t.isDirectory f = false) :
    Listing.SameBut t (identity t f) (gathered t s.filter (before ++ after))
      (gathered t s.filter (before ++ f :: after)) := by
  rw [gathered_append, gathered_insert _ _ _ hplain]
  refine Listing.SameBut.foldl_add ?_ _
  split
  · exact .refl ..
  · exact (Listing.SameBut.refl ..).add_right rfl

/-- A file that is listed together with a path to no directory, and told apart from it by nothing, is listed
without it or is the path. -/
theorem eq_or_mem_of_mem_gathered {before after : List Path} (hplain : t.isDirectory f = false) {g : Path}
    (hg : g ∈ (gathered t s.filter (before ++ f :: after)).files) (h : identity t g = identity t f) :
    g = f ∨ g ∈ (gathered t s.filter (before ++ after)).files := by
  have hnodup : ((gathered t s.filter (before ++ f :: after)).files.map (identity t)).Nodup :=
    (Listing.faithful_empty.foldl_add _).1.nodup
  by_cases hadded : f ∈ (gathered t s.filter (before ++ f :: after)).files
  · exact .inl (List.inj_on_of_nodup_map hnodup hg hadded h)
  · right
    rw [gathered_insert _ _ _ hplain] at hg hadded
    have hsame : (if s.filter.skips t f false then gathered t s.filter before
        else (gathered t s.filter before).add t f) = gathered t s.filter before := by
      split
      · rfl
      · refine Listing.add_of_not_mem fun hmem => hadded (Listing.mem_files_foldl_add _ ?_)
        rwa [if_neg ‹_›]
    rwa [hsame, ← gathered_append] at hg

theorem filter_isChecked_of_sameBut {l l' : Listing} {i : List Component} (h : Listing.SameBut t i l l')
    (hl : ∀ g ∈ l.files, identity t g = i → s.isChecked t g = false)
    (hl' : ∀ g ∈ l'.files, identity t g = i → s.isChecked t g = false) :
    l.files.filter (s.isChecked t) = l'.files.filter (s.isChecked t) := by
  have hother : ∀ l : Listing, (∀ g ∈ l.files, identity t g = i → s.isChecked t g = false) →
      l.files.filter (s.isChecked t) = (l.files.filter fun g => identity t g ≠ i).filter (s.isChecked t) := by
    intro l hl
    rw [List.filter_filter]
    refine List.filter_congr fun g hg => ?_
    by_cases hi : identity t g = i
    · simp [hi, hl g hg hi]
    · simp [hi]
  rw [hother l hl, hother l' hl', h.files]

theorem discover_insert {before after : List Path} (hplain : t.isDirectory f = false)
    (h : discover t s.filter s.strict (before ++ after) = .ok files) :
    discover t s.filter s.strict (before ++ f :: after) =
      .ok (sortPaths (gathered t s.filter (before ++ f :: after)).files) := by
  obtain ⟨hunbroken, -⟩ := discover_eq_ok_iff.mp h
  refine discover_eq_ok_iff.mpr ⟨fun path hpath hdirectory => ?_, rfl⟩
  rcases List.mem_append.mp hpath with hpath | hpath
  · exact hunbroken path (List.mem_append_left _ hpath) hdirectory
  rcases List.mem_cons.mp hpath with rfl | hpath
  · simp [hplain] at hdirectory
  · exact hunbroken path (List.mem_append_right _ hpath) hdirectory

/-- A file that cannot be checked adds no violation and takes none away. -/
theorem scan_unchecked {before after : List Path} (hplain : t.isDirectory f = false)
    (hfiles : discover t s.filter s.strict (before ++ after) = .ok files) (hself : s.isChecked t f = false)
    (hothers : ∀ g ∈ files, identity t g = identity t f → s.isChecked t g = false) :
    ∃ report, s.scan t (before ++ f :: after) = .ok report ∧
      report.violations = (s.reportFiles t files).sort.violations := by
  have hnodup := nodup_of_discover hfiles
  refine ⟨_, scan_eq_ok_iff.mpr ⟨_, discover_insert hplain hfiles, rfl⟩, ?_⟩
  obtain ⟨-, rfl⟩ := discover_eq_ok_iff.mp hfiles
  have hothers : ∀ g ∈ (gathered t s.filter (before ++ after)).files,
      identity t g = identity t f → s.isChecked t g = false :=
    fun g hg => hothers g ((List.mergeSort_perm ..).mem_iff.mpr hg)
  have hinserted : ∀ g ∈ (gathered t s.filter (before ++ f :: after)).files,
      identity t g = identity t f → s.isChecked t g = false := by
    intro g hg hidentity
    rcases eq_or_mem_of_mem_gathered hplain hg hidentity with rfl | hlisted
    · exact hself
    · exact hothers g hlisted hidentity
  have hsame := filter_isChecked_of_sameBut (sameBut_gathered hplain) hothers hinserted
  have hperm : ∀ files : List Path,
      ((sortPaths files).filter (s.isChecked t)).Perm (files.filter (s.isChecked t)) :=
    fun files => (List.mergeSort_perm ..).filter _
  have hties := violations_tied_congr hnodup
    ((hperm _).trans ((List.Perm.of_eq hsame).trans (hperm _).symm))
  rw [reportFiles_eq, reportFiles_eq]
  exact (Violation.precedes.mergeSort_congr hties).symm

/-- Files are checked independently of each other. The report on paths to different files is put together from
the reports on some of them and on the others, in either order; a report tells of every file that was found,
and a file that cannot be checked changes no violation. -/
theorem scan_composes (s : Scanner) (t : Tree) :
    (∀ paths paths' : List Path, (∀ f ∈ paths ++ paths', t.isDirectory f = false) →
      (paths ++ paths').Pairwise (Apart t) →
      ∃ a b, s.scan t paths = .ok a ∧ s.scan t paths' = .ok b ∧
        s.scan t (paths ++ paths') = .ok (a.extend b).sort ∧
        s.scan t (paths ++ paths') = .ok (b.extend a).sort) ∧
    (∀ paths report, s.scan t paths = .ok report →
      ∃ files, discover t s.filter s.strict paths = .ok files ∧ s.ReportsOn t files report) ∧
    (∀ before after files f report, s.scan t (before ++ after) = .ok report →
      discover t s.filter s.strict (before ++ after) = .ok files → t.isDirectory f = false →
      (∀ text, ¬ Holds t s.depthLimit f text) →
      (t.pathExists f = false → ∀ g ∈ files, t.pathExists g = true → identity t g ≠ identity t f) →
      ∃ report', s.scan t (before ++ f :: after) = .ok report' ∧
        report'.violations = report.violations) := by
  refine ⟨fun paths paths' => scan_append, fun paths report hscan => ?_, ?_⟩
  · obtain ⟨files, hfiles, rfl⟩ := scan_eq_ok_iff.mp hscan
    exact ⟨files, hfiles, reportsOn (nodup_of_discover hfiles).of_map⟩
  · intro before after files f report hscan hfiles hplain hnone hnew
    have hunchecked : s.isChecked t f = false := by
      rw [Bool.eq_false_iff, ne_eq, isChecked_iff]
      exact fun ⟨text, hholds⟩ => hnone text hholds
    obtain ⟨files', hfiles', rfl⟩ := scan_eq_ok_iff.mp hscan
    cases hfiles.symm.trans hfiles'
    refine scan_unchecked hplain hfiles hunchecked fun g hg hidentity => ?_
    cases hexists : t.pathExists f with
    | true =>
        obtain ⟨q, hq⟩ := resolve_of_pathExists hexists
        exact isChecked_of_identity hq hunchecked hidentity
    | false =>
        rw [Bool.eq_false_iff]
        exact fun hchecked => hnew hexists g hg (pathExists_of_isChecked hchecked) hidentity

/-- A source file with a misspelled name, and a file that is no text. -/
def badName : Tree :=
  ⟨[(["a.cpp"], .file [105, 110, 116, 32, 65, 98, 59]), (["b.cpp"], .file [255])], []⟩

theorem badName_resolve :
    badName.resolve "a.cpp" = .ok ["a.cpp"] ∧ badName.resolve "b.cpp" = .ok ["b.cpp"] := by
  have hsteps : Path.steps "a.cpp" = [.name "a.cpp"] ∧ Path.steps "b.cpp" = [.name "b.cpp"] := by decide
  rw [Tree.resolve_eq_follow (by decide) (by decide) (by decide),
    Tree.resolve_eq_follow (by decide) (by decide) (by decide)]
  simp +decide [hsteps, Tree.follow, badName, Tree.node?, linkLimit]

/-- A scan for global variables that are not in snake case. -/
def forVariables : Scanner := ⟨⟨[⟨.global .variable, .builtin .snake, 1⟩]⟩, .none, true, 256⟩

theorem scan_composes_badName :
    ∃ a b files, forVariables.scan badName ["a.cpp"] = .ok a ∧ forVariables.scan badName ["b.cpp"] = .ok b ∧
      forVariables.scan badName ["a.cpp", "b.cpp"] = .ok (a.extend b).sort ∧
      forVariables.scan badName ["a.cpp", "b.cpp"] = .ok (b.extend a).sort ∧
      forVariables.ReportsOn badName files (a.extend b).sort ∧ (a.extend b).sort.violations = a.violations := by
  obtain ⟨hcomposes, haccounts, hadds⟩ := scan_composes forVariables badName
  obtain ⟨ha, hb⟩ := badName_resolve
  have hplain : ∀ f ∈ ["a.cpp"] ++ ["b.cpp"], badName.isDirectory f = false := by
    simp [Tree.isDirectory, Tree.lookup?, ha, hb]
    decide
  obtain ⟨a, b, hscan₁, hscan₂, hscan, hscan'⟩ := hcomposes ["a.cpp"] ["b.cpp"] hplain
    (by simpa using apart_of_resolve ha hb (by decide))
  obtain ⟨files, hfiles, hreports⟩ := haccounts _ _ hscan
  obtain ⟨found, hfound, -⟩ := haccounts _ _ hscan₁
  have hnone : ∀ text, ¬ Holds badName forVariables.depthLimit "b.cpp" text := by
    rintro text ⟨bytes, hread, hdecode, -⟩
    rw [Tree.read, hb] at hread
    cases hread
    cases (show Source.decode [255] = .error (.notUtf8 0) by decide +kernel).symm.trans hdecode
  have hexists : badName.pathExists "b.cpp" = true := by
    rw [Tree.pathExists, Tree.lookup?, hb]
    decide
  obtain ⟨report, hreport, hsame⟩ := hadds ["a.cpp"] [] found "b.cpp" a hscan₁ hfound
    (hplain _ (by simp)) hnone (by simp [hexists])
  cases hscan.symm.trans hreport
  exact ⟨a, b, files, hscan₁, hscan₂, hscan, hscan', hreports, hsame⟩

end Scanner

end NameLint.Scan

import NameLint.Proofs.Config.Bindings
import NameLint.Proofs.FileTree.Leads
import NameLint.Proofs.FileTree.Proper
import NameLint.Proofs.Reading.Site
import NameLint.Proofs.Report.Lines
import NameLint.Proofs.Scan.Aggregate

/-!
# What can break a line of a report

A line of a report is put together from a path, a key, a name and the text of a pattern. In a tree whose names
are on one line so is every path that leads anywhere, and a name is one word of a text. So there is a line for
each violation and failure unless the text of a pattern that does not fit, or a path to scan that leads nowhere,
is on several lines.
-/

namespace NameLint.FileTree

open NameLint.Report

/-! ## Paths -/

namespace Path

variable {p : Path} {name : String} {part : List Char}

theorem exists_mem_splitSlashes_iff {c : Char} (hc : c ≠ '/') (cs : List Char) :
    (∃ part ∈ splitSlashes cs, c ∈ part) ↔ c ∈ cs := by
  induction cs with
  | nil => simp [splitSlashes]
  | cons d cs ih =>
      rw [List.mem_cons, ← ih, splitSlashes]
      split
      · rename_i hd
        simp [hd, hc]
      · cases hsplit : splitSlashes cs with
        | nil => exact absurd hsplit (splitSlashes_ne_nil cs)
        | cons first parts => simp [or_assoc]

theorem stepOf_of_lineFeed (h : '\n' ∈ part) : stepOf part = .name (String.ofList part) := by
  have hhere : (part.isEmpty || part = ['.']) = false := by
    cases part with
    | nil => cases h
    | cons c cs =>
        simp only [List.isEmpty_cons, Bool.false_or, decide_eq_false_iff_not]
        rintro heq
        rw [heq] at h
        exact absurd h (by decide)
  have habove : part ≠ ['.', '.'] := by
    rintro rfl
    exact absurd h (by decide)
  rw [stepOf, hhere, if_neg (by decide), if_neg habove]

theorem steps_ne_nil (p : Path) : p.steps ≠ [] := by
  have hmapped : (splitSlashes p.toList).map stepOf ≠ [] := by
    simpa using splitSlashes_ne_nil p.toList
  unfold steps
  split
  · exact List.cons_ne_nil _ _
  · exact hmapped

theorem name_mem_steps_iff : .name name ∈ p.steps ↔ ∃ part ∈ splitSlashes p.toList, stepOf part = .name name := by
  rw [steps, ← List.mem_map]
  split
  · exact List.mem_cons.trans (or_iff_right (by simp))
  · exact Iff.rfl

theorem name_mem_components_iff : .name name ∈ p.components ↔ .name name ∈ p.steps := by
  have hmoving (cs : List Component) : .name name ∈ moving cs ↔ .name name ∈ cs := by simp [moving]
  rw [← hmoving p.components, ← moving_steps, hmoving]

theorem onOneLine_iff_steps (p : Path) : OnOneLine p ↔ ∀ name, .name name ∈ p.steps → OnOneLine name := by
  constructor
  · intro h name hname hfeed
    obtain ⟨part, hpart, hstep⟩ := name_mem_steps_iff.mp hname
    refine h ((exists_mem_splitSlashes_iff (by decide) _).mp ⟨part, hpart, ?_⟩)
    unfold stepOf at hstep
    split at hstep
    · cases hstep
    split at hstep
    · cases hstep
    · cases hstep
      simpa using hfeed
  · intro h hfeed
    obtain ⟨part, hpart, hmem⟩ := (exists_mem_splitSlashes_iff (by decide) _).mpr hfeed
    refine h _ (name_mem_steps_iff.mpr ⟨part, hpart, stepOf_of_lineFeed hmem⟩) ?_
    simpa using hmem

/-- Whether a path is on one line shows in its components. -/
theorem onOneLine_iff_components (p : Path) :
    OnOneLine p ↔ ∀ name, .name name ∈ p.components → OnOneLine name := by
  rw [onOneLine_iff_steps]
  exact forall_congr' fun name => by rw [name_mem_components_iff]

theorem onOneLine_join (hp : OnOneLine p) (hname : OnOneLine name) : OnOneLine (p.join name) := by
  have hslash : OnOneLine "/" := by decide
  unfold join
  split
  · exact hname
  split
  · exact (onOneLine_append ..).mpr ⟨hp, hname⟩
  · simp only [onOneLine_append, hp, hslash, hname, and_self]

end Path

/-! ## Trees -/

namespace Tree

variable {t : Tree} {place q : Location} {steps : List Component} {path : Path}

/-- The names of all entries are on one line. -/
def NamesOnOneLine (t : Tree) : Prop := ∀ entry ∈ t.nodes, ∀ name ∈ entry.1, OnOneLine name

instance (t : Tree) : Decidable t.NamesOnOneLine :=
  inferInstanceAs (Decidable (∀ entry ∈ t.nodes, ∀ name ∈ entry.1, OnOneLine name))

theorem NamesOnOneLine.of_node? (h : t.NamesOnOneLine) {node : Node} (hnode : t.node? place = some node) :
    ∀ name ∈ place, OnOneLine name := by
  intro name hname
  exact h _ (mem_nodes_of_node? (List.ne_nil_of_mem hname) hnode) name hname

theorem NamesOnOneLine.of_mem_names (h : t.NamesOnOneLine) {name : String} (hname : name ∈ t.names place) :
    OnOneLine name := by
  obtain ⟨entry, hentry, heq⟩ := mem_names_iff.mp hname
  exact h entry hentry name (by simp [heq])

/-- Every name on a way is that of an entry. -/
theorem Leads.onOneLine (hnames : t.NamesOnOneLine) (h : t.Leads place steps q) :
    ∀ name, .name name ∈ steps → OnOneLine name := by
  intro name hname
  induction h with
  | done place => cases hname
  | root directory later ih => exact ih ((List.mem_cons.mp hname).resolve_left (by simp))
  | here directory later ih => exact ih ((List.mem_cons.mp hname).resolve_left (by simp))
  | above directory later ih => exact ih ((List.mem_cons.mp hname).resolve_left (by simp))
  | enter directory entry plain later ih =>
      rcases List.mem_cons.mp hname with heq | hname
      · cases heq
        exact hnames.of_node? entry _ (by simp)
      · exact ih hname
  | link directory entry later ih =>
      rcases List.mem_cons.mp hname with heq | hname
      · cases heq
        exact hnames.of_node? entry _ (by simp)
      · exact ih (List.mem_append_right _ hname)

/-- A way that begins at names on one line ends at such names. -/
theorem Leads.onOneLine_end (hnames : t.NamesOnOneLine) (h : t.Leads place steps q)
    (hplace : ∀ name ∈ place, OnOneLine name) : ∀ name ∈ q, OnOneLine name := by
  induction h with
  | done place => exact hplace
  | root directory later ih => exact ih (by simp)
  | here directory later ih => exact ih hplace
  | above directory later ih => exact ih fun name hname => hplace name ((List.dropLast_sublist _).mem hname)
  | enter directory entry plain later ih => exact ih (hnames.of_node? entry)
  | link directory entry later ih => exact ih hplace

theorem onOneLine_of_resolve (hnames : t.NamesOnOneLine) (h : t.resolve path = .ok q) : OnOneLine path :=
  (Path.onOneLine_iff_steps path).mpr ((leads_of_resolve h).onOneLine hnames)

/-- A way that has a step sets out from a directory. -/
theorem Leads.directory_of_cons {step : Component} (h : t.Leads place (step :: steps) q) :
    t.node? place = some .directory := by
  cases h with
  | root directory => exact directory
  | here directory => exact directory
  | above directory => exact directory
  | enter directory => exact directory
  | link directory => exact directory

/-- The home is looked at with the first step, so its names are those of an entry too. -/
theorem onOneLine_resolved (hnames : t.NamesOnOneLine) (h : t.resolve path = .ok q) :
    ∀ name ∈ q, OnOneLine name := by
  have hleads := leads_of_resolve h
  refine hleads.onOneLine_end hnames ?_
  obtain ⟨step, rest, hcons⟩ := List.exists_cons_of_ne_nil path.steps_ne_nil
  rw [hcons] at hleads
  exact hnames.of_node? hleads.directory_of_cons

end Tree

end NameLint.FileTree

namespace NameLint.Scan

open NameLint.Config NameLint.Declaration NameLint.FileTree NameLint.Ignore NameLint.Naming NameLint.Report
  NameLint.Source

variable {t : Tree} {filter : IgnoreFilter} {f path : Path} {paths files : List Path}

/-! ## Files -/

theorem onOneLine_pendingIn (hnames : t.NamesOnOneLine) (hpath : OnOneLine path) (place : Location)
    (within : List Location) : ∀ p ∈ pendingIn t path place within, OnOneLine p.path := by
  intro p hp
  obtain ⟨name, hname, rfl⟩ := List.mem_map.mp hp
  exact Path.onOneLine_join hpath (hnames.of_mem_names hname)

theorem onOneLine_walkAll (hnames : t.NamesOnOneLine) {v : Visit} {pending : List Pending}
    (hfiles : ∀ f ∈ v.files, OnOneLine f) (hpending : ∀ p ∈ pending, OnOneLine p.path) :
    ∀ f ∈ (walkAll t filter v pending).files, OnOneLine f := by
  fun_induction walkAll t filter v pending with
  | case1 v => exact hfiles
  | case2 v p rest seen ih => exact ih hfiles (List.forall_mem_cons.mp hpending).2
  | case3 v p rest seen ih => exact ih hfiles (List.forall_mem_cons.mp hpending).2
  | case4 v p rest seen ih =>
      obtain ⟨hp, hrest⟩ := List.forall_mem_cons.mp hpending
      refine ih ?_ hrest
      split
      · exact hfiles
      · unfold Visit.found
        split
        · exact List.forall_mem_append.mpr ⟨hfiles, List.forall_mem_singleton.mpr hp⟩
        · exact hfiles
  | case5 v p rest place seen skipped ih => exact ih hfiles (List.forall_mem_cons.mp hpending).2
  | case6 v p rest place seen kept entered ih => exact ih hfiles (List.forall_mem_cons.mp hpending).2
  | case7 v p rest place seen kept fresh ih =>
      obtain ⟨hp, hrest⟩ := List.forall_mem_cons.mp hpending
      exact ih hfiles (List.forall_mem_append.mpr ⟨onOneLine_pendingIn hnames hp place p.within, hrest⟩)

/-- Of the files that a path stands for only the path itself can be on several lines. -/
theorem onOneLine_of_mem_filesOf (hnames : t.NamesOnOneLine)
    (hpath : filter.skips t path false = false → OnOneLine path) (hf : f ∈ filesOf t filter path) : OnOneLine f := by
  unfold filesOf at hf
  split at hf
  · unfold walkDirectory at hf
    split at hf
    · cases hf
    · rename_i place hresolve
      refine onOneLine_walkAll hnames (by simp) ?_ f hf
      split
      · simp
      · exact onOneLine_pendingIn hnames (Tree.onOneLine_of_resolve hnames hresolve) place []
  split at hf
  · cases hf
  · rename_i hkept
    rw [List.mem_singleton.mp hf]
    exact hpath (by simpa using hkept)

/-- A file with the same identity as a path that is on several lines is on several lines too. -/
theorem onOneLine_of_identity (hnames : t.NamesOnOneLine) (h : identity t f = identity t path) (hf : OnOneLine f) :
    OnOneLine path := by
  cases hresolve : t.resolve path with
  | ok q => exact Tree.onOneLine_of_resolve hnames hresolve
  | error fault =>
      have hpath : identity t path = path.components := by rw [identity, hresolve]
      rw [hpath] at h
      refine (Path.onOneLine_iff_components path).mpr fun name hname => ?_
      rw [← h] at hname
      cases hresolve' : t.resolve f with
      | ok q =>
          rw [identity_of_resolve hresolve'] at hname
          obtain ⟨name', hname', heq⟩ := List.mem_map.mp ((List.mem_cons.mp hname).resolve_left (by simp))
          cases heq
          exact Tree.onOneLine_resolved hnames hresolve' _ hname'
      | error fault' =>
          rw [identity, hresolve'] at hname
          exact (Path.onOneLine_iff_components f).mp hf name hname

/-! ## Names and patterns -/

theorem onOneLine_name {text : String} {limit : Nat} {o : Occurrence} (ho : o ∈ (extract text limit).found) :
    OnOneLine o.name := by
  obtain ⟨i, ⟨n, hn, hname, htext, -⟩, -⟩ := foundAt_extract text limit o ho
  rw [← htext]
  exact (tokensFrom_word_after true .start text.toList (List.mem_of_getElem? hn) (Token.kind_of_isName hname)).1

theorem name_of_ofText? {text : String} {pattern : Pattern} (h : Pattern.ofText? text = some pattern) :
    pattern.name = text := by
  unfold Pattern.ofText? at h
  split at h
  · rename_i style hstyle
    cases h
    show style.name = text
    simpa using List.find?_some hstyle
  · obtain ⟨expr, -, rfl⟩ := Option.map_eq_some_iff.mp h
    rfl

theorem key_of_ofKey? {key : String} {context : Context} (h : Context.ofKey? key = some context) :
    context.key = key := by
  simpa using List.find?_some h

namespace Scanner

variable {s : Scanner} {v : Violation} {x : Failure} {r : ScanReport}

theorem mem_violations_sort : v ∈ (s.reportFiles t files).sort.violations ↔
    ∃ f ∈ files, v ∈ (s.reportFile t f).violations := by
  rw [reportFiles_eq]
  exact (List.mergeSort_perm ..).mem_iff.trans List.mem_flatMap

theorem mem_failures_sort : x ∈ (s.reportFiles t files).sort.failures ↔
    ∃ f ∈ files, x ∈ (s.reportFile t f).failures := by
  rw [reportFiles_eq]
  exact (List.mergeSort_perm ..).mem_iff.trans List.mem_flatMap

/-- In a violation only the text of the pattern can be on several lines. -/
theorem onOneLine_violation_iff (hnames : t.NamesOnOneLine) (hv : v ∈ (s.reportFile t f).violations) :
    OnOneLine v.compact ↔ OnOneLine v.expected := by
  obtain ⟨hfile, hchecked⟩ := of_mem_violations hv
  obtain ⟨q, hresolve⟩ := resolve_of_pathExists (pathExists_of_isChecked hchecked)
  have hpath : OnOneLine v.file := hfile ▸ Tree.onOneLine_of_resolve hnames hresolve
  obtain ⟨text, -, o, ho, hevaluate⟩ := mem_violations_iff.mp hv
  obtain ⟨pattern, -, -, rfl⟩ := evaluate_eq_some_iff.mp hevaluate
  rw [Violation.onOneLine_compact_iff]
  exact ⟨fun h => h.2.2, fun h => ⟨hpath, onOneLine_name ho, h⟩⟩

/-- In a failure only the path can be on several lines. -/
theorem onOneLine_failure_iff (hx : x ∈ (s.reportFile t f).failures) : OnOneLine x.text ↔ OnOneLine f := by
  cases hcheck : s.checkFile t f with
  | ok violations =>
      rw [reportFile_of_ok hcheck] at hx
      cases hx
  | error e =>
      rw [reportFile_of_error hcheck] at hx
      rw [List.mem_singleton.mp hx, Failure.onOneLine_text_iff]
      exact and_iff_left (onOneLine_fileError e)

/-- The failures of a scan are on one line exactly when the paths are that it does not skip. -/
theorem onOneLine_failures_iff (hnames : t.NamesOnOneLine)
    (hfiles : discover t s.filter s.strict paths = .ok files) :
    (∀ x ∈ (s.reportFiles t files).sort.failures, OnOneLine x.text) ↔
      ∀ path ∈ paths, s.filter.skips t path false = false → OnOneLine path := by
  obtain ⟨-, rfl⟩ := discover_eq_ok_iff.mp hfiles
  have hmem (f : Path) : f ∈ sortPaths (gathered t s.filter paths).files ↔ f ∈ (gathered t s.filter paths).files :=
    (List.mergeSort_perm ..).mem_iff
  simp only [mem_failures_sort, hmem]
  constructor
  · intro h path hpath hkept
    cases hresolve : t.resolve path with
    | ok q => exact Tree.onOneLine_of_resolve hnames hresolve
    | error fault =>
        -- The path stands for itself, or for another one that was listed in its place.
        have hself : path ∈ filesOf t s.filter path := by
          have hplain : t.isDirectory path = false := by rw [Tree.isDirectory, Tree.lookup?, hresolve]; rfl
          simp [filesOf, hplain, hkept]
        obtain ⟨f, hf, hidentity⟩ := (Listing.faithful_empty.foldl_add _).2.2 path
          (.inr (List.mem_flatMap.mpr ⟨path, hpath, hself⟩))
        refine onOneLine_of_identity hnames hidentity ?_
        cases hresolve' : t.resolve f with
        | ok q => exact Tree.onOneLine_of_resolve hnames hresolve'
        | error fault' =>
            have hcheck : s.checkFile t f = .error (.unreadable fault') := by
              rw [checkFile, Tree.read, hresolve']
            have hx : ⟨f, (FileError.unreadable fault').message⟩ ∈ (s.reportFile t f).failures := by
              rw [reportFile_of_error hcheck]
              exact List.mem_singleton_self _
            exact (onOneLine_failure_iff hx).mp (h _ ⟨f, hf, hx⟩)
  · rintro h x ⟨f, hf, hx⟩
    obtain ⟨path, hpath, hfile⟩ := List.mem_flatMap.mp (of_mem_gathered hf)
    exact (onOneLine_failure_iff hx).mpr (onOneLine_of_mem_filesOf hnames (h path hpath) hfile)

/-- What a violation was expected to be is the value of the only entry for its context. -/
theorem exists_entry_of_mem_violations {entries : List Entry} (hbuild : Configuration.build entries = .ok s.config)
    (hv : v ∈ (s.reportFile t f).violations) :
    (∃ entry ∈ entries, entry.key = v.context.key) ∧
      ∀ entry ∈ entries, entry.key = v.context.key → entry.value = v.expected := by
  obtain ⟨text, -, o, -, hevaluate⟩ := mem_violations_iff.mp hv
  obtain ⟨pattern, hpattern, -, rfl⟩ := evaluate_eq_some_iff.mp hevaluate
  constructor
  · obtain ⟨entry, hentry, hkey, -⟩ := (Configuration.pattern?_eq_some_iff hbuild).mp hpattern
    exact ⟨entry, hentry, (key_of_ofKey? hkey).symm⟩
  · intro entry hentry hkey
    obtain ⟨b, hb⟩ := Option.isSome_iff_exists.mp ((Configuration.build_eq_ok_iff.mp hbuild).1 entry hentry)
    obtain ⟨-, hvalue, -⟩ := Entry.binding?_eq_some_iff.mp hb
    have hcontext : Context.ofKey? entry.key = some o.context := by rw [hkey, Context.ofKey?_key]
    have hbound := (Configuration.pattern?_eq_some_iff hbuild).mpr ⟨entry, hentry, hcontext, hvalue⟩
    cases hpattern.symm.trans hbound
    exact (name_of_ofText? hvalue).symm

/-- The violations of a scan are on one line exactly when the values are of the entries that they violate. -/
theorem onOneLine_violations_iff (hnames : t.NamesOnOneLine) {entries : List Entry}
    (hbuild : Configuration.build entries = .ok s.config) :
    (∀ v ∈ (s.reportFiles t files).sort.violations, OnOneLine v.compact) ↔
      ∀ entry ∈ entries, (∃ v ∈ (s.reportFiles t files).sort.violations, v.context.key = entry.key) →
        OnOneLine entry.value := by
  constructor
  · rintro h entry hentry ⟨v, hv, hkey⟩
    obtain ⟨f, -, hin⟩ := mem_violations_sort.mp hv
    rw [(exists_entry_of_mem_violations hbuild hin).2 entry hentry hkey.symm]
    exact (onOneLine_violation_iff hnames hin).mp (h v hv)
  · intro h v hv
    obtain ⟨f, -, hin⟩ := mem_violations_sort.mp hv
    obtain ⟨⟨entry, hentry, hkey⟩, hvalue⟩ := exists_entry_of_mem_violations hbuild hin
    rw [onOneLine_violation_iff hnames hin, ← hvalue entry hentry hkey]
    exact h entry hentry ⟨v, hv, hkey.symm⟩

/-- The compact form of what a scan found has a line for each violation and, behind them, one for each failure,
exactly when the entries of the configuration that are violated are on one line and so are the paths that the scan
does not skip. Nothing else can break a line in a tree whose names are on one line. -/
theorem renderCompact_lines {paths : List Path} {format : Format} {document : String}
    (hparse : Configuration.parse format document = .ok s.config) (hnames : t.NamesOnOneLine)
    (hscan : s.scan t paths = .ok r) :
    ∃ entries, readEntries? format document = some entries ∧
      (r.renderCompact.toList.splitOn '\n' =
          (r.violations.map (·.compact) ++ r.failures.map (·.text)).map (·.toList) ++ [[]] ↔
        (∀ entry ∈ entries, (∃ v ∈ r.violations, v.context.key = entry.key) → OnOneLine entry.value) ∧
          ∀ path ∈ paths, s.filter.skips t path false = false → OnOneLine path) := by
  unfold Configuration.parse at hparse
  split at hparse
  · cases hparse
  rename_i entries hentries
  obtain ⟨files, hfiles, rfl⟩ := scan_eq_ok_iff.mp hscan
  refine ⟨entries, hentries, (ScanReport.splitOn_renderCompact_iff _).trans ?_⟩
  rw [ScanReport.compactLines, List.forall_mem_append, List.forall_mem_map, List.forall_mem_map,
    onOneLine_violations_iff hnames hparse, onOneLine_failures_iff hnames hfiles]

/-- The configuration that a document holds, for scanning. -/
def forConfig (config : Configuration) : Scanner := { config }

/-- Of the two files the source file alone is scanned, and its only name does not fit. -/
theorem badName_scan {config : Configuration} {pattern : Pattern}
    (hpattern : config.pattern? (.global .variable) = some pattern) (hfits : pattern.fits "Ab" = false) :
    (forConfig config).scan badName ["a.cpp"] =
      .ok ⟨[⟨"a.cpp", ⟨1, 5⟩, "Ab", .global .variable, pattern.name, pattern.suggest "Ab"⟩], [], 1⟩ := by
  obtain ⟨hresolve, -⟩ := badName_resolve
  have hplain : badName.isDirectory "a.cpp" = false := by
    rw [Tree.isDirectory, Tree.lookup?, hresolve]
    decide
  have hkept : (forConfig config).kept badName ["a.cpp"] = ["a.cpp"] := by
    simp [kept, forConfig, IgnoreFilter.skips, hresolve, IgnoreFilter.skipsPlace, IgnoreFilter.none]
  have hread : badName.read "a.cpp" = .ok [105, 110, 116, 32, 65, 98, 59] := by
    rw [Tree.read, hresolve]
    rfl
  have hdecode : Source.decode [105, 110, 116, 32, 65, 98, 59] = .ok "int Ab;" := by decide +kernel
  have hextract : extract "int Ab;" defaultDepthLimit = ⟨[⟨.global .variable, "Ab", ⟨1, 5⟩⟩], none⟩ := by
    decide +kernel
  have hcheck : (forConfig config).checkFile badName "a.cpp" =
      .ok [⟨"a.cpp", ⟨1, 5⟩, "Ab", .global .variable, pattern.name, pattern.suggest "Ab"⟩] := by
    simp [checkFile, hread, hdecode, checkText, forConfig, hextract, evaluate, hpattern, hfits]
  rw [scan_of_plain (by simpa using hplain) (List.pairwise_singleton ..), hkept, reportFiles_eq]
  simp [reportFile_of_ok hcheck, ScanReport.sort, isChecked, hcheck, Except.isOk, Except.toBool]

theorem renderCompact_lines_snake :
    ∃ config r, Configuration.parse .yaml "globalVar: SnakeCase\n" = .ok config ∧
      (forConfig config).scan badName ["a.cpp"] = .ok r ∧ r.violations.length = 1 ∧
      r.renderCompact.toList.splitOn '\n' =
        (r.violations.map (·.compact) ++ r.failures.map (·.text)).map (·.toList) ++ [[]] := by
  obtain ⟨config, pattern, hparse, hpattern, hfits⟩ := exists_pattern
    (show ((Configuration.parse .yaml "globalVar: SnakeCase\n").toOption.bind (·.pattern? (.global .variable))).any
      (fun pattern => !pattern.fits "Ab") = true by decide +kernel)
  have hscan := badName_scan hpattern (by simpa using hfits)
  obtain ⟨entries, hentries, hlines⟩ := renderCompact_lines (s := forConfig config) hparse (by decide) hscan
  refine ⟨config, _, hparse, hscan, rfl, hlines.mpr ⟨fun entry hentry _ => ?_, fun path hpath _ => ?_⟩⟩
  · have hall : ∀ entry ∈ (readEntries? .yaml "globalVar: SnakeCase\n").getD [], OnOneLine entry.value := by
      decide +kernel
    rw [hentries] at hall
    exact hall entry hentry
  · rw [List.mem_singleton.mp hpath]
    decide

/-- One violation, and two lines for it. -/
theorem renderCompact_broken_line :
    ∃ config r, Configuration.parse .yaml "globalVar: \"a\\nb\"\n" = .ok config ∧ badName.NamesOnOneLine ∧
      (forConfig config).scan badName ["a.cpp"] = .ok r ∧ r.violations.length = 1 ∧ r.failures = [] ∧
      r.renderCompact.toList.splitOn '\n' = ["a.cpp:1:5: globalVar 'Ab' should be a".toList, "b".toList, []] := by
  obtain ⟨config, pattern, hparse, hpattern, hfits⟩ := exists_pattern
    (show ((Configuration.parse .yaml "globalVar: \"a\\nb\"\n").toOption.bind
        (·.pattern? (.global .variable))).any
      (fun pattern => !pattern.fits "Ab" && (pattern.name == "a\nb" && pattern.suggest "Ab" == none)) = true by
        decide +kernel)
  simp only [Bool.and_eq_true, Bool.not_eq_true', beq_iff_eq] at hfits
  refine ⟨config, _, hparse, by decide, badName_scan hpattern hfits.1, rfl, rfl, ?_⟩
  rw [hfits.2.1, hfits.2.2]
  decide +kernel

end Scanner

end NameLint.Scan

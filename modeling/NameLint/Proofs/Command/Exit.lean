import NameLint.Command.Run
import NameLint.Proofs.Config.Bindings
import NameLint.Proofs.Naming.FullMatch
import NameLint.Proofs.Scan.Aggregate

/-!
# How a run ends

The first stage of a run that fails decides how the run ends. When none fails, it is decided by whether there is
a name in the files found that does not fit the pattern of its context.
-/

namespace NameLint.Command

open NameLint.Config NameLint.FileTree NameLint.Ignore NameLint.Naming NameLint.Report NameLint.Scan

/-! ## Stages -/

/-- The stages of a run that can fail. -/
inductive Stage where
  | repeatedConfig | repeatedIgnore | noInput | scanPathMissing | configMissing | configNotFile
  | ignoreMissing | ignoreNotFile | loadConfig | loadIgnore | scan
  deriving DecidableEq, Repr

namespace Stage

/-- The stages in the order in which they come. -/
def inOrder : List Stage :=
  [.repeatedConfig, .repeatedIgnore, .noInput, .scanPathMissing, .configMissing, .configNotFile,
    .ignoreMissing, .ignoreNotFile, .loadConfig, .loadIgnore, .scan]

/-- How a run ends when a stage fails. -/
def exit : Stage → Exit
  | .repeatedConfig => .repeatedConfig
  | .repeatedIgnore => .repeatedIgnore
  | .noInput => .noInput
  | .scanPathMissing => .scanPathMissing
  | .configMissing => .configMissing
  | .configNotFile => .configNotFile
  | .ignoreMissing => .ignoreMissing
  | .ignoreNotFile => .ignoreNotFile
  | .loadConfig => .invalidConfig
  | .loadIgnore => .invalidIgnore
  | .scan => .broken

end Stage

/-- The filter of a request: that of its ignore file, if there is one. -/
def filterOf (r : ScanRequest) (t : Tree) : Except IgnoreError IgnoreFilter :=
  match r.ignore? with
  | some path => IgnoreFilter.load t path
  | none => .ok .none

namespace Options

variable {o : Options} {t : Tree}

/-- What options ask for when none is repeated. -/
def asked (o : Options) : ScanRequest := ⟨o.paths, o.configs.head?, o.ignores.head?⟩

/-- Whether a stage fails, whatever the stages before it do. -/
def fails (o : Options) (t : Tree) : Stage → Bool
  | .repeatedConfig => 1 < o.configs.length
  | .repeatedIgnore => 1 < o.ignores.length
  | .noInput => o.paths.isEmpty
  | .scanPathMissing => o.paths.any fun path => !t.pathExists path
  | .configMissing => !t.pathExists o.asked.configPath
  | .configNotFile => !t.isFile o.asked.configPath
  | .ignoreMissing => o.ignores.head?.any fun path => !t.pathExists path
  | .ignoreNotFile => o.ignores.head?.any fun path => !t.isFile path
  | .loadConfig => !(Configuration.load t o.asked.configPath).isOk
  | .loadIgnore => !(filterOf o.asked t).isOk
  | .scan =>
    match filterOf o.asked t with
    | .ok filter => !(discover t filter o.strict o.paths).isOk
    | .error _ => false

/-! ## What fails first -/

/-- A computation fails in the way of the first of some stages that fails, and not at all if none of them does. -/
def FailsAs {ε α : Type} (failed : Stage → Bool) (exit : ε → Exit) (stages : List Stage)
    (x : Except ε α) : Prop :=
  match stages.find? failed with
  | some stage => ∃ e, x = .error e ∧ exit e = stage.exit
  | none => ∃ a, x = .ok a

section

variable {ε ε' α β : Type} {failed : Stage → Bool} {exit : ε → Exit} {stages later : List Stage}
  {stage : Stage} {x : Except ε α}

theorem failsAs_ok (a : α) : FailsAs failed exit [] (.ok a : Except ε α) := ⟨a, rfl⟩

/-- A check comes before what is done when it succeeds. -/
theorem FailsAs.check {c : Prop} [Decidable c] {e : ε} (hx : FailsAs failed exit later x)
    (hcheck : failed stage = decide c) (hexit : exit e = stage.exit) :
    FailsAs failed exit (stage :: later) (if c then .error e else x) := by
  unfold FailsAs at hx ⊢
  by_cases hc : c
  · simpa [hcheck, hc] using hexit
  · simpa [hcheck, hc] using hx

theorem failsAs_of_isOk (hfails : failed stage = !x.isOk) (hexit : ∀ e, x = .error e → exit e = stage.exit) :
    FailsAs failed exit [stage] x := by
  unfold FailsAs
  cases x with
  | ok a => simp [hfails, Except.isOk, Except.toBool]
  | error e => simp [hfails, hexit e rfl, Except.isOk, Except.toBool]

/-- Of two computations in a row the second one can fail only if the first does not. -/
theorem FailsAs.bind (hx : FailsAs failed exit stages x) {f : α → Except ε β}
    (hf : ∀ a, x = .ok a → FailsAs failed exit later (f a)) :
    FailsAs failed exit (stages ++ later) (x >>= f) := by
  unfold FailsAs at hx ⊢
  rw [List.find?_append]
  cases hfind : stages.find? failed with
  | some stage =>
      rw [hfind] at hx
      obtain ⟨e, rfl, hexit⟩ := hx
      exact ⟨e, rfl, hexit⟩
  | none =>
      rw [hfind] at hx
      obtain ⟨a, rfl⟩ := hx
      exact hf a rfl

theorem FailsAs.mapError {g : ε' → ε} {y : Except ε' α} (hy : FailsAs failed (exit ∘ g) stages y) :
    FailsAs failed exit stages (y.mapError g) := by
  unfold FailsAs at hy ⊢
  split at hy
  · obtain ⟨e, rfl, hexit⟩ := hy
    exact ⟨g e, rfl, hexit⟩
  · obtain ⟨a, rfl⟩ := hy
    exact ⟨a, rfl⟩

end

theorem bind_eq_ok {ε α β : Type} {x : Except ε α} {f : α → Except ε β} {b : β} (h : (x >>= f) = .ok b) :
    ∃ a, x = .ok a ∧ f a = .ok b := by
  cases x with
  | error e => cases h
  | ok a => exact ⟨a, rfl, h⟩

theorem mapError_eq_ok {ε ε' α : Type} {x : Except ε α} {g : ε → ε'} {a : α} (h : x.mapError g = .ok a) :
    x = .ok a := by
  cases x with
  | error e => cases h
  | ok b =>
      cases h
      rfl

theorem failsAs_request : FailsAs (o.fails t) Fatal.exit [.repeatedConfig, .repeatedIgnore] o.request := by
  refine .check (.check (failsAs_ok _) ?_ ?_) ?_ ?_ <;> rfl

theorem request_eq_ok {r : ScanRequest} (h : o.request = .ok r) : r = o.asked := by
  unfold request at h
  repeat' split at h
  all_goals cases h
  rfl

theorem failsAs_checkPaths :
    FailsAs (o.fails t) (Fatal.exit ∘ Fatal.request) [.noInput, .scanPathMissing] (o.asked.checkPaths t) := by
  refine .check ?_ (Bool.eq_iff_iff.mpr (by simp [fails, asked])) rfl
  cases hfind : o.paths.find? fun path => !t.pathExists path with
  | some path =>
      have hnone := List.find?_some hfind
      have hmissing : o.fails t .scanPathMissing = true :=
        List.any_eq_true.mpr ⟨path, List.mem_of_find?_eq_some hfind, hnone⟩
      simp [FailsAs, asked, hfind, hmissing, Fatal.exit, Stage.exit]
  | none =>
      have hpresent : o.fails t .scanPathMissing = false :=
        List.any_eq_false.mpr fun path hpath => List.find?_eq_none.mp hfind path hpath
      simp [FailsAs, asked, hfind, hpresent]

theorem failsAs_checkConfig :
    FailsAs (o.fails t) (Fatal.exit ∘ Fatal.request) [.configMissing, .configNotFile]
      (o.asked.checkConfig t) := by
  refine .check (.check (failsAs_ok _) ?_ ?_) ?_ ?_ <;> simp [fails] <;> rfl

theorem failsAs_checkIgnore :
    FailsAs (o.fails t) (Fatal.exit ∘ Fatal.request) [.ignoreMissing, .ignoreNotFile]
      (o.asked.checkIgnore t) := by
  unfold ScanRequest.checkIgnore asked
  cases hignore : o.ignores.head? with
  | none => simp [FailsAs, fails, hignore]
  | some path =>
      refine .check (.check (failsAs_ok _) ?_ ?_) ?_ ?_ <;> simp [fails, hignore] <;> rfl

theorem failsAs_validate :
    FailsAs (o.fails t) (Fatal.exit ∘ Fatal.request)
      [.noInput, .scanPathMissing, .configMissing, .configNotFile, .ignoreMissing, .ignoreNotFile]
      (o.asked.validate t) :=
  failsAs_checkPaths.bind fun _ _ => failsAs_checkConfig.bind fun _ _ => failsAs_checkIgnore

theorem failsAs_loadConfig :
    FailsAs (o.fails t) Fatal.exit [.loadConfig]
      ((Configuration.load t o.asked.configPath).mapError .config) := by
  refine .mapError (failsAs_of_isOk ?_ ?_)
  · rfl
  · exact fun _ _ => rfl

theorem failsAs_loadIgnore :
    FailsAs (o.fails t) Fatal.exit [.loadIgnore] ((filterOf o.asked t).mapError .ignore) := by
  refine .mapError (failsAs_of_isOk ?_ ?_)
  · rfl
  · exact fun _ _ => rfl

theorem failsAs_scanner {config : Configuration} {filter : IgnoreFilter} {limit : Nat}
    (h : filterOf o.asked t = .ok filter) :
    FailsAs (o.fails t) Fatal.exit [.scan]
      ((Scanner.scan ⟨config, filter, o.strict, limit⟩ t o.asked.paths).mapError .scan) := by
  refine .mapError (failsAs_of_isOk ?_ ?_)
  · simp only [fails, h, Scanner.scan]
    change _ = !(Except.map _ (discover t filter o.strict o.paths)).isOk
    cases discover t filter o.strict o.paths <;> rfl
  · exact fun _ _ => rfl

/-- A scan as a chain of computations. -/
theorem scan_eq (o : Options) (t : Tree) :
    o.scan t = o.request >>= fun r => (r.validate t).mapError .request >>= fun _ =>
      (Configuration.load t r.configPath).mapError .config >>= fun config =>
        (filterOf r t).mapError .ignore >>= fun filter =>
          (Scanner.scan ⟨config, filter, o.strict, Declaration.defaultDepthLimit⟩ t r.paths).mapError
            .scan := by
  unfold scan filterOf
  refine congrArg _ (funext fun r => congrArg _ (funext fun _ => congrArg _ (funext fun config => ?_)))
  cases r.ignore? <;> rfl

/-- A scan fails in the way of the first stage that fails. -/
theorem failsAs_scan : FailsAs (o.fails t) Fatal.exit Stage.inOrder (o.scan t) := by
  have horder : Stage.inOrder = List.append [.repeatedConfig, .repeatedIgnore] (List.append
      [.noInput, .scanPathMissing, .configMissing, .configNotFile, .ignoreMissing, .ignoreNotFile]
      (List.append [.loadConfig] (List.append [.loadIgnore] [.scan]))) := rfl
  rw [scan_eq, horder]
  refine failsAs_request.bind fun r hr => ?_
  obtain rfl := request_eq_ok hr
  refine failsAs_validate.mapError.bind fun _ _ => ?_
  refine failsAs_loadConfig.bind fun config _ => failsAs_loadIgnore.bind fun filter hfilter => ?_
  exact failsAs_scanner (mapError_eq_ok hfilter)

/-- What a scan that does not fail has loaded and found. -/
theorem scan_eq_ok {report : ScanReport} (h : o.scan t = .ok report) :
    ∃ config filter files, Configuration.load t o.asked.configPath = .ok config ∧
      filterOf o.asked t = .ok filter ∧ discover t filter o.strict o.paths = .ok files ∧
      report = (Scanner.reportFiles ⟨config, filter, o.strict, Declaration.defaultDepthLimit⟩ t
        files).sort := by
  rw [scan_eq] at h
  obtain ⟨r, hr, h⟩ := bind_eq_ok h
  obtain rfl := request_eq_ok hr
  obtain ⟨-, -, h⟩ := bind_eq_ok h
  obtain ⟨config, hconfig, h⟩ := bind_eq_ok h
  obtain ⟨filter, hfilter, h⟩ := bind_eq_ok h
  obtain ⟨files, hfiles, hreport⟩ := Scanner.scan_eq_ok_iff.mp (mapError_eq_ok h)
  exact ⟨config, filter, files, mapError_eq_ok hconfig, mapError_eq_ok hfilter, hfiles, hreport⟩

end Options

/-! ## The patterns of a configuration -/

/-- Every pattern of a configuration that is loaded is spelled by some text. -/
theorem ofText?_of_load {t : Tree} {path : Path} {config : Configuration} {context : Declaration.Context}
    {pattern : Pattern} (h : Configuration.load t path = .ok config)
    (hpattern : config.pattern? context = some pattern) : ∃ text, Pattern.ofText? text = some pattern := by
  unfold Configuration.load Configuration.parse at h
  repeat' split at h
  all_goals try cases h
  obtain ⟨entry, -, -, hvalue⟩ := (Configuration.pattern?_eq_some_iff h).mp hpattern
  exact ⟨entry.value, hvalue⟩

/-! ## Names that do not fit -/

/-- In some of the files there is a name that does not pass a test for the pattern of its context. -/
def HasMisfit (t : Tree) (config : Configuration) (files : List Path)
    (passes : Pattern → String → Prop) : Prop :=
  ∃ f ∈ files, ∃ text, Holds t Declaration.defaultDepthLimit f text ∧
    ∃ n ∈ (Declaration.extract text Declaration.defaultDepthLimit).found, ∃ pattern,
      config.pattern? n.context = some pattern ∧ ¬ passes pattern n.name

theorem HasMisfit.mono {t : Tree} {config : Configuration} {files : List Path}
    {passes passes' : Pattern → String → Prop} (h : HasMisfit t config files passes)
    (hpasses : ∀ context pattern, config.pattern? context = some pattern →
      ∀ name, passes' pattern name → passes pattern name) : HasMisfit t config files passes' := by
  obtain ⟨f, hf, text, hholds, n, hn, pattern, hpattern, hnot⟩ := h
  exact ⟨f, hf, text, hholds, n, hn, pattern, hpattern, fun hpass => hnot (hpasses _ _ hpattern _ hpass)⟩

theorem hasViolations_iff {t : Tree} {config : Configuration} {files : List Path} (filter : IgnoreFilter)
    (strict : Bool) :
    (Scanner.reportFiles ⟨config, filter, strict, Declaration.defaultDepthLimit⟩ t
        files).sort.hasViolations = true ↔
      HasMisfit t config files fun pattern name => pattern.fits name = true := by
  simp only [ScanReport.hasViolations, ScanReport.sort, Bool.not_eq_true', List.isEmpty_eq_false_iff_exists_mem,
    List.mem_mergeSort, Scanner.reportFiles_eq, List.mem_flatMap, Scanner.mem_violations_iff, HasMisfit,
    evaluate_eq_some_iff, Bool.not_eq_true]
  constructor
  · rintro ⟨v, f, hf, text, hholds, n, hn, pattern, hpattern, hfits, -⟩
    exact ⟨f, hf, text, hholds, n, hn, pattern, hpattern, hfits⟩
  · rintro ⟨f, hf, text, hholds, n, hn, pattern, hpattern, hfits⟩
    exact ⟨_, f, hf, text, hholds, n, hn, pattern, hpattern, hfits, rfl⟩

/-! ## The end of a run -/

variable {o : Options} {t : Tree} {args : List String}

theorem run_exit_eq (t : Tree) (h : Options.ofArguments args = .ok o) :
    (run t args).exit = match o.scan t with
      | .error e => e.exit
      | .ok report => exitOfReport report := by
  simp only [run, h]
  cases o.scan t <;> rfl

theorem run_exit_of_fails (h : Options.ofArguments args = .ok o) {stage : Stage}
    (hstage : Stage.inOrder.find? (o.fails t) = some stage) : (run t args).exit = stage.exit := by
  have hscan := Options.failsAs_scan (o := o) (t := t)
  rw [Options.FailsAs, hstage] at hscan
  obtain ⟨e, he, hexit⟩ := hscan
  rw [run_exit_eq t h, he]
  exact hexit

theorem run_exit_of_passes (h : Options.ofArguments args = .ok o)
    (hnone : Stage.inOrder.find? (o.fails t) = none) :
    ∃ config filter files, Configuration.load t o.asked.configPath = .ok config ∧
      filterOf o.asked t = .ok filter ∧ discover t filter o.strict o.paths = .ok files ∧
      ((run t args).exit = .violations ↔
        HasMisfit t config files fun pattern name => pattern.fits name = true) ∧
      ((run t args).exit = .success ↔
        ¬ HasMisfit t config files fun pattern name => pattern.fits name = true) := by
  have hscan := Options.failsAs_scan (o := o) (t := t)
  rw [Options.FailsAs, hnone] at hscan
  obtain ⟨report, hreport⟩ := hscan
  obtain ⟨config, filter, files, hconfig, hfilter, hfiles, rfl⟩ := Options.scan_eq_ok hreport
  refine ⟨config, filter, files, hconfig, hfilter, hfiles, ?_⟩
  rw [run_exit_eq t h, hreport, ← hasViolations_iff filter o.strict]
  simp only [exitOfReport]
  split <;> simp [*]

/-- What is asked for decides how a run ends, not how the report is to be written or by how many threads. -/
theorem run_exit_congr {args' : List String} {o' : Options} (h : Options.ofArguments args = .ok o)
    (h' : Options.ofArguments args' = .ok o')
    (hsame : o' = { o with format := o'.format, jobs := o'.jobs, verbose := o'.verbose }) :
    (run t args').exit = (run t args).exit := by
  rw [run_exit_eq t h, run_exit_eq t h', hsame]
  rfl

theorem matchesWhole_iff {config : Configuration} {files : List Path} {path : Path}
    (hload : Configuration.load t path = .ok config)
    (henclosed : ∀ context pattern, config.pattern? context = some pattern → pattern.IsEnclosed) :
    HasMisfit t config files Pattern.MatchesWhole ↔
      HasMisfit t config files fun pattern name => pattern.fits name = true := by
  have hiff : ∀ context pattern, config.pattern? context = some pattern → ∀ name,
      pattern.MatchesWhole name ↔ pattern.fits name = true := fun context pattern hpattern name => by
    obtain ⟨text, htext⟩ := ofText?_of_load hload hpattern
    exact Pattern.matchesWhole_iff_fits htext (henclosed context pattern hpattern) name
  exact ⟨fun h => h.mono fun context pattern hpattern name => (hiff context pattern hpattern name).mpr,
    fun h => h.mono fun context pattern hpattern name => (hiff context pattern hpattern name).mp⟩

/-- A run that is asked for a scan ends with the code of the first stage that fails. If none fails, it ends with
1 or 0, and with 1 just if a file that was found can be read to its end and declares a name that does not fit
the pattern of its context. That the name is not matched as a whole says the same, unless names are overlooked
that fit and are not matched as a whole; there are none when every literal in the configuration stays in its
group. -/
theorem run_exit_code (t : Tree) (h : Options.ofArguments args = .ok o) :
    (∀ stage, Stage.inOrder.find? (o.fails t) = some stage → (run t args).exit.code = stage.exit.code) ∧
    (Stage.inOrder.find? (o.fails t) = none →
      ∃ config filter files, Configuration.load t o.asked.configPath = .ok config ∧
        filterOf o.asked t = .ok filter ∧ discover t filter o.strict o.paths = .ok files ∧
        ((run t args).exit.code = 1 ↔
          HasMisfit t config files fun pattern name => pattern.fits name = true) ∧
        ((run t args).exit.code = 0 ↔
          ¬ HasMisfit t config files fun pattern name => pattern.fits name = true) ∧
        (((run t args).exit.code = 1 ↔ HasMisfit t config files Pattern.MatchesWhole) ↔
          (HasMisfit t config files Pattern.MatchesWhole →
            HasMisfit t config files fun pattern name => pattern.fits name = true)) ∧
        ((∀ context pattern, config.pattern? context = some pattern → pattern.IsEnclosed) →
          ((run t args).exit.code = 1 ↔ HasMisfit t config files Pattern.MatchesWhole) ∧
          ((run t args).exit.code = 0 ↔ ¬ HasMisfit t config files Pattern.MatchesWhole))) ∧
    ∀ args' o', Options.ofArguments args' = .ok o' →
      o' = { o with format := o'.format, jobs := o'.jobs, verbose := o'.verbose } →
      (run t args').exit.code = (run t args).exit.code := by
  have hcode : ∀ {a b : Exit}, a.code = b.code ↔ a = b := ⟨Exit.code_injective, congrArg Exit.code⟩
  refine ⟨fun stage hstage => congrArg Exit.code (run_exit_of_fails h hstage), fun hnone => ?_,
    fun args' o' h' hsame => congrArg Exit.code (run_exit_congr h h' hsame)⟩
  obtain ⟨config, filter, files, hload, hfilter, hfiles, hone, hzero⟩ := run_exit_of_passes h hnone
  rw [← hcode] at hone hzero
  change _ = 1 ↔ _ at hone
  change _ = 0 ↔ _ at hzero
  have hwhole : HasMisfit t config files (fun pattern name => pattern.fits name = true) →
      HasMisfit t config files Pattern.MatchesWhole := fun h =>
    h.mono fun context pattern hpattern name => Pattern.fits_of_matchesWhole
  refine ⟨config, filter, files, hload, hfilter, hfiles, hone, hzero, ?_, fun henclosed => ?_⟩
  · rw [hone]
    exact ⟨Iff.mpr, fun h => ⟨hwhole, h⟩⟩
  · rw [hone, hzero, matchesWhole_iff hload henclosed]
    exact ⟨Iff.rfl, Iff.rfl⟩

/-- A text as the content of a file. -/
def content (text : String) : List UInt8 := text.toUTF8.data.toList

/-- A configuration and a source file. -/
def oneFile (config source : String) : Tree :=
  ⟨[([".ccase-check"], .file (content config)), (["a.cpp"], .file (content source))], []⟩

/-- What is asked for by naming the file and a format. -/
def justFile : Options := { paths := ["a.cpp"], format := .compact }

section

variable {config source text : String} {c : Configuration}

theorem oneFile_resolve (config source : String) :
    (oneFile config source).resolve ".ccase-check" = .ok [".ccase-check"] ∧
      (oneFile config source).resolve "a.cpp" = .ok ["a.cpp"] := by
  have hsteps : Path.steps ".ccase-check" = [.name ".ccase-check"] ∧
      Path.steps "a.cpp" = [.name "a.cpp"] := by decide
  rw [Tree.resolve_eq_follow (by decide) (by decide) (by decide),
    Tree.resolve_eq_follow (by decide) (by decide) (by decide)]
  simp +decide [hsteps, Tree.follow, oneFile, Tree.node?, linkLimit]

theorem oneFile_load (hdecode : Text.decodeUtf8 (content config) = .ok config) :
    Configuration.load (oneFile config source) ".ccase-check" = Configuration.parse .yaml config := by
  have hformat : Format.ofPath ".ccase-check" = .yaml := by decide
  have hread : (oneFile config source).read ".ccase-check" = .ok (content config) := by
    rw [Tree.read, (oneFile_resolve config source).1]
    rfl
  rw [Configuration.load, Tree.readText, hread]
  simp only [hdecode, hformat]

theorem oneFile_discover : discover (oneFile config source) .none false ["a.cpp"] = .ok ["a.cpp"] := by
  obtain ⟨-, hsource⟩ := oneFile_resolve config source
  have hplain : (oneFile config source).isDirectory "a.cpp" = false := by
    rw [Tree.isDirectory, Tree.lookup?, hsource]
    rfl
  rw [discover_eq_ok]
  simp [gathered, filesOf, hplain, IgnoreFilter.skips, hsource, IgnoreFilter.skipsPlace, IgnoreFilter.none,
    Listing.add, sortPaths]

theorem oneFile_find? (h : Configuration.load (oneFile config source) ".ccase-check" = .ok c) :
    Stage.inOrder.find? (justFile.fails (oneFile config source)) = none := by
  obtain ⟨hconfig, hsource⟩ := oneFile_resolve config source
  have hexists : (oneFile config source).pathExists ".ccase-check" = true ∧
      (oneFile config source).pathExists "a.cpp" = true ∧
      (oneFile config source).isFile ".ccase-check" = true := by
    simp only [Tree.pathExists, Tree.isFile, Tree.lookup?, hconfig, hsource]
    exact ⟨rfl, rfl, rfl⟩
  have hasked : justFile.asked.configPath = ".ccase-check" ∧
      filterOf justFile.asked (oneFile config source) = .ok .none := ⟨rfl, rfl⟩
  have hgiven : justFile.paths = ["a.cpp"] ∧ justFile.configs = [] ∧ justFile.ignores = [] ∧
      justFile.strict = false := ⟨rfl, rfl, rfl, rfl⟩
  simp [Stage.inOrder, Options.fails, hasked, hgiven, hexists, h, oneFile_discover, Except.isOk, Except.toBool]

theorem oneFile_hasMisfit_iff {passes : Pattern → String → Prop}
    (hdecode : Source.decode (content source) = .ok text)
    (hfailed : (Declaration.extract text Declaration.defaultDepthLimit).failed = none) :
    HasMisfit (oneFile config source) c ["a.cpp"] passes ↔
      ∃ n ∈ (Declaration.extract text Declaration.defaultDepthLimit).found, ∃ pattern,
        c.pattern? n.context = some pattern ∧ ¬ passes pattern n.name := by
  have hread : (oneFile config source).read "a.cpp" = .ok (content source) := by
    rw [Tree.read, (oneFile_resolve config source).2]
    rfl
  simp only [HasMisfit, Holds, List.mem_singleton, exists_eq_left, hread, Except.ok.injEq, exists_eq_left',
    hdecode]
  constructor
  · rintro ⟨_, ⟨rfl, -⟩, h⟩
    exact h
  · exact fun h => ⟨text, ⟨rfl, hfailed⟩, h⟩

end

theorem run_exit_code_snake :
    (run (oneFile "classDef: SnakeCase\n" "class Foo { };\n") ["--format=compact", "a.cpp"]).exit.code = 1 ∧
      (run (oneFile "classDef: SnakeCase\n" "class Foo { };\n") []).exit.code = 2 := by
  have hargs : Options.ofArguments ["--format=compact", "a.cpp"] = .ok justFile := by decide +kernel
  have hnone : Options.ofArguments [] = .ok { paths := [] } := by decide +kernel
  obtain ⟨c, pattern, hparse, hpattern, hfits⟩ := exists_pattern
    (show ((Configuration.parse .yaml "classDef: SnakeCase\n").toOption.bind (·.pattern? .classType)).any
      (fun pattern => !pattern.fits "Foo") = true by decide +kernel)
  have hload : Configuration.load (oneFile "classDef: SnakeCase\n" "class Foo { };\n") ".ccase-check" = .ok c :=
    (oneFile_load (by decide +kernel)).trans hparse
  refine ⟨?_, (run_exit_code _ hnone).1 .noInput rfl⟩
  obtain ⟨config, filter, files, hconfig, hfilter, hfiles, hone, -⟩ :=
    (run_exit_code _ hargs).2.1 (oneFile_find? hload)
  cases hload.symm.trans hconfig
  cases hfilter
  cases oneFile_discover.symm.trans hfiles
  have hdecode : Source.decode (content "class Foo { };\n") = .ok "class Foo { };\n" := by decide +kernel
  have hfound : (Declaration.extract "class Foo { };\n" Declaration.defaultDepthLimit).found =
      [⟨.classType, "Foo", ⟨1, 7⟩⟩] := by decide +kernel
  rw [hone, oneFile_hasMisfit_iff hdecode (by decide +kernel), hfound]
  exact ⟨_, List.mem_singleton_self _, pattern, hpattern, by simpa using hfits⟩

/-- A name that a literal which leaves its group does not match as a whole is not told of. -/
theorem run_exit_overlooked :
    ∃ config files,
      Configuration.load (oneFile "classDef: 'a)|(b'\n" "class axyz { };\n") ".ccase-check" = .ok config ∧
      discover (oneFile "classDef: 'a)|(b'\n" "class axyz { };\n") .none false ["a.cpp"] = .ok files ∧
      HasMisfit (oneFile "classDef: 'a)|(b'\n" "class axyz { };\n") config files Pattern.MatchesWhole ∧
      (run (oneFile "classDef: 'a)|(b'\n" "class axyz { };\n")
        ["--format=compact", "a.cpp"]).exit.code = 0 := by
  have hargs : Options.ofArguments ["--format=compact", "a.cpp"] = .ok justFile := by decide +kernel
  obtain ⟨c, pattern, hparse, hpattern, hfits⟩ := exists_pattern
    (show ((Configuration.parse .yaml "classDef: 'a)|(b'\n").toOption.bind (·.pattern? .classType)).any
      (fun pattern => pattern.fits "axyz" && !pattern.MatchesWhole "axyz") = true by decide +kernel)
  simp only [Bool.and_eq_true, Bool.not_eq_true', decide_eq_false_iff_not] at hfits
  have hload : Configuration.load (oneFile "classDef: 'a)|(b'\n" "class axyz { };\n") ".ccase-check" = .ok c :=
    (oneFile_load (by decide +kernel)).trans hparse
  have hdecode : Source.decode (content "class axyz { };\n") = .ok "class axyz { };\n" := by decide +kernel
  have hfound : (Declaration.extract "class axyz { };\n" Declaration.defaultDepthLimit).found =
      [⟨.classType, "axyz", ⟨1, 7⟩⟩] := by decide +kernel
  refine ⟨c, ["a.cpp"], hload, oneFile_discover, ?_, ?_⟩
  · rw [oneFile_hasMisfit_iff hdecode (by decide +kernel), hfound]
    exact ⟨_, List.mem_singleton_self _, pattern, hpattern, hfits.2⟩
  · obtain ⟨config, filter, files, hconfig, hfilter, hfiles, -, hzero⟩ :=
      run_exit_of_passes hargs (oneFile_find? hload)
    cases hload.symm.trans hconfig
    cases hfilter
    cases oneFile_discover.symm.trans hfiles
    refine congrArg Exit.code (hzero.mpr ?_)
    rw [oneFile_hasMisfit_iff hdecode (by decide +kernel), hfound]
    rintro ⟨n, hn, pattern', hpattern', hnot⟩
    cases List.mem_singleton.mp hn
    cases hpattern.symm.trans hpattern'
    exact hnot hfits.1

end NameLint.Command

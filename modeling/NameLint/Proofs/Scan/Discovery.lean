import NameLint.Proofs.Scan.Walk
import NameLint.Scan.Discovery

/-!
# What discovery finds

Without strict checking of links, every list of paths becomes a list of files. It is sorted, no two of the
files are the same one, and they are the files among the paths and the source files below the directories
among them, in whatever order the paths are given.
-/

namespace NameLint.Scan

open NameLint.FileTree NameLint.Ignore

/-! ## Listings -/

namespace Listing

variable {t : Tree} {l : Listing} {path : Path}

/-- What is seen are the files that are listed, each once. -/
structure Faithful (t : Tree) (l : Listing) : Prop where
  seen : ∀ i, i ∈ l.seen ↔ ∃ f ∈ l.files, identity t f = i
  nodup : (l.files.map (identity t)).Nodup

theorem faithful_empty : Faithful t ⟨[], []⟩ := ⟨by simp, by simp⟩

theorem Faithful.add (h : Faithful t l) (path : Path) : Faithful t (l.add t path) := by
  unfold Listing.add
  split
  · exact h
  · rename_i hnew
    rw [List.contains_iff_mem] at hnew
    refine ⟨fun i => ?_, ?_⟩
    · simp only [List.mem_cons, List.mem_append, List.not_mem_nil, or_false, h.seen]
      constructor
      · rintro (rfl | ⟨f, hf, rfl⟩)
        · exact ⟨path, .inr rfl, rfl⟩
        · exact ⟨f, .inl hf, rfl⟩
      · rintro ⟨f, hf | rfl, rfl⟩
        · exact .inr ⟨f, hf, rfl⟩
        · exact .inl rfl
    · rw [List.map_append, List.map_singleton]
      refine List.nodup_append.mpr ⟨h.nodup, by simp, ?_⟩
      rintro i hi _ hpath rfl
      obtain ⟨f, hf, hidentity⟩ := List.mem_map.mp hi
      rw [List.mem_singleton.mp hpath] at hidentity
      exact hnew ((h.seen _).mpr ⟨f, hf, hidentity⟩)

theorem mem_files_add {f : Path} (hf : f ∈ l.files) (path : Path) : f ∈ (l.add t path).files := by
  unfold Listing.add
  split
  · exact hf
  · exact List.mem_append_left _ hf

theorem of_mem_files_add {f : Path} (hf : f ∈ (l.add t path).files) : f ∈ l.files ∨ f = path := by
  unfold Listing.add at hf
  split at hf
  · exact .inl hf
  · simpa using hf

theorem Faithful.exists_add (h : Faithful t l) (path : Path) :
    ∃ g ∈ (l.add t path).files, identity t g = identity t path := by
  unfold Listing.add
  split
  · rename_i hseen
    exact (h.seen _).mp (List.contains_iff_mem.mp hseen)
  · exact ⟨path, by simp, rfl⟩

/-- Adding files keeps those that are listed and lists the others, one for each identity. -/
theorem Faithful.foldl_add (h : Faithful t l) (paths : List Path) :
    Faithful t (paths.foldl (·.add t) l) ∧
      (∀ f ∈ (paths.foldl (·.add t) l).files, f ∈ l.files ∨ f ∈ paths) ∧
      ∀ f, f ∈ l.files ∨ f ∈ paths →
        ∃ g ∈ (paths.foldl (·.add t) l).files, identity t g = identity t f := by
  induction paths generalizing l with
  | nil => exact ⟨h, fun f hf => .inl hf, fun f hf => ⟨f, hf.resolve_right (by simp), rfl⟩⟩
  | cons path rest ih =>
      obtain ⟨hfaithful, hsound, hall⟩ := ih (h.add path)
      refine ⟨hfaithful, fun f hf => ?_, fun f hf => ?_⟩
      · rcases hsound f hf with hlisted | hrest
        · rcases of_mem_files_add hlisted with hold | rfl
          · exact .inl hold
          · exact .inr (List.mem_cons_self ..)
        · exact .inr (List.mem_cons_of_mem _ hrest)
      · rcases hf with hold | hnew
        · exact hall f (.inl (mem_files_add hold path))
        rcases List.mem_cons.mp hnew with rfl | hrest
        · obtain ⟨g, hg, hidentity⟩ := h.exists_add f
          obtain ⟨g', hg', hidentity'⟩ := hall g (.inl hg)
          exact ⟨g', hg', hidentity'.trans hidentity⟩
        · exact hall f (.inr hrest)

end Listing

/-! ## Gathering -/

variable {t : Tree} {filter : IgnoreFilter} {paths : List Path} {q : Location}

/-- The files that one path stands for. -/
def filesOf (t : Tree) (filter : IgnoreFilter) (path : Path) : List Path :=
  if t.isDirectory path then (walkDirectory t filter path).files
  else if filter.skips t path false then [] else [path]

/-- Without strict checking nothing breaks off a search. -/
theorem gather_eq_ok (l : Listing) (paths : List Path) :
    gather t filter false l paths = .ok ((paths.flatMap (filesOf t filter)).foldl (·.add t) l) := by
  induction paths generalizing l with
  | nil => rfl
  | cons path rest ih =>
      rw [gather, List.flatMap_cons, List.foldl_append, filesOf]
      split
      · simp [filesBelow, ih]
      · split <;> simp [ih]

/-- Strict checking of links does not break off a search at a path. -/
def Unbroken (t : Tree) (filter : IgnoreFilter) (strict : Bool) (path : Path) : Prop :=
  t.isDirectory path = true → ∃ files, filesBelow t filter strict path = .ok files

theorem filesBelow_eq_ok {strict : Bool} {path : Path} {files : List Path}
    (h : filesBelow t filter strict path = .ok files) : files = (walkDirectory t filter path).files := by
  simp only [filesBelow] at h
  repeat' split at h
  all_goals cases h
  all_goals rfl

/-- A search that is not broken off lists the files of the paths. -/
theorem gather_eq_ok_iff {strict : Bool} {l l' : Listing} :
    gather t filter strict l paths = .ok l' ↔
      (∀ path ∈ paths, Unbroken t filter strict path) ∧
        l' = (paths.flatMap (filesOf t filter)).foldl (·.add t) l := by
  induction paths generalizing l with
  | nil => simp [gather, eq_comm]
  | cons path rest ih =>
      rw [gather, List.flatMap_cons, List.foldl_append, List.forall_mem_cons, filesOf, Unbroken]
      cases hdirectory : t.isDirectory path with
      | true =>
          cases hfiles : filesBelow t filter strict path with
          | error e => simp
          | ok files => simp [ih, filesBelow_eq_ok hfiles]
      | false => cases hskips : filter.skips t path false <;> simp [ih]

/-! ## What paths stand for -/

/-- A path stands for the location of a file: for its own if it is no directory and the filter does not skip
it, and for those of the source files below it if it is one. -/
inductive StandsFor (t : Tree) (filter : IgnoreFilter) (path : Path) (q : Location) : Prop
  | itself (plain : t.isDirectory path = false) (resolved : t.resolve path = .ok q)
      (kept : filter.skipsPlace q false = false)
  | source {start : Location} (directory : t.isDirectory path = true)
      (resolved : t.resolve path = .ok start) (below : SourceBelow t filter start q)

/-- Whether a path is looked into: a directory is not if it is taken for the standard input. -/
def isLookedInto (t : Tree) (path : Path) : Bool := !(t.isDirectory path && isStandardInput path)

variable {path : Path}

theorem isDirectory_iff :
    t.isDirectory path = true ↔ ∃ start, t.resolve path = .ok start ∧ t.node? start = some .directory := by
  unfold Tree.isDirectory Tree.lookup?
  cases t.resolve path <;> simp

theorem resolve_of_pathExists (h : t.pathExists path = true) : ∃ q, t.resolve path = .ok q := by
  unfold Tree.pathExists Tree.lookup? at h
  cases hresolve : t.resolve path with
  | ok q => exact ⟨q, rfl⟩
  | error fault => simp [hresolve] at h

/-- The files of a path lead to what it stands for. -/
theorem filesOf_iff (proper : t.Proper) (hexists : t.pathExists path = true)
    (limits : t.isDirectory path = true → WithinLimits t filter path) :
    (∀ f ∈ filesOf t filter path, ∃ q, t.resolve f = .ok q) ∧
      ∀ q, (∃ f ∈ filesOf t filter path, t.resolve f = .ok q) ↔
        isLookedInto t path = true ∧ StandsFor t filter path q := by
  unfold filesOf isLookedInto
  cases hdirectory : t.isDirectory path with
  | true =>
      obtain ⟨start, resolved, directory⟩ := isDirectory_iff.mp hdirectory
      cases hinput : isStandardInput path with
      | true => simp [walkDirectory_standardInput hinput]
      | false =>
          obtain ⟨hresolve, hiff⟩ := walkDirectory_files proper (limits hdirectory) resolved directory hinput
          refine ⟨hresolve, fun q => (hiff q).trans ⟨fun below => ?_, ?_⟩⟩
          · exact ⟨rfl, .source hdirectory resolved below⟩
          · rintro ⟨-, ⟨plain, -, -⟩ | ⟨-, resolved', below⟩⟩
            · simp [hdirectory] at plain
            · cases resolved.symm.trans resolved'
              exact below
  | false =>
      obtain ⟨q₀, resolved⟩ := resolve_of_pathExists hexists
      have hskips : filter.skips t path false = filter.skipsPlace q₀ false := by
        rw [IgnoreFilter.skips, resolved]
      have hstands : ∀ q, StandsFor t filter path q ↔ q = q₀ ∧ filter.skipsPlace q₀ false = false := by
        intro q
        constructor
        · rintro (⟨-, resolved', kept⟩ | ⟨directory, -, -⟩)
          · cases resolved.symm.trans resolved'
            exact ⟨rfl, kept⟩
          · simp [hdirectory] at directory
        · rintro ⟨rfl, kept⟩
          exact .itself hdirectory resolved kept
      cases hkept : filter.skipsPlace q₀ false <;>
        simp [hskips, hkept, hstands, resolved, eq_comm]

/-! ## The list that is returned -/

theorem identity_of_resolve {f : Path} (h : t.resolve f = .ok q) : identity t f = .root :: q.map .name := by
  rw [identity, h]

/-- Of paths that lead somewhere those with the same identity lead to the same location. -/
theorem resolve_eq_of_identity {f g : Path} {q : Location} (hf : t.resolve f = .ok q)
    (hg : ∃ r, t.resolve g = .ok r) (h : identity t f = identity t g) : t.resolve g = .ok q := by
  obtain ⟨r, hr⟩ := hg
  rw [identity_of_resolve hf, identity_of_resolve hr, List.cons.injEq] at h
  rw [hr, (List.map_inj_right fun _ _ hname => Component.name.inj hname).mp h.2]

theorem sortPaths_pairwise (paths : List Path) :
    (sortPaths paths).Pairwise fun p q => q.isBefore p = false :=
  Path.precedes.pairwise_mergeSort paths

/-- The files of some paths, each once. -/
def gathered (t : Tree) (filter : IgnoreFilter) (paths : List Path) : Listing :=
  (paths.flatMap (filesOf t filter)).foldl (·.add t) ⟨[], []⟩

theorem of_mem_gathered {f : Path} (h : f ∈ (gathered t filter paths).files) :
    f ∈ paths.flatMap (filesOf t filter) :=
  ((Listing.faithful_empty.foldl_add _).2.1 f h).resolve_left (by simp)

theorem eq_of_mem_filesOf {f : Path} (hplain : t.isDirectory path = false) (h : f ∈ filesOf t filter path) :
    f = path := by
  rw [filesOf, hplain] at h
  cases hskips : filter.skips t path false <;> simp_all

theorem discover_eq_ok (t : Tree) (filter : IgnoreFilter) (paths : List Path) :
    discover t filter false paths = .ok (sortPaths (gathered t filter paths).files) := by
  rw [discover, gather_eq_ok]
  rfl

theorem discover_eq_ok_iff {strict : Bool} {files : List Path} :
    discover t filter strict paths = .ok files ↔
      (∀ path ∈ paths, Unbroken t filter strict path) ∧ files = sortPaths (gathered t filter paths).files := by
  unfold discover gathered
  cases hgather : gather t filter strict ⟨[], []⟩ paths with
  | error e =>
      refine ⟨fun h => (nomatch h), fun ⟨hpaths, _⟩ => ?_⟩
      cases hgather.symm.trans (gather_eq_ok_iff.mpr ⟨hpaths, rfl⟩)
  | ok l =>
      obtain ⟨hpaths, rfl⟩ := gather_eq_ok_iff.mp hgather
      simpa [Except.map, eq_comm] using fun _ => hpaths

theorem nodup_resolve {l : Listing} (h : l.Faithful t) (hresolve : ∀ f ∈ l.files, ∃ q, t.resolve f = .ok q) :
    (l.files.map t.resolve).Nodup := by
  refine List.pairwise_map.mpr ((List.pairwise_map.mp h.nodup).imp_of_mem fun {f g} hf _ hne heq => hne ?_)
  obtain ⟨q, hq⟩ := hresolve f hf
  rw [identity_of_resolve hq, identity_of_resolve (heq ▸ hq)]

/-- What is returned for some paths that exist, as long as no limit is met on the way. -/
theorem discover_lists (proper : t.Proper) (filter : IgnoreFilter)
    (hexists : ∀ path ∈ paths, t.pathExists path = true)
    (limits : ∀ path ∈ paths, t.isDirectory path = true → WithinLimits t filter path) :
    ∃ files, discover t filter false paths = .ok files ∧
      (files.Pairwise fun p q => q.isBefore p = false) ∧ (files.map t.resolve).Nodup ∧
      (∀ f ∈ files, ∃ q, t.resolve f = .ok q) ∧
      ∀ q, (∃ f ∈ files, t.resolve f = .ok q) ↔
        ∃ path ∈ paths, isLookedInto t path = true ∧ StandsFor t filter path q := by
  have hfiles := fun path hpath => filesOf_iff proper (hexists path hpath) (limits path hpath)
  obtain ⟨hfaithful, hsound, hall⟩ : (gathered t filter paths).Faithful t ∧ _ :=
    Listing.faithful_empty.foldl_add (paths.flatMap (filesOf t filter))
  have hresolve : ∀ f ∈ (gathered t filter paths).files, ∃ q, t.resolve f = .ok q := by
    intro f hf
    obtain ⟨path, hpath, hmem⟩ := List.mem_flatMap.mp ((hsound f hf).resolve_left (by simp))
    exact (hfiles path hpath).1 f hmem
  have hperm : (sortPaths (gathered t filter paths).files).Perm (gathered t filter paths).files :=
    List.mergeSort_perm ..
  refine ⟨_, discover_eq_ok t filter paths, sortPaths_pairwise _,
    (hperm.map t.resolve).nodup_iff.mpr (nodup_resolve hfaithful hresolve),
    fun f hf => hresolve f (hperm.mem_iff.mp hf), fun q => ?_⟩
  simp only [hperm.mem_iff]
  constructor
  · rintro ⟨f, hf, hq⟩
    obtain ⟨path, hpath, hmem⟩ := List.mem_flatMap.mp ((hsound f hf).resolve_left (by simp))
    exact ⟨path, hpath, ((hfiles path hpath).2 q).mp ⟨f, hmem, hq⟩⟩
  · rintro ⟨path, hpath, hstands⟩
    obtain ⟨f, hmem, hq⟩ := ((hfiles path hpath).2 q).mpr hstands
    -- The file may be listed under another path to it.
    obtain ⟨g, hg, hidentity⟩ := hall f (.inr (List.mem_flatMap.mpr ⟨path, hpath, hmem⟩))
    exact ⟨g, hg, resolve_eq_of_identity hq (hresolve g hg) hidentity.symm⟩

/-- Non-strict discovery returns a sorted list without repetition of exactly the files that the paths stand
for, in whatever order they are given. It needs that no way that enters no directory twice meets a limit, and
it does not look into a directory that is taken for the standard input. -/
theorem discover_files (proper : t.Proper) (filter : IgnoreFilter)
    (hexists : ∀ path ∈ paths, t.pathExists path = true)
    (limits : ∀ path ∈ paths, t.isDirectory path = true → WithinLimits t filter path) :
    ∃ files, discover t filter false paths = .ok files ∧
      (files.Pairwise fun p q => q.isBefore p = false) ∧ (files.map t.resolve).Nodup ∧
      (∀ f ∈ files, ∃ q, t.resolve f = .ok q) ∧
      (∀ q, (∃ f ∈ files, t.resolve f = .ok q) ↔
        ∃ path ∈ paths, isLookedInto t path = true ∧ StandsFor t filter path q) ∧
      ∀ reordered, reordered.Perm paths → ∃ others, discover t filter false reordered = .ok others ∧
        ∀ q, (∃ f ∈ others, t.resolve f = .ok q) ↔ ∃ f ∈ files, t.resolve f = .ok q := by
  obtain ⟨files, hfiles, hsorted, hnodup, hresolve, hiff⟩ := discover_lists proper filter hexists limits
  refine ⟨files, hfiles, hsorted, hnodup, hresolve, hiff, fun reordered hperm => ?_⟩
  obtain ⟨others, hothers, -, -, -, hiff'⟩ := discover_lists proper filter
    (fun path hpath => hexists path (hperm.mem_iff.mp hpath))
    (fun path hpath => limits path (hperm.mem_iff.mp hpath))
  refine ⟨others, hothers, fun q => ?_⟩
  rw [hiff', hiff]
  simp only [hperm.mem_iff]

/-- A directory with a source file and a link back to it. -/
def linkedBack : Tree :=
  ⟨[(["src"], .directory), (["src", "a.cpp"], .file []), (["src", "again"], .link ".")], []⟩

theorem linkedBack_resolve :
    linkedBack.resolve "src" = .ok ["src"] ∧ linkedBack.resolve "src/a.cpp" = .ok ["src", "a.cpp"] ∧
      linkedBack.resolve "src/again" = .ok ["src"] := by
  have hsteps : Path.steps "src" = [.name "src"] ∧ Path.steps "src/a.cpp" = [.name "src", .name "a.cpp"] ∧
      Path.steps "src/again" = [.name "src", .name "again"] ∧ Path.steps "." = [.here] := by decide
  rw [Tree.resolve_eq_follow (by decide) (by decide) (by decide),
    Tree.resolve_eq_follow (by decide) (by decide) (by decide),
    Tree.resolve_eq_follow (by decide) (by decide) (by decide)]
  simp +decide [hsteps, Tree.follow, linkedBack, Tree.node?, linkLimit]

theorem linkedBack_hasEntry {name : String} (h : linkedBack.HasEntry ["src"] name q) :
    name = "a.cpp" ∧ q = ["src", "a.cpp"] ∨ name = "again" ∧ q = ["src"] := by
  have hname : name = "a.cpp" ∨ name = "again" := by
    obtain ⟨entry, hmem, hentry⟩ := Tree.mem_names_iff.mp h.listed
    simp only [linkedBack, List.mem_cons, List.not_mem_nil, or_false] at hmem
    rcases hmem with rfl | rfl | rfl <;> simp_all
  obtain ⟨hsrc, hfile, hagain⟩ := linkedBack_resolve
  rcases hname with rfl | rfl
  · exact .inl ⟨rfl, h.leads.unique (Tree.leads_of_resolve_join (by decide) hsrc hfile)⟩
  · exact .inr ⟨rfl, h.leads.unique (Tree.leads_of_resolve_join (by decide) hsrc hagain)⟩

theorem linkedBack_withinLimits : WithinLimits linkedBack .none "src" := by
  obtain ⟨hsrc, hfile, hagain⟩ := linkedBack_resolve
  have hroute : ∀ {path place within}, Route linkedBack .none "src" path place within →
      path = "src" ∧ place = ["src"] := by
    intro path place within route
    induction route with
    | start resolved _ =>
        cases hsrc.symm.trans resolved
        exact ⟨rfl, rfl⟩
    | enter route entry directory kept fresh ih =>
        obtain ⟨rfl, rfl⟩ := ih
        rcases linkedBack_hasEntry entry with ⟨-, rfl⟩ | ⟨-, rfl⟩
        · exact absurd directory (by decide)
        · exact absurd (List.mem_cons_self ..) fresh
  intro path place within name q route entry
  obtain ⟨rfl, rfl⟩ := hroute route
  rcases linkedBack_hasEntry entry with ⟨rfl, rfl⟩ | ⟨rfl, rfl⟩
  · exact hfile
  · exact hagain

theorem discover_files_linkedBack :
    ∃ files, discover linkedBack .none false ["src"] = .ok files ∧
      ∃ f ∈ files, linkedBack.resolve f = .ok ["src", "a.cpp"] := by
  obtain ⟨hsrc, -, -⟩ := linkedBack_resolve
  have hdirectory : linkedBack.isDirectory "src" = true := isDirectory_iff.mpr ⟨_, hsrc, by decide⟩
  have hexists : ∀ path ∈ ["src"], linkedBack.pathExists path = true := by
    rintro path hpath
    rw [List.mem_singleton.mp hpath, Tree.pathExists, Tree.lookup?, hsrc]
    decide
  have hlimits : ∀ path ∈ ["src"], linkedBack.isDirectory path = true → WithinLimits linkedBack .none path := by
    rintro path hpath -
    rw [List.mem_singleton.mp hpath]
    exact linkedBack_withinLimits
  obtain ⟨files, hfiles, -, -, -, hiff, -⟩ := discover_files (by decide) .none hexists hlimits
  have hentry : linkedBack.HasEntry ["src"] "a.cpp" ["src", "a.cpp"] :=
    ⟨Tree.mem_names_iff.mpr ⟨(["src", "a.cpp"], .file []), by simp [linkedBack], rfl⟩,
      .enter rfl rfl (by simp) (.done _)⟩
  have hinput : isLookedInto linkedBack "src" = true := by
    rw [isLookedInto, hdirectory]
    decide
  refine ⟨files, hfiles, (hiff _).mpr ⟨"src", List.mem_singleton_self _, hinput, ?_⟩⟩
  exact .source hdirectory hsrc ⟨_, _, .start, hentry, ⟨[], rfl⟩, rfl, by decide⟩

/-- A directory that is reached twice, first by a way with as many links as can be followed. -/
def crossed : Tree :=
  ⟨[(["d"], .directory), (["d", "m"], .link "."), (["d", "s"], .link "../e"), (["e"], .directory),
    (["e", "f.cpp"], .file []), (["r"], .directory),
    (["r", "a"], .link "../d/m/m/m/m/m/m/m/m/m/m/m/m/m/m/m/m/m/m/m/m/m/m/m/m/m/m/m/m/m/m/m/m/m/m/m/m/m/m/m"),
    (["r", "z"], .link "../d")], []⟩

theorem crossed_names : crossed.names ["r"] = ["a", "z"] ∧ crossed.names ["d"] = ["m", "s"] := by
  have hfound : (crossed.nodes.filterMap fun entry =>
        if entry.1.dropLast = ["r"] then entry.1.getLast? else none) = ["a", "z"] ∧
      (crossed.nodes.filterMap fun entry =>
        if entry.1.dropLast = ["d"] then entry.1.getLast? else none) = ["m", "s"] := by
    decide
  constructor
  · rw [Tree.names, hfound.1, List.mergeSort_of_pairwise (by decide)]
    decide
  · rw [Tree.names, hfound.2, List.mergeSort_of_pairwise (by decide)]
    decide

theorem crossed_resolve :
    crossed.resolve "r" = .ok ["r"] ∧ crossed.resolve "r/a" = .ok ["d"] ∧
      crossed.resolve "r/z" = .ok ["d"] ∧ crossed.resolve "r/a/m" = .error .tooManyLinks ∧
      crossed.resolve "r/a/s" = .error .tooManyLinks := by
  have hsteps : Path.steps "r" = [.name "r"] ∧ Path.steps "r/a" = [.name "r", .name "a"] ∧
      Path.steps "r/z" = [.name "r", .name "z"] ∧ Path.steps "r/a/m" = [.name "r", .name "a", .name "m"] ∧
      Path.steps "r/a/s" = [.name "r", .name "a", .name "s"] := by decide
  have htargets : Path.steps "." = [.here] ∧ Path.steps "../d" = [.above, .name "d"] ∧
      Path.steps "../d/m/m/m/m/m/m/m/m/m/m/m/m/m/m/m/m/m/m/m/m/m/m/m/m/m/m/m/m/m/m/m/m/m/m/m/m/m/m/m" =
        .above :: .name "d" :: List.replicate 39 (.name "m") := by decide
  refine ⟨?_, ?_, ?_, ?_, ?_⟩ <;>
    rw [Tree.resolve_eq_follow (by decide) (by decide) (by decide)] <;>
    simp +decide [hsteps, htargets, Tree.follow, crossed, Tree.node?, linkLimit, List.replicate_succ]

/-- The walk comes to the second way only after the first has led into the directory. -/
theorem crossed_walk : (walkDirectory crossed .none "r").files = [] := by
  obtain ⟨hr, ha, hz, hm, hs⟩ := crossed_resolve
  obtain ⟨hnames, hnames'⟩ := crossed_names
  have hjoin : Path.join "r" "a" = "r/a" ∧ Path.join "r" "z" = "r/z" ∧ Path.join "r/a" "m" = "r/a/m" ∧
      Path.join "r/a" "s" = "r/a/s" := by decide
  have hinput : isStandardInput "r" = false := by decide
  have hlink : ∀ path place within target, crossed.node? place = some (.link target) →
      crossed.resolve path = .ok ["d"] → ["d"] ∉ within →
        sight crossed ⟨path, place, within⟩ = .directory ["d"] := by
    intro path place within target hnode hresolve hwithin
    have hd : crossed.node? ["d"] = some .directory := rfl
    simp [sight, hnode, hresolve, hd, hwithin]
  have hfar : ∀ path place within target, crossed.node? place = some (.link target) →
      crossed.resolve path = .error .tooManyLinks → sight crossed ⟨path, place, within⟩ = .nothing := by
    intro path place within target hnode hresolve
    simp [sight, hnode, hresolve]
  have hskips : ∀ path isDirectory, IgnoreFilter.none.skips crossed path isDirectory = false := by
    intro path isDirectory
    unfold IgnoreFilter.skips
    split <;> rfl
  simp only [walkDirectory, hr, hinput, pendingIn, hnames, List.map_cons, List.map_nil, hjoin]
  rw [if_neg (by decide), walkAll_of_directory (hlink _ _ _ _ rfl ha (by decide)) (hskips _ _),
    if_neg (by decide)]
  simp only [pendingIn, hnames', List.map_cons, List.map_nil, hjoin, List.cons_append, List.nil_append]
  rw [walkAll_of_nothing (hfar _ _ _ _ rfl hm), walkAll_of_nothing (hfar _ _ _ _ rfl hs),
    walkAll_of_directory (hlink _ _ _ _ rfl hz (by decide)) (hskips _ _), if_pos (by decide), walkAll]
  rfl

/-- From a directory that was first reached by too long a way no link is followed, although one could be by
another way. -/
theorem discover_crossed :
    discover crossed .none false ["r"] = .ok [] ∧ isLookedInto crossed "r" = true ∧
      StandsFor crossed .none "r" ["e", "f.cpp"] := by
  obtain ⟨hr, -⟩ := crossed_resolve
  obtain ⟨hnames, hnames'⟩ := crossed_names
  have hdirectory : crossed.isDirectory "r" = true := isDirectory_iff.mpr ⟨_, hr, by decide⟩
  have hinput : isLookedInto crossed "r" = true := by
    rw [isLookedInto, hdirectory]
    decide
  refine ⟨?_, hinput, ?_⟩
  · simp [discover_eq_ok, gathered, filesOf, hdirectory, crossed_walk, sortPaths]
  · have hsteps : Path.steps "../d" = [.above, .name "d"] ∧ Path.steps "../e" = [.above, .name "e"] := by
      decide
    have hz : crossed.HasEntry ["r"] "z" ["d"] := by
      refine ⟨by simp [hnames], .link rfl rfl ?_⟩
      rw [hsteps.1]
      exact .above rfl (.enter rfl rfl (by simp) (.done _))
    have hs : crossed.HasEntry ["d"] "s" ["e"] := by
      refine ⟨by simp [hnames'], .link rfl rfl ?_⟩
      rw [hsteps.2]
      exact .above rfl (.enter rfl rfl (by simp) (.done _))
    have hf : crossed.HasEntry ["e"] "f.cpp" ["e", "f.cpp"] :=
      ⟨Tree.mem_names_iff.mpr ⟨(["e", "f.cpp"], .file []), by simp [crossed], rfl⟩,
        .enter rfl rfl (by simp) (.done _)⟩
    have hreached : Reached crossed .none ["r"] ["e"] := (Reached.start.enter hz rfl rfl).enter hs rfl rfl
    exact .source hdirectory hr ⟨_, _, hreached, hf, ⟨[], rfl⟩, rfl, by decide⟩

end NameLint.Scan

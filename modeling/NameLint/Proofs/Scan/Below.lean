import NameLint.Proofs.FileTree.Linkless
import NameLint.Proofs.Ignore.Decision
import NameLint.Proofs.Scan.Discovery

/-!
# A file found in a directory and the same file named

In a tree without links a walk comes to every file by one way. It finds a file that is kept when named if no
directory on the way is skipped.
-/

namespace NameLint.Scan

open NameLint.FileTree NameLint.Ignore

/-! ## What is listed -/

/-- What is listed at something pending when each directory is entered that the filter does not skip. -/
inductive Listed (t : Tree) (filter : IgnoreFilter) : Pending → Path → Prop
  | file {p : Pending} (seen : sight t p = .file) (kept : filter.skips t p.path false = false)
      (source : p.path.isSource = true) : Listed t filter p p.path
  | inside {p p' : Pending} {place : Location} {f : Path} (seen : sight t p = .directory place)
      (kept : filter.skips t p.path true = false) (entry : p' ∈ pendingIn t p.path place p.within)
      (later : Listed t filter p' f) : Listed t filter p f

variable {t : Tree} {filter : IgnoreFilter} {p : Pending} {pending rest : List Pending} {v : Visit}
  {f path : Path} {place q : Location} {within : List Location} {name : String} {names : List String}

theorem listed_iff :
    Listed t filter p f ↔
      match sight t p with
      | .file => filter.skips t p.path false = false ∧ p.path.isSource = true ∧ f = p.path
      | .directory place => filter.skips t p.path true = false ∧
          ∃ p' ∈ pendingIn t p.path place p.within, Listed t filter p' f
      | _ => False := by
  constructor
  · intro h
    cases h with
    | file seen kept source => simp [seen, kept, source]
    | inside seen kept entry later =>
        rw [seen]
        exact ⟨kept, _, entry, later⟩
  · intro h
    cases seen : sight t p with
    | file =>
        rw [seen] at h
        obtain ⟨kept, source, rfl⟩ := h
        exact .file seen kept source
    | directory place =>
        rw [seen] at h
        obtain ⟨kept, p', entry, later⟩ := h
        exact .inside seen kept entry later
    | loop | nothing => simp [seen] at h

/-- What is listed has names of entries behind the path of what was pending. -/
theorem Listed.exists_names (proper : t.Proper) (h : Listed t filter p f) :
    ∃ names, (∀ n ∈ names, IsEntryName n) ∧ f = p.path.joinAll names := by
  induction h with
  | file => exact ⟨[], by simp, rfl⟩
  | inside seen kept entry later ih =>
      obtain ⟨name, hlisted, rfl⟩ := List.mem_map.mp entry
      obtain ⟨names, hnames, rfl⟩ := ih
      exact ⟨name :: names, List.forall_mem_cons.mpr ⟨proper.isEntryName hlisted, hnames⟩, rfl⟩

/-! ## Walks without links -/

/-- Nothing pending is in anything else that is pending, nor above a directory that was entered. -/
structure Fresh (v : Visit) (pending : List Pending) : Prop where
  apart : pending.Pairwise fun p p' => ¬ p.place <+: p'.place ∧ ¬ p'.place <+: p.place
  unentered : ∀ p ∈ pending, ∀ d ∈ v.entered, ¬ p.place <+: d

theorem Fresh.tail {w : Visit} (h : Fresh v (p :: rest)) (entered : w.entered = v.entered) : Fresh w rest where
  apart := (List.pairwise_cons.mp h.apart).2
  unentered p' hp' := entered ▸ h.unentered p' (List.mem_cons_of_mem _ hp')

theorem apart_pendingIn (t : Tree) (path : Path) (place : Location) (within : List Location) :
    (pendingIn t path place within).Pairwise fun p p' => ¬ p.place <+: p'.place ∧ ¬ p'.place <+: p.place := by
  refine List.pairwise_map.mpr ((Tree.nodup_names t place).imp fun {a b} hne => ?_)
  have hsame : ∀ {a b : String}, place ++ [a] <+: place ++ [b] → a = b := fun h => by
    simpa [List.cons_prefix_cons] using (List.prefix_append_right_inj place).mp h
  exact ⟨fun h => hne (hsame h), fun h => hne (hsame h).symm⟩

theorem above_of_concat {a b : Location} (h : a ++ [name] <+: b) : a <+: b :=
  (List.prefix_append a [name]).trans h

/-- The entries of a directory that is entered take its place. -/
theorem Fresh.enter (h : Fresh v (p :: rest)) :
    Fresh (v.enter p.place) (pendingIn t p.path p.place p.within ++ rest) where
  apart := by
    obtain ⟨hp, hrest⟩ := List.pairwise_cons.mp h.apart
    refine List.pairwise_append.mpr ⟨apart_pendingIn .., hrest, fun p₁ hp₁ p₂ hp₂ => ?_⟩
    obtain ⟨name, -, rfl⟩ := List.mem_map.mp hp₁
    obtain ⟨hbelow, habove⟩ := hp p₂ hp₂
    refine ⟨fun hin => hbelow (above_of_concat hin), fun hin => ?_⟩
    rcases List.prefix_concat_iff.mp hin with heq | hin
    · exact hbelow (heq ▸ List.prefix_append ..)
    · exact habove hin
  unentered p' hp' d hd hin := by
    rcases List.mem_append.mp hp' with hnew | hrest
    · obtain ⟨name, -, rfl⟩ := List.mem_map.mp hnew
      rcases List.mem_cons.mp hd with rfl | hd
      · have hlength := hin.length_le
        rw [List.length_append, List.length_singleton] at hlength
        omega
      · exact h.unentered p (List.mem_cons_self ..) d hd (above_of_concat hin)
    · rcases List.mem_cons.mp hd with rfl | hd
      · exact ((List.pairwise_cons.mp h.apart).1 p' hrest).2 hin
      · exact h.unentered p' (List.mem_cons_of_mem _ hrest) d hd hin

/-- Without links a directory is seen where it is, and no loop is. -/
theorem sight_of_linkless (linkless : t.Linkless) (p : Pending) :
    sight t p ≠ .loop ∧ ∀ place, sight t p = .directory place → place = p.place := by
  unfold sight
  split
  · simp
  · split <;> simp [eq_comm]
  · exact absurd ‹_› (linkless.node?_ne_link _ _)
  · simp

theorem files_of_seen_file (filter : IgnoreFilter) (v : Visit) (p : Pending) :
    ∃ files, (if filter.skips t p.path false then v else v.found p.path) = { v with files := files } ∧
      ∀ f, f ∈ files ↔
        f ∈ v.files ∨ filter.skips t p.path false = false ∧ p.path.isSource = true ∧ f = p.path := by
  cases hskips : filter.skips t p.path false with
  | true => exact ⟨v.files, rfl, by simp⟩
  | false =>
      cases hsource : p.path.isSource with
      | true => exact ⟨v.files ++ [p.path], by simp [Visit.found, hsource], by simp⟩
      | false => exact ⟨v.files, by simp [Visit.found, hsource], by simp⟩

/-- Without links a walk enters every directory it comes to for the first time, and lists what is listed at what
is pending. -/
theorem walkAll_of_linkless (filter : IgnoreFilter) (linkless : t.Linkless) (h : Fresh v pending) :
    (∀ f, f ∈ (walkAll t filter v pending).files ↔ f ∈ v.files ∨ ∃ p ∈ pending, Listed t filter p f) ∧
      (walkAll t filter v pending).loop? = v.loop? ∧ (walkAll t filter v pending).revisit? = v.revisit? := by
  fun_induction walkAll t filter v pending with
  | case1 v => simp
  | case2 v p rest seen ih =>
      obtain ⟨hfiles, hlinks⟩ := ih (h.tail rfl)
      refine ⟨fun f => ?_, hlinks⟩
      simp [hfiles, listed_iff (p := p), seen]
  | case3 v p rest seen ih => exact absurd seen (sight_of_linkless linkless p).1
  | case4 v p rest seen ih =>
      obtain ⟨files, hv, hmem⟩ := files_of_seen_file (t := t) filter v p
      simp only [dite_eq_ite, hv] at ih ⊢
      obtain ⟨hfiles, hlinks⟩ := ih (h.tail rfl)
      refine ⟨fun f => ?_, hlinks⟩
      simp [hfiles, hmem, listed_iff (p := p), seen, or_assoc]
  | case5 v p rest q seen skipped ih =>
      obtain ⟨hfiles, hlinks⟩ := ih (h.tail rfl)
      refine ⟨fun f => ?_, hlinks⟩
      simp [hfiles, listed_iff (p := p), seen, skipped]
  | case6 v p rest q seen kept entered ih =>
      obtain rfl := (sight_of_linkless linkless p).2 q seen
      exact absurd List.prefix_rfl
        (h.unentered p (List.mem_cons_self ..) _ (List.contains_iff_mem.mp entered))
  | case7 v p rest q seen kept fresh ih =>
      obtain rfl := (sight_of_linkless linkless p).2 q seen
      obtain ⟨hfiles, hlinks⟩ := ih h.enter
      refine ⟨fun f => ?_, hlinks⟩
      have hlisted : Listed t filter p f ↔
          ∃ p' ∈ pendingIn t p.path p.place p.within, Listed t filter p' f := by
        rw [listed_iff, seen]
        simp [kept]
      rw [hfiles]
      simp [hlisted, or_and_right, exists_or, Visit.enter]

/-! ## The way to a file -/

/-- Something in a directory is listed by way of the first of the names behind the path of the directory. -/
theorem listed_pendingIn_iff (proper : t.Proper) (hpath : path ≠ "") (hlisted : name ∈ t.names place)
    (hnames : ∀ n ∈ name :: names, IsEntryName n) :
    (∃ p ∈ pendingIn t path place within, Listed t filter p (path.joinAll (name :: names))) ↔
      Listed t filter ⟨path.join name, place ++ [name], place :: within⟩ (path.joinAll (name :: names)) := by
  constructor
  · rintro ⟨p, hp, h⟩
    obtain ⟨name', hlisted', rfl⟩ := List.mem_map.mp hp
    obtain ⟨names', hnames', heq⟩ := h.exists_names proper
    have hall : ∀ n ∈ name' :: names', IsEntryName n :=
      List.forall_mem_cons.mpr ⟨proper.isEntryName hlisted', hnames'⟩
    obtain ⟨rfl, -⟩ := List.cons.inj ((Path.joinAll_inj hpath hnames hall).mp heq)
    exact h
  · exact fun h => ⟨_, List.mem_map.mpr ⟨name, hlisted, rfl⟩, h⟩

/-- At a place that is pending, a file below it is listed unless it is skipped or a directory on the way is. -/
theorem listed_joinAll_iff (proper : t.Proper) (linkless : t.Linkless) (hpath : p.path ≠ "")
    (hnames : ∀ n ∈ names, IsEntryName n) {content : List UInt8}
    (hresolve : t.resolve (p.path.joinAll names) = .ok (p.place ++ names))
    (hfile : t.node? (p.place ++ names) = some (.file content))
    (hsource : (p.path.joinAll names).isSource = true) :
    Listed t filter p (p.path.joinAll names) ↔
      filter.skipsPlace (p.place ++ names) false = false ∧
        ∀ k < names.length, filter.skipsPlace (p.place ++ names.take k) true = false := by
  induction names generalizing p with
  | nil =>
      simp only [List.append_nil, Path.joinAll_nil] at *
      have hseen : sight t p = .file := by simp [sight, hfile]
      simp [listed_iff, hseen, IgnoreFilter.skips, hresolve, hsource]
  | cons name names ih =>
      obtain ⟨hname, hrest⟩ := List.forall_mem_cons.mp hnames
      obtain ⟨place, hplace, heq⟩ :=
        linkless.resolve_of_joinAll (Path.join_ne_empty p.path hname) hrest hresolve
      obtain ⟨above, habove, hdirectory, rfl, hlisted⟩ := linkless.resolve_of_join hpath hname hplace
      obtain rfl : p.place = above := by simpa using heq
      have hseen : sight t p = .directory p.place := by
        simp [sight, hdirectory, Tree.isDirectory, Tree.lookup?, habove]
      have hconcat : p.place ++ name :: names = p.place ++ [name] ++ names := by simp
      have hnext := ih (p := ⟨p.path.join name, p.place ++ [name], p.place :: p.within⟩)
        (Path.join_ne_empty p.path hname) hrest (by rwa [hconcat] at hresolve)
        (by rwa [hconcat] at hfile) hsource
      rw [listed_iff, hseen]
      simp only [listed_pendingIn_iff proper hpath hlisted hnames, IgnoreFilter.skips, habove]
      rw [Path.joinAll_cons, hnext, List.length_cons, Nat.forall_lt_succ_left]
      simp only [List.take_zero, List.append_nil, List.take_succ_cons, List.append_assoc, List.singleton_append]
      exact and_left_comm

/-! ## What discovery finds in one directory -/

theorem fresh_start (t : Tree) (path : Path) (start : Location) :
    Fresh ⟨[], [start], none, none⟩ (pendingIn t path start []) where
  apart := apart_pendingIn ..
  unentered p hp d hd hprefix := by
    obtain ⟨name, -, rfl⟩ := List.mem_map.mp hp
    rw [List.mem_singleton.mp hd] at hprefix
    have hlength := hprefix.length_le
    rw [List.length_append, List.length_singleton] at hlength
    omega

theorem walkDirectory_of_linkless (filter : IgnoreFilter) (linkless : t.Linkless) {start : Location}
    (hresolve : t.resolve path = .ok start) :
    (∀ f, f ∈ (walkDirectory t filter path).files ↔
        isStandardInput path = false ∧ ∃ p ∈ pendingIn t path start [], Listed t filter p f) ∧
      (walkDirectory t filter path).loop? = none ∧ (walkDirectory t filter path).revisit? = none := by
  rw [walkDirectory, hresolve]
  cases hinput : isStandardInput path with
  | true => simp [walkAll]
  | false =>
      obtain ⟨hfiles, hlinks⟩ := walkAll_of_linkless filter linkless (fresh_start t path start)
      exact ⟨fun f => by simpa using hfiles f, hlinks⟩

/-- Paths that are told apart by nothing have the same names behind the path of a directory. -/
theorem eq_of_identity (linkless : t.Linkless) {start : Location} (hstart : t.resolve path = .ok start)
    {names' : List String} (hnames' : ∀ n ∈ names', IsEntryName n)
    (hresolve : t.resolve (path.joinAll names) = .ok (start ++ names))
    (h : identity t (path.joinAll names') = identity t (path.joinAll names)) : names' = names := by
  have hpath := Tree.ne_empty_of_resolve hstart
  rw [identity_of_resolve hresolve] at h
  cases hresolve' : t.resolve (path.joinAll names') with
  | ok q =>
      obtain ⟨place, hplace, rfl⟩ := linkless.resolve_of_joinAll hpath hnames' hresolve'
      cases hstart.symm.trans hplace
      rw [identity_of_resolve hresolve'] at h
      simpa using (List.map_inj_right fun _ _ => Component.name.inj).mp (List.cons.inj h).2
  | error fault =>
      -- A path that leads nowhere is told apart by its components, which begin at the root here.
      have hmoving := Path.moving_steps_joinAll hpath hnames'
      simp only [identity, hresolve'] at h
      rw [Path.moving_steps, h, Path.moving_cons (by simp), Path.moving_names] at hmoving
      cases hsteps : Path.moving path.steps with
      | nil =>
          rw [hsteps] at hmoving
          cases names' <;> cases hmoving
      | cons step later =>
          rw [hsteps, List.cons_append] at hmoving
          obtain ⟨rfl, hlater⟩ := List.cons.inj hmoving
          obtain ⟨before, after, hsplit, rfl, hafter⟩ := List.map_eq_append_iff.mp hlater
          obtain rfl := (List.map_inj_right fun _ _ => Component.name.inj).mp hafter
          obtain rfl := linkless.eq_of_leads_root (Tree.leads_of_resolve hstart) hsteps
          exact (List.append_cancel_left hsplit).symm

/-- A file is found at a path if it is among its files and no other one is told apart from it by nothing. -/
theorem exists_discover {strict : Bool} (hunbroken : Unbroken t filter strict path)
    (hunique : ∀ g ∈ filesOf t filter path, identity t g = identity t f → g = f) :
    ∃ files, discover t filter strict [path] = .ok files ∧ (f ∈ files ↔ f ∈ filesOf t filter path) := by
  refine ⟨_, discover_eq_ok_iff.mpr ⟨by simpa using hunbroken, rfl⟩, ?_⟩
  rw [sortPaths, List.mem_mergeSort]
  constructor
  · exact fun h => by simpa using of_mem_gathered h
  · intro h
    obtain ⟨g, hg, hidentity⟩ := (Listing.faithful_empty.foldl_add ([path].flatMap (filesOf t filter))).2.2 f
      (.inr (by simpa using h))
    have hsame := hunique g (by simpa using of_mem_gathered hg) hidentity
    exact hsame ▸ hg

/-- A file that is named is found if the filter does not skip it. -/
theorem discover_file (filter : IgnoreFilter) (strict : Bool) (hresolve : t.resolve f = .ok q)
    {content : List UInt8} (hfile : t.node? q = some (.file content)) :
    ∃ files, discover t filter strict [f] = .ok files ∧ (f ∈ files ↔ filter.skipsPlace q false = false) := by
  have hplain : t.isDirectory f = false := by simp [Tree.isDirectory, Tree.lookup?, hresolve, hfile]
  have hunbroken : Unbroken t filter strict f := fun hdirectory => by
    simp [hplain] at hdirectory
  obtain ⟨files, hfiles, hmem⟩ := exists_discover (f := f) hunbroken fun g hg _ => eq_of_mem_filesOf hplain hg
  refine ⟨files, hfiles, hmem.trans ?_⟩
  rw [filesOf, hplain, IgnoreFilter.skips, hresolve]
  cases hkept : filter.skipsPlace q false <;> simp [hkept]

section

variable {start : Location} {content : List UInt8} (proper : t.Proper) (linkless : t.Linkless)
  (hstart : t.resolve path = .ok start) (hdirectory : t.node? start = some .directory)
  (hnames : ∀ n ∈ names, IsEntryName n) (hresolve : t.resolve (path.joinAll names) = .ok (start ++ names))
  (hfile : t.node? (start ++ names) = some (.file content)) (hsource : (path.joinAll names).isSource = true)
include proper linkless hstart hdirectory hnames hresolve hfile hsource

/-- A file below a directory is found in it if neither the file nor a directory on the way is skipped. -/
theorem mem_walkDirectory_iff :
    path.joinAll names ∈ (walkDirectory t filter path).files ↔
      isStandardInput path = false ∧ filter.skipsPlace (start ++ names) false = false ∧
        ∀ k, 0 < k → k < names.length → filter.skipsPlace (start ++ names.take k) true = false := by
  have hpath := Tree.ne_empty_of_resolve hstart
  cases names with
  | nil => simp [hdirectory] at hfile
  | cons name names =>
      obtain ⟨hname, hrest⟩ := List.forall_mem_cons.mp hnames
      obtain ⟨place, hplace, heq⟩ := linkless.resolve_of_joinAll (Path.join_ne_empty path hname) hrest hresolve
      obtain ⟨above, habove, -, rfl, hlisted⟩ := linkless.resolve_of_join hpath hname hplace
      cases hstart.symm.trans habove
      have hconcat : start ++ name :: names = start ++ [name] ++ names := by simp
      have hfirst : Listed t filter ⟨path.join name, start ++ [name], [start]⟩ _ ↔ _ :=
        listed_joinAll_iff proper linkless (Path.join_ne_empty path hname) hrest
          (by rwa [hconcat] at hresolve) (by rwa [hconcat] at hfile) hsource
      rw [(walkDirectory_of_linkless filter linkless hstart).1, listed_pendingIn_iff proper hpath hlisted hnames,
        Path.joinAll_cons, hfirst]
      refine and_congr_right fun _ => ?_
      rw [hconcat]
      refine and_congr_right fun _ => ⟨fun h k hpos hk => ?_, fun h k hk => ?_⟩
      · obtain ⟨k, rfl⟩ : ∃ before, k = before + 1 := ⟨k - 1, by omega⟩
        simpa using h k (Nat.lt_of_succ_lt_succ hk)
      · simpa using h (k + 1) (Nat.succ_pos k) (Nat.succ_lt_succ hk)

theorem discover_directory (filter : IgnoreFilter) (strict : Bool) :
    ∃ files, discover t filter strict [path] = .ok files ∧
      (path.joinAll names ∈ files ↔
        isStandardInput path = false ∧ filter.skipsPlace (start ++ names) false = false ∧
          ∀ k, 0 < k → k < names.length → filter.skipsPlace (start ++ names.take k) true = false) := by
  obtain ⟨hfiles, hloop, hrevisit⟩ := walkDirectory_of_linkless filter linkless hstart
  have hisDirectory : t.isDirectory path = true := isDirectory_iff.mpr ⟨start, hstart, hdirectory⟩
  have hfilesOf : filesOf t filter path = (walkDirectory t filter path).files := by
    rw [filesOf, if_pos hisDirectory]
  have hunbroken : Unbroken t filter strict path := fun _ => by
    refine ⟨(walkDirectory t filter path).files, ?_⟩
    simp [filesBelow, hloop, hrevisit]
  have hunique : ∀ g ∈ filesOf t filter path, identity t g = identity t (path.joinAll names) →
      g = path.joinAll names := fun g hg hidentity => by
    obtain ⟨-, p, hp, hlisted⟩ := (hfiles g).mp (hfilesOf ▸ hg)
    obtain ⟨name, hname, rfl⟩ := List.mem_map.mp hp
    obtain ⟨names', hnames', rfl⟩ := hlisted.exists_names proper
    have hall : ∀ n ∈ name :: names', IsEntryName n :=
      List.forall_mem_cons.mpr ⟨proper.isEntryName hname, hnames'⟩
    exact congrArg path.joinAll (eq_of_identity linkless hstart hall hresolve hidentity)
  obtain ⟨files, hdiscover, hmem⟩ := exists_discover hunbroken hunique
  refine ⟨files, hdiscover, hmem.trans ?_⟩
  rw [hfilesOf]
  exact mem_walkDirectory_iff proper linkless hstart hdirectory hnames hresolve hfile hsource

end

/-- A rule keeps a location that some names lead to, or one on the way there. -/
def KeepsOnTheWay (filter : IgnoreFilter) (start : Location) (names : List String) : Prop :=
  ∃ above rules, filter.rules? = some (above, rules) ∧ ∃ rule ∈ rules, rule.keeps = true ∧
    ∃ k, 0 < k ∧ k ≤ names.length ∧
      rule.fits ((start ++ names.take k).drop above.length) (decide (k ≠ names.length)) = true

/-- What is kept below a directory that is skipped is kept by a rule. -/
theorem keepsOnTheWay {start : Location} {k : Nat} (hk : k < names.length)
    (hskipped : filter.skipsPlace (start ++ names.take k) true = true)
    (hkept : filter.skipsPlace (start ++ names) false = false) : KeepsOnTheWay filter start names := by
  have hbelow : start ++ names.take k <+: start ++ names :=
    (List.prefix_append_right_inj start).mpr <| List.take_prefix k names
  have hne : start ++ names.take k ≠ start ++ names := by
    intro heq
    have hlength := congrArg List.length heq
    simp only [List.length_append, List.length_take] at hlength
    omega
  obtain ⟨above, rules, hrules, rule, hmem, hkeeps, e, habove, hdeeper, hprefix, hfits⟩ :=
    IgnoreFilter.exists_keeping_rule hskipped hbelow hne hkept
  obtain ⟨more, rfl⟩ := habove
  rw [List.append_assoc] at hprefix hdeeper hfits
  have hway : names.take k ++ more <+: names := (List.prefix_append_right_inj start).mp hprefix
  have hmore : more ≠ [] := by
    rintro rfl
    simp at hdeeper
  have htake := List.prefix_iff_eq_take.mp hway
  refine ⟨above, rules, hrules, rule, hmem, hkeeps, (names.take k ++ more).length, ?_, hway.length_le, ?_⟩
  · rw [List.length_append]
    have := List.length_pos_iff.mpr hmore
    omega
  · have hend : start ++ (names.take k ++ more) = start ++ names ↔
        (names.take k ++ more).length = names.length := by
      rw [List.append_right_inj]
      exact ⟨congrArg List.length, hway.eq_of_length⟩
    rw [← htake]
    simpa only [ne_eq, hend] using hfits

/-- In a tree without links, a source file below a directory is found when it is named just if the filter does
not skip it, and when the directory is named just if moreover that is not taken for the standard input and no
directory between the two is skipped. So how it is reached makes no difference unless a rule keeps the file or a
directory on the way to it. -/
theorem discover_below_iff (proper : t.Proper) (linkless : t.Linkless) (filter : IgnoreFilter) (strict : Bool)
    {start : Location} (hstart : t.resolve path = .ok start) (hdirectory : t.node? start = some .directory)
    (hnames : ∀ n ∈ names, IsEntryName n) (hfile : t.isFile (path.joinAll names) = true)
    (hsource : (path.joinAll names).isSource = true) :
    ∃ below itself, discover t filter strict [path] = .ok below ∧
      discover t filter strict [path.joinAll names] = .ok itself ∧
      (path.joinAll names ∈ itself ↔ filter.skipsPlace (start ++ names) false = false) ∧
      (path.joinAll names ∈ below ↔ path.joinAll names ∈ itself ∧ isStandardInput path = false ∧
        ∀ k, 0 < k → k < names.length → filter.skipsPlace (start ++ names.take k) true = false) ∧
      (isStandardInput path = false → ¬ KeepsOnTheWay filter start names →
        (path.joinAll names ∈ below ↔ path.joinAll names ∈ itself)) := by
  obtain ⟨q, hq⟩ : ∃ q, t.resolve (path.joinAll names) = .ok q := by
    cases hq : t.resolve (path.joinAll names) with
    | ok q => exact ⟨q, rfl⟩
    | error fault => simp [Tree.isFile, Tree.lookup?, hq] at hfile
  obtain ⟨place, hplace, rfl⟩ := linkless.resolve_of_joinAll (Tree.ne_empty_of_resolve hstart) hnames hq
  cases hstart.symm.trans hplace
  obtain ⟨content, hcontent⟩ : ∃ content, t.node? (start ++ names) = some (.file content) := by
    simp only [Tree.isFile, Tree.lookup?, hq] at hfile
    split at hfile
    · exact ⟨_, ‹_›⟩
    · cases hfile
  obtain ⟨below, hbelow, hmem⟩ :=
    discover_directory proper linkless hstart hdirectory hnames hq hcontent hsource filter strict
  obtain ⟨itself, hitself, hkept⟩ := discover_file filter strict hq hcontent
  refine ⟨below, itself, hbelow, hitself, hkept, ?_, fun hinput hrule => ?_⟩
  · rw [hmem, hkept]
    exact and_left_comm
  · rw [hmem, hkept]
    refine ⟨fun h => h.2.1, fun h => ⟨hinput, h, fun k _ hk => ?_⟩⟩
    rw [Bool.eq_false_iff]
    exact fun hskipped => hrule (keepsOnTheWay hk hskipped h)

/-- A directory in a directory, and a source file in it. -/
def built : Tree :=
  ⟨[(["p"], .directory), (["p", "build"], .directory), (["p", "build", "a.cpp"], .file [])], []⟩

theorem built_linkless : built.Linkless := by
  simp [Tree.Linkless, built]

theorem built_resolve :
    built.resolve "p" = .ok ["p"] ∧
      built.resolve (Path.joinAll "p" ["build", "a.cpp"]) = .ok ["p", "build", "a.cpp"] := by
  have hpath : Path.joinAll "p" ["build", "a.cpp"] = "p/build/a.cpp" := by decide
  have hsteps : Path.steps "p" = [.name "p"] ∧
      Path.steps "p/build/a.cpp" = [.name "p", .name "build", .name "a.cpp"] := by decide
  rw [hpath, Tree.resolve_eq_follow (by decide) (by decide) (by decide),
    Tree.resolve_eq_follow (by decide) (by decide) (by decide)]
  simp +decide [hsteps, Tree.follow, built, Tree.node?, linkLimit]

theorem discover_below_built :
    ∃ below itself, discover built .none true ["p"] = .ok below ∧
      discover built .none true ["p/build/a.cpp"] = .ok itself ∧
      "p/build/a.cpp" ∈ below ∧ "p/build/a.cpp" ∈ itself := by
  obtain ⟨hp, hfile⟩ := built_resolve
  have hisFile : built.isFile (Path.joinAll "p" ["build", "a.cpp"]) = true := by
    rw [Tree.isFile, Tree.lookup?, hfile]
    decide
  obtain ⟨below, itself, hbelow, hitself, hkept, -, hsame⟩ :=
    discover_below_iff (by decide) built_linkless .none true hp (by decide) (by decide) hisFile (by decide)
  have hmem := hkept.mpr (by decide)
  have hnone : ¬ KeepsOnTheWay .none ["p"] ["build", "a.cpp"] := by
    rintro ⟨above, rules, hrules, -⟩
    cases hrules
  exact ⟨below, itself, hbelow, hitself, (hsame (by decide) hnone).mpr hmem, hmem⟩

/-- A filter that leaves the inner directory out and keeps the file. -/
def buildLeftOut : IgnoreFilter :=
  ⟨(readRules "build/\n!a.cpp\n".toList).toOption.map fun rules => ([], rules)⟩

/-- A file that a rule keeps in a directory that another rule leaves out is found by its own path only. -/
theorem discover_buildLeftOut :
    ∃ below itself, discover built buildLeftOut false ["p"] = .ok below ∧
      discover built buildLeftOut false ["p/build/a.cpp"] = .ok itself ∧
      "p/build/a.cpp" ∉ below ∧ "p/build/a.cpp" ∈ itself := by
  obtain ⟨hp, hfile⟩ := built_resolve
  obtain ⟨below, hbelow, hmem⟩ := discover_directory (by decide) built_linkless hp (by decide) (by decide) hfile
    rfl (by decide) buildLeftOut false
  obtain ⟨itself, hitself, hkept⟩ := discover_file (t := built) buildLeftOut false hfile rfl
  refine ⟨below, itself, hbelow, hitself, fun hin => ?_, hkept.mpr (by decide +kernel)⟩
  have hdirectory := (hmem.mp hin).2.2 1 (by decide) (by decide)
  exact absurd hdirectory (by decide +kernel)

end NameLint.Scan

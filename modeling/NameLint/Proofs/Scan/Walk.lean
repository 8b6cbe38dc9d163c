import NameLint.Proofs.FileTree.Leads
import NameLint.Proofs.FileTree.Proper
import NameLint.Scan.Walk

/-!
# What a walk finds

A walk enters the directories that can be reached from its root, however many ways lead to them, and finds
the source files in them. While it runs, every entry of a directory that was entered is pending or has left
its mark.
-/

namespace NameLint.FileTree

/-- An entry of a directory leads to a location, links followed. -/
structure Tree.HasEntry (t : Tree) (place : Location) (name : String) (q : Location) : Prop where
  listed : name ∈ t.names place
  leads : t.Leads place [.name name] q

namespace Tree

variable {t : Tree} {place q r : Location} {name : String}

theorem HasEntry.unique (h : t.HasEntry place name q) (h' : t.HasEntry place name r) : q = r :=
  h.leads.unique h'.leads

end Tree

end NameLint.FileTree

namespace NameLint.Scan

open NameLint.FileTree NameLint.Ignore

/-! ## What can be reached -/

variable (t : Tree) (filter : IgnoreFilter)

/-- The directories that are reached from one of them by entering one entry after the other, links followed,
that the filter does not skip. -/
inductive Reached (start : Location) : Location → Prop
  | start : Reached start start
  | enter {place q : Location} {name : String} (reached : Reached start place)
      (entry : t.HasEntry place name q) (directory : t.node? q = some .directory)
      (kept : filter.skipsPlace q true = false) : Reached start q

/-- A file that the filter does not skip, with the name of a source file in a directory that is reached. -/
def SourceBelow (start q : Location) : Prop :=
  ∃ place name, Reached t filter start place ∧ t.HasEntry place name q ∧
    (∃ content, t.node? q = some (.file content)) ∧ filter.skipsPlace q false = false ∧
    Path.isSource name = true

/-- A way from a root into a directory that enters no directory twice: its path, where it ends, and the
directories that it passes, the last first. -/
inductive Route (root : Path) : Path → Location → List Location → Prop
  | start {place : Location} (resolved : t.resolve root = .ok place)
      (directory : t.node? place = some .directory) : Route root root place []
  | enter {path : Path} {place q : Location} {within : List Location} {name : String}
      (route : Route root path place within) (entry : t.HasEntry place name q)
      (directory : t.node? q = some .directory) (kept : filter.skipsPlace q true = false)
      (fresh : q ∉ place :: within) : Route root (path.join name) q (place :: within)

/-- Whatever leads somewhere at the end of such a way can be resolved: no limit on links, names or paths is
met. -/
def WithinLimits (root : Path) : Prop :=
  ∀ path place within name q, Route t filter root path place within → t.HasEntry place name q →
    t.resolve (path.join name) = .ok q

variable {t filter} {root path : Path} {start place q : Location} {within : List Location}
  {name : String} {v : Visit} {p : Pending} {rest : List Pending}

namespace Route

theorem directory (route : Route t filter root path place within) :
    t.node? place = some .directory := by
  cases route with
  | start _ directory => exact directory
  | enter _ _ directory _ _ => exact directory

theorem resolved (limits : WithinLimits t filter root) (route : Route t filter root path place within) :
    t.resolve path = .ok place := by
  cases route with
  | start resolved _ => exact resolved
  | enter route entry _ _ _ => exact limits _ _ _ _ _ route entry

end Route

/-! ## What a walk sees -/

/-- Something pending: an entry of a directory that a way leads to. -/
structure IsEntry (t : Tree) (filter : IgnoreFilter) (root : Path) (p : Pending) (path : Path)
    (place : Location) (within : List Location) (name : String) : Prop where
  route : Route t filter root path place within
  listed : name ∈ t.names place
  eq : p = ⟨path.join name, place ++ [name], place :: within⟩

namespace IsEntry

variable (h : IsEntry t filter root p path place within name)
include h

theorem resolve_path (limits : WithinLimits t filter root) (entry : t.HasEntry place name q) :
    t.resolve p.path = .ok q := by
  rw [h.eq]
  exact limits _ _ _ _ _ h.route entry

theorem isSource_path (proper : t.Proper) (limits : WithinLimits t filter root) :
    p.path.isSource = Path.isSource name := by
  rw [h.eq]
  exact Path.isSource_join (Tree.ne_empty_of_resolve (h.route.resolved limits)) (proper.isEntryName h.listed)

/-- An entry that leads somewhere is seen as what lies there, or as a loop. -/
theorem sight_of_hasEntry (limits : WithinLimits t filter root) (entry : t.HasEntry place name q) :
    match sight t p with
    | .file => ∃ content, t.node? q = some (.file content)
    | .directory d => d = q ∧ t.node? q = some .directory
    | .loop => q ∈ place :: within ∧ t.node? q = some .directory
    | .nothing => t.node? q ≠ some .directory ∧ ∀ content, t.node? q ≠ some (.file content) := by
  have hresolve := h.resolve_path limits entry
  obtain ⟨hroute, hlisted, rfl⟩ := h
  cases entry.leads with
  | enter directory hnode plain later =>
      rename_i node
      cases later
      cases node with
      | directory => simp [sight, hnode, Tree.isDirectory, Tree.lookup?, hresolve]
      | file content => simp [sight, hnode]
      | link target => exact absurd rfl (plain target)
  | link directory hlink later =>
      cases hnode : t.node? q with
      | none => simp [sight, hlink, hresolve, hnode]
      | some node =>
          cases node with
          | directory => by_cases hloop : q ∈ place :: within <;> simp [sight, hlink, hresolve, hnode, hloop]
          | file content => simp [sight, hlink, hresolve, hnode]
          | link target => simp [sight, hlink, hresolve, hnode]

/-- An entry that leads nowhere is seen as nothing. -/
theorem sight_of_not_hasEntry (proper : t.Proper) (limits : WithinLimits t filter root)
    (nowhere : ∀ q, ¬ t.HasEntry place name q) : sight t p = .nothing := by
  obtain ⟨hroute, hlisted, rfl⟩ := h
  have hplain : ∀ node, (∀ target, node ≠ .link target) → t.node? (place ++ [name]) ≠ some node :=
    fun node plain hnode =>
      nowhere _ ⟨hlisted, .enter hroute.directory hnode plain (.done _)⟩
  cases hnode : t.node? (place ++ [name]) with
  | none => simp [sight, hnode]
  | some node =>
      cases node with
      | directory => exact absurd hnode (hplain _ (by simp))
      | file content => exact absurd hnode (hplain _ (by simp))
      | link target =>
          cases hresolve : t.resolve (path.join name) with
          | error fault => simp [sight, hnode, hresolve]
          | ok q =>
              exact absurd ⟨hlisted, Tree.leads_of_resolve_join (proper.isEntryName hlisted)
                (hroute.resolved limits) hresolve⟩ (nowhere q)

/-- What is seen is what the entry leads to. -/
theorem hasEntry_of_sight (proper : t.Proper) (limits : WithinLimits t filter root)
    (seen : sight t p ≠ .nothing) : ∃ q, t.HasEntry place name q :=
  Classical.byContradiction fun nowhere =>
    seen (h.sight_of_not_hasEntry proper limits (not_exists.mp nowhere))

theorem skips_path (limits : WithinLimits t filter root) (entry : t.HasEntry place name q)
    (isDirectory : Bool) : filter.skips t p.path isDirectory = filter.skipsPlace q isDirectory := by
  rw [IgnoreFilter.skips, h.resolve_path limits entry]

theorem hasEntry_of_directory (proper : t.Proper) (limits : WithinLimits t filter root)
    (seen : sight t p = .directory q) : t.HasEntry place name q := by
  obtain ⟨q', entry⟩ := h.hasEntry_of_sight proper limits (by simp [seen])
  have hsight := h.sight_of_hasEntry limits entry
  rw [seen] at hsight
  rwa [hsight.1]

end IsEntry

/-! ## One step of a walk -/

/-- What an entry leads to has left its mark on a walk: a directory is entered, a source file listed. -/
structure Recorded (t : Tree) (filter : IgnoreFilter) (v : Visit) (name : String) (q : Location) : Prop where
  entered : t.node? q = some .directory → filter.skipsPlace q true = false → q ∈ v.entered
  listed : ∀ content, t.node? q = some (.file content) → filter.skipsPlace q false = false →
    Path.isSource name = true → ∃ f ∈ v.files, t.resolve f = .ok q

/-- What holds while a walk runs: what is pending are entries of directories that were entered, those were
reached, what was listed are source files, and every entry of a directory that was entered is pending or
has left its mark. -/
structure Underway (t : Tree) (filter : IgnoreFilter) (root : Path) (start : Location) (v : Visit)
    (pending : List Pending) : Prop where
  begun : start ∈ v.entered
  reached : ∀ place ∈ v.entered, Reached t filter start place
  sources : ∀ f ∈ v.files, ∃ q, t.resolve f = .ok q ∧ SourceBelow t filter start q
  entries : ∀ p ∈ pending, ∃ path place within name, IsEntry t filter root p path place within name ∧
    ∀ d ∈ place :: within, d ∈ v.entered
  covered : ∀ place ∈ v.entered, ∀ name q, t.HasEntry place name q →
    (∃ p ∈ pending, p.place = place ++ [name]) ∨ Recorded t filter v name q

theorem Recorded.mono {w : Visit} (h : Recorded t filter v name q)
    (entered : ∀ d ∈ v.entered, d ∈ w.entered) (files : ∀ f ∈ v.files, f ∈ w.files) :
    Recorded t filter w name q where
  entered hdirectory hkept := entered _ (h.entered hdirectory hkept)
  listed content hfile hkept hsource := by
    obtain ⟨f, hf, hresolve⟩ := h.listed content hfile hkept hsource
    exact ⟨f, files f hf, hresolve⟩

namespace Underway

/-- A walk goes on when the first of what is pending has left its mark and no directory was entered. -/
theorem next {w : Visit} (h : Underway t filter root start v (p :: rest))
    (entry : IsEntry t filter root p path place within name) (entered : w.entered = v.entered)
    (files : ∀ f ∈ v.files, f ∈ w.files)
    (sources : ∀ f ∈ w.files, f ∈ v.files ∨ ∃ q, t.resolve f = .ok q ∧ SourceBelow t filter start q)
    (recorded : ∀ q, t.HasEntry place name q → Recorded t filter w name q) :
    Underway t filter root start w rest where
  begun := entered ▸ h.begun
  reached place hplace := h.reached place (entered ▸ hplace)
  sources f hf := (sources f hf).elim (h.sources f) id
  entries p' hp' := by
    rw [entered]
    exact h.entries p' (List.mem_cons_of_mem _ hp')
  covered place' hplace' name' q leads := by
    rcases h.covered place' (entered ▸ hplace') name' q leads with ⟨p', hp', hat⟩ | hrecorded
    · rcases List.mem_cons.mp hp' with rfl | hrest
      · rw [entry.eq] at hat
        obtain ⟨rfl, rfl⟩ := List.append_singleton_inj.mp hat
        exact .inr (recorded q leads)
      · exact .inl ⟨p', hrest, hat⟩
    · exact .inr (hrecorded.mono (fun d hd => entered ▸ hd) files)

/-- What leads to a directory leaves no file to list. -/
theorem next_directory {w : Visit} (h : Underway t filter root start v (p :: rest))
    (entry : IsEntry t filter root p path place within name) (entered : w.entered = v.entered)
    (files : w.files = v.files)
    (recorded : ∀ q, t.HasEntry place name q →
      t.node? q = some .directory ∧ (filter.skipsPlace q true = false → q ∈ v.entered)) :
    Underway t filter root start w rest := by
  refine h.next entry entered (fun f hf => files ▸ hf) (fun f hf => .inl (files ▸ hf)) fun q leads => ?_
  obtain ⟨hdirectory, hentered⟩ := recorded q leads
  refine ⟨fun _ hkept => entered ▸ hentered hkept, fun content hfile => ?_⟩
  rw [hdirectory] at hfile
  cases hfile

section

variable (limits : WithinLimits t filter root) (h : Underway t filter root start v (p :: rest))
include limits h

theorem next_nothing (seen : sight t p = .nothing) : Underway t filter root start v rest := by
  obtain ⟨path, place, within, name, entry, -⟩ := h.entries p (List.mem_cons_self ..)
  refine h.next entry rfl (fun f hf => hf) (fun f hf => .inl hf) fun q leads => ?_
  have hsight := entry.sight_of_hasEntry limits leads
  rw [seen] at hsight
  exact ⟨fun hdirectory => absurd hdirectory hsight.1, fun content hfile => absurd hfile (hsight.2 content)⟩

/-- The directory that a loop leads back to was entered. -/
theorem next_loop (seen : sight t p = .loop) : Underway t filter root start (v.looped p.path) rest := by
  obtain ⟨path, place, within, name, entry, hinside⟩ := h.entries p (List.mem_cons_self ..)
  refine h.next_directory entry rfl rfl fun q leads => ?_
  have hsight := entry.sight_of_hasEntry limits leads
  rw [seen] at hsight
  exact ⟨hsight.2, fun _ => hinside q hsight.1⟩

theorem next_skipped (seen : sight t p = .directory q) (skipped : filter.skips t p.path true = true) :
    Underway t filter root start v rest := by
  obtain ⟨path, place, within, name, entry, -⟩ := h.entries p (List.mem_cons_self ..)
  refine h.next_directory entry rfl rfl fun q' leads => ?_
  have hsight := entry.sight_of_hasEntry limits leads
  rw [seen] at hsight
  refine ⟨hsight.2, fun hkept => ?_⟩
  rw [entry.skips_path limits leads, hkept] at skipped
  cases skipped

theorem next_revisited (seen : sight t p = .directory q) (entered : q ∈ v.entered) :
    Underway t filter root start (v.revisited p.path) rest := by
  obtain ⟨path, place, within, name, entry, -⟩ := h.entries p (List.mem_cons_self ..)
  refine h.next_directory entry rfl rfl fun q' leads => ?_
  have hsight := entry.sight_of_hasEntry limits leads
  rw [seen] at hsight
  exact ⟨hsight.2, fun _ => hsight.1 ▸ entered⟩

/-- A file is listed if it is a source file that the filter does not skip. -/
theorem next_file (proper : t.Proper) (seen : sight t p = .file) :
    Underway t filter root start (if filter.skips t p.path false then v else v.found p.path) rest := by
  obtain ⟨path, place, within, name, entry, hinside⟩ := h.entries p (List.mem_cons_self ..)
  obtain ⟨q, leads⟩ := entry.hasEntry_of_sight proper limits (by simp [seen])
  have hfile : ∃ content, t.node? q = some (.file content) := by
    simpa only [seen] using entry.sight_of_hasEntry limits leads
  have hresolve := entry.resolve_path limits leads
  have hnot : t.node? q ≠ some .directory := by
    obtain ⟨content, hnode⟩ := hfile
    simp [hnode]
  rw [entry.skips_path limits leads, Visit.found, entry.isSource_path proper limits]
  by_cases hlisted : filter.skipsPlace q false = false ∧ Path.isSource name = true
  · have hbelow : SourceBelow t filter start q :=
      ⟨place, name, h.reached place (hinside place (List.mem_cons_self ..)), leads, hfile, hlisted⟩
    simp only [hlisted, Bool.false_eq_true, if_false, if_true]
    refine h.next entry rfl (fun f hf => List.mem_append_left _ hf) (fun f hf => ?_) fun q' leads' => ?_
    · rcases List.mem_append.mp hf with hf | hf
      · exact .inl hf
      · rw [List.mem_singleton.mp hf]
        exact .inr ⟨q, hresolve, hbelow⟩
    · obtain rfl := leads.unique leads'
      exact ⟨fun hdirectory => absurd hdirectory hnot,
        fun _ _ _ _ => ⟨p.path, List.mem_append_right _ (List.mem_singleton_self _), hresolve⟩⟩
  · have hsame : (if filter.skipsPlace q false = true then v
        else if Path.isSource name = true then { v with files := v.files ++ [p.path] } else v) = v := by
      cases hskipped : filter.skipsPlace q false with
      | true => rfl
      | false =>
          have hsource : Path.isSource name ≠ true := fun hsource => hlisted ⟨hskipped, hsource⟩
          simp [hsource]
    rw [hsame]
    refine h.next entry rfl (fun f hf => hf) (fun f hf => .inl hf) fun q' leads' => ?_
    obtain rfl := leads.unique leads'
    exact ⟨fun hdirectory => absurd hdirectory hnot,
      fun _ _ hkept hsource => absurd ⟨hkept, hsource⟩ hlisted⟩

end

/-- A walk goes on into a directory that it has not entered. -/
theorem enter (h : Underway t filter root start v (p :: rest))
    (entry : IsEntry t filter root p path place within name)
    (hinside : ∀ d ∈ place :: within, d ∈ v.entered) (leads : t.HasEntry place name q)
    (directory : t.node? q = some .directory) (kept : filter.skipsPlace q true = false)
    (fresh : q ∉ v.entered) :
    Underway t filter root start (v.enter q) (pendingIn t p.path q p.within ++ rest) := by
  have hgrown : ∀ d ∈ v.entered, d ∈ (v.enter q).entered := fun d hd => List.mem_cons_of_mem _ hd
  have hroute : Route t filter root p.path q p.within := by
    rw [entry.eq]
    exact .enter entry.route leads directory kept fun hq => fresh (hinside q hq)
  have hpending : ∀ name', name' ∈ t.names q →
      ⟨p.path.join name', q ++ [name'], q :: p.within⟩ ∈ pendingIn t p.path q p.within :=
    fun name' hname' => List.mem_map.mpr ⟨name', hname', rfl⟩
  constructor
  · exact hgrown _ h.begun
  · intro d hd
    rcases List.mem_cons.mp hd with rfl | hd
    · exact .enter (h.reached place (hinside place (List.mem_cons_self ..))) leads directory kept
    · exact h.reached d hd
  · exact h.sources
  · intro p' hp'
    rcases List.mem_append.mp hp' with hnew | hrest
    · obtain ⟨name', hlisted, rfl⟩ := List.mem_map.mp hnew
      refine ⟨p.path, q, p.within, name', ⟨hroute, hlisted, rfl⟩, fun d hd => ?_⟩
      rcases List.mem_cons.mp hd with rfl | hd
      · exact List.mem_cons_self ..
      · rw [entry.eq] at hd
        exact hgrown d (hinside d hd)
    · obtain ⟨path', place', within', name', entry', hinside'⟩ :=
        h.entries p' (List.mem_cons_of_mem _ hrest)
      exact ⟨path', place', within', name', entry', fun d hd => hgrown d (hinside' d hd)⟩
  · intro place' hplace' name' q' entry'
    rcases List.mem_cons.mp hplace' with rfl | hplace'
    · exact .inl ⟨_, List.mem_append_left _ (hpending name' entry'.listed), rfl⟩
    rcases h.covered place' hplace' name' q' entry' with ⟨p', hp', hat⟩ | hrecorded
    · rcases List.mem_cons.mp hp' with rfl | hrest
      · -- What was pending is the directory that is entered now.
        rw [entry.eq] at hat
        obtain ⟨rfl, rfl⟩ := List.append_singleton_inj.mp hat
        obtain rfl := leads.unique entry'
        refine .inr ⟨fun _ _ => List.mem_cons_self .., fun content hfile => ?_⟩
        rw [directory] at hfile
        cases hfile
      · exact .inl ⟨p', List.mem_append_right _ hrest, hat⟩
    · exact .inr (hrecorded.mono hgrown fun f hf => hf)

/-- What holds while a walk runs holds when it ends. -/
theorem walkAll (proper : t.Proper) (limits : WithinLimits t filter root) {pending : List Pending}
    (h : Underway t filter root start v pending) :
    Underway t filter root start (walkAll t filter v pending) [] := by
  fun_induction Scan.walkAll t filter v pending with
  | case1 v => exact h
  | case2 v p rest seen ih => exact ih (h.next_nothing limits seen)
  | case3 v p rest seen ih => exact ih (h.next_loop limits seen)
  | case4 v p rest seen ih => exact ih (h.next_file limits proper seen)
  | case5 v p rest q seen skipped ih => exact ih (h.next_skipped limits seen skipped)
  | case6 v p rest q seen kept entered ih =>
      exact ih (h.next_revisited limits seen (List.contains_iff_mem.mp entered))
  | case7 v p rest q seen kept fresh ih =>
      obtain ⟨path, place, within, name, entry, hinside⟩ := h.entries p (List.mem_cons_self ..)
      have leads := entry.hasEntry_of_directory proper limits seen
      rw [entry.skips_path limits leads, Bool.not_eq_true] at kept
      refine ih (h.enter entry hinside leads (node?_of_sight seen) kept ?_)
      exact fun hq => fresh (List.contains_iff_mem.mpr hq)

/-- A walk that has ended has entered what can be reached. -/
theorem entered_of_reached (h : Underway t filter root start v []) (reached : Reached t filter start place) :
    place ∈ v.entered := by
  induction reached with
  | start => exact h.begun
  | enter reached entry directory kept ih =>
      rcases h.covered _ ih _ _ entry with ⟨p, hp, -⟩ | hrecorded
      · cases hp
      · exact hrecorded.entered directory kept

/-- A walk that has ended has listed the source files that can be reached. -/
theorem exists_file_iff (h : Underway t filter root start v []) :
    (∃ f ∈ v.files, t.resolve f = .ok q) ↔ SourceBelow t filter start q := by
  constructor
  · rintro ⟨f, hf, hresolve⟩
    obtain ⟨q', hresolve', hbelow⟩ := h.sources f hf
    cases hresolve.symm.trans hresolve'
    exact hbelow
  · rintro ⟨place, name, reached, entry, ⟨content, hfile⟩, hkept, hsource⟩
    rcases h.covered place (h.entered_of_reached reached) name q entry with ⟨p, hp, -⟩ | hrecorded
    · cases hp
    · exact hrecorded.listed content hfile hkept hsource

end Underway

/-! ## Whole walks -/

theorem walkAll_of_nothing (seen : sight t p = .nothing) :
    walkAll t filter v (p :: rest) = walkAll t filter v rest := by
  rw [walkAll]
  split <;> simp_all

theorem walkAll_of_directory (seen : sight t p = .directory q) (kept : filter.skips t p.path true = false) :
    walkAll t filter v (p :: rest) =
      if v.entered.contains q then walkAll t filter (v.revisited p.path) rest
      else walkAll t filter (v.enter q) (pendingIn t p.path q p.within ++ rest) := by
  rw [walkAll]
  split <;> simp_all

theorem underway_start (resolved : t.resolve root = .ok start) (directory : t.node? start = some .directory) :
    Underway t filter root start ⟨[], [start], none, none⟩ (pendingIn t root start []) where
  begun := List.mem_singleton_self start
  reached place hplace := by
    rw [List.mem_singleton.mp hplace]
    exact .start
  sources f hf := by cases hf
  entries p hp := by
    obtain ⟨name, hlisted, rfl⟩ := List.mem_map.mp hp
    exact ⟨root, start, [], name, ⟨.start resolved directory, hlisted, rfl⟩, fun d hd => hd⟩
  covered place hplace name q entry := by
    rw [List.mem_singleton.mp hplace] at entry ⊢
    exact .inl ⟨_, List.mem_map.mpr ⟨name, entry.listed, rfl⟩, rfl⟩

/-- A walk lists source files that can be reached from its directory, and leads to all of them. -/
theorem walkDirectory_files (proper : t.Proper) (limits : WithinLimits t filter root)
    (resolved : t.resolve root = .ok start) (directory : t.node? start = some .directory)
    (walked : isStandardInput root = false) :
    (∀ f ∈ (walkDirectory t filter root).files, ∃ q, t.resolve f = .ok q) ∧
      ∀ q, (∃ f ∈ (walkDirectory t filter root).files, t.resolve f = .ok q) ↔
        SourceBelow t filter start q := by
  have hbegins : Underway t filter root start _ _ := underway_start resolved directory
  have hends := hbegins.walkAll proper limits
  simp only [walkDirectory, resolved, walked, Bool.false_eq_true, if_false]
  refine ⟨fun f hf => ?_, fun q => hends.exists_file_iff⟩
  obtain ⟨q, hq, -⟩ := hends.sources f hf
  exact ⟨q, hq⟩

theorem walkDirectory_standardInput (h : isStandardInput root = true) :
    (walkDirectory t filter root).files = [] := by
  unfold walkDirectory
  split
  · rfl
  · simp [h, walkAll]

end NameLint.Scan

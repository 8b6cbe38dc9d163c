import NameLint.FileTree.Resolve
import NameLint.Proofs.FileTree.Path

/-!
# Proper trees

In a tree that is built up at paths, whatever lies in a directory has a name that a path can hold.
-/

namespace NameLint.FileTree

/-! ## The names in paths -/

namespace Path

theorem not_mem_of_mem_splitSlashes {cs part : List Char} (h : part ∈ splitSlashes cs) : '/' ∉ part := by
  induction cs generalizing part with
  | nil =>
      rw [splitSlashes, List.mem_singleton] at h
      simp [h]
  | cons c cs ih =>
      unfold splitSlashes at h
      split at h
      · rcases List.mem_cons.mp h with rfl | h
        · simp
        · exact ih h
      rename_i hc
      split at h
      · rw [List.mem_singleton.mp h]
        simpa using Ne.symm hc
      · rename_i first parts hsplit
        rw [hsplit] at ih
        rcases List.mem_cons.mp h with rfl | h
        · have hfirst : '/' ∉ first := ih (List.mem_cons_self ..)
          simpa [Ne.symm hc] using hfirst
        · exact ih (List.mem_cons_of_mem _ h)

theorem isEntryName_of_stepOf {part : List Char} {name : String} (hpart : '/' ∉ part)
    (h : stepOf part = .name name) : IsEntryName name := by
  unfold stepOf at h
  split at h
  · cases h
  rename_i hhere
  split at h
  · cases h
  rename_i habove
  cases h
  simp only [Bool.or_eq_true, List.isEmpty_iff, decide_eq_true_eq, not_or] at hhere
  have hne : ∀ text : String, part ≠ text.toList → String.ofList part ≠ text :=
    fun text hne heq => hne (by rw [← heq, String.toList_ofList])
  exact ⟨by simpa using hpart, hne "" hhere.1, hne "." hhere.2, hne ".." habove⟩

/-- The names on the way along a path are names of entries. -/
theorem isEntryName_of_mem_steps {p : Path} {name : String} (h : .name name ∈ p.steps) :
    IsEntryName name := by
  have hmem : .name name ∈ (splitSlashes p.toList).map stepOf := by
    simp only [steps] at h
    split at h
    · exact (List.mem_cons.mp h).resolve_left (by simp)
    · exact h
  obtain ⟨part, hpart, hstep⟩ := List.mem_map.mp hmem
  exact isEntryName_of_stepOf (not_mem_of_mem_splitSlashes hpart) hstep

end Path

namespace Tree

/-- All names on the ways in a tree can be names of entries. -/
def Proper (t : Tree) : Prop := ∀ entry ∈ t.nodes, ∀ name ∈ entry.1, IsEntryName name

instance (t : Tree) : Decidable t.Proper :=
  inferInstanceAs (Decidable (∀ entry ∈ t.nodes, ∀ name ∈ entry.1, IsEntryName name))

variable {t : Tree} {place : Location} {node : Node} {name : String}

/-! ## The names in a directory -/

theorem mem_names_iff : name ∈ t.names place ↔ ∃ entry ∈ t.nodes, entry.1 = place ++ [name] := by
  simp only [names, List.mem_eraseDups, List.mem_mergeSort, List.mem_filterMap]
  constructor
  · rintro ⟨entry, hmem, hname⟩
    split at hname
    · rename_i hplace
      obtain ⟨before, hbefore⟩ := List.getLast?_eq_some_iff.mp hname
      exact ⟨entry, hmem, by rw [← hplace, hbefore, List.dropLast_concat]⟩
    · cases hname
  · rintro ⟨entry, hmem, hentry⟩
    exact ⟨entry, hmem, by simp [hentry]⟩

theorem Proper.isEntryName (proper : t.Proper) (h : name ∈ t.names place) : IsEntryName name := by
  obtain ⟨entry, hmem, heq⟩ := mem_names_iff.mp h
  exact proper entry hmem name (by simp [heq])

theorem nodup_eraseDups : ∀ names : List String, names.eraseDups.Nodup
  | [] => by simp
  | name :: names => by
      rw [List.eraseDups_cons]
      exact List.nodup_cons.mpr ⟨by simp, nodup_eraseDups _⟩
termination_by names => names.length
decreasing_by exact Nat.lt_succ_of_le (List.length_filter_le ..)

theorem nodup_names (t : Tree) (place : Location) : (t.names place).Nodup := nodup_eraseDups _

theorem mem_nodes_of_node? {node : Node} (hplace : place ≠ []) (h : t.node? place = some node) :
    (place, node) ∈ t.nodes := by
  simp only [node?, List.isEmpty_iff, if_neg hplace, Option.map_eq_some_iff] at h
  obtain ⟨entry, hfind, rfl⟩ := h
  have hat : entry.1 = place := by simpa using List.find?_some hfind
  exact hat ▸ List.mem_of_find?_eq_some hfind

theorem mem_names_of_node? {node : Node} (h : t.node? (place ++ [name]) = some node) : name ∈ t.names place :=
  mem_names_iff.mpr ⟨_, mem_nodes_of_node? (by simp) h, rfl⟩

/-! ## Changing a tree -/

theorem Proper.set (h : t.Proper) (hplace : ∀ name ∈ place, IsEntryName name) (node : Node) :
    (t.set place node).Proper := by
  intro entry hentry
  rcases List.mem_append.mp hentry with hold | hnew
  · exact h entry (List.mem_filter.mp hold).1
  · rw [List.mem_singleton.mp hnew]
    exact hplace

theorem Proper.addDirectories (h : t.Proper) (hplace : ∀ name ∈ place, IsEntryName name) :
    (t.addDirectories place).Proper := by
  have hall : ∀ (places : List Location) (t : Tree), t.Proper →
      (∀ p ∈ places, ∀ name ∈ p, IsEntryName name) → (places.foldl Tree.addDirectory t).Proper := by
    intro places
    induction places with
    | nil => exact fun t ht _ => ht
    | cons p places ih =>
        intro t ht hplaces
        obtain ⟨hp, hplaces⟩ := List.forall_mem_cons.mp hplaces
        refine ih _ ?_ hplaces
        unfold addDirectory
        split
        · exact ht
        · exact ht.set hp .directory
  refine hall _ t h fun p hp name hname => ?_
  obtain ⟨n, -, rfl⟩ := List.mem_map.mp hp
  exact hplace name (List.mem_of_mem_take hname)

theorem Proper.plant (h : t.Proper) (hplace : ∀ name ∈ place, IsEntryName name) (node : Node) :
    (t.plant place node).Proper :=
  (h.addDirectories fun name hname => hplace name ((List.dropLast_sublist place).mem hname)).set hplace node

/-- Wherever a path lands, the names on the way there are names of entries. -/
theorem landing_names (t : Tree) (links : Nat) {steps : List Component}
    (hplace : ∀ name ∈ place, IsEntryName name) (hsteps : ∀ name, .name name ∈ steps → IsEntryName name) :
    ∀ name ∈ t.landing links place steps, IsEntryName name := by
  have hnext : ∀ {place name}, (∀ n ∈ place, IsEntryName n) → IsEntryName name →
      ∀ n ∈ place ++ [name], IsEntryName n := fun hplace hname n hn => by
    rcases List.mem_append.mp hn with hn | hn
    · exact hplace n hn
    · rwa [List.mem_singleton.mp hn]
  fun_induction landing t links place steps with
  | case1 links place => exact hplace
  | case2 links place rest ih => exact ih (by simp) fun n hn => hsteps n (List.mem_cons_of_mem _ hn)
  | case3 links place rest ih => exact ih hplace fun n hn => hsteps n (List.mem_cons_of_mem _ hn)
  | case4 links place rest ih =>
      exact ih (fun n hn => hplace n ((List.dropLast_sublist place).mem hn))
        fun n hn => hsteps n (List.mem_cons_of_mem _ hn)
  | case5 place name rest target hlink ih =>
      exact ih (hnext hplace (hsteps name (List.mem_cons_self ..)))
        fun n hn => hsteps n (List.mem_cons_of_mem _ hn)
  | case6 place name rest target hlink links ih =>
      refine ih hplace fun n hn => ?_
      rcases List.mem_append.mp hn with htarget | hrest
      · exact Path.isEntryName_of_mem_steps htarget
      · exact hsteps n (List.mem_cons_of_mem _ hrest)
  | case7 links place name rest hplain ih =>
      exact ih (hnext hplace (hsteps name (List.mem_cons_self ..)))
        fun n hn => hsteps n (List.mem_cons_of_mem _ hn)

theorem entryPlace_names (home : ∀ name ∈ t.home, IsEntryName name) (path : Path) :
    ∀ name ∈ t.entryPlace path, IsEntryName name := by
  have hsteps : ∀ name, .name name ∈ path.steps → IsEntryName name :=
    fun name hname => Path.isEntryName_of_mem_steps hname
  unfold entryPlace
  split
  · rename_i last hlast
    intro name hname
    rcases List.mem_append.mp hname with hname | hname
    · exact landing_names t linkLimit home
        (fun n hn => hsteps n ((List.dropLast_sublist _).mem hn)) name hname
    · rw [List.mem_singleton.mp hname]
      exact hsteps last (List.mem_of_getLast? hlast)
  · exact landing_names t linkLimit home hsteps

/-- What is put at a path, or removed there, leaves a tree proper. -/
theorem Proper.put (h : t.Proper) (home : ∀ name ∈ t.home, IsEntryName name) (path : Path) (node : Node) :
    (t.put path node).Proper := by
  unfold Tree.put
  split
  · exact h.plant (entryPlace_names home path) _
  · exact h.plant (landing_names t linkLimit home fun name hname => Path.isEntryName_of_mem_steps hname) node

theorem Proper.remove (h : t.Proper) (path : Path) : (t.remove path).Proper :=
  fun entry hentry => h entry (List.mem_filter.mp hentry).1

theorem proper_empty {home : Location} (h : ∀ name ∈ home, IsEntryName name) : (Tree.empty home).Proper := by
  have hproper : (⟨[], home⟩ : Tree).Proper := fun entry hentry => by cases hentry
  exact hproper.addDirectories h

end Tree

end NameLint.FileTree

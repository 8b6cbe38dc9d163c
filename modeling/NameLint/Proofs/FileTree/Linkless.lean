import NameLint.Proofs.FileTree.Leads
import NameLint.Proofs.FileTree.Proper

/-!
# Trees without links

Where nothing is a link, names behind a path lead to where they say, and with the longer path the shorter one
can be resolved too.
-/

namespace NameLint.FileTree

/-! ## Several names behind a path -/

namespace Path

variable {p : Path} {name : String} {names names' : List String}

/-- A path with names added to its end. -/
def joinAll (p : Path) (names : List String) : Path := names.foldl Path.join p

@[simp] theorem joinAll_nil (p : Path) : p.joinAll [] = p := rfl

@[simp] theorem joinAll_cons (p : Path) (name : String) (names : List String) :
    p.joinAll (name :: names) = (p.join name).joinAll names := rfl

theorem join_ne_empty (p : Path) (hname : IsEntryName name) : p.join name ≠ "" := by
  have hnonempty := hname.nonempty
  unfold join
  split
  · exact hnonempty
  · split <;> simp [hnonempty]

theorem moving_names (names : List String) : moving (names.map .name) = names.map .name := by
  induction names with
  | nil => rfl
  | cons name names ih => rw [List.map_cons, moving_cons (by simp), ih]

theorem moving_steps_join (hp : p ≠ "") (hname : IsEntryName name) :
    moving (p.join name).steps = moving p.steps ++ [.name name] := by
  obtain ⟨before, hjoin, hsteps⟩ := steps_join hp hname
  rw [hjoin, moving_append]
  rcases hsteps with hsteps | hsteps
  · rw [hsteps]
    rfl
  · rw [hsteps, moving_append, List.append_assoc]
    rfl

theorem moving_steps_joinAll (hp : p ≠ "") (hnames : ∀ n ∈ names, IsEntryName n) :
    moving (p.joinAll names).steps = moving p.steps ++ names.map .name := by
  induction names generalizing p with
  | nil => simp
  | cons name names ih =>
      obtain ⟨hname, hrest⟩ := List.forall_mem_cons.mp hnames
      rw [joinAll_cons, ih (join_ne_empty p hname) hrest, moving_steps_join hp hname]
      simp

theorem joinAll_inj (hp : p ≠ "") (hnames : ∀ n ∈ names, IsEntryName n)
    (hnames' : ∀ n ∈ names', IsEntryName n) : p.joinAll names = p.joinAll names' ↔ names = names' := by
  refine ⟨fun h => ?_, fun h => h ▸ rfl⟩
  have hmoving := congrArg (fun p : Path => moving p.steps) h
  simp only [moving_steps_joinAll hp hnames, moving_steps_joinAll hp hnames'] at hmoving
  exact (List.map_inj_right fun _ _ => Component.name.inj).mp (List.append_cancel_left hmoving)

theorem mem_join (hp : p ≠ "") (name : String) {c : Char} (h : c ∈ p.toList) : c ∈ (p.join name).toList := by
  unfold join
  split
  · simp_all
  · split <;> simp [h]

theorem utf8ByteSize_le_join (p : Path) (name : String) : p.utf8ByteSize ≤ (p.join name).utf8ByteSize := by
  unfold join
  split
  · simp_all
  · split
    · rw [String.utf8ByteSize_append]
      omega
    · rw [String.utf8ByteSize_append, String.utf8ByteSize_append]
      omega

end Path

/-! ## Trees -/

namespace Tree

variable {t : Tree} {place q : Location} {steps rest : List Component} {names : List String} {name : String}
  {p : Path}

/-- Nothing in a tree is a link. -/
def Linkless (t : Tree) : Prop := ∀ entry ∈ t.nodes, ∀ target, entry.2 ≠ .link target

namespace Linkless

variable (h : t.Linkless)
include h

theorem node?_ne_link (place : Location) (target : Path) : t.node? place ≠ some (.link target) := by
  intro hnode
  cases place with
  | nil => cases hnode
  | cons name place => exact h _ (mem_nodes_of_node? (by simp) hnode) target rfl

/-- Without links, names lead to where they say. -/
theorem eq_append_of_leads (hleads : t.Leads place steps q) (hmoving : Path.moving steps = names.map .name) :
    q = place ++ names := by
  induction hleads generalizing names with
  | done place =>
      obtain rfl := List.map_eq_nil_iff.mp hmoving.symm
      exact (List.append_nil _).symm
  | here directory later ih => exact ih hmoving
  | root directory later ih | above directory later ih =>
      rw [Path.moving_cons (by simp)] at hmoving
      cases names <;> cases hmoving
  | enter directory entry plain later ih =>
      rw [Path.moving_cons (by simp)] at hmoving
      cases names with
      | nil => cases hmoving
      | cons name names =>
          obtain ⟨hname, hrest⟩ := List.cons.inj hmoving
          cases hname
          rw [ih hrest, List.append_assoc]
          rfl
  | link directory entry later ih => exact absurd entry (h.node?_ne_link _ _)

theorem follow_cons (links : Nat) (place : Location) (step : Component) (rest : List Component) :
    t.follow links place (step :: rest) =
      (t.follow links place [step]).bind fun m => t.follow links m rest := by
  cases hplace : t.node? place with
  | none => cases step <;> simp [follow, hplace, Except.bind]
  | some node =>
      cases node with
      | file content => cases step <;> simp [follow, hplace, Except.bind]
      | link target => exact absurd hplace (h.node?_ne_link place target)
      | directory =>
          cases step with
          | root | here | above => simp [follow, hplace, Except.bind]
          | name name =>
              by_cases hlong : nameLimit < name.utf8ByteSize
              · simp [follow, hplace, hlong, Except.bind]
              cases hentry : t.node? (place ++ [name]) with
              | none => simp [follow, hplace, hentry, hlong, Except.bind]
              | some node =>
                  cases node with
                  | link target => exact absurd hentry (h.node?_ne_link _ target)
                  | _ => simp [follow, hplace, hentry, hlong, Except.bind]

/-- Without links, names after the root lead to where they say. -/
theorem eq_of_leads_root (hleads : t.Leads place steps q)
    (hmoving : Path.moving steps = .root :: names.map .name) : q = names := by
  obtain ⟨rest, hrest, hnames⟩ := hleads.of_moving_cons hmoving
  cases hrest with
  | root directory later => exact h.eq_append_of_leads later hnames

/-- Without links none is counted, and steps in a row can be followed one after the other. -/
theorem follow_append (links : Nat) (place : Location) (steps rest : List Component) :
    t.follow links place (steps ++ rest) =
      (t.follow links place steps).bind fun m => t.follow links m rest := by
  induction steps generalizing place with
  | nil => simp [follow, Except.bind]
  | cons step steps ih =>
      rw [List.cons_append, h.follow_cons, h.follow_cons links place step steps]
      cases t.follow links place [step] with
      | error fault => rfl
      | ok m => exact ih m

theorem follow_name {links : Nat} (hfollow : t.follow links place [.name name] = .ok q) :
    t.node? place = some .directory ∧ q = place ++ [name] ∧ name ∈ t.names place := by
  cases leads_of_follow hfollow with
  | enter directory entry plain later =>
      cases later
      exact ⟨directory, rfl, mem_names_of_node? entry⟩
  | link directory entry later => exact absurd entry (h.node?_ne_link _ _)

/-- What can be resolved with a name behind it is a directory, and the name an entry of it. -/
theorem resolve_of_join (hp : p ≠ "") (hname : IsEntryName name) (hjoin : t.resolve (p.join name) = .ok q) :
    ∃ place, t.resolve p = .ok place ∧ t.node? place = some .directory ∧ q = place ++ [name] ∧
      name ∈ t.names place := by
  have hlimits : (p.join name).toList.contains '\x00' = false ∧ (p.join name).utf8ByteSize ≤ pathLimit := by
    unfold resolve at hjoin
    repeat' split at hjoin
    all_goals simp_all
  have hzero : p.toList.contains '\x00' = false := by
    rw [Bool.eq_false_iff, ne_eq, List.contains_iff_mem]
    intro hmem
    simpa [Path.mem_join hp name hmem] using hlimits.1
  have hempty : p.isEmpty = false := by simpa using hp
  have hresolve := resolve_eq_follow (t := t) hzero hempty
    (Nat.le_trans (Path.utf8ByteSize_le_join p name) hlimits.2)
  rw [resolve_eq_follow hlimits.1 (by simpa using Path.join_ne_empty p hname) hlimits.2] at hjoin
  obtain ⟨before, hsteps, hbefore⟩ := Path.steps_join hp hname
  rw [hsteps, h.follow_append] at hjoin
  cases hm : t.follow linkLimit t.home before with
  | error fault => simp [hm, Except.bind] at hjoin
  | ok m =>
      rw [hm] at hjoin
      obtain ⟨hdirectory, hq, hlisted⟩ := h.follow_name hjoin
      refine ⟨m, ?_, hdirectory, hq, hlisted⟩
      rcases hbefore with hbefore | hbefore
      · rw [hresolve, hbefore, hm]
      · rw [hresolve, hbefore, h.follow_append, hm]
        simp [Except.bind, follow, hdirectory]

/-- What can be resolved with names behind it can be resolved itself, and the names say where they lead. -/
theorem resolve_of_joinAll (hp : p ≠ "") (hnames : ∀ n ∈ names, IsEntryName n)
    (hjoin : t.resolve (p.joinAll names) = .ok q) : ∃ place, t.resolve p = .ok place ∧ q = place ++ names := by
  induction names generalizing p with
  | nil => exact ⟨q, hjoin, (List.append_nil q).symm⟩
  | cons name names ih =>
      obtain ⟨hname, hrest⟩ := List.forall_mem_cons.mp hnames
      obtain ⟨place, hplace, rfl⟩ := ih (Path.join_ne_empty p hname) hrest hjoin
      obtain ⟨above, habove, -, rfl, -⟩ := h.resolve_of_join hp hname hplace
      exact ⟨above, habove, List.append_assoc ..⟩

end Linkless

end Tree

end NameLint.FileTree

import NameLint.FileTree.Resolve
import NameLint.Proofs.FileTree.Path

/-!
# Where steps lead without a limit

`Leads` follows links as often as they occur. Resolving a path gives what the path leads to in this sense,
or fails; it fails for a path that leads somewhere only because of the limits on links, names and paths.
-/

namespace NameLint.FileTree

namespace Tree

/-- Some steps lead from one location to another, links followed. -/
inductive Leads (t : Tree) : Location → List Component → Location → Prop
  | done (place : Location) : Leads t place [] place
  | root {place q : Location} {rest : List Component} (directory : t.node? place = some .directory)
      (later : Leads t [] rest q) : Leads t place (.root :: rest) q
  | here {place q : Location} {rest : List Component} (directory : t.node? place = some .directory)
      (later : Leads t place rest q) : Leads t place (.here :: rest) q
  | above {place q : Location} {rest : List Component} (directory : t.node? place = some .directory)
      (later : Leads t place.dropLast rest q) : Leads t place (.above :: rest) q
  | enter {place q : Location} {rest : List Component} {name : String} {node : Node}
      (directory : t.node? place = some .directory) (entry : t.node? (place ++ [name]) = some node)
      (plain : ∀ target, node ≠ .link target) (later : Leads t (place ++ [name]) rest q) :
      Leads t place (.name name :: rest) q
  | link {place q : Location} {rest : List Component} {name : String} {target : Path}
      (directory : t.node? place = some .directory)
      (entry : t.node? (place ++ [name]) = some (.link target))
      (later : Leads t place (target.steps ++ rest) q) : Leads t place (.name name :: rest) q

namespace Leads

variable {t : Tree} {place m q r : Location} {steps steps' rest later : List Component} {step : Component}

theorem unique (h : Leads t place steps q) (h' : Leads t place steps r) : q = r := by
  induction h with
  | done place =>
      cases h'
      rfl
  | root directory later ih =>
      cases h' with
      | root _ later' => exact ih later'
  | here directory later ih =>
      cases h' with
      | here _ later' => exact ih later'
  | above directory later ih =>
      cases h' with
      | above _ later' => exact ih later'
  | enter directory entry plain later ih =>
      cases h' with
      | enter _ _ _ later' => exact ih later'
      | link _ entry' _ => exact absurd (Option.some.inj (entry.symm.trans entry')) (plain _)
  | link directory entry later ih =>
      cases h' with
      | enter _ entry' plain _ => exact absurd (Option.some.inj (entry'.symm.trans entry)) (plain _)
      | link _ entry' later' =>
          cases Option.some.inj (entry.symm.trans entry')
          exact ih later'

/-- Steps in a row lead where the later ones lead from where the first lead. -/
theorem split (h : Leads t place (steps ++ rest) q) :
    ∃ m, Leads t place steps m ∧ Leads t m rest q := by
  generalize hall : steps ++ rest = all at h
  induction h generalizing steps with
  | done place =>
      obtain ⟨rfl, rfl⟩ := List.append_eq_nil_iff.mp hall
      exact ⟨place, .done place, .done place⟩
  | root directory later ih =>
      rcases List.append_eq_cons_iff.mp hall with ⟨rfl, rfl⟩ | ⟨before, rfl, rfl⟩
      · exact ⟨_, .done _, .root directory later⟩
      · obtain ⟨m, hbefore, hrest⟩ := ih rfl
        exact ⟨m, .root directory hbefore, hrest⟩
  | here directory later ih =>
      rcases List.append_eq_cons_iff.mp hall with ⟨rfl, rfl⟩ | ⟨before, rfl, rfl⟩
      · exact ⟨_, .done _, .here directory later⟩
      · obtain ⟨m, hbefore, hrest⟩ := ih rfl
        exact ⟨m, .here directory hbefore, hrest⟩
  | above directory later ih =>
      rcases List.append_eq_cons_iff.mp hall with ⟨rfl, rfl⟩ | ⟨before, rfl, rfl⟩
      · exact ⟨_, .done _, .above directory later⟩
      · obtain ⟨m, hbefore, hrest⟩ := ih rfl
        exact ⟨m, .above directory hbefore, hrest⟩
  | enter directory entry plain later ih =>
      rcases List.append_eq_cons_iff.mp hall with ⟨rfl, rfl⟩ | ⟨before, rfl, rfl⟩
      · exact ⟨_, .done _, .enter directory entry plain later⟩
      · obtain ⟨m, hbefore, hrest⟩ := ih rfl
        exact ⟨m, .enter directory entry plain hbefore, hrest⟩
  | link directory entry later ih =>
      rcases List.append_eq_cons_iff.mp hall with ⟨rfl, rfl⟩ | ⟨before, rfl, rfl⟩
      · exact ⟨_, .done _, .link directory entry later⟩
      · -- The steps of the target take the place of the name in front of the cut.
        obtain ⟨m, hbefore, hrest⟩ := ih (List.append_assoc ..)
        exact ⟨m, .link directory entry hbefore, hrest⟩

theorem eq_of_moving_nil (h : t.Leads place steps q) (hmoving : Path.moving steps = []) : q = place := by
  induction steps with
  | nil =>
      cases h
      rfl
  | cons step steps ih =>
      by_cases hhere : step = .here
      · subst hhere
        cases h with
        | here directory later => exact ih later hmoving
      · rw [Path.moving_cons hhere] at hmoving
        cases hmoving

theorem of_moving_cons (h : t.Leads place steps q) (hmoving : Path.moving steps = step :: later) :
    ∃ rest, t.Leads place (step :: rest) q ∧ Path.moving rest = later := by
  induction steps with
  | nil => cases hmoving
  | cons first steps ih =>
      by_cases hhere : first = .here
      · subst hhere
        cases h with
        | here directory later => exact ih later hmoving
      · rw [Path.moving_cons hhere] at hmoving
        obtain ⟨rfl, hlater⟩ := List.cons.inj hmoving
        exact ⟨steps, h, hlater⟩

/-- Steps that differ in those that stay where they are lead to the same location. -/
theorem unique_of_moving (h : t.Leads place steps q) (h' : t.Leads place steps' r)
    (hmoving : Path.moving steps = Path.moving steps') : q = r := by
  induction h generalizing steps' with
  | done place => exact (h'.eq_of_moving_nil hmoving.symm).symm
  | here directory later ih => exact ih h' hmoving
  | root directory later ih =>
      obtain ⟨rest, hrest, hmoving'⟩ := h'.of_moving_cons hmoving.symm
      cases hrest with
      | root _ later' => exact ih later' hmoving'.symm
  | above directory later ih =>
      obtain ⟨rest, hrest, hmoving'⟩ := h'.of_moving_cons hmoving.symm
      cases hrest with
      | above _ later' => exact ih later' hmoving'.symm
  | enter directory entry plain later ih =>
      obtain ⟨rest, hrest, hmoving'⟩ := h'.of_moving_cons hmoving.symm
      cases hrest with
      | enter _ _ _ later' => exact ih later' hmoving'.symm
      | link _ entry' _ => exact absurd (Option.some.inj (entry.symm.trans entry')) (plain _)
  | link directory entry later ih =>
      obtain ⟨rest, hrest, hmoving'⟩ := h'.of_moving_cons hmoving.symm
      cases hrest with
      | enter _ entry' plain _ => exact absurd (Option.some.inj (entry'.symm.trans entry)) (plain _)
      | link _ entry' later' =>
          cases Option.some.inj (entry.symm.trans entry')
          exact ih later' (by rw [Path.moving_append, Path.moving_append, hmoving']; rfl)

end Leads

variable {t : Tree} {place q : Location} {steps : List Component} {path : Path} {name : String}

/-- What is found within the limit on links is what the steps lead to. -/
theorem leads_of_follow {links : Nat} (h : t.follow links place steps = .ok q) :
    t.Leads place steps q := by
  fun_induction follow t links place steps with
  | case1 links place =>
      cases h
      exact .done _
  | case2 links place rest directory ih => exact .root directory (ih h)
  | case3 links place rest directory ih => exact .here directory (ih h)
  | case4 links place rest directory ih => exact .above directory (ih h)
  | case5 | case6 | case7 | case10 => cases h
  | case8 place rest directory name _ target entry links ih => exact .link directory entry (ih h)
  | case9 links place rest directory name _ node plain entry ih =>
      exact .enter directory entry plain (ih h)

theorem resolve_eq_follow (hzero : path.toList.contains '\x00' = false) (hempty : path.isEmpty = false)
    (hlimit : path.utf8ByteSize ≤ pathLimit) : t.resolve path = t.follow linkLimit t.home path.steps := by
  rw [resolve, hzero, hempty, if_neg (by decide), if_neg (by decide), if_neg (Nat.not_lt.mpr hlimit)]

theorem leads_of_resolve (h : t.resolve path = .ok q) : t.Leads t.home path.steps q := by
  unfold resolve at h
  split at h
  · cases h
  split at h
  · cases h
  split at h
  · cases h
  · exact leads_of_follow h

/-- Paths with the same components lead to the same location, if both lead anywhere. -/
theorem resolve_unique_of_components {path' : Path} {r : Location} (h : t.resolve path = .ok q)
    (h' : t.resolve path' = .ok r) (hsame : path.components = path'.components) : q = r :=
  (leads_of_resolve h).unique_of_moving (leads_of_resolve h')
    (by rw [Path.moving_steps, Path.moving_steps, hsame])

theorem ne_empty_of_resolve (h : t.resolve path = .ok q) : path ≠ "" := by
  rintro rfl
  cases h

/-- A path with a name behind it leads where the name leads in the directory that the path leads to. -/
theorem leads_of_resolve_join (hname : IsEntryName name) (h : t.resolve path = .ok place)
    (hjoin : t.resolve (path.join name) = .ok q) : t.Leads place [.name name] q := by
  obtain ⟨before, hsteps, hbefore⟩ := Path.steps_join (ne_empty_of_resolve h) hname
  have hleads := leads_of_resolve hjoin
  rw [hsteps] at hleads
  obtain ⟨m, hm, hlast⟩ := hleads.split
  have hpath := leads_of_resolve h
  rcases hbefore with hbefore | hbefore
  · rw [hbefore] at hpath
    rwa [hpath.unique hm]
  · rw [hbefore] at hpath
    obtain ⟨m', hm', hhere⟩ := hpath.split
    cases hhere with
    | here directory later =>
        cases later
        rwa [hm'.unique hm]

end Tree

end NameLint.FileTree

import NameLint.Proofs.Scan.Discovery

/-!
# Directories that are reached again

Strict checking of links breaks off a search exactly when a walk leaves something out because it leads into a
directory that was entered before: a link back to a directory that it is in, or another way to a directory. Each
walk is looked at for itself, so that paths may overlap.
-/

namespace NameLint.Scan

open NameLint.FileTree NameLint.Ignore

/-! ## The stages of a walk -/

/-- Something pending is a link. -/
def IsLink (t : Tree) (p : Pending) : Prop := ∃ target, t.node? p.place = some (.link target)

/-- Something pending leads into a directory: it is one, with a path that can be followed, or a link to one. -/
inductive LeadsInto (t : Tree) (p : Pending) : Location → Prop
  | directory (node : t.node? p.place = some .directory) (followed : t.isDirectory p.path = true) :
      LeadsInto t p p.place
  | link {place : Location} (isLink : IsLink t p) (resolved : t.resolve p.path = .ok place)
      (directory : t.node? place = some .directory) : LeadsInto t p place

/-- Where a walk stands: the directories that it has entered, and what it has still to look at. -/
structure WalkStage where
  entered : List Location
  pending : List Pending

/-- One step of a walk: the first of what is pending is entered if it leads into a directory that the filter
keeps and that has not been entered, and is passed over if not. -/
inductive Goes (t : Tree) (filter : IgnoreFilter) : WalkStage → WalkStage → Prop
  | enters {entered : List Location} {p : Pending} {rest : List Pending} {place : Location}
      (into : LeadsInto t p place) (kept : filter.skips t p.path true = false)
      (fresh : place ∉ entered) :
      Goes t filter ⟨entered, p :: rest⟩ ⟨place :: entered, pendingIn t p.path place p.within ++ rest⟩
  | passes {entered : List Location} {p : Pending} {rest : List Pending}
      (known : ∀ place, LeadsInto t p place → filter.skips t p.path true = false → place ∈ entered) :
      Goes t filter ⟨entered, p :: rest⟩ ⟨entered, rest⟩

/-- The stages that the walk of a directory comes through. -/
inductive WalkStage.Of (t : Tree) (filter : IgnoreFilter) (root : Path) : WalkStage → Prop
  | start {place : Location} (resolved : t.resolve root = .ok place)
      (directory : t.node? place = some .directory) :
      Of t filter root ⟨[place], if isStandardInput root then [] else pendingIn t root place []⟩
  | next {s s' : WalkStage} (of : Of t filter root s) (goes : Goes t filter s s') : Of t filter root s'

/-- The first of what is pending is left out because it leads into a directory that has been entered. The
filter is asked before that, but for a link to a directory that it is in. -/
structure LeftOut (t : Tree) (filter : IgnoreFilter) (s : WalkStage) (p : Pending) (place : Location) : Prop where
  first : s.pending.head? = some p
  into : LeadsInto t p place
  entered : place ∈ s.entered
  cause : filter.skips t p.path true = false ∨ IsLink t p ∧ place ∈ p.within

/-- A walk leaves something out because it leads into a directory that has been entered. -/
def LeavesOut (t : Tree) (filter : IgnoreFilter) (root : Path) (p : Pending) : Prop :=
  ∃ s place, s.Of t filter root ∧ LeftOut t filter s p place

variable {t : Tree} {filter : IgnoreFilter} {root : Path} {p : Pending} {rest pending : List Pending}
  {place q : Location} {s s' : WalkStage} {v : Visit}

theorem LeadsInto.unique (h : LeadsInto t p place) (h' : LeadsInto t p q) : place = q := by
  cases h with
  | directory node followed =>
      cases h' with
      | directory => rfl
      | link isLink =>
          obtain ⟨target, hlink⟩ := isLink
          cases node.symm.trans hlink
  | link isLink resolved directory =>
      cases h' with
      | directory node =>
          obtain ⟨target, hlink⟩ := isLink
          cases node.symm.trans hlink
      | link _ resolved' => exact Except.ok.inj (resolved.symm.trans resolved')

theorem leadsInto_iff : LeadsInto t p place ↔
    t.node? p.place = some .directory ∧ t.isDirectory p.path = true ∧ place = p.place ∨
      IsLink t p ∧ t.resolve p.path = .ok place ∧ t.node? place = some .directory := by
  constructor
  · rintro (⟨node, followed⟩ | ⟨isLink, resolved, directory⟩)
    · exact .inl ⟨node, followed, rfl⟩
    · exact .inr ⟨isLink, resolved, directory⟩
  · rintro (⟨node, followed, rfl⟩ | ⟨isLink, resolved, directory⟩)
    · exact .directory node followed
    · exact .link isLink resolved directory

/-- What a walk sees, said of where things lead. -/
def Tells (t : Tree) (p : Pending) : Sight → Prop
  | .directory place => LeadsInto t p place ∧ (IsLink t p → place ∉ p.within)
  | .loop => ∃ place ∈ p.within, LeadsInto t p place ∧ IsLink t p
  | .file | .nothing => ∀ place, ¬ LeadsInto t p place

theorem tells_sight (t : Tree) (p : Pending) : Tells t p (sight t p) := by
  simp only [Tells.eq_def, leadsInto_iff, IsLink]
  unfold sight
  cases hnode : t.node? p.place with
  | none => simp
  | some node =>
      cases node with
      | file content => simp
      | directory => cases hfollowed : t.isDirectory p.path <;> simp
      | link target =>
          cases hresolve : t.resolve p.path with
          | error fault => simp
          | ok place =>
              cases hplace : t.node? place with
              | none => simp_all
              | some node =>
                  cases node with
                  | file content => simp_all
                  | link target => simp_all
                  | directory =>
                      by_cases hinside : place ∈ p.within
                      · simp [hplace, hinside]
                      · simp [hplace, hinside]

theorem tells_of_sight {what : Sight} (seen : sight t p = what) : Tells t p what :=
  seen ▸ tells_sight t p

theorem LeadsInto.sight_cases (into : LeadsInto t p place) :
    sight t p = .directory place ∧ (IsLink t p → place ∉ p.within) ∨
      sight t p = .loop ∧ IsLink t p ∧ place ∈ p.within := by
  cases seen : sight t p with
  | file => exact absurd into (tells_of_sight seen place)
  | nothing => exact absurd into (tells_of_sight seen place)
  | directory q =>
      obtain ⟨hinto, hnot⟩ := tells_of_sight seen
      obtain rfl := hinto.unique into
      exact .inl ⟨rfl, hnot⟩
  | loop =>
      obtain ⟨q, hwithin, hinto, isLink⟩ := tells_of_sight seen
      obtain rfl := hinto.unique into
      exact .inr ⟨rfl, isLink, hwithin⟩

/-! ## Walks by their stages -/

/-- The directories that something pending is in were entered. -/
def WalkStage.Inside (s : WalkStage) : Prop := ∀ p ∈ s.pending, ∀ place ∈ p.within, place ∈ s.entered

theorem inside_pendingIn {path : Path} {within entered : List Location}
    (h : ∀ q ∈ place :: within, q ∈ entered) :
    ∀ p ∈ pendingIn t path place within, ∀ q ∈ p.within, q ∈ entered := by
  intro p hp
  obtain ⟨name, -, rfl⟩ := List.mem_map.mp hp
  exact h

theorem Goes.inside (goes : Goes t filter s s') (h : s.Inside) : s'.Inside := by
  cases goes with
  | enters into kept fresh =>
      obtain ⟨hp, hrest⟩ := List.forall_mem_cons.mp h
      refine List.forall_mem_append.mpr ⟨inside_pendingIn ?_, fun p' hp' q hq => ?_⟩
      · exact List.forall_mem_cons.mpr ⟨List.mem_cons_self .., fun q hq => List.mem_cons_of_mem _ (hp q hq)⟩
      · exact List.mem_cons_of_mem _ (hrest p' hp' q hq)
  | passes known => exact (List.forall_mem_cons.mp h).2

theorem WalkStage.Of.inside (h : s.Of t filter root) : s.Inside := by
  induction h with
  | start resolved directory =>
      intro p hp
      dsimp only at hp ⊢
      split at hp
      · cases hp
      · exact inside_pendingIn (fun q hq => hq) p hp
  | next of goes ih => exact goes.inside ih

namespace Visit

/-- The path that strict checking of links complains of. -/
def complaint? (v : Visit) : Option Path := v.loop? <|> v.revisit?

theorem eq_of_complaint? {link : Path} (h : v.complaint? = some link) :
    v.loop? = some link ∨ v.revisit? = some link := by
  unfold complaint? at h
  cases hloop : v.loop? <;> simp_all

theorem isSome_complaint?_looped (v : Visit) (path : Path) : (v.looped path).complaint?.isSome = true := by
  simp [complaint?, looped]

theorem isSome_complaint?_revisited (v : Visit) (path : Path) :
    (v.revisited path).complaint?.isSome = true := by
  simp [complaint?, revisited]

/-- A file that a walk looks at changes nothing but the list of the files. -/
theorem looked_at_file {w : Visit} {path : Path} {skipped : Bool}
    (h : (if skipped then v else v.found path) = w) :
    w.entered = v.entered ∧ w.loop? = v.loop? ∧ w.revisit? = v.revisit? := by
  subst h
  unfold found
  repeat' split
  all_goals exact ⟨rfl, rfl, rfl⟩

end Visit

theorem walkAll_of_loop (seen : sight t p = .loop) :
    walkAll t filter v (p :: rest) = walkAll t filter (v.looped p.path) rest := by
  rw [walkAll]
  split <;> simp_all

theorem walkAll_of_file (seen : sight t p = .file) :
    walkAll t filter v (p :: rest) =
      walkAll t filter (if filter.skips t p.path false then v else v.found p.path) rest := by
  rw [walkAll]
  split <;> simp_all

theorem walkAll_of_skipped (seen : sight t p = .directory q) (skipped : filter.skips t p.path true = true) :
    walkAll t filter v (p :: rest) = walkAll t filter v rest := by
  rw [walkAll]
  split <;> simp_all

/-- A walk complains to its end once it has a reason to. -/
theorem isSome_complaint?_walkAll (h : v.complaint?.isSome = true) (pending : List Pending) :
    (walkAll t filter v pending).complaint?.isSome = true := by
  fun_induction walkAll t filter v pending with
  | case1 v => exact h
  | case2 v p rest seen ih => exact ih h
  | case3 v p rest seen ih => exact ih (v.isSome_complaint?_looped p.path)
  | case4 v p rest seen ih =>
      rw [dite_eq_ite] at ih
      generalize hw : (if filter.skips t p.path false then v else v.found p.path) = w at ih ⊢
      obtain ⟨-, hloop, hrevisit⟩ := Visit.looked_at_file hw
      exact ih (by rwa [Visit.complaint?, hloop, hrevisit])
  | case5 v p rest q seen skipped ih => exact ih h
  | case6 v p rest q seen kept entered ih => exact ih (v.isSome_complaint?_revisited p.path)
  | case7 v p rest q seen kept fresh ih => exact ih h

/-- The walk goes through its stages. -/
theorem Goes.walkAll_eq (goes : Goes t filter ⟨v.entered, pending⟩ s)
    (inside : WalkStage.Inside ⟨v.entered, pending⟩) :
    ∃ w : Visit, w.entered = s.entered ∧ walkAll t filter v pending = walkAll t filter w s.pending := by
  cases goes with
  | enters into kept fresh =>
      rename_i p rest place
      rcases into.sight_cases with ⟨seen, -⟩ | ⟨-, -, hwithin⟩
      · refine ⟨v.enter place, rfl, ?_⟩
        rw [walkAll_of_directory seen kept, if_neg (by simpa using fresh)]
      · exact absurd (inside p (List.mem_cons_self ..) place hwithin) fresh
  | passes known =>
      rename_i p rest
      cases seen : sight t p with
      | nothing => exact ⟨v, rfl, walkAll_of_nothing seen⟩
      | loop => exact ⟨v.looped p.path, rfl, walkAll_of_loop seen⟩
      | file =>
          exact ⟨_, (Visit.looked_at_file rfl).1, walkAll_of_file seen⟩
      | directory q =>
          cases skipped : filter.skips t p.path true with
          | true => exact ⟨v, rfl, walkAll_of_skipped seen skipped⟩
          | false =>
              have hentered := known q (tells_of_sight seen).1 skipped
              refine ⟨v.revisited p.path, rfl, ?_⟩
              rw [walkAll_of_directory seen skipped, if_pos (by simpa using hentered)]

theorem WalkStage.Of.walkDirectory_eq (h : s.Of t filter root) :
    ∃ v : Visit, v.entered = s.entered ∧ walkDirectory t filter root = walkAll t filter v s.pending := by
  induction h with
  | @start place resolved directory =>
      refine ⟨⟨[], [place], none, none⟩, rfl, ?_⟩
      simp only [walkDirectory, resolved]
  | next of goes ih =>
      obtain ⟨v, hentered, hwalk⟩ := ih
      have inside := of.inside
      rename_i s s'
      obtain ⟨entered, pending⟩ := s
      obtain rfl : v.entered = entered := hentered
      obtain ⟨w, hentered', hwalk'⟩ := goes.walkAll_eq inside
      exact ⟨w, hentered', hwalk.trans hwalk'⟩

/-- Strict checking complains of a walk that leaves something out. -/
theorem LeavesOut.isSome_complaint? (h : LeavesOut t filter root p) :
    (walkDirectory t filter root).complaint?.isSome = true := by
  obtain ⟨⟨entered, pending⟩, place, of, first, into, hentered, cause⟩ := h
  obtain ⟨v, rfl, hwalk⟩ := of.walkDirectory_eq
  obtain ⟨rest, rfl⟩ : ∃ rest, pending = p :: rest := List.head?_eq_some_iff.mp first
  rw [hwalk]
  rcases into.sight_cases with ⟨seen, hnot⟩ | ⟨seen, -, -⟩
  · have kept : filter.skips t p.path true = false :=
      cause.elim id fun ⟨isLink, hwithin⟩ => absurd hwithin (hnot isLink)
    rw [walkAll_of_directory seen kept, if_pos (by simpa using hentered)]
    exact isSome_complaint?_walkAll (v.isSome_complaint?_revisited p.path) rest
  · rw [walkAll_of_loop seen]
    exact isSome_complaint?_walkAll (v.isSome_complaint?_looped p.path) rest

/-! ## What strict checking complains of -/

/-- All that a walk has to complain of was left out. -/
def Told (t : Tree) (filter : IgnoreFilter) (root : Path) (v : Visit) : Prop :=
  ∀ link, v.loop? = some link ∨ v.revisit? = some link → ∃ p, LeavesOut t filter root p ∧ p.path = link

namespace Told

variable (told : Told t filter root v) (leavesOut : LeavesOut t filter root p)
include told leavesOut

theorem looped : Told t filter root (v.looped p.path) := by
  rintro link (hlink | hlink)
  · cases hloop : v.loop? with
    | none => exact ⟨p, leavesOut, by simpa [Visit.looped, hloop] using hlink⟩
    | some first => exact told link (.inl (by simpa [Visit.looped, hloop] using hlink))
  · exact told link (.inr hlink)

theorem revisited : Told t filter root (v.revisited p.path) := by
  rintro link (hlink | hlink)
  · exact told link (.inl hlink)
  · cases hrevisit : v.revisit? with
    | none => exact ⟨p, leavesOut, by simpa [Visit.revisited, hrevisit] using hlink⟩
    | some first => exact told link (.inr (by simpa [Visit.revisited, hrevisit] using hlink))

end Told

theorem told_walkAll (of : WalkStage.Of t filter root ⟨v.entered, pending⟩) (told : Told t filter root v) :
    Told t filter root (walkAll t filter v pending) := by
  fun_induction walkAll t filter v pending with
  | case1 v => exact told
  | case2 v p rest seen ih =>
      exact ih (of.next (.passes fun place into => absurd into (tells_of_sight seen place))) told
  | case3 v p rest seen ih =>
      obtain ⟨q, hwithin, hinto, isLink⟩ := tells_of_sight seen
      have hentered := of.inside p (List.mem_cons_self ..) q hwithin
      refine ih (of.next (.passes fun place into _ => hinto.unique into ▸ hentered)) (told.looped ?_)
      exact ⟨_, q, of, rfl, hinto, hentered, .inr ⟨isLink, hwithin⟩⟩
  | case4 v p rest seen ih =>
      rw [dite_eq_ite] at ih
      generalize hw : (if filter.skips t p.path false then v else v.found p.path) = w at ih ⊢
      obtain ⟨hentered, hloop, hrevisit⟩ := Visit.looked_at_file hw
      refine ih ?_ (by rwa [Told, hloop, hrevisit])
      rw [hentered]
      exact of.next (.passes fun place into => absurd into (tells_of_sight seen place))
  | case5 v p rest q seen skipped ih =>
      refine ih (of.next (.passes fun place _ kept => ?_)) told
      rw [skipped] at kept
      cases kept
  | case6 v p rest q seen kept entered ih =>
      obtain ⟨hinto, -⟩ := tells_of_sight seen
      rw [Bool.not_eq_true] at kept
      rw [List.contains_iff_mem] at entered
      refine ih (of.next (.passes fun place into _ => hinto.unique into ▸ entered)) (told.revisited ?_)
      exact ⟨_, q, of, rfl, hinto, entered, .inl kept⟩
  | case7 v p rest q seen kept fresh ih =>
      obtain ⟨hinto, -⟩ := tells_of_sight seen
      rw [Bool.not_eq_true] at kept
      rw [List.contains_iff_mem] at fresh
      exact ih (of.next (.enters hinto kept fresh)) told

theorem filesBelow_strict_eq_error_iff {path link : Path} :
    filesBelow t filter true path = .error (.linkCycle link) ↔
      (walkDirectory t filter path).complaint? = some link := by
  simp only [filesBelow, if_true]
  rw [← Visit.complaint?]
  cases (walkDirectory t filter path).complaint? <;> simp

/-- Strict checking complains of nothing that was not left out. -/
theorem exists_leavesOut {link : Path} (resolved : t.resolve root = .ok place)
    (directory : t.node? place = some .directory)
    (h : (walkDirectory t filter root).complaint? = some link) :
    ∃ p, LeavesOut t filter root p ∧ p.path = link := by
  have told : Told t filter root ⟨[], [place], none, none⟩ := by simp [Told]
  have hwalk := told_walkAll (.start resolved directory) told
  simp only [walkDirectory, resolved] at h
  exact hwalk link (Visit.eq_of_complaint? h)

/-- A search that is broken off is broken off at one of its paths. -/
theorem exists_of_gather_eq_error {strict : Bool} {l : Listing} {paths : List Path} {e : ScanError}
    (h : gather t filter strict l paths = .error e) :
    ∃ path ∈ paths, t.isDirectory path = true ∧ filesBelow t filter strict path = .error e := by
  induction paths generalizing l with
  | nil => cases h
  | cons path rest ih =>
      rw [gather] at h
      cases hdirectory : t.isDirectory path with
      | true =>
          cases hfiles : filesBelow t filter strict path with
          | error e' =>
              simp only [hdirectory, hfiles, if_true, Except.error.injEq] at h
              exact ⟨path, List.mem_cons_self .., hdirectory, h ▸ hfiles⟩
          | ok files =>
              simp only [hdirectory, hfiles, if_true] at h
              obtain ⟨path', hpath', hat⟩ := ih h
              exact ⟨path', List.mem_cons_of_mem _ hpath', hat⟩
      | false =>
          have hrest : ∃ l', gather t filter strict l' rest = .error e := by
            cases hskips : filter.skips t path false <;> exact ⟨_, by simpa [hdirectory, hskips] using h⟩
          obtain ⟨l', hl'⟩ := hrest
          obtain ⟨path', hpath', hat⟩ := ih hl'
          exact ⟨path', List.mem_cons_of_mem _ hpath', hat⟩

theorem WalkStage.Of.isDirectory (h : s.Of t filter root) : t.isDirectory root = true := by
  induction h with
  | start resolved directory => exact isDirectory_iff.mpr ⟨_, resolved, directory⟩
  | next of goes ih => exact ih

/-- Strict checking breaks off a search at a path exactly when the walk of it leaves something out. -/
theorem unbroken_strict_iff {path : Path} :
    Unbroken t filter true path ↔ ∀ p, ¬ LeavesOut t filter path p := by
  constructor
  · intro unbroken p leavesOut
    obtain ⟨link, hlink⟩ := Option.isSome_iff_exists.mp leavesOut.isSome_complaint?
    obtain ⟨s, place, of, -⟩ := leavesOut
    obtain ⟨files, hfiles⟩ := unbroken of.isDirectory
    cases hfiles.symm.trans (filesBelow_strict_eq_error_iff.mpr hlink)
  · intro hnone hdirectory
    obtain ⟨place, resolved, directory⟩ := isDirectory_iff.mp hdirectory
    cases hfiles : filesBelow t filter true path with
    | ok files => exact ⟨files, rfl⟩
    | error e =>
        cases e with
        | linkCycle link =>
            obtain ⟨p, leavesOut, -⟩ :=
              exists_leavesOut resolved directory (filesBelow_strict_eq_error_iff.mp hfiles)
            exact absurd leavesOut (hnone p)

/-- The path that a failing search names was left out in the walk of one of the paths. -/
theorem exists_of_discover_eq_error {paths : List Path} {link : Path}
    (h : discover t filter true paths = .error (.linkCycle link)) :
    ∃ path ∈ paths, ∃ p, LeavesOut t filter path p ∧ p.path = link := by
  have hgather : gather t filter true ⟨[], []⟩ paths = .error (.linkCycle link) := by
    unfold discover at h
    cases hgather : gather t filter true ⟨[], []⟩ paths <;> simp_all [Except.map]
  obtain ⟨path, hpath, hdirectory, hfiles⟩ := exists_of_gather_eq_error hgather
  obtain ⟨place, resolved, directory⟩ := isDirectory_iff.mp hdirectory
  exact ⟨path, hpath, exists_leavesOut resolved directory (filesBelow_strict_eq_error_iff.mp hfiles)⟩

theorem discover_strict_eq_error_iff {paths : List Path} :
    (∃ link, discover t filter true paths = .error (.linkCycle link)) ↔
      ∃ path ∈ paths, ∃ p, LeavesOut t filter path p := by
  constructor
  · rintro ⟨link, h⟩
    obtain ⟨path, hpath, p, leavesOut, -⟩ := exists_of_discover_eq_error h
    exact ⟨path, hpath, p, leavesOut⟩
  · rintro ⟨path, hpath, p, leavesOut⟩
    cases h : discover t filter true paths with
    | ok files =>
        have unbroken := (discover_eq_ok_iff.mp h).1 path hpath
        exact absurd leavesOut (unbroken_strict_iff.mp unbroken p)
    | error e =>
        cases e with
        | linkCycle link => exact ⟨link, rfl⟩

/-- With strict checking of links a search fails exactly when the walk of one of the paths leaves something out
because it leads into a directory that this walk has entered, and the error names what was left out. Otherwise it
returns what it returns without strict checking, which never fails. A search fails for some paths only if it
fails for one of them alone. -/
theorem discover_strict (t : Tree) (filter : IgnoreFilter) (paths : List Path) :
    ((∃ link, discover t filter true paths = .error (.linkCycle link)) ↔
      ∃ path ∈ paths, ∃ p, LeavesOut t filter path p) ∧
    (∀ link, discover t filter true paths = .error (.linkCycle link) →
      ∃ path ∈ paths, ∃ p, LeavesOut t filter path p ∧ p.path = link) ∧
    (∃ files, discover t filter false paths = .ok files ∧
      ((∀ path ∈ paths, ∀ p, ¬ LeavesOut t filter path p) →
        discover t filter true paths = .ok files)) ∧
    ((∃ link, discover t filter true paths = .error (.linkCycle link)) ↔
      ∃ path ∈ paths, ∃ link, discover t filter true [path] = .error (.linkCycle link)) := by
  refine ⟨discover_strict_eq_error_iff, fun link => exists_of_discover_eq_error, ?_, ?_⟩
  · refine ⟨_, discover_eq_ok t filter paths, fun hnone => discover_eq_ok_iff.mpr ⟨?_, rfl⟩⟩
    exact fun path hpath => unbroken_strict_iff.mpr (hnone path hpath)
  · simp [discover_strict_eq_error_iff]

theorem linkedBack_names : linkedBack.names ["src"] = ["a.cpp", "again"] := by
  have hfound : (linkedBack.nodes.filterMap fun entry =>
      if entry.1.dropLast = ["src"] then entry.1.getLast? else none) = ["a.cpp", "again"] := by
    decide
  rw [Tree.names, hfound, List.mergeSort_of_pairwise (by decide)]
  decide

/-- The link back to the directory that it is in is left out. -/
theorem linkedBack_leavesOut :
    LeavesOut linkedBack .none "src" ⟨"src/again", ["src", "again"], [["src"]]⟩ := by
  obtain ⟨hsrc, -, hagain⟩ := linkedBack_resolve
  have hjoin : Path.join "src" "a.cpp" = "src/a.cpp" ∧ Path.join "src" "again" = "src/again" := by decide
  have hstart : WalkStage.Of linkedBack .none "src" _ := .start hsrc rfl
  have hinput : isStandardInput "src" = false := by decide
  simp only [hinput, pendingIn, linkedBack_names, List.map_cons, List.map_nil, hjoin] at hstart
  have hfile : ∀ place, ¬ LeadsInto linkedBack ⟨"src/a.cpp", ["src", "a.cpp"], [["src"]]⟩ place := by
    rintro place (⟨node, -⟩ | ⟨⟨target, hlink⟩, -, -⟩)
    · cases node
    · cases hlink
  refine ⟨_, ["src"], hstart.next (.passes fun place into => absurd into (hfile place)), rfl, ?_, ?_, ?_⟩
  · exact .link ⟨".", rfl⟩ hagain rfl
  · exact List.mem_singleton_self _
  · exact .inr ⟨⟨".", rfl⟩, List.mem_singleton_self _⟩

theorem discover_strict_linkedBack :
    ∃ link, discover linkedBack .none true ["src"] = .error (.linkCycle link) :=
  (discover_strict linkedBack .none ["src"]).1.mpr ⟨"src", List.mem_singleton_self _, _, linkedBack_leavesOut⟩

end NameLint.Scan

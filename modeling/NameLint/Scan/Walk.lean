import NameLint.Ignore.Filter

/-!
# Walking a directory

A walk looks at everything below a directory in the order of the names, links followed, and lists the source
files. What the filter skips is passed over, a directory is entered once however many ways lead to it,
and the walk ends because each directory it enters is one that it has not entered before.
-/

namespace NameLint.Scan

open NameLint.FileTree NameLint.Ignore

/-- Something in a directory that a walk has still to look at: the path to it, its location, and the
directories it is in, the innermost first. -/
structure Pending where
  path : Path
  place : Location
  within : List Location

/-- What a walk sees at something pending. -/
inductive Sight where
  | file
  | directory (place : Location)
  /-- A link to a directory that it is in. -/
  | loop
  /-- A link that leads nowhere, or a directory with too long a path. -/
  | nothing
  deriving DecidableEq, Repr

/-- What a walk sees. -/
def sight (t : Tree) (p : Pending) : Sight :=
  match t.node? p.place with
  | some (.file _) => .file
  | some .directory => if t.isDirectory p.path then .directory p.place else .nothing
  | some (.link _) =>
    match t.resolve p.path with
    | .error _ => .nothing
    | .ok place =>
      match t.node? place with
      | some (.file _) => .file
      | some .directory => if p.within.contains place then .loop else .directory place
      | _ => .nothing
  | none => .nothing

theorem node?_of_sight {t : Tree} {p : Pending} {place : Location}
    (h : sight t p = .directory place) : t.node? place = some .directory := by
  unfold sight at h
  split at h
  · cases h
  · next hn =>
    split at h
    · cases h; exact hn
    · cases h
  · split at h
    · cases h
    · split at h
      · cases h
      · next hn =>
        split at h
        · cases h
        · cases h; exact hn
      · cases h
  · cases h

/-- Everything directly in a directory, in the order of the names. -/
def pendingIn (t : Tree) (path : Path) (place : Location) (within : List Location) : List Pending :=
  (t.names place).map fun name => ⟨path.join name, place ++ [name], place :: within⟩

/-- What a walk has done: the source files found, the directories entered, and the first links that led
back to a directory they are in, and to one entered already. -/
structure Visit where
  files : List Path
  entered : List Location
  loop? : Option Path
  revisit? : Option Path

namespace Visit

/-- Records a source file. -/
def found (v : Visit) (path : Path) : Visit :=
  if path.isSource then { v with files := v.files ++ [path] } else v

/-- Records that a directory is entered. -/
def enter (v : Visit) (place : Location) : Visit := { v with entered := place :: v.entered }

/-- Records a link to a directory that it is in. -/
def looped (v : Visit) (path : Path) : Visit := { v with loop? := v.loop? <|> some path }

/-- Records a directory that was entered already. -/
def revisited (v : Visit) (path : Path) : Visit := { v with revisit? := v.revisit? <|> some path }

end Visit

/-- The number of directories that have not been entered. -/
def unentered (t : Tree) (entered : List Location) : Nat :=
  (t.directories.filter fun place => !entered.contains place).length

theorem unentered_enter_lt {t : Tree} {entered : List Location} {place : Location}
    (hdir : place ∈ t.directories) (hnew : entered.contains place = false) :
    unentered t (place :: entered) < unentered t entered := by
  have hmem : place ∈ t.directories.filter fun p => !entered.contains p :=
    List.mem_filter.mpr ⟨hdir, by rw [hnew]; rfl⟩
  have hsplit : (t.directories.filter fun p => !(place :: entered).contains p)
      = (t.directories.filter fun p => !entered.contains p).filter fun p => !decide (p = place) := by
    rw [List.filter_filter]
    exact List.filter_congr fun p _ => by simp
  unfold unentered
  rw [hsplit]
  exact List.length_filter_lt_length_iff_exists.mpr ⟨place, hmem, by simp⟩

/-- Looks at everything pending and at all that it leads to. -/
def walkAll (t : Tree) (filter : IgnoreFilter) (v : Visit) (pending : List Pending) : Visit :=
  match pending with
  | [] => v
  | p :: rest =>
    match _h : sight t p with
    | .nothing => walkAll t filter v rest
    | .loop => walkAll t filter (v.looped p.path) rest
    | .file => walkAll t filter (if filter.skips t p.path false then v else v.found p.path) rest
    | .directory place =>
      if filter.skips t p.path true then walkAll t filter v rest
      else if _hv : v.entered.contains place then walkAll t filter (v.revisited p.path) rest
      else walkAll t filter (v.enter place) (pendingIn t p.path place p.within ++ rest)
termination_by (unentered t v.entered, pending.length)
decreasing_by
  · exact Prod.Lex.right _ (by simp)
  · exact Prod.Lex.right _ (by simp)
  · split
    · exact Prod.Lex.right _ (by simp)
    · unfold Visit.found
      split <;> exact Prod.Lex.right _ (by simp)
  · exact Prod.Lex.right _ (by simp)
  · exact Prod.Lex.right _ (by simp)
  · exact Prod.Lex.left _ _
      (unentered_enter_lt (Tree.mem_directories (node?_of_sight _h)) (Bool.eq_false_iff.mpr _hv))

/-- Whether a path stands for the standard input and so has nothing in it. -/
def isStandardInput (path : Path) : Bool := path.components = [.name "-"]

/-- Walks the directory that a path leads to. -/
def walkDirectory (t : Tree) (filter : IgnoreFilter) (path : Path) : Visit :=
  match t.resolve path with
  | .error _ => ⟨[], [], none, none⟩
  | .ok place =>
    walkAll t filter ⟨[], [place], none, none⟩
      (if isStandardInput path then [] else pendingIn t path place [])

end NameLint.Scan

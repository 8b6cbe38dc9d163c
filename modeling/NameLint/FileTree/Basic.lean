import NameLint.FileTree.Path

/-!
# File trees

Directories, files and symbolic links, given by what lies at each location. The root is always a
directory.
-/

namespace NameLint.FileTree

/-- A place in a tree: the names on the way to it from the root. -/
abbrev Location := List String

/-- What can lie at a location. -/
inductive Node where
  | directory
  | file (content : List UInt8)
  /-- A link to what a path leads to from the directory of the link. -/
  | link (target : Path)
  deriving DecidableEq, Repr

/-- A file tree, and the directory in it that relative paths start from. -/
structure Tree where
  nodes : List (Location × Node)
  home : Location
  deriving Repr

namespace Tree

/-- What lies at a location. -/
def node? (t : Tree) (place : Location) : Option Node :=
  if place.isEmpty then some .directory
  else (t.nodes.find? fun entry => entry.1 == place).map (·.2)

/-- The locations of the directories. -/
def directories (t : Tree) : List Location :=
  [] :: (t.nodes.filter fun entry => entry.2 == .directory).map (·.1)

theorem mem_directories {t : Tree} {place : Location} (h : t.node? place = some .directory) :
    place ∈ t.directories := by
  unfold node? at h
  split at h
  · next he => simp [directories, List.isEmpty_iff.mp he]
  · simp only [Option.map_eq_some_iff] at h
    obtain ⟨entry, hfind, hnode⟩ := h
    have hat : entry.1 = place := by simpa using List.find?_some hfind
    refine List.mem_cons_of_mem _ (List.mem_map.mpr ⟨entry, ?_, hat⟩)
    exact List.mem_filter.mpr ⟨List.mem_of_find?_eq_some hfind, by simp [hnode]⟩

/-- The names of what lies directly in a directory, in ascending order. -/
def names (t : Tree) (directory : Location) : List String :=
  let found := t.nodes.filterMap fun entry =>
    if entry.1.dropLast = directory then entry.1.getLast? else none
  (found.mergeSort fun a b => !(b < a)).eraseDups

/-! ## Changing a tree -/

/-- The tree with a node at a location, in place of what was there. -/
def set (t : Tree) (place : Location) (node : Node) : Tree :=
  { t with nodes := (t.nodes.filter fun entry => entry.1 != place) ++ [(place, node)] }

/-- The tree with a directory at a location, unless something is there already. -/
def addDirectory (t : Tree) (place : Location) : Tree :=
  if (t.node? place).isSome then t else t.set place .directory

/-- The tree with directories at a location and at all above it. -/
def addDirectories (t : Tree) (place : Location) : Tree :=
  ((List.range place.length).map fun n => place.take (n + 1)).foldl addDirectory t

/-- The tree with a node at a location and directories above it. -/
def plant (t : Tree) (place : Location) (node : Node) : Tree :=
  (t.addDirectories place.dropLast).set place node

/-- A tree that holds its home and nothing else. -/
def empty (home : Location) : Tree := addDirectories ⟨[], home⟩ home

/-- The tree without what lies at a location or below it. -/
def uproot (t : Tree) (place : Location) : Tree :=
  { t with nodes := t.nodes.filter fun entry => !place.isPrefixOf entry.1 }

end Tree

end NameLint.FileTree

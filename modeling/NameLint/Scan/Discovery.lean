import NameLint.Scan.Walk

/-!
# Finding the files to scan

The paths to scan become a sorted list of files. A path to a directory stands for the source files below it,
any other path for itself unless the filter skips it, and a file that several paths lead to is
listed once.
-/

namespace NameLint.Scan

open NameLint.FileTree NameLint.Ignore

/-- Why a scan is broken off. -/
inductive ScanError where
  /-- A directory was reached twice in a walk where that is not allowed. -/
  | linkCycle (path : Path)
  deriving DecidableEq, Repr

namespace ScanError

/-- The code of an error. -/
def code : ScanError → String
  | .linkCycle _ => "ccase::scan::symlink_cycle"

/-- The help line of an error. -/
def help? : ScanError → Option String
  | .linkCycle _ =>
    some "without strict symlink checking, revisited directories are skipped"

/-- The text of an error. -/
def message : ScanError → String
  | .linkCycle path => "symbolic link cycle at " ++ path

end ScanError

/-- What a path is told apart by: the location it leads to, or its own components if it leads nowhere. -/
def identity (t : Tree) (path : Path) : List Component :=
  match t.resolve path with
  | .ok place => .root :: place.map .name
  | .error _ => path.components

/-- Files without repetition, and what they are told apart by. -/
structure Listing where
  seen : List (List Component)
  files : List Path

/-- Adds a file, unless it is listed already. -/
def Listing.add (t : Tree) (l : Listing) (path : Path) : Listing :=
  if l.seen.contains (identity t path) then l
  else ⟨identity t path :: l.seen, l.files ++ [path]⟩

/-- The source files below a directory. When links are checked strictly, a link to a directory it is in is
an error, and if there is none, so is a directory that was reached twice. -/
def filesBelow (t : Tree) (filter : IgnoreFilter) (strict : Bool) (path : Path) :
    Except ScanError (List Path) :=
  let visit := walkDirectory t filter path
  if strict then
    match visit.loop? <|> visit.revisit? with
    | some link => .error (.linkCycle link)
    | none => .ok visit.files
  else .ok visit.files

/-- Adds the files of several paths to a listing. -/
def gather (t : Tree) (filter : IgnoreFilter) (strict : Bool) :
    Listing → List Path → Except ScanError Listing
  | l, [] => .ok l
  | l, path :: rest =>
    if t.isDirectory path then
      match filesBelow t filter strict path with
      | .error e => .error e
      | .ok files => gather t filter strict (files.foldl (·.add t) l) rest
    else if filter.skips t path false then gather t filter strict l rest
    else gather t filter strict (l.add t path) rest

/-- Paths in order. -/
def sortPaths (paths : List Path) : List Path := paths.mergeSort fun p q => !q.isBefore p

/-- The files that some paths stand for. -/
def discover (t : Tree) (filter : IgnoreFilter) (strict : Bool) (paths : List Path) :
    Except ScanError (List Path) :=
  (gather t filter strict ⟨[], []⟩ paths).map fun l => sortPaths l.files

end NameLint.Scan

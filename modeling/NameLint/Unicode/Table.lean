import NameLint.Text.Hex

/-!
# Tables over code points

A table is written as text: words between blanks, code points in hexadecimal. A property of
characters is a `PointSet`, the sorted list of the points at which membership changes; a map from
characters to values is a list of runs.
-/

namespace NameLint.Unicode

open NameLint.Text

/-- The words of a table's text, in order. -/
def tableWords (text : String) : List (List Char) :=
  let (word, words) := text.toList.foldr
    (fun c (word, words) =>
      if c = ' ' ∨ c = '\n' then ([], if word.isEmpty then words else word :: words)
      else (c :: word, words))
    (([] : List Char), ([] : List (List Char)))
  if word.isEmpty then words else word :: words

/-- How many of the sorted `points` from `lo` up to `hi` are at most `n`, counted from the array's
start; all before `lo` are, and none from `hi` on is. -/
def rankBetween (points : Array Nat) (n lo hi : Nat) (h : hi ≤ points.size) : Nat :=
  if hlt : lo < hi then
    let mid := (lo + hi) / 2
    have hmid : mid < hi := by omega
    if points[mid] ≤ n then rankBetween points n (mid + 1) hi h
    else rankBetween points n lo mid (by omega)
  else lo
termination_by hi - lo

/-- How many of the sorted `points` are at most `n`. -/
def rank (points : Array Nat) (n : Nat) : Nat :=
  rankBetween points n 0 points.size (Nat.le_refl _)

/-- A set of code points, given by the sorted points at which membership changes: the first point
is the first member, the second is the first non-member after it, and so on. -/
structure PointSet where
  /-- The points of change. -/
  changes : Array Nat
  deriving Repr

namespace PointSet

/-- Reads a set from a table's text. -/
def ofText (text : String) : PointSet :=
  ⟨((tableWords text).map hexValue).toArray⟩

/-- Whether a word of a table is a name: names begin with a capital, code points do not. -/
def isName (word : List Char) : Bool :=
  word.head?.any Char.isUpper

/-- Reads the set that stands after its name in a table of several sets. -/
def ofNamedText? (text : String) (name : String) : Option PointSet :=
  match (tableWords text).dropWhile (· != name.toList) with
  | [] => none
  | _ :: words => some ⟨((words.takeWhile fun w => !isName w).map hexValue).toArray⟩

/-- A point is a member if an odd number of changes lie at or before it. -/
def contains (s : PointSet) (n : Nat) : Bool :=
  rank s.changes n % 2 == 1

end PointSet

/-- A function on code points that is constant on runs: run `i` begins at `starts[i]` and has the
value `values[i]`. -/
structure RunMap (α : Type) where
  /-- The first point of each run. -/
  starts : Array Nat
  /-- The value of each run. -/
  values : Array α

namespace RunMap

/-- Pairs up the words of a table, start and value, dropping a pair whose value is unreadable. -/
def pairs {α : Type} (value? : String → Option α) : List (List Char) → List (Nat × α)
  | start :: value :: rest =>
    match value? (String.ofList value) with
    | some v => (hexValue start, v) :: pairs value? rest
    | none => pairs value? rest
  | _ => []

/-- Reads a map from a table's text, the values by `value?`. -/
def ofText {α : Type} (value? : String → Option α) (text : String) : RunMap α :=
  let runs := pairs value? (tableWords text)
  ⟨(runs.map (·.1)).toArray, (runs.map (·.2)).toArray⟩

/-- The value at a point: that of the last run that begins at or before it. -/
def get? {α : Type} (m : RunMap α) (n : Nat) : Option α :=
  m.values[rank m.starts n - 1]?

end RunMap

/-- A run of code points mapped to a run of code points: `first`, `first + step`, … up to `last` go to
`target`, `target + step`, …. -/
structure ShiftRun where
  first : Nat
  last : Nat
  step : Nat
  target : Nat

namespace ShiftRun

/-- The image of a point of the run. -/
def image? (r : ShiftRun) (n : Nat) : Option Nat :=
  if r.first ≤ n ∧ n ≤ r.last ∧ (n - r.first) % r.step = 0 then some (r.target + (n - r.first))
  else none

/-- The point of the run with image `m`. -/
def preimage? (r : ShiftRun) (m : Nat) : Option Nat :=
  if r.target ≤ m ∧ r.first + (m - r.target) ≤ r.last ∧ (m - r.target) % r.step = 0 then
    some (r.first + (m - r.target))
  else none

end ShiftRun

/-- A map of code points to code points, given by sorted runs; it leaves all other points alone. -/
structure ShiftMap where
  runs : Array ShiftRun

namespace ShiftMap

/-- Groups the words of a table by four. -/
def quads : List (List Char) → List ShiftRun
  | first :: last :: step :: target :: rest =>
    ⟨hexValue first, hexValue last, hexValue step, hexValue target⟩ :: quads rest
  | _ => []

/-- Reads a map from a table's text. -/
def ofText (text : String) : ShiftMap :=
  ⟨(quads (tableWords text)).toArray⟩

/-- The image of a point, when the map moves it. -/
def image? (m : ShiftMap) (n : Nat) : Option Nat :=
  m.runs.findSome? (·.image? n)

/-- All points that the map moves to `n`. -/
def preimages (m : ShiftMap) (n : Nat) : List Nat :=
  m.runs.toList.filterMap (·.preimage? n)

end ShiftMap

end NameLint.Unicode

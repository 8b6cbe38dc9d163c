/-!
# Paths

A path is its text. What counts in it are its components: the root, `.` at the start of a relative path,
`..`, and names; repeated and final slashes and any other `.` do not matter. Paths are ordered by their
components and not by their text.
-/

namespace NameLint.FileTree

/-- A path as it is written. -/
abbrev Path := String

/-- A component of a path, in the order that paths are sorted by. -/
inductive Component where
  | root
  /-- A leading `.`. -/
  | here
  /-- The directory above. -/
  | above
  | name (text : String)
  deriving DecidableEq, Repr

namespace Component

/-- The place of the kind of a component in the order. -/
def rank : Component → Nat
  | .root => 0
  | .here => 1
  | .above => 2
  | .name _ => 3

/-- The text of a name; the others of one kind have none. -/
def text : Component → String
  | .name text => text
  | _ => ""

/-- Whether a component comes before another. -/
def isBefore (a b : Component) : Bool :=
  a.rank < b.rank || (a.rank == b.rank && a.text < b.text)

/-- A component as a path writes it. -/
def written : Component → String
  | .root => "/"
  | .here => "."
  | .above => ".."
  | .name text => text

end Component

/-- The parts of a text between the slashes. -/
def splitSlashes : List Char → List (List Char)
  | [] => [[]]
  | c :: rest =>
    if c = '/' then [] :: splitSlashes rest
    else match splitSlashes rest with
      | [] => [[c]]
      | part :: parts => (c :: part) :: parts

namespace Path

/-- The component that a part between slashes is, if it is any. -/
def componentOf? (part : List Char) : Option Component :=
  if part.isEmpty || part = ['.'] then none
  else if part = ['.', '.'] then some .above
  else some (.name (String.ofList part))

/-- The components of a path. -/
def components (p : Path) : List Component :=
  let parts := splitSlashes p.toList
  let start : List Component := match parts with
    | [] :: _ :: _ => [.root]
    | ['.'] :: _ => [.here]
    | _ => []
  start ++ parts.filterMap componentOf?

/-- The step of the way along a path that a part between slashes is. An empty part stays where it is, as
`.` does. -/
def stepOf (part : List Char) : Component :=
  if part.isEmpty || part = ['.'] then .here
  else if part = ['.', '.'] then .above
  else .name (String.ofList part)

/-- The way along a path. Each step but the first has to start from a directory, so that unlike the
components the steps also tell a path that ends in a slash. -/
def steps (p : Path) : List Component :=
  let parts := (splitSlashes p.toList).map stepOf
  if p.toList.head? = some '/' then .root :: parts else parts

/-- Whether the components of one path come before those of another. -/
def componentsBefore : List Component → List Component → Bool
  | [], [] => false
  | [], _ :: _ => true
  | _ :: _, [] => false
  | a :: as, b :: bs => a.isBefore b || (a == b && componentsBefore as bs)

/-- Whether a path comes before another. -/
def isBefore (p q : Path) : Bool := componentsBefore p.components q.components

/-- Whether two paths have the same components. -/
def isSame (p q : Path) : Bool := p.components == q.components

/-- The name that a path ends in, unless it ends in another component. -/
def fileName? (p : Path) : Option String :=
  match p.components.getLast? with
  | some (.name text) => some text
  | _ => none

/-- What follows the last dot of a name, if there is a dot and something before it. -/
def extensionOf? (name : String) : Option String :=
  let cs := name.toList
  let ending := (cs.reverse.takeWhile (· != '.')).reverse
  let before := cs.length - ending.length
  if before < 2 then none else some (String.ofList ending)

/-- The extension of a path. -/
def extension? (p : Path) : Option String := p.fileName?.bind extensionOf?

/-- A path with a name added to its end. -/
def join (p : Path) (name : String) : Path :=
  if p.toList.isEmpty then name
  else if p.toList.getLast? = some '/' then p ++ name
  else p ++ "/" ++ name

end Path

/-- The extensions of source files. -/
def sourceExtensions : List String :=
  ["c", "cc", "cpp", "cxx", "c++", "h", "hh", "hpp", "hxx", "h++", "inl", "ipp", "tpp"]

/-- An ASCII text in lower case. -/
def asciiLower (text : String) : String := String.ofList (text.toList.map Char.toLower)

/-- Whether a path names a source file: by its extension, in any ASCII letter case. -/
def Path.isSource (p : Path) : Bool :=
  p.extension?.any fun ending => sourceExtensions.contains (asciiLower ending)

end NameLint.FileTree

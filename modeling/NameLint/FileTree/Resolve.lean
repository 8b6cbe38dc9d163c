import NameLint.FileTree.Basic
import NameLint.FileTree.Fault
import NameLint.Text.Utf8

/-!
# Where paths lead

A path is walked step by step, and links on the way are followed, up to a limit. What it leads to can be
read; which faults can arise on the way and which one wins is decided here.
-/

namespace NameLint.FileTree

open NameLint.Text

/-- The number of links that one walk may follow. -/
def linkLimit : Nat := 40

/-- The longest name, in bytes. -/
def nameLimit : Nat := 255

/-- The longest path, in bytes. -/
def pathLimit : Nat := 4095

namespace Tree

/-- Where some steps lead from a location when at most `links` links are followed. -/
def follow (t : Tree) (links : Nat) (place : Location) : List Component → Except Fault Location
  | [] => .ok place
  | step :: rest =>
    match t.node? place with
    | some .directory =>
      match step with
      | .root => t.follow links [] rest
      | .here => t.follow links place rest
      | .above => t.follow links place.dropLast rest
      | .name name =>
        if nameLimit < name.utf8ByteSize then .error .nameTooLong
        else
          match t.node? (place ++ [name]) with
          | none => .error .notFound
          | some (.link target) =>
            match links with
            | 0 => .error .tooManyLinks
            | links + 1 => t.follow links place (target.steps ++ rest)
          | some _ => t.follow links (place ++ [name]) rest
    | _ => .error .notDirectory
termination_by steps => (links, steps.length)

/-- The location that a path leads to. -/
def resolve (t : Tree) (path : Path) : Except Fault Location :=
  if path.toList.contains '\x00' then .error .zeroCharacter
  else if path.isEmpty then .error .notFound
  else if pathLimit < path.utf8ByteSize then .error .nameTooLong
  else t.follow linkLimit t.home path.steps

/-- What a path leads to. -/
def lookup? (t : Tree) (path : Path) : Option Node :=
  match t.resolve path with
  | .ok place => t.node? place
  | .error _ => none

/-- Whether a path leads anywhere. -/
def pathExists (t : Tree) (path : Path) : Bool := (t.lookup? path).isSome

/-- Whether a path leads to a directory. -/
def isDirectory (t : Tree) (path : Path) : Bool := t.lookup? path = some .directory

/-- Whether a path leads to a file. -/
def isFile (t : Tree) (path : Path) : Bool :=
  match t.lookup? path with
  | some (.file _) => true
  | _ => false

/-- The content of the file that a path leads to. -/
def read (t : Tree) (path : Path) : Except Fault (List UInt8) :=
  match t.resolve path with
  | .error e => .error e
  | .ok place =>
    match t.node? place with
    | some (.file content) => .ok content
    | some .directory => .error .isDirectory
    | _ => .error .notFound

/-- The content of a file as text. -/
def readText (t : Tree) (path : Path) : Except Fault String :=
  match t.read path with
  | .error e => .error e
  | .ok content =>
    match decodeUtf8 content with
    | .ok text => .ok text
    | .error _ => .error .notText

/-! ## Changing a tree at a path -/

/-- Where some steps lead when names that are not there yet count as directories. -/
def landing (t : Tree) (links : Nat) (place : Location) : List Component → Location
  | [] => place
  | .root :: rest => t.landing links [] rest
  | .here :: rest => t.landing links place rest
  | .above :: rest => t.landing links place.dropLast rest
  | .name name :: rest =>
    match t.node? (place ++ [name]) with
    | some (.link target) =>
      match links with
      | 0 => t.landing 0 (place ++ [name]) rest
      | links + 1 => t.landing links place (target.steps ++ rest)
    | _ => t.landing links (place ++ [name]) rest
termination_by steps => (links, steps.length)

/-- The location of what a path names, a final link not followed. -/
def entryPlace (t : Tree) (path : Path) : Location :=
  match path.steps.getLast? with
  | some (.name name) => t.landing linkLimit t.home path.steps.dropLast ++ [name]
  | _ => t.landing linkLimit t.home path.steps

/-- The tree with a directory, file or link at a path, and directories above it. A link replaces what is
there; the others go where the path leads. -/
def put (t : Tree) (path : Path) (node : Node) : Tree :=
  match node with
  | .link _ => t.plant (t.entryPlace path) node
  | _ => t.plant (t.landing linkLimit t.home path.steps) node

/-- The tree without what a path names. -/
def remove (t : Tree) (path : Path) : Tree := t.uproot (t.entryPlace path)

end Tree

end NameLint.FileTree

import NameLint.FileTree.Resolve
import NameLint.Ignore.Rule

/-!
# Ignore filters

A filter holds the rules of an ignore file together with the directory of the file. What is not below that
directory is never skipped, and neither is the directory itself.
-/

namespace NameLint.Ignore

open NameLint.FileTree

/-- Why an ignore file cannot be used. -/
inductive IgnoreError where
  /-- The file cannot be read. -/
  | unreadable (path : Path) (fault : Fault)
  /-- A line of the file is no rule. -/
  | invalidRule (path : Path) (line : Nat) (reason : GlobError)
  deriving DecidableEq, Repr

namespace IgnoreError

/-- The code of an error. -/
def code : IgnoreError → String
  | .unreadable _ _ => "ccase::ignore::io"
  | .invalidRule _ _ _ => "ccase::ignore::invalid_rule"

/-- The help line of an error. -/
def help? : IgnoreError → Option String
  | .unreadable _ _ => none
  | .invalidRule _ _ _ => some "ignore files use .gitignore syntax"

/-- Where in the file an error is. -/
def line? : IgnoreError → Option Nat
  | .unreadable _ _ => none
  | .invalidRule _ line _ => some line

/-- The text of an error. -/
def message : IgnoreError → String
  | .unreadable path fault => "failed to read ignore file " ++ path ++ ": " ++ fault.message
  | .invalidRule path line reason =>
    "invalid rule in ignore file " ++ path ++ ": line " ++ toString line ++ ": " ++ reason.message

end IgnoreError

/-- A filter: the directory of an ignore file and the rules in it, or nothing at all. -/
structure IgnoreFilter where
  rules? : Option (Location × List Rule)

namespace IgnoreFilter

/-- The filter that skips nothing. -/
def none : IgnoreFilter := ⟨Option.none⟩

/-- The filter of an ignore file. -/
def load (t : Tree) (path : Path) : Except IgnoreError IgnoreFilter :=
  match t.readText path, t.resolve path with
  | .error fault, _ | _, .error fault => .error (.unreadable path fault)
  | .ok text, .ok place =>
    match readRules text.toList with
    | .error (line, reason) => .error (.invalidRule path line reason)
    | .ok rules => .ok ⟨some (place.dropLast, rules)⟩

/-- Whether a filter has no rules. -/
def isEmpty (filter : IgnoreFilter) : Bool :=
  match filter.rules? with
  | Option.none => true
  | some (_, rules) => rules.isEmpty

/-- Whether a filter skips what lies at a location. -/
def skipsPlace (filter : IgnoreFilter) (place : Location) (isDirectory : Bool) : Bool :=
  match filter.rules? with
  | Option.none => false
  | some (above, rules) =>
    above.isPrefixOf place && place.length != above.length
      && leavesOut rules (place.drop above.length) isDirectory

/-- Whether a filter skips what a path leads to. -/
def skips (filter : IgnoreFilter) (t : Tree) (path : Path) (isDirectory : Bool) : Bool :=
  match t.resolve path with
  | .ok place => filter.skipsPlace place isDirectory
  | .error _ => false

end IgnoreFilter

end NameLint.Ignore

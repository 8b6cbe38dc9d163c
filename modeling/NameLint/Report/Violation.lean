import NameLint.Declaration.Context
import NameLint.FileTree.Path
import NameLint.Source.Token

/-!
# Violations

A name that does not fit the pattern of its context, and the texts that tell of it.
-/

namespace NameLint.Report

open NameLint.Declaration NameLint.FileTree NameLint.Source

/-- A misspelled name: where it is, its context, the name of the pattern it does not fit, and a name
that would. -/
structure Violation where
  file : Path
  place : Position
  identifier : String
  context : Context
  expected : String
  suggestion : Option String
  deriving DecidableEq, Repr

/-- A file that could not be checked. -/
structure Failure where
  path : Path
  reason : String
  deriving DecidableEq, Repr

namespace Violation

/-- The place of a violation: file, line and column. -/
def locationText (v : Violation) : String :=
  v.file ++ ":" ++ toString v.place.line ++ ":" ++ toString v.place.column

/-- What is wrong. -/
def message (v : Violation) : String :=
  v.context.key ++ " '" ++ v.identifier ++ "' does not match " ++ v.expected

/-- The violation on one line. -/
def compact (v : Violation) : String :=
  v.locationText ++ ": " ++ v.context.key ++ " '" ++ v.identifier ++ "' should be " ++ v.expected

/-- The violation on several lines, with the suggestion if there is one. -/
def text (v : Violation) : String :=
  let help := match v.suggestion with
    | some name => "  = help: rename to '" ++ name ++ "'\n"
    | none => ""
  "naming violation at " ++ v.locationText ++ "\n  error: " ++ v.message ++ "\n" ++ help

/-- Whether a violation comes before another: by the components of the file's path, the line, the column
and the name. -/
def isBefore (v w : Violation) : Bool :=
  v.file.isBefore w.file
    || (v.file.isSame w.file
      && (v.place.line < w.place.line
        || (v.place.line == w.place.line
          && (v.place.column < w.place.column
            || (v.place.column == w.place.column && v.identifier < w.identifier)))))

end Violation

namespace Failure

/-- The failure on one line. -/
def text (f : Failure) : String := f.path ++ ": skipped: " ++ f.reason

/-- Whether a failure comes before another, by the components of the paths. -/
def isBefore (f g : Failure) : Bool := f.path.isBefore g.path

end Failure

end NameLint.Report

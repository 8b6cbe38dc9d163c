/-!
# Faults of reading

The ways in which a file or directory cannot be reached or read, with their numbers and words.
-/

namespace NameLint.FileTree

/-- Why something on a path cannot be read. -/
inductive Fault where
  | notFound
  | notDirectory
  | isDirectory
  /-- Links lead to links without end. -/
  | tooManyLinks
  | nameTooLong
  /-- The path holds a zero character. -/
  | zeroCharacter
  /-- The content is no UTF-8. -/
  | notText
  deriving DecidableEq, Repr

/-- The text of a fault. -/
def Fault.message : Fault → String
  | .notFound => "No such file or directory (os error 2)"
  | .notDirectory => "Not a directory (os error 20)"
  | .isDirectory => "Is a directory (os error 21)"
  | .tooManyLinks => "Too many levels of symbolic links (os error 40)"
  | .nameTooLong => "File name too long (os error 36)"
  | .zeroCharacter => "file name contained an unexpected NUL byte"
  | .notText => "stream did not contain valid UTF-8"

end NameLint.FileTree

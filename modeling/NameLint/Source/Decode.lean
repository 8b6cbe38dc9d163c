import NameLint.Declaration.Scope
import NameLint.Text.Utf8

/-!
# Source files as text

The content of a source file is UTF-8, and one byte-order mark at its start does not belong to it.
-/

namespace NameLint.Source

open NameLint.Declaration NameLint.Text

/-- The text of a source file's content. -/
def decode (bytes : List UInt8) : Except ExtractError String :=
  match decodeUtf8 bytes with
  | .ok text => .ok (dropByteOrderMark text)
  | .error offset => .error (.notUtf8 offset)

end NameLint.Source

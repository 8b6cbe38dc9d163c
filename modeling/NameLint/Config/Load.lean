import NameLint.Config.Basic
import NameLint.FileTree.Resolve

/-!
# Loading a configuration

A configuration file is read as text; the extension of its path tells the format.
-/

namespace NameLint.Config

open NameLint.FileTree

/-- The configuration in a file. -/
def Configuration.load (t : Tree) (path : Path) : Except ConfigError Configuration :=
  match t.readText path with
  | .error fault => .error (.unreadable path fault)
  | .ok text => Configuration.parse (.ofPath path) text

end NameLint.Config

import NameLint.FileTree.Fault
import NameLint.FileTree.Path

/-!
# Errors of configurations

Why a configuration cannot be used, with the code, the text and the help line of each.
-/

namespace NameLint.Config

open NameLint.FileTree

/-- Why a configuration is refused. -/
inductive ConfigError where
  /-- The file cannot be read. -/
  | unreadable (path : Path) (fault : Fault)
  /-- The text is no flat list of keys with values. -/
  | malformed
  /-- A key names no context. -/
  | unknownContext (key : String)
  /-- A key names the context that the entry at position `first` named. -/
  | duplicateContext (key : String) (first second : Nat)
  /-- A value is neither a style's name nor an expression. -/
  | invalidPattern (key pattern : String)
  deriving DecidableEq, Repr

namespace ConfigError

/-- The code of an error. -/
def code : ConfigError → String
  | .unreadable _ _ => "ccase::config::io"
  | .malformed => "ccase::config::parse"
  | .unknownContext _ => "ccase::config::unknown_context"
  | .duplicateContext _ _ _ => "ccase::config::duplicate_context"
  | .invalidPattern _ _ => "ccase::config::invalid_pattern"

/-- The help line of an error. -/
def help? : ConfigError → Option String
  | .unknownContext _ =>
    some "recognized keys: classDef, structDef, enumDef, globalFunc, globalVar, publicFunc, publicVar, protectedFunc, protectedVar, privateFunc, privateVar"
  | .duplicateContext _ _ _ => some "each context may be bound at most once"
  | _ => none

/-- The text of an error. -/
def message : ConfigError → String
  | .unreadable path fault => "failed to read config file " ++ path ++ ": " ++ fault.message
  | .malformed => "failed to parse config"
  | .unknownContext key => "unknown context \x60" ++ key ++ "\x60"
  | .duplicateContext key first second =>
    "duplicate context \x60" ++ key ++ "\x60 (entries " ++ toString first ++ " and "
      ++ toString second ++ ")"
  | .invalidPattern key pattern =>
    "invalid pattern \x60" ++ pattern ++ "\x60 for \x60" ++ key ++ "\x60"

end ConfigError

end NameLint.Config

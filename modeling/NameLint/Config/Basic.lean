import NameLint.Config.Document
import NameLint.Config.Error
import NameLint.Declaration.Context
import NameLint.Naming.Pattern

/-!
# Configurations

A configuration binds contexts to patterns. It is built from the entries of a document in order, and the
first entry that cannot be bound decides why the whole is refused.
-/

namespace NameLint.Config

open NameLint.Declaration NameLint.FileTree NameLint.Naming

/-- A context with its pattern, and the position of the entry that binds it. -/
structure Binding where
  context : Context
  pattern : Pattern
  position : Nat

/-- The bindings, in the order of the document. -/
structure Configuration where
  bindings : List Binding

namespace Configuration

/-- The configuration that binds nothing. -/
def empty : Configuration := ⟨[]⟩

/-- The binding of a context. -/
def find? (config : Configuration) (context : Context) : Option Binding :=
  config.bindings.find? (·.context == context)

/-- The pattern of a context. -/
def pattern? (config : Configuration) (context : Context) : Option Pattern :=
  (config.find? context).map (·.pattern)

/-- Adds an entry: its key has to name a context, no entry before may name it too, and its value has to
be a pattern, in this order. -/
def bind (config : Configuration) (entry : Entry) : Except ConfigError Configuration :=
  match Context.ofKey? entry.key with
  | none => .error (.unknownContext entry.key)
  | some context =>
    match config.find? context with
    | some earlier => .error (.duplicateContext entry.key earlier.position entry.position)
    | none =>
      match Pattern.ofText? entry.value with
      | none => .error (.invalidPattern entry.key entry.value)
      | some pattern => .ok ⟨config.bindings ++ [⟨context, pattern, entry.position⟩]⟩

/-- Adds several entries. -/
def bindAll (config : Configuration) : List Entry → Except ConfigError Configuration
  | [] => .ok config
  | entry :: rest =>
    match config.bind entry with
    | .error e => .error e
    | .ok config => config.bindAll rest

/-- The configuration that some entries make up. -/
def build (entries : List Entry) : Except ConfigError Configuration :=
  empty.bindAll entries

/-- The configuration that a document holds. -/
def parse (format : Format) (text : String) : Except ConfigError Configuration :=
  match readEntries? format text with
  | none => .error .malformed
  | some entries => build entries

end Configuration

/-- The format of a document: by the extension of its path. -/
def Format.ofPath (path : Path) : Format :=
  if path.extension?.any fun ending => asciiLower ending == "toml" then .toml else .yaml

/-- The path of the configuration unless another is given. -/
def defaultPath : Path := ".ccase-check"

end NameLint.Config

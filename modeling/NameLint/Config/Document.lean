import NameLint.Config.Toml
import NameLint.Config.Yaml.Document
import NameLint.Unicode.Property

/-!
# Configuration documents

A document is a list of keys with values in one of two formats. The order of the entries is kept, and in
the first format repeated keys are too.
-/

namespace NameLint.Config

open NameLint.Unicode

/-- One key with its value, and its place among the entries, counted from one. -/
structure Entry where
  key : String
  value : String
  position : Nat
  deriving DecidableEq, Repr

/-- The formats of documents. -/
inductive Format where
  | yaml | toml
  deriving DecidableEq, Repr

/-- Whether every line of a text is blank or a comment, given what the text's current line has been so
far: nothing but blanks, or a comment. -/
def isBlankFrom (inComment : Bool) : List Char → Bool
  | [] => true
  | c :: rest =>
    if c = '\n' then isBlankFrom false rest
    else if inComment then isBlankFrom true rest
    else if c = '#' then isBlankFrom true rest
    else isBlank c && isBlankFrom false rest

/-- Whether a text holds nothing but blank lines and comments. -/
def isBlankText (text : List Char) : Bool := isBlankFrom false text

/-- The pairs that a text holds in a format. -/
def Format.read? (format : Format) (text : List Char) : Option (List (List Char × List Char)) :=
  match format with
  | .yaml => Yaml.read? text
  | .toml => Toml.read? text

/-- Pairs as entries, numbered from `position` on. -/
def entriesFrom (position : Nat) : List (List Char × List Char) → List Entry
  | [] => []
  | (key, value) :: rest =>
    ⟨String.ofList key, String.ofList value, position⟩ :: entriesFrom (position + 1) rest

/-- The entries of a document; none if it cannot be read. A blank text has no entries in either format. -/
def readEntries? (format : Format) (text : String) : Option (List Entry) :=
  if isBlankText text.toList then some []
  else (format.read? text.toList).map (entriesFrom 1)

end NameLint.Config

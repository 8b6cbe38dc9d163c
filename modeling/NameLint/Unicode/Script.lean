import NameLint.Unicode.CaseMap
import NameLint.Unicode.ScriptRuns

/-!
# Scripts

The script of a character and the names by which a script is asked for.
-/

namespace NameLint.Unicode

/-- A script, by its four-letter code. -/
structure Script where
  code : String
  deriving DecidableEq, Repr

/-- The names of each script, its code first. -/
def scriptNames : List (List String) :=
  (tableWords scriptNamesText).map fun word => (splitAtMark '=' word).map String.ofList

/-- The table of scripts. -/
def scriptRuns : RunMap Script :=
  RunMap.ofText (fun code => some ⟨code⟩) scriptRunsText

/-- The script of a character. -/
def script (c : Char) : Script :=
  (scriptRuns.get? c.toNat).getD ⟨"Zzzz"⟩

/-- The characters on which a script and its extension disagree. -/
def extensionExceptions (s : Script) : PointSet :=
  (PointSet.ofNamedText? scriptExtensionsText s.code).getD ⟨#[]⟩

end NameLint.Unicode

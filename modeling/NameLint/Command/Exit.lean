/-!
# Exit codes

How a run can end. Every end has a code of its own.
-/

namespace NameLint.Command

/-- How a run ends. -/
inductive Exit where
  /-- Nothing to complain of, or help or the version was shown. -/
  | success
  | violations
  | noInput
  | scanPathMissing
  | configMissing
  | configNotFile
  | ignoreMissing
  | ignoreNotFile
  | repeatedConfig
  | repeatedIgnore
  | unknownOption
  | extraArguments
  | invalidConfig
  | invalidIgnore
  | invalidValue
  /-- The scan was broken off. -/
  | broken
  deriving DecidableEq, Repr

namespace Exit

/-- The code of an end. -/
def code : Exit → Nat
  | .success => 0
  | .violations => 1
  | .noInput => 2
  | .scanPathMissing => 3
  | .configMissing => 4
  | .configNotFile => 5
  | .ignoreMissing => 6
  | .ignoreNotFile => 7
  | .repeatedConfig => 8
  | .repeatedIgnore => 9
  | .unknownOption => 10
  | .extraArguments => 11
  | .invalidConfig => 12
  | .invalidIgnore => 13
  | .invalidValue => 14
  | .broken => 15

theorem code_injective {a b : Exit} (h : a.code = b.code) : a = b := by
  cases a <;> cases b <;> first | rfl | (simp [code] at h)

end Exit

/-- Why a command line asks for no scan. -/
inductive Stop where
  | helpShown
  | versionShown
  | unknownArgument
  /-- Arguments that exclude each other, or one that may be given once given again. -/
  | argumentConflict
  /-- A value that is missing, superfluous or malformed. -/
  | invalidValue
  deriving DecidableEq, Repr

/-- How a run without a scan ends. -/
def Stop.exit : Stop → Exit
  | .helpShown | .versionShown => .success
  | .unknownArgument => .unknownOption
  | .argumentConflict => .extraArguments
  | .invalidValue => .invalidValue

end NameLint.Command

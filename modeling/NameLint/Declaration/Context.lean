/-!
# Contexts of declarations

The eleven roles a declared name can have, the keys that configuration documents give them, and the
access levels of members.
-/

namespace NameLint.Declaration

/-- The access level of a member of a class, struct or union: its three keywords. -/
inductive Access where
  | isPublic | isProtected | isPrivate
  deriving DecidableEq, Repr

/-- The level that an access keyword sets. -/
def Access.ofKeyword? : String → Option Access
  | "public" => some .isPublic
  | "protected" => some .isProtected
  | "private" => some .isPrivate
  | _ => none

/-- Whether a declared name is called or holds a value. -/
inductive Entity where
  | function | variable
  deriving DecidableEq, Repr

/-- The role of a declared name. -/
inductive Context where
  | classType | structType | enumType
  /-- A function or variable at file or namespace scope. -/
  | global (entity : Entity)
  /-- A function or variable in the body of a class, struct or union. -/
  | member (access : Access) (entity : Entity)
  deriving DecidableEq, Repr

namespace Context

/-- All contexts, in the order of the configuration keys. -/
def all : List Context :=
  [.classType, .structType, .enumType, .global .function, .global .variable,
   .member .isPublic .function, .member .isPublic .variable,
   .member .isProtected .function, .member .isProtected .variable,
   .member .isPrivate .function, .member .isPrivate .variable]

theorem mem_all (c : Context) : c ∈ all := by
  rcases c with _ | _ | _ | e | ⟨a, e⟩
  · decide
  · decide
  · decide
  · cases e <;> decide
  · cases a <;> cases e <;> decide

/-- The configuration key of a context. -/
def key : Context → String
  | .classType => "classDef"
  | .structType => "structDef"
  | .enumType => "enumDef"
  | .global .function => "globalFunc"
  | .global .variable => "globalVar"
  | .member .isPublic .function => "publicFunc"
  | .member .isPublic .variable => "publicVar"
  | .member .isProtected .function => "protectedFunc"
  | .member .isProtected .variable => "protectedVar"
  | .member .isPrivate .function => "privateFunc"
  | .member .isPrivate .variable => "privateVar"

/-- The context with exactly this key. -/
def ofKey? (key : String) : Option Context :=
  all.find? (·.key == key)

@[simp] theorem ofKey?_key (c : Context) : ofKey? c.key = some c := by
  rcases c with _ | _ | _ | e | ⟨a, e⟩
  · decide
  · decide
  · decide
  · cases e <;> decide
  · cases a <;> cases e <;> decide

end Context

end NameLint.Declaration

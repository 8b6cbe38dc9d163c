/-!
# Case styles

The seven built-in spelling conventions, the names configuration documents give them, and the
test whether a name is spelled in one.
-/

namespace NameLint.Naming

/-- A built-in spelling convention. -/
inductive Style where
  /-- `fooBar` -/
  | camel
  /-- `FooBar` -/
  | pascal
  /-- `foo_bar` -/
  | snake
  /-- `FOO_BAR` -/
  | screamingSnake
  /-- `foo-bar` -/
  | kebab
  /-- `Foo-Bar` -/
  | train
  /-- `foobar` -/
  | flat
  deriving DecidableEq, Repr

namespace Style

/-- All styles. -/
def all : List Style := [.camel, .pascal, .snake, .screamingSnake, .kebab, .train, .flat]

theorem mem_all (s : Style) : s ∈ all := by
  cases s <;> decide

/-- The name of a style in documents and reports. -/
def name : Style → String
  | .camel => "CamelCase"
  | .pascal => "PascalCase"
  | .snake => "SnakeCase"
  | .screamingSnake => "ScreamingSnakeCase"
  | .kebab => "KebabCase"
  | .train => "TrainCase"
  | .flat => "FlatCase"

/-- The style with exactly this name. -/
def ofName? (name : String) : Option Style :=
  all.find? (·.name == name)

@[simp] theorem ofName?_name (s : Style) : ofName? s.name = some s := by
  cases s <;> decide

/-- ASCII lower-case letters and digits. -/
def isLowerOrDigit (c : Char) : Bool := c.isLower || c.isDigit

/-- ASCII upper-case letters and digits. -/
def isUpperOrDigit (c : Char) : Bool := c.isUpper || c.isDigit

/-- Train case after its first letter: a hyphen stands only before an upper-case letter, and all else
is lower case or a digit. -/
def acceptsTrainTail : List Char → Bool
  | [] => true
  | '-' :: c :: rest => c.isUpper && acceptsTrainTail rest
  | c :: rest => isLowerOrDigit c && acceptsTrainTail rest

/-- What may follow the first letter of a name in a style that fixes the case of that letter, and what
makes up the whole name in flat case. -/
def acceptsTail : Style → List Char → Bool
  | .camel, rest | .pascal, rest => rest.all Char.isAlphanum
  | .snake, rest => rest.all fun c => c == '_' || isLowerOrDigit c
  | .screamingSnake, rest => rest.all fun c => c == '_' || isUpperOrDigit c
  | .kebab, rest => rest.all fun c => c == '-' || isLowerOrDigit c
  | .train, rest => acceptsTrainTail rest
  | .flat, rest => rest.all isLowerOrDigit

/-- The test of a name's first letter, in the styles that have one. -/
def leading? : Style → Option (Char → Bool)
  | .camel | .snake | .kebab => some Char.isLower
  | .pascal | .screamingSnake | .train => some Char.isUpper
  | .flat => none

/-- Whether the characters as a whole are spelled in the style. -/
def accepts (style : Style) (name : List Char) : Bool :=
  match style.leading? with
  | none => style.acceptsTail name
  | some leads =>
    match name with
    | [] => false
    | c :: rest => leads c && style.acceptsTail rest

/-- Whether a name as a whole is spelled in the style. -/
def fits (style : Style) (name : String) : Bool :=
  style.accepts name.toList

end Style

end NameLint.Naming

import NameLint.Naming.Respelling
import NameLint.Regex.Parse

/-!
# Patterns

A pattern is a built-in style or an expression given by its text, which is anchored at both ends. A
built-in style's name stands for the style, and any other text is read as an expression.
-/

namespace NameLint.Naming

open NameLint.Regex

/-- What a name is measured against. -/
inductive Pattern where
  /-- A built-in style. -/
  | builtin (style : Style)
  /-- An expression, with the text that spells it. -/
  | custom (source : String) (expr : Expr)

namespace Pattern

/-- The text of an expression, anchored at both ends. -/
def anchored (source : List Char) : List Char :=
  "^(?:".toList ++ source ++ ")$".toList

/-- The pattern that a text spells as an expression; none if the text is refused. -/
def custom? (source : String) : Option Pattern :=
  (Expr.parse? (anchored source.toList)).map (.custom source)

/-- The pattern that a text stands for. -/
def ofText? (text : String) : Option Pattern :=
  match Style.ofName? text with
  | some style => some (.builtin style)
  | none => custom? text

/-- Whether a name fits the pattern. -/
def fits (pattern : Pattern) (name : String) : Bool :=
  match pattern with
  | .builtin style => style.fits name
  | .custom _ expr => expr.found name.toList

/-- The style's name, or the text of the expression. -/
def name : Pattern → String
  | .builtin style => style.name
  | .custom source _ => source

/-- The style, if the pattern is one. -/
def style? : Pattern → Option Style
  | .builtin style => some style
  | .custom _ _ => none

/-- A respelling of a name; only styles have one to offer. -/
def suggest (pattern : Pattern) (name : String) : Option String :=
  pattern.style?.bind (·.convert name)

end Pattern

end NameLint.Naming

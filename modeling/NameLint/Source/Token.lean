/-!
# Tokens

Words, literals and punctuation marks of a source text with their places, and the placeholders that
stand for a brace group inside a statement.
-/

namespace NameLint.Source

/-- A place in a text: line and column count from one, and the column counts characters. -/
structure Position where
  line : Nat
  column : Nat
  deriving DecidableEq, Repr, Inhabited

namespace Position

/-- The place of a text's first character. -/
def start : Position := ⟨1, 1⟩

/-- The place after a character. -/
def advance (p : Position) (c : Char) : Position :=
  if c = '\n' then ⟨p.line + 1, 1⟩ else ⟨p.line, p.column + 1⟩

/-- The place after some characters. -/
def after (p : Position) (cs : List Char) : Position :=
  cs.foldl advance p

@[simp] theorem after_nil (p : Position) : p.after [] = p := rfl

@[simp] theorem after_cons (p : Position) (c : Char) (cs : List Char) :
    p.after (c :: cs) = (p.advance c).after cs := rfl

theorem after_append (p : Position) (cs ds : List Char) :
    p.after (cs ++ ds) = (p.after cs).after ds := List.foldl_append

end Position

/-- What a token is. -/
inductive TokenKind where
  /-- An identifier or keyword. -/
  | word
  /-- A number, or a string or character literal. -/
  | literal
  /-- A punctuation mark: one character, or `::` or `->`. -/
  | mark
  /-- Stands for a brace group that initializes something. -/
  | group
  /-- Stands for the closed body of a class, struct, union or enum. -/
  | body
  deriving DecidableEq, Repr

/-- A token with its exact text and the place of its first character. -/
structure Token where
  kind : TokenKind
  text : String
  place : Position
  deriving DecidableEq, Repr

end NameLint.Source

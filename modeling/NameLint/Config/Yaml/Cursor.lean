/-!
# Places in a YAML stream

The characters that end lines, and a cursor that counts characters, lines and columns.
-/

namespace NameLint.Config.Yaml

/-- Characters that end a line. -/
def isBreak (c : Char) : Bool :=
  c = '\n' || c = '\r' || c.toNat = 0x85 || c.toNat = 0x2028 || c.toNat = 0x2029

/-- Spaces and tabs. -/
def isSpace (c : Char) : Bool := c = ' ' || c = '\t'

/-- Whether a space, a tab, the end of a line or the end of the stream comes next. -/
def gapComesNext : List Char → Bool
  | [] => true
  | c :: _ => isSpace c || isBreak c

/-- Characters that a stream may hold. -/
def isAllowed (c : Char) : Bool :=
  let n := c.toNat
  n = 0x9 || n = 0xa || n = 0xd || (0x20 ≤ n && n ≤ 0x7e) || n = 0x85 || (0xa0 ≤ n && n ≤ 0xd7ff)
    || (0xe000 ≤ n && n ≤ 0xfffd) || 0x10000 ≤ n

/-- Characters of anchors, tag handles and directive names. -/
def isNameChar (c : Char) : Bool := c.isAlphanum || c = '_' || c = '-'

/-- What is left of a stream, and how much lies before it. -/
structure Cursor where
  rest : List Char
  /-- Characters before. -/
  index : Nat := 0
  /-- Lines before. -/
  line : Nat := 0
  /-- Characters before on this line. -/
  column : Nat := 0

namespace Cursor

/-- Passes over a character that ends no line. -/
def skip (c : Cursor) : Cursor :=
  match c.rest with
  | [] => c
  | _ :: rest => ⟨rest, c.index + 1, c.line, c.column + 1⟩

/-- Passes over `n` characters that end no line. -/
def skipMany (c : Cursor) (n : Nat) : Cursor :=
  ⟨c.rest.drop n, c.index + n, c.line, c.column + n⟩

/-- Passes over the end of a line; a carriage return and a line feed are one. -/
def skipBreak (c : Cursor) : Cursor :=
  match c.rest with
  | '\r' :: '\n' :: rest => ⟨rest, c.index + 2, c.line + 1, 0⟩
  | _ :: rest => ⟨rest, c.index + 1, c.line + 1, 0⟩
  | [] => c

theorem skip_length_lt {c : Cursor} {x : Char} {rest : List Char} (h : c.rest = x :: rest) :
    c.skip.rest.length < c.rest.length := by
  simp [skip, h]

theorem skipBreak_length_lt {c : Cursor} {x : Char} {rest : List Char} (h : c.rest = x :: rest) :
    c.skipBreak.rest.length < c.rest.length := by
  unfold skipBreak
  split
  · rename_i heq
    simp only [heq, List.length_cons]
    omega
  · rename_i heq
    simp [heq]
  · simp_all

/-- What the end of a line adds to a scalar. -/
def breakText (c : Cursor) : List Char :=
  match c.rest with
  | x :: _ => if x.toNat = 0x2028 ∨ x.toNat = 0x2029 then [x] else ['\n']
  | [] => []

/-- Passes over the characters that satisfy `p`, none of which ends a line. -/
def skipWhile (c : Cursor) (p : Char → Bool) : Cursor :=
  c.skipMany (c.rest.takeWhile p).length

/-- Passes over the rest of the line, without its end. -/
def skipLine (c : Cursor) : Cursor :=
  c.skipWhile fun x => !isBreak x

/-- Whether the end of a line comes next. -/
def atBreak (c : Cursor) : Bool := c.rest.head?.any isBreak

/-- Whether the end of a line or of the stream comes next. -/
def atLineEnd (c : Cursor) : Bool := c.rest.isEmpty || c.atBreak

/-- Whether a line begins with three dashes, or three dots, and a gap after them. -/
def atMarker (c : Cursor) (mark : Char) : Bool :=
  c.column = 0 && [mark, mark, mark].isPrefixOf c.rest && gapComesNext (c.rest.drop 3)

/-- Whether a line begins with the marker of the start or the end of a document. -/
def atDocumentMarker (c : Cursor) : Bool := c.atMarker '-' || c.atMarker '.'

end Cursor

end NameLint.Config.Yaml

import NameLint.Regex.Basic

/-!
# Globs

A glob is a list of pieces and stands for a regular expression on the bytes of a path: only `**` and the
bytes a set names let it cross a slash.
-/

namespace NameLint.Ignore

open NameLint.Regex

/-- A piece of a glob. -/
inductive Piece where
  /-- The character itself. -/
  | literal (c : Char)
  /-- `?`: one byte that is no slash. -/
  | anyByte
  /-- `*`: any bytes that are no slashes. -/
  | anyBytes
  /-- `**` and a slash at the start: nothing, or any directories. -/
  | leadingDirectories
  /-- A slash and `**` at the end: anything below. -/
  | anythingBelow
  /-- `**` between slashes: a slash, or directories between two. -/
  | innerDirectories
  /-- One byte of a set, or one that is not in it when `negated`. -/
  | oneOf (negated : Bool) (ranges : List (Char × Char))
  /-- Alternatives, of which the empty ones are left out. -/
  | choice (options : List Expr)

/-- A byte as a character. -/
def byteChar (b : UInt8) : Char := Char.ofNat b.toNat

/-- The bytes of a character, as characters. -/
def bytesOf (c : Char) : List Char := (String.utf8EncodeChar c).map byteChar

/-- The bytes of a text, as characters. -/
def textBytes (text : List Char) : List Char := text.flatMap bytesOf

/-- The set of one byte that is a slash. -/
def slash : Expr := .chars (.single '/')

/-- Any one byte but a slash. -/
def noSlash : Expr := .chars (.complement (.single '/'))

/-- Any bytes. -/
def anything : Expr := .repeated (.chars (.complement .empty)) 0 none

/-- The bytes that a range of characters stands for: when its ends differ, the range from the last byte of
the one to the first byte of the other, besides their other bytes. -/
def rangeBytes (range : Char × Char) : CharSet :=
  let first := bytesOf range.1
  let last := bytesOf range.2
  if range.1 = range.2 then .unionAll (first.map .single)
  else
    .unionAll (first.dropLast.map .single ++ last.tail.map .single
      ++ [.range (first.getLastD range.1) (last.headD range.2)])

namespace Piece

/-- Whether a piece adds nothing to an expression. -/
def isBlank : Piece → Bool
  | .choice [] => true
  | _ => false

/-- The expression that a piece stands for. -/
def expr : Piece → Expr
  | .literal c => .seqAll ((bytesOf c).map fun b => .chars (.single b))
  | .anyByte => noSlash
  | .anyBytes => .repeated noSlash 0 none
  | .leadingDirectories => .alt (.repeated slash 0 (some 1)) (.seq anything slash)
  | .anythingBelow => .seq slash anything
  | .innerDirectories => .alt slash (.seq slash (.seq anything slash))
  | .oneOf negated ranges =>
    let set := CharSet.unionAll (ranges.map rangeBytes)
    .chars (if negated then .complement set else set)
  | .choice options => .altAll options

end Piece

/-- A glob. -/
structure Glob where
  pieces : List Piece

namespace Glob

/-- The expression that a glob stands for. `**` alone stands for anything. -/
def expr (glob : Glob) : Expr :=
  match glob.pieces with
  | [.leadingDirectories] => anything
  | pieces => .seqAll (pieces.map Piece.expr)

/-- Whether a glob fits a whole path. -/
def fits (glob : Glob) (path : List Char) : Bool :=
  (Expr.seqAll [.anchor .textStart, glob.expr, .anchor .textEnd]).found (textBytes path)

end Glob

end NameLint.Ignore

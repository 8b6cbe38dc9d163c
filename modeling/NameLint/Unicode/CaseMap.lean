import NameLint.Unicode.CaseMapRuns
import NameLint.Unicode.Property

/-!
# Lower and upper case

The full case maps of characters and of texts, and the classes of characters that a comparison
without regard to case takes as one.
-/

namespace NameLint.Unicode

open NameLint.Text

/-- Lower-case images of single characters. -/
def lowerMap : ShiftMap := .ofText lowerRunsText

/-- Upper-case images of single characters. -/
def upperMap : ShiftMap := .ofText upperRunsText

/-- Simple case foldings of single characters. -/
def foldingMap : ShiftMap := .ofText foldingRunsText

/-- Splits a word at a mark. -/
def splitAtMark (mark : Char) (word : List Char) : List (List Char) :=
  word.foldr
    (fun c parts =>
      if c = mark then [] :: parts
      else match parts with
        | [] => [[c]]
        | part :: rest => (c :: part) :: rest)
    [[]]

/-- The characters whose upper case is several characters. -/
def upperExpansions : List (Nat × List Char) :=
  (tableWords upperExpansionsText).filterMap fun word =>
    match splitAtMark '=' word with
    | [source, images] =>
      some (hexValue source, (splitAtMark '+' images).map fun image => Char.ofNat (hexValue image))
    | _ => none

/-- The lower case of a character, out of its context: one character, or two for the dotted capital. -/
def toLowerChars (c : Char) : List Char :=
  if isAscii c then [c.toLower]
  else if c.toNat = 0x130 then ['i', Char.ofNat 0x307]
  else match lowerMap.image? c.toNat with
    | some n => [Char.ofNat n]
    | none => [c]

/-- The upper case of a character: one to three characters. -/
def toUpperChars (c : Char) : List Char :=
  if isAscii c then [c.toUpper]
  else match upperExpansions.lookup c.toNat with
    | some images => images
    | none =>
      match upperMap.image? c.toNat with
      | some n => [Char.ofNat n]
      | none => [c]

/-- Whether the first character that does not have to be passed over is cased. -/
def reachesCased (cs : List Char) : Bool :=
  match cs.dropWhile isCaseIgnorable with
  | [] => false
  | c :: _ => isCased c

/-- Lower case of the rest of a text, given the characters before it, nearest first: a capital sigma
that ends a word becomes the final form. -/
def toLowerFrom (before : List Char) : List Char → List Char
  | [] => []
  | c :: rest =>
    let image :=
      if c = 'Σ' then
        if reachesCased before && !reachesCased rest then ['ς'] else ['σ']
      else toLowerChars c
    image ++ toLowerFrom (c :: before) rest

/-- The lower case of a text. -/
def toLowerText (cs : List Char) : List Char :=
  toLowerFrom [] cs

/-- The upper case of a text. -/
def toUpperText (cs : List Char) : List Char :=
  cs.flatMap toUpperChars

/-- The characters that differ from `c` in case only, `c` among them: those with the same simple
case folding. -/
def caseVariants (c : Char) : List Char :=
  let folded := (foldingMap.image? c.toNat).getD c.toNat
  (folded :: foldingMap.preimages folded).filterMap scalar?

end NameLint.Unicode

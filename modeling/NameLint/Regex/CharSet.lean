import NameLint.Unicode.Identifier
import NameLint.Unicode.Listed
import NameLint.Unicode.Script

/-!
# Sets of characters

Sets as expressions: ranges, properties of characters, and the Boolean operations on them. A set is
closed under case by `anyCase`, and `contains` decides membership.
-/

namespace NameLint.Regex

open NameLint.Unicode

/-- A named property of characters. -/
inductive Property where
  | categories (cs : List Category)
  | script (s : Script)
  /-- The extension of a script: the script but for the characters of `exceptions`. -/
  | scriptExtension (s : Script) (exceptions : PointSet)
  | listed (points : PointSet)
  | alphabetic | lowercase | uppercase | cased | caseIgnorable
  | blank | word | decimalDigit
  | asciiHexDigit | hexDigit | joinControl | ideographic
  | idStart | idContinue | xidStart | xidContinue
  | anything | assigned | ascii
  deriving Repr

namespace Property

/-- Whether a character has the property. -/
def holds : Property → Char → Bool
  | .categories cs, c => category c ∈ cs
  | .script s, c => Unicode.script c = s
  | .scriptExtension s exceptions, c => (Unicode.script c = s) != exceptions.contains c.toNat
  | .listed points, c => points.contains c.toNat
  | .alphabetic, c => isAlphabetic c
  | .lowercase, c => isLowercase c
  | .uppercase, c => isUppercase c
  | .cased, c => isCased c
  | .caseIgnorable, c => isCaseIgnorable c
  | .blank, c => isBlank c
  | .word, c => isWordCharacter c
  | .decimalDigit, c => isDecimalDigit c
  | .asciiHexDigit, c => (Text.hexDigit? c).isSome
  | .hexDigit, c =>
    (Text.hexDigit? c).isSome
      || (0xff00 ≤ c.toNat && (Text.hexDigit? (Char.ofNat (c.toNat - 0xfee0))).isSome)
  | .joinControl, c => c.toNat == 0x200c || c.toNat == 0x200d
  | .ideographic, c => ideographs.contains c.toNat
  | .idStart, c => isIdStart c
  | .idContinue, c => isIdContinue c
  | .xidStart, c => isXidStart c
  | .xidContinue, c => isXidContinue c
  | .anything, _ => true
  | .assigned, c => category c != .cn
  | .ascii, c => isAscii c

end Property

/-- A set of characters. -/
inductive CharSet where
  /-- No character. -/
  | empty
  /-- The characters from `first` to `last`. -/
  | range (first last : Char)
  /-- The characters with a property. -/
  | property (p : Property)
  /-- The characters that are not in the set. -/
  | complement (s : CharSet)
  | union (s t : CharSet)
  | inter (s t : CharSet)
  /-- The characters of the first set that are not in the second. -/
  | diff (s t : CharSet)
  /-- The characters that are in exactly one of the sets. -/
  | symmDiff (s t : CharSet)
  /-- The characters that differ from one in the set in case only. -/
  | anyCase (s : CharSet)
  /-- The characters that differ from one in the set in the case of an ASCII letter only. -/
  | anyAsciiCase (s : CharSet)
  deriving Repr

namespace CharSet

/-- The set of one character. -/
def single (c : Char) : CharSet := .range c c

/-- Membership. -/
def contains : CharSet → Char → Bool
  | .empty, _ => false
  | .range first last, c => first ≤ c && c ≤ last
  | .property p, c => p.holds c
  | .complement s, c => !s.contains c
  | .union s t, c => s.contains c || t.contains c
  | .inter s t, c => s.contains c && t.contains c
  | .diff s t, c => s.contains c && !t.contains c
  | .symmDiff s t, c => s.contains c != t.contains c
  | .anyCase s, c => s.contains c || (caseVariants c).any s.contains
  | .anyAsciiCase s, c => s.contains c || s.contains c.toLower || s.contains c.toUpper

/-- The union of several sets. -/
def unionAll : List CharSet → CharSet
  | [] => .empty
  | [s] => s
  | s :: rest => .union s (unionAll rest)

/-- Whether no code from `0x80` to `0xff` is in the set: what a set of bytes must satisfy to describe
text. -/
def hasNoHighByte (s : CharSet) : Bool :=
  (List.range 0x80).all fun n => !s.contains (Char.ofNat (0x80 + n))

end CharSet

end NameLint.Regex

import NameLint.Regex.Flags
import NameLint.Regex.PropertyName

/-!
# Escapes

What a backslash and the characters after it stand for: a character, a class or an anchor.
-/

namespace NameLint.Regex

open NameLint.Text NameLint.Unicode

/-- A piece of an expression that stands for itself, in or out of brackets. -/
inductive Atom where
  /-- A character. -/
  | char (c : Char)
  /-- A code from `0x80` to `0xff` where the expression ranges over bytes. -/
  | byte (code : Char)
  /-- One of a class of characters. -/
  | set (s : CharSet)
  /-- A condition on the position. -/
  | anchor (a : Anchor)

/-- Characters with a meaning of their own in expressions. -/
def isMeta (c : Char) : Bool :=
  "\\.+*?()|[]\x7b\x7d^$#&-~".toList.contains c

/-- Characters that an escape leaves as they are: the ASCII characters other than letters, digits and
the angle brackets. -/
def isEscapable (c : Char) : Bool :=
  isMeta c || (isAscii c && !c.isAlphanum && c != '<' && c != '>')

/-- The digits of an escape with a fixed number of hexadecimal digits. -/
def readFixedHex? (f : Flags) : Nat → List Char → Option (List Char × List Char)
  | 0, cs => some ([], cs)
  | n + 1, cs =>
    match f.skip cs with
    | [] => none
    | c :: rest =>
      if (hexDigit? c).isSome then
        (readFixedHex? f n rest).map fun (digits, rest) => (c :: digits, rest)
      else none

/-- Reads a character by its code, after the letter of the escape: `width` digits, or any number of them
in braces. The two-digit form stands for a byte where the expression ranges over bytes. -/
def readHex? (f : Flags) (width : Nat) (cs : List Char) : Option (Atom × List Char) :=
  match f.skip cs with
  | '{' :: rest => do
    let (digits, rest) ← f.upToBrace? rest
    let c ← scalar? (← hexNumeral? digits)
    return (.char c, rest)
  | cs => do
    let (digits, rest) ← readFixedHex? f width cs
    let c ← scalar? (← hexNumeral? digits)
    return (if width = 2 ∧ !f.unicode ∧ !isAscii c then .byte c else .char c, rest)

/-- Cuts a text at the first place where `mark` stands. -/
def cutAt? (mark : List Char) : List Char → Option (List Char × List Char)
  | [] => none
  | c :: rest =>
    if mark.isPrefixOf (c :: rest) then some ([], (c :: rest).drop mark.length)
    else (cutAt? mark rest).map fun (before, after) => (c :: before, after)

/-- The property that the text in braces asks for, and whether it asks for the others. -/
def propertyOf? (text : List Char) : Option (Property × Bool) :=
  match cutAt? ['!', '='] text with
  | some (name, value) => (Property.ofNameAndValue? name value).map (·, true)
  | none =>
    match cutAt? [':'] text <|> cutAt? ['='] text with
    | some (name, value) => (Property.ofNameAndValue? name value).map (·, false)
    | none => (Property.ofName? text).map (·, false)

/-- Reads what asks for a property: one letter, or text in braces. -/
def readPropertyName? (f : Flags) (cs : List Char) : Option ((Property × Bool) × List Char) :=
  match f.skip cs with
  | [] => none
  | '{' :: rest =>
    (f.upToBrace? rest).bind fun (text, rest) => (propertyOf? text).map fun asked => (asked, rest)
  | c :: rest =>
    if c = '\\' then none else (Property.ofName? [c]).map fun property => ((property, false), rest)

/-- Reads a class given by a property, after the letter of the escape. Properties are of characters, so
there are none where the expression ranges over bytes. -/
def readProperty? (f : Flags) (negated : Bool) (cs : List Char) : Option (Atom × List Char) := do
  let ((property, others), rest) ← readPropertyName? f cs
  if f.unicode then
    let set ← f.finishSet? (negated != others) (.property property)
    return (.set set, rest)
  else none

/-- The class of digits, blanks or word characters that a letter stands for, over bytes. -/
def asciiClassOf (letter : Char) : CharSet :=
  match letter with
  | 'd' => .range '0' '9'
  | 's' => .union (.range '\t' '\r') (.single ' ')
  | _ => .unionAll [.range '0' '9', .range 'A' 'Z', .single '_', .range 'a' 'z']

/-- The class of digits, blanks or word characters that a small letter stands for, or its complement
for the capital. -/
def letterClass? (f : Flags) (letter : Char) : Option CharSet :=
  let set : CharSet :=
    if !f.unicode then asciiClassOf letter.toLower
    else match letter.toLower with
      | 'd' => .property .decimalDigit
      | 's' => .property .blank
      | _ => .property .word
  { f with anyCase := false }.finishSet? letter.isUpper set

/-- Reads what may follow `\b`: a word in braces that chooses one side of a boundary. Braces that hold
no such word's first letter are left for a repetition. -/
def readBoundary? (f : Flags) (cs : List Char) : Option (Anchor × List Char) :=
  let plain := (Anchor.wordBoundary f.wordRule, cs)
  match cs with
  | '{' :: inner =>
    match f.skip inner with
    | [] => none
    | c :: inner =>
      if !(c.isAlpha || c == '-') then some plain
      else
        let (word, rest) := f.takeRun (fun c => c.isAlpha || c == '-') (c :: inner)
        match rest with
        | '}' :: rest =>
          match String.ofList word with
          | "start" => some (.wordStart f.wordRule, rest)
          | "end" => some (.wordEnd f.wordRule, rest)
          | "start-half" => some (.wordStartHalf f.wordRule, rest)
          | "end-half" => some (.wordEndHalf f.wordRule, rest)
          | _ => none
        | _ => none
  | _ => some plain

/-- Reads an escape, after its backslash. -/
def readEscape? (f : Flags) : List Char → Option (Atom × List Char)
  | [] => none
  | c :: rest =>
    match c with
    | 'x' => readHex? f 2 rest
    | 'u' => readHex? f 4 rest
    | 'U' => readHex? f 8 rest
    | 'p' => readProperty? f false rest
    | 'P' => readProperty? f true rest
    | 'd' | 's' | 'w' | 'D' | 'S' | 'W' => (letterClass? f c).map fun s => (.set s, rest)
    | 'a' => some (.char '\x07', rest)
    | 'f' => some (.char '\x0c', rest)
    | 't' => some (.char '\t', rest)
    | 'n' => some (.char '\n', rest)
    | 'r' => some (.char '\r', rest)
    | 'v' => some (.char '\x0b', rest)
    | 'A' => some (.anchor .textStart, rest)
    | 'z' => some (.anchor .textEnd, rest)
    | 'b' => (readBoundary? f rest).map fun (a, rest) => (.anchor a, rest)
    | 'B' => some (.anchor (.noWordBoundary f.wordRule), rest)
    | '<' => some (.anchor (.wordStart f.wordRule), rest)
    | '>' => some (.anchor (.wordEnd f.wordRule), rest)
    | _ => if isEscapable c then some (.char c, rest) else none

end NameLint.Regex

import NameLint.Config.Yaml.Scalar
import NameLint.Text.Utf8

/-!
# YAML tokens

The tokens that a flat mapping can be made of, and the reading of those that are names: anchors, tags and
directives.
-/

namespace NameLint.Config.Yaml

open NameLint.Text

/-- A token. -/
inductive Token where
  /-- A directive that gives the version. -/
  | version (major minor : Nat)
  /-- A directive that says what a tag handle stands for. -/
  | handle (name expansion : List Char)
  | documentStart
  | documentEnd
  | mappingStart
  | mappingEnd
  | flowStart
  | flowEnd
  /-- A comma between the entries of a flow mapping. -/
  | entry
  | key
  | value
  | alias (name : List Char)
  | anchor (name : List Char)
  | tag (handle suffix : List Char)
  | scalar (text : List Char) (plain : Bool)
  deriving DecidableEq, Repr

/-! ## Anchors -/

/-- Reads the name of an anchor or alias after its indicator. A gap or one of a few marks follows it. -/
def readAnchor? (c : Cursor) : Option (List Char × Cursor) :=
  let name := c.rest.takeWhile isNameChar
  let c := c.skipWhile isNameChar
  let ended := gapComesNext c.rest
    || c.rest.head?.any ['?', ':', ',', ']', '\x7d', '%', '@', '\x60'].contains
  if name.isEmpty || !ended then none else some (name, c)

/-! ## Tags -/

/-- Characters of a tag; those of a whole address are more. -/
def isUriChar (whole : Bool) (c : Char) : Bool :=
  isNameChar c || ";/?:@&=+$.!~*'()".toList.contains c || (whole && [',', '[', ']'].contains c)

/-- The byte that two hexadecimal digits after a percent sign give. -/
def escapedByte? : List Char → Option UInt8
  | '%' :: a :: b :: _ => do return (16 * (← hexDigit? a) + (← hexDigit? b)).toUInt8
  | _ => none

/-- The number of bytes of a character that begins with this byte. -/
def utf8Width? (b : UInt8) : Option Nat :=
  if b < 0x80 then some 1
  else if b < 0xc0 then none
  else if b < 0xe0 then some 2
  else if b < 0xf0 then some 3
  else if b < 0xf8 then some 4
  else none

/-- Reads the escaped bytes of one character. -/
def readEscapedChar? (c : Cursor) : Option (Char × Cursor) := do
  let first ← escapedByte? c.rest
  let width ← utf8Width? first
  let bytes ← (List.range width).mapM fun i => escapedByte? (c.rest.drop (3 * i))
  if bytes.tail.all fun b => 0x80 ≤ b && b < 0xc0 then
    return (((decodeChar? bytes).map (·.1)).getD '\ufffd', c.skipMany (3 * width))
  else none

/-- Reads on in the text of a tag, with its text so far, last character first. -/
def readUriFrom? (whole : Bool) (text : List Char) (c : Cursor) : Option (List Char × Cursor) :=
  let goOn (text : List Char) (c' : Cursor) : Option (List Char × Cursor) :=
    if c'.rest.length < c.rest.length then readUriFrom? whole text c' else none
  match c.rest with
  | [] => some (text.reverse, c)
  | x :: _ =>
    if x = '%' then (readEscapedChar? c).bind fun (y, c') => goOn (y :: text) c'
    else if isUriChar whole x then goOn (x :: text) c.skip
    else some (text.reverse, c)
termination_by c.rest.length

/-- Reads the text of a tag after `head`, whose first character does not belong to it. With no head there
has to be some text. -/
def readUri? (whole : Bool) (head : List Char) (c : Cursor) : Option (List Char × Cursor) := do
  let (text, c) ← readUriFrom? whole [] c
  if head.isEmpty && text.isEmpty then none else return (head.drop 1 ++ text, c)

/-- Reads what may be a tag handle: an exclamation mark, a name, and another mark if there is one. -/
def readHandle (c : Cursor) : List Char × Cursor :=
  let name := '!' :: (c.rest.drop 1).takeWhile isNameChar
  let c := c.skipMany name.length
  if c.rest.head? = some '!' then (name ++ ['!'], c.skip) else (name, c)

/-- Reads a tag, from its exclamation mark on: its handle and the text after it. -/
def readTag? (flow : Bool) (c : Cursor) : Option (Token × Cursor) := do
  let (tag, c) ←
    if (c.rest.drop 1).head? = some '<' then do
      let (suffix, c) ← readUri? true [] (c.skipMany 2)
      if c.rest.head? = some '>' then some (Token.tag [] suffix, c.skip) else none
    else
      let (handle, c) := readHandle c
      if 2 ≤ handle.length ∧ handle.getLast? = some '!' then
        (readUri? false [] c).map fun (suffix, c) => (Token.tag handle suffix, c)
      else
        (readUri? false handle c).map fun (suffix, c) =>
          (if suffix.isEmpty then Token.tag [] ['!'] else Token.tag ['!'] suffix, c)
  if gapComesNext c.rest || (flow && c.rest.head? = some ',') then return (tag, c) else none

/-! ## Directives -/

/-- Reads a number of at most nine digits. -/
def readNumber? (c : Cursor) : Option (Nat × Cursor) :=
  let digits := c.rest.takeWhile Char.isDigit
  if digits.isEmpty || 9 < digits.length then none
  else some (digits.foldl (fun n d => 10 * n + (d.toNat - '0'.toNat)) 0, c.skipMany digits.length)

/-- Reads the version after the name of its directive. -/
def readVersion? (c : Cursor) : Option (Token × Cursor) := do
  let (major, c) ← readNumber? (c.skipWhile isSpace)
  if c.rest.head? = some '.' then
    let (minor, c) ← readNumber? c.skip
    return (.version major minor, c)
  else none

/-- Reads a handle and its expansion after the name of the directive. -/
def readExpansion? (c : Cursor) : Option (Token × Cursor) := do
  let c := c.skipWhile isSpace
  if c.rest.head? = some '!' then
    let (handle, c) := readHandle c
    if (handle = ['!'] || handle.getLast? = some '!') && c.rest.head?.any isSpace then
      let (expansion, c) ← readUri? true [] (c.skipWhile isSpace)
      if gapComesNext c.rest then return (.handle handle expansion, c) else none
    else none
  else none

/-- Reads a directive, from its percent sign to the end of its line. -/
def readDirective? (c : Cursor) : Option (Token × Cursor) := do
  let name := (c.rest.drop 1).takeWhile isNameChar
  let c := c.skipMany (1 + name.length)
  if !gapComesNext c.rest then none
  let (token, c) ←
    match String.ofList name with
    | "YAML" => readVersion? c
    | "TAG" => readExpansion? c
    | _ => none
  let c := c.skipWhile isSpace
  let c := if c.rest.head? = some '#' then c.skipLine else c
  if c.atLineEnd then return (token, c.skipBreak) else none

end NameLint.Config.Yaml

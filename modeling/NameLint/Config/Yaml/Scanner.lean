import NameLint.Config.Yaml.Token

/-!
# From a stream to tokens

Tokens are read one after the other. That something is a key shows only at the colon after it, so a
possible key is remembered and its token is put in later. Of nested collections it is enough to know that
there is one: a stream with any is refused here.
-/

namespace NameLint.Config.Yaml

/-- A place where a key may have begun. -/
structure PossibleKey where
  /-- How many tokens lie before it. -/
  position : Nat
  /-- Whether only a key can stand there. -/
  required : Bool
  start : Cursor

/-- How far a stream has been read. -/
structure Scan where
  cursor : Cursor
  /-- The indentation of the block mapping that is open. -/
  indent : Option Nat := none
  /-- Whether a flow mapping is open. -/
  flow : Bool := false
  /-- Whether a key may begin here. -/
  keyAllowed : Bool := true
  possibleKey : Option PossibleKey := none
  /-- The tokens so far, last first. -/
  tokens : List Token := []

/-- Passes over spaces, comments and line ends before a token, tabs only where no key may begin. Outside a
flow mapping a key may begin on each new line. -/
def toNextToken (flow keyAllowed : Bool) (c : Cursor) : Bool × Cursor :=
  let c₁ := if c.index = 0 ∧ c.rest.head? = some '\ufeff' then c.skip else c
  let c₂ := c₁.skipWhile fun x => x = ' ' || ((flow || !keyAllowed) && x = '\t')
  let c₃ := if c₂.rest.head? = some '#' then c₂.skipLine else c₂
  if c₃.atBreak then
    let next := c₃.skipBreak
    if next.rest.length < c.rest.length then toNextToken flow (keyAllowed || !flow) next
    else (keyAllowed, next)
  else (keyAllowed, c₃)
termination_by c.rest.length

namespace Scan

/-- Adds a token. -/
def emit (s : Scan) (t : Token) : Scan := { s with tokens := t :: s.tokens }

/-- Puts tokens in before those that follow a position. -/
def insertAt (s : Scan) (position : Nat) (ts : List Token) : Scan :=
  let later := s.tokens.length - position
  { s with tokens := s.tokens.take later ++ ts.reverse ++ s.tokens.drop later }

/-- Forgets the possible key, unless only a key could stand there. -/
def dropKey? (s : Scan) : Option Scan :=
  if s.possibleKey.any (·.required) then none else some { s with possibleKey := none }

/-- Forgets a possible key that is too long: it has to lie on one line and within 1024 characters. -/
def dropStaleKey? (s : Scan) : Option Scan :=
  match s.possibleKey with
  | none => some s
  | some key =>
    if key.start.line < s.cursor.line || key.start.index + 1024 < s.cursor.index then s.dropKey?
    else some s

/-- Remembers that a key may begin here. -/
def saveKey? (s : Scan) : Option Scan :=
  if s.keyAllowed then
    let required := !s.flow && s.indent = some s.cursor.column
    s.dropKey?.map fun t =>
      { t with possibleKey := some ⟨s.tokens.length, required, s.cursor⟩ }
  else some s

/-- Closes the block mapping if it is indented deeper than a column. -/
def closeTo (s : Scan) (column : Nat) : Scan :=
  match s.indent with
  | some indent =>
    if !s.flow && column < indent then { s.emit .mappingEnd with indent := none } else s
  | none => s

/-- Closes the block mapping. -/
def closeAll (s : Scan) : Scan :=
  if s.indent.isSome && !s.flow then { s.emit .mappingEnd with indent := none } else s

/-- Opens a block mapping at a column if none is open there, before the tokens that follow a position. A
second one would be nested. -/
def openMapping? (s : Scan) (column position : Nat) : Option Scan :=
  if s.flow then some s
  else match s.indent with
    | none => some { s.insertAt position [.mappingStart] with indent := some column }
    | some indent => if indent < column then none else some s

/-- Ends a document or begins one: no key may begin on that line. -/
def marker? (s : Scan) (t : Token) : Option Scan := do
  let s ← s.closeAll.dropKey?
  return { s.emit t with cursor := s.cursor.skipMany 3, keyAllowed := false }

/-- Reads a directive. -/
def directive? (s : Scan) : Option Scan := do
  let s ← s.closeAll.dropKey?
  let (t, cursor) ← readDirective? s.cursor
  return { s.emit t with cursor := cursor, keyAllowed := false }

/-- Reads the mark before a key that is given explicitly. -/
def key? (s : Scan) : Option Scan := do
  if !s.flow && !s.keyAllowed then none
  let s ← s.openMapping? s.cursor.column s.tokens.length
  let s ← s.dropKey?
  return { s.emit .key with cursor := s.cursor.skip, keyAllowed := !s.flow }

/-- Reads the colon before a value. -/
def value? (s : Scan) : Option Scan := do
  match s.possibleKey with
  | some key =>
    let s := s.insertAt key.position [.key]
    let s ← s.openMapping? key.start.column key.position
    return { s.emit .value with
      cursor := s.cursor.skip, keyAllowed := false, possibleKey := none }
  | none =>
    if !s.flow && !s.keyAllowed then none
    let s ← s.openMapping? s.cursor.column s.tokens.length
    return { s.emit .value with cursor := s.cursor.skip, keyAllowed := !s.flow }

/-- Opens a flow mapping. -/
def openFlow? (s : Scan) : Option Scan :=
  if s.flow then none
  else some { s.emit .flowStart with
    cursor := s.cursor.skip, flow := true, keyAllowed := true, possibleKey := none }

/-- Closes a flow mapping. -/
def closeFlow? (s : Scan) : Option Scan :=
  if s.flow then
    some { s.emit .flowEnd with
      cursor := s.cursor.skip, flow := false, keyAllowed := false, possibleKey := none }
  else none

/-- Reads the comma after an entry of a flow mapping. -/
def entry? (s : Scan) : Option Scan := do
  let s ← s.dropKey?
  return { s.emit .entry with cursor := s.cursor.skip, keyAllowed := true }

/-- Adds a token that may begin a key. -/
def keyed? (s : Scan) (read : Option (Token × Cursor)) : Option Scan := do
  let s ← s.saveKey?
  let (t, cursor) ← read
  return { s.emit t with cursor := cursor, keyAllowed := false }

/-- Reads a plain scalar. A key may begin after one that ends with a line. -/
def plain? (s : Scan) : Option Scan := do
  let s ← s.saveKey?
  let least := match s.indent with
    | none => 0
    | some indent => indent + 1
  let (text, broken, cursor) ← readPlain? s.flow least s.cursor
  return { s.emit (.scalar text true) with cursor := cursor, keyAllowed := broken }

/-- Reads a block scalar. -/
def block? (s : Scan) (folded : Bool) : Option Scan := do
  let s ← s.dropKey?
  let (text, cursor) ← readBlock? folded s.indent s.cursor
  return { s.emit (.scalar text false) with cursor := cursor, keyAllowed := true }

/-- Whether a plain scalar may begin with `x`. -/
def startsPlain (flow : Bool) (x : Char) (rest : List Char) : Bool :=
  if isSpace x then false
  else if x = '-' then !rest.head?.any isSpace
  else if x = '?' || x = ':' then !flow && !gapComesNext rest
  else !(",[]\x7b\x7d#&*!|>'\"%@".toList.contains x || x = '\x60')

/-- Reads the token that begins with `x`. Sequences are refused. -/
def token? (s : Scan) (x : Char) (rest : List Char) : Option Scan :=
  let c := s.cursor
  if c.column = 0 && x = '%' then s.directive?
  else if c.atMarker '-' then s.marker? .documentStart
  else if c.atMarker '.' then s.marker? .documentEnd
  else if x = '[' || x = ']' || (x = '-' && gapComesNext rest) then none
  else if x = '\x7b' then s.openFlow?
  else if x = '\x7d' then s.closeFlow?
  else if x = ',' then s.entry?
  else if x = '?' && (s.flow || gapComesNext rest) then s.key?
  else if x = ':' && (s.flow || gapComesNext rest) then s.value?
  else if x = '*' then
    s.keyed? ((readAnchor? c.skip).map fun (name, c) => (.alias name, c))
  else if x = '&' then
    s.keyed? ((readAnchor? c.skip).map fun (name, c) => (.anchor name, c))
  else if x = '!' then s.keyed? (readTag? s.flow c)
  else if x = '|' && !s.flow then s.block? false
  else if x = '>' && !s.flow then s.block? true
  else if x = '\'' || x = '"' then
    s.keyed? ((readQuoted? x c).map fun (text, c) => (.scalar text false, c))
  else if startsPlain s.flow x rest then s.plain?
  else none

/-- Reads the tokens from here to the end of the stream. Every token consumes something. -/
def run? (s : Scan) : Option (List Token) :=
  let (keyAllowed, cursor) := toNextToken s.flow s.keyAllowed s.cursor
  let ready := { s with keyAllowed := keyAllowed, cursor := cursor }
  match ready.dropStaleKey? with
  | none => none
  | some ready =>
    let ready := ready.closeTo ready.cursor.column
    match ready.cursor.rest with
    | [] => ready.closeAll.dropKey?.map (·.tokens.reverse)
    | x :: rest =>
      match ready.token? x rest with
      | none => none
      | some next =>
        if next.cursor.rest.length < s.cursor.rest.length then run? next else none
termination_by s.cursor.rest.length

end Scan

/-- The tokens of a stream, if it has no nested collections and no character that a stream may not
hold. -/
def tokens? (text : List Char) : Option (List Token) :=
  if text.all isAllowed then Scan.run? { cursor := { rest := text } } else none

end NameLint.Config.Yaml

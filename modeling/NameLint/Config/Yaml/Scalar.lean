import NameLint.Config.Yaml.Cursor
import NameLint.Text.Hex

/-!
# Scalars

The four ways to write a scalar: plain, quoted in two ways, and as a block of lines. Line ends inside a
scalar are folded: one becomes a space, and of several the first is dropped.
-/

namespace NameLint.Config.Yaml

open NameLint.Text

/-! ## Gaps -/

/-- The spaces and line ends between two parts of a scalar. -/
structure Gap where
  /-- The spaces, if no line ends. -/
  spaces : List Char := []
  /-- Whether a line ends. -/
  broken : Bool := false
  /-- The first line end, unless it was escaped. -/
  first : List Char := []
  /-- The other line ends. -/
  others : List Char := []

/-- What a gap adds to the scalar. -/
def Gap.text (g : Gap) : List Char :=
  if !g.broken then g.spaces
  else if g.first = ['\n'] then (if g.others.isEmpty then [' '] else g.others)
  else g.first ++ g.others

/-- A gap after another line end. -/
def Gap.addBreak (g : Gap) (ending : List Char) : Gap :=
  if g.broken then { g with others := g.others ++ ending }
  else { g with spaces := [], broken := true, first := ending }

/-- Reads a gap. Where an indentation is given, no tab may stand within it at the start of a line. -/
def readGap? (indent : Option Nat) (g : Gap) (c : Cursor) : Option (Gap × Cursor) :=
  match _h : c.rest with
  | [] => some (g, c)
  | x :: _ =>
    if isSpace x then
      if g.broken then
        if x = '\t' ∧ indent.any (c.column < ·) then none else readGap? indent g c.skip
      else readGap? indent { g with spaces := g.spaces ++ [x] } c.skip
    else if isBreak x then readGap? indent (g.addBreak c.breakText) c.skipBreak
    else some (g, c)
termination_by c.rest.length
decreasing_by
  · exact Cursor.skip_length_lt _h
  · exact Cursor.skip_length_lt _h
  · exact Cursor.skipBreak_length_lt _h

/-! ## Plain scalars -/

/-- Whether a plain scalar ends before `x`: at a colon with a gap after it, and in a flow mapping at its
punctuation. -/
def endsPlain (flow : Bool) (x : Char) (rest : List Char) : Bool :=
  (x = ':' && gapComesNext rest) || (flow && [',', '[', ']', '\x7b', '\x7d'].contains x)

/-- Whether a colon stands where a flow mapping allows none. -/
def isStrayColon (flow : Bool) (x : Char) (rest : List Char) : Bool :=
  flow && x = ':' && rest.head?.any [',', '?', '[', ']', '\x7b', '\x7d'].contains

/-- Reads on in a plain scalar, with its text so far, last character first. `fresh` tells that a gap was
just read, or nothing. Gives the text, whether it ends after a line end, and where. -/
def readPlainFrom? (flow : Bool) (indent : Nat) (fresh : Bool) (gap : Gap) (text : List Char)
    (c : Cursor) : Option (List Char × Bool × Cursor) :=
  let ended := some (text.reverse, gap.broken, c)
  if fresh && (c.atDocumentMarker || c.rest.head? = some '#') then ended
  else
    match _h : c.rest with
    | [] => ended
    | x :: rest =>
      if isSpace x || isBreak x then
        match readGap? (some indent) {} c with
        | none => none
        | some (gap, c') =>
          if !flow && c'.column < indent then some (text.reverse, gap.broken, c')
          else if c'.rest.length < c.rest.length then readPlainFrom? flow indent true gap text c'
          else none
      else if isStrayColon flow x rest then none
      else if endsPlain flow x rest then ended
      else readPlainFrom? flow indent false {} (x :: (gap.text.reverse ++ text)) c.skip
termination_by c.rest.length
decreasing_by
  · assumption
  · exact Cursor.skip_length_lt _h

/-- Reads a plain scalar whose lines have to be indented by at least `indent`. -/
def readPlain? (flow : Bool) (indent : Nat) (c : Cursor) : Option (List Char × Bool × Cursor) :=
  readPlainFrom? flow indent true {} [] c

/-! ## Quoted scalars -/

/-- The character that a one-letter escape stands for. -/
def simpleEscape? : Char → Option Char
  | '0' => some '\x00'
  | 'a' => some '\x07'
  | 'b' => some '\x08'
  | 't' | '\t' => some '\t'
  | 'n' => some '\n'
  | 'v' => some '\x0b'
  | 'f' => some '\x0c'
  | 'r' => some '\r'
  | 'e' => some '\x1b'
  | ' ' => some ' '
  | '"' => some '"'
  | '/' => some '/'
  | '\\' => some '\\'
  | 'N' => some '\u0085'
  | '_' => some '\u00a0'
  | 'L' => some '\u2028'
  | 'P' => some '\u2029'
  | _ => none

/-- The number of digits of an escape that gives a character's code. -/
def escapeWidth? : Char → Option Nat
  | 'x' => some 2
  | 'u' => some 4
  | 'U' => some 8
  | _ => none

/-- Reads an escape after its backslash. -/
def readEscape? (c : Cursor) : Option (Char × Cursor) :=
  match c.rest with
  | [] => none
  | x :: rest =>
    match simpleEscape? x with
    | some y => some (y, c.skip)
    | none =>
      match escapeWidth? x with
      | none => none
      | some width =>
        if rest.length < width then none
        else ((hexNumeral? (rest.take width)).bind scalar?).map fun y => (y, c.skipMany (1 + width))

/-- Reads on in a quoted scalar, with its text so far, last character first. -/
def readQuotedFrom? (quote : Char) (text : List Char) (c : Cursor) : Option (List Char × Cursor) :=
  let goOn (text : List Char) (c' : Cursor) : Option (List Char × Cursor) :=
    if c'.rest.length < c.rest.length then readQuotedFrom? quote text c' else none
  if c.atDocumentMarker then none
  else
    match c.rest with
    | [] => none
    | x :: rest =>
      if x = quote then
        if quote = '\'' ∧ rest.head? = some '\'' then goOn ('\'' :: text) (c.skipMany 2)
        else some (text.reverse, c.skip)
      else if x = '\\' ∧ quote = '"' then
        if rest.head?.any isBreak then
          (readGap? none { broken := true } c.skip.skipBreak).bind fun (gap, c') =>
            goOn (gap.text.reverse ++ text) c'
        else (readEscape? c.skip).bind fun (y, c') => goOn (y :: text) c'
      else if isSpace x || isBreak x then
        (readGap? none {} c).bind fun (gap, c') => goOn (gap.text.reverse ++ text) c'
      else goOn (x :: text) c.skip
termination_by c.rest.length

/-- Reads a quoted scalar, from its opening quote on. -/
def readQuoted? (quote : Char) (c : Cursor) : Option (List Char × Cursor) :=
  readQuotedFrom? quote [] c.skip

/-! ## Block scalars -/

/-- What becomes of the line ends after a block scalar's last line. -/
inductive Chomping where
  /-- None is kept. -/
  | strip
  /-- One is kept. -/
  | clip
  /-- All are kept. -/
  | keep
  deriving DecidableEq, Repr

/-- The chomping that a sign asks for. -/
def Chomping.ofSign? : Char → Option Chomping
  | '+' => some .keep
  | '-' => some .strip
  | _ => none

/-- The extra indentation that a digit asks for. -/
def indentOf? (x : Char) : Option Nat :=
  if x.isDigit then some (x.toNat - '0'.toNat) else none

/-- Reads the signs after the indicator of a block scalar: how to chomp, and how much its lines are
indented, in either order. -/
def readHeader (c : Cursor) : Chomping × Option Nat × Cursor :=
  match c.rest with
  | [] => (.clip, none, c)
  | x :: rest =>
    match Chomping.ofSign? x with
    | some chomping =>
      match rest.head?.bind indentOf? with
      | some n => (chomping, some n, c.skipMany 2)
      | none => (chomping, none, c.skip)
    | none =>
      match indentOf? x with
      | none => (.clip, none, c)
      | some n =>
        match rest.head?.bind Chomping.ofSign? with
        | some chomping => (chomping, some n, c.skipMany 2)
        | none => (.clip, some n, c.skip)

/-- Passes over the spaces of an indentation, all of them if it is not known. -/
def skipIndent (indent : Option Nat) (c : Cursor) : Cursor :=
  let spaces := (c.rest.takeWhile (· = ' ')).length
  c.skipMany (match indent with
    | none => spaces
    | some n => min spaces (n - c.column))

/-- Reads empty lines and the indentation of the line after them. Gives the line ends, the furthest
column, and where the line's text begins; no tab may stand within the indentation. -/
def readEmptyLines? (indent : Option Nat) (furthest : Nat) (endings : List Char) (c : Cursor) :
    Option (List Char × Nat × Cursor) :=
  let c' := skipIndent indent c
  let furthest := max furthest c'.column
  if indent.all (c'.column < ·) ∧ c'.rest.head? = some '\t' then none
  else if c'.atBreak then
    let next := c'.skipBreak
    if next.rest.length < c.rest.length then
      readEmptyLines? indent furthest (endings ++ c'.breakText) next
    else none
  else some (endings, furthest, c')
termination_by c.rest.length

/-- The lines of a block scalar as they are read. -/
structure BlockLines where
  /-- The text so far. -/
  text : List Char := []
  /-- The end of the last line. -/
  ending : List Char := []
  /-- The ends of the empty lines after it. -/
  empties : List Char := []
  /-- Whether the last line began with a space or tab, which keeps line ends from being folded. -/
  spaced : Bool := false

/-- The lines before another line is added: line ends are kept, or folded between two lines that begin
with no space. -/
def BlockLines.join (b : BlockLines) (folded spaced : Bool) : List Char :=
  if folded && b.ending.head? = some '\n' && !b.spaced && !spaced then
    b.text ++ (if b.empties.isEmpty then [' '] else []) ++ b.empties
  else b.text ++ b.ending ++ b.empties

/-- Reads the lines that are indented by `indent`. -/
def readLines? (folded : Bool) (indent : Nat) (b : BlockLines) (c : Cursor) :
    Option (BlockLines × Cursor) :=
  if c.column ≠ indent ∨ c.rest.isEmpty then some (b, c)
  else
    let spaced := c.rest.head?.any isSpace
    let line := c.rest.takeWhile fun x => !isBreak x
    let atEnd := c.skipLine
    match readEmptyLines? (some indent) 0 [] atEnd.skipBreak with
    | none => none
    | some (empties, _, next) =>
      let b := ⟨b.join folded spaced ++ line, atEnd.breakText, empties, spaced⟩
      if next.rest.length < c.rest.length then readLines? folded indent b next else none
termination_by c.rest.length

/-- Reads a block scalar, from its indicator on, inside lines that are indented by `parent`, or by none. -/
def readBlock? (folded : Bool) (parent : Option Nat) (c : Cursor) :
    Option (List Char × Cursor) := do
  let (chomping, explicit, c) := readHeader c.skip
  if explicit = some 0 then none
  let c := c.skipWhile isSpace
  let c := if c.rest.head? = some '#' then c.skipLine else c
  if !c.atLineEnd then none
  let given := explicit.map (parent.getD 0 + ·)
  let (empties, furthest, c) ← readEmptyLines? given 0 [] c.skipBreak
  let least := match parent with
    | none => 1
    | some n => n + 1
  let indent := given.getD (max furthest least)
  let (b, c) ← readLines? folded indent { empties := empties } c
  let text := match chomping with
    | .strip => b.text
    | .clip => b.text ++ b.ending
    | .keep => b.text ++ b.ending ++ b.empties
  return (text, c)

end NameLint.Config.Yaml

import NameLint.Regex.Escape

/-!
# Bracketed classes

Classes in brackets: characters, ranges, escapes, named ASCII classes, nested brackets, and the
operations `&&`, `--` and `~~`, which bind equally and to the left.
-/

namespace NameLint.Regex

open NameLint.Unicode

/-- An operation on two classes. -/
inductive SetOperation where
  | inter | diff | symmDiff
  deriving DecidableEq, Repr

/-- A class with the depth of its nesting. -/
structure ClassItem where
  set : CharSet
  depth : Nat

/-- What an unfinished class waits for. -/
inductive BracketFrame where
  /-- An open bracket: the items that stood before it, and whether it is negated. -/
  | bracket (before : List ClassItem) (negated : Bool)
  /-- An operation that has its left side. -/
  | operation (op : SetOperation) (left : ClassItem)

/-- The unfinished classes, innermost first, and the items of the innermost, last first. -/
structure BracketState where
  frames : List BracketFrame
  items : List ClassItem

/-- The items as one: nothing, the only item, or their union. -/
def ClassItem.unite (items : List ClassItem) : ClassItem :=
  match items with
  | [] => ⟨.empty, 0⟩
  | [item] => item
  | items => ⟨.unionAll (items.reverse.map (·.set)), 1 + (items.map (·.depth)).foldl max 0⟩

/-- Two classes under an operation; each side is closed under case first. -/
def ClassItem.operate (f : Flags) (op : SetOperation) (left right : ClassItem) : ClassItem :=
  let l := f.closeCase left.set
  let r := f.closeCase right.set
  let set := match op with
    | .inter => CharSet.inter l r
    | .diff => CharSet.diff l r
    | .symmDiff => CharSet.symmDiff l r
  ⟨set, 1 + max left.depth right.depth⟩

namespace BracketState

/-- Adds a class to the items of the innermost bracket. -/
def add (st : BracketState) (set : CharSet) (depth : Nat) : BracketState :=
  { st with items := ⟨set, depth⟩ :: st.items }

/-- The items so far, under the operation that waits for them if there is one, and the frames beneath. -/
def settle (f : Flags) (st : BracketState) : ClassItem × List BracketFrame :=
  let right := ClassItem.unite st.items
  match st.frames with
  | .operation op left :: frames => (ClassItem.operate f op left right, frames)
  | frames => (right, frames)

/-- Makes what has been read the left side of an operation. -/
def operator (f : Flags) (st : BracketState) (op : SetOperation) : BracketState :=
  let (left, frames) := st.settle f
  ⟨.operation op left :: frames, []⟩

end BracketState

/-- The named ASCII classes. -/
def asciiClasses : List (String × CharSet) :=
  let digit := CharSet.range '0' '9'
  let upper := CharSet.range 'A' 'Z'
  let lower := CharSet.range 'a' 'z'
  [("alnum", .unionAll [digit, upper, lower]), ("alpha", .union upper lower),
   ("ascii", .range '\x00' '\x7f'), ("blank", .union (.single '\t') (.single ' ')),
   ("cntrl", .union (.range '\x00' '\x1f') (.single '\x7f')), ("digit", digit),
   ("graph", .range '!' '~'), ("lower", lower), ("print", .range ' ' '~'),
   ("punct", .unionAll [.range '!' '/', .range ':' '@', .range '[' '\x60', .range '\x7b' '~']),
   ("space", .union (.range '\t' '\r') (.single ' ')), ("upper", upper),
   ("word", .unionAll [digit, upper, .single '_', lower]),
   ("xdigit", .unionAll [digit, .range 'A' 'F', .range 'a' 'f'])]

/-- Reads a named ASCII class after its opening bracket: `:name:]` or `:^name:]`. Gives the class and
whether it is negated. -/
def readAsciiClass? (cs : List Char) : Option ((CharSet × Bool) × List Char) :=
  match cs with
  | ':' :: cs =>
    let negated := cs.head? == some '^'
    let cs := if negated then cs.drop 1 else cs
    match cs.dropWhile (· != ':') with
    | ':' :: ']' :: rest =>
      (asciiClasses.lookup (String.ofList (cs.takeWhile (· != ':')))).map fun set =>
        ((set, negated), rest)
    | _ => none
  | _ => none

/-- Opens a bracket, after the bracket itself: an optional `^`, then hyphens, or else one closing bracket,
stand for themselves. -/
def openBracket? (f : Flags) (st : BracketState) (cs : List Char) :
    Option (BracketState × List Char) :=
  let cs := f.skip cs
  let negated := cs.head? == some '^'
  let cs := if negated then f.skip (cs.drop 1) else cs
  let inner : BracketState := ⟨.bracket st.items negated :: st.frames, []⟩
  let (hyphens, cs) := f.takeRun (· == '-') cs
  let inner := hyphens.foldl (fun st c => st.add (.single c) 0) inner
  match cs with
  | [] => none
  | ']' :: rest =>
    if inner.items.isEmpty then
      let rest := f.skip rest
      if rest.isEmpty then none else some (inner.add (.single ']') 0, rest)
    else some (inner, cs)
  | _ => some (inner, cs)

/-- Reads one item of a class: an escape, or a character that stands for itself. -/
def readClassAtom? (f : Flags) : List Char → Option (Atom × List Char)
  | [] => none
  | '\\' :: rest => readEscape? f rest
  | c :: rest => some (.char c, rest)

/-- The character of an end of a range. -/
def Atom.char? : Atom → Option Char
  | .char c => some c
  | .byte c => some c
  | _ => none

/-- Whether a character may stand in a class: over bytes, only ASCII and codes of bytes may. -/
def Atom.isClassChar (f : Flags) : Atom → Bool
  | .char c => f.unicode || isAscii c
  | _ => true

/-- The class that an item of a class stands for. -/
def Atom.classSet? (f : Flags) : Atom → Option CharSet
  | .set s => some s
  | .anchor _ => none
  | atom => if atom.isClassChar f then atom.char?.map .single else none

/-- The character that a hyphen looks ahead to. In verbose mode blanks and one `#` before it do not
count, unless nothing else is left. -/
def peek (f : Flags) (rest : List Char) : Option Char :=
  if !f.verbose then rest.head?
  else
    let visible := match rest.dropWhile isBlank with
      | '#' :: rest => rest.dropWhile isBlank
      | rest => rest
    visible.head? <|> rest.head?

/-- Reads an item of a class or a range. A hyphen makes a range unless a closing bracket or another
hyphen follows it. -/
def readRange? (f : Flags) (st : BracketState) (cs : List Char) :
    Option (BracketState × List Char) := do
  let (first, rest) ← readClassAtom? f cs
  match f.skip rest with
  | [] => none
  | '-' :: after =>
    if peek f after = some ']' ∨ peek f after = some '-' then
      return (st.add (← first.classSet? f) 0, '-' :: after)
    else
      let (last, rest) ← readClassAtom? f (f.skip after)
      let a ← first.char?
      let b ← last.char?
      if a ≤ b ∧ first.isClassChar f ∧ last.isClassChar f then
        return (st.add (.range a b) 0, rest)
      else none
  | rest => return (st.add (← first.classSet? f) 0, rest)

/-- What one step of reading a class leads to. -/
inductive BracketStep where
  /-- The outermost bracket is closed. -/
  | closed (item : ClassItem) (rest : List Char)
  | more (st : BracketState) (rest : List Char)

/-- Closes the innermost bracket. -/
def closeBracket? (f : Flags) (st : BracketState) (rest : List Char) : Option BracketStep := do
  let (inner, frames) := st.settle f
  match frames with
  | .bracket before negated :: frames =>
    let item : ClassItem := ⟨← f.finishSet? negated inner.set, inner.depth + 1⟩
    if frames.isEmpty then return .closed item rest
    else return .more ⟨frames, item :: before⟩ rest
  | _ => none

/-- One step of reading a class. -/
def stepBracket? (f : Flags) (st : BracketState) (cs : List Char) : Option BracketStep :=
  match f.skip cs with
  | [] => none
  | '[' :: rest =>
    match readAsciiClass? rest with
    | some ((set, negated), rest) =>
      (f.finishSet? negated set).map fun set => .more (st.add set 0) rest
    | none => (openBracket? f st rest).map fun (st, rest) => .more st rest
  | ']' :: rest => closeBracket? f st rest
  | '&' :: '&' :: rest => some (.more (st.operator f .inter) rest)
  | '-' :: '-' :: rest => some (.more (st.operator f .diff) rest)
  | '~' :: '~' :: rest => some (.more (st.operator f .symmDiff) rest)
  | cs => (readRange? f st cs).map fun (st, rest) => .more st rest

/-- Reads a class to its end. Every step consumes something. -/
def readBracketFrom? (f : Flags) (st : BracketState) (cs : List Char) :
    Option (ClassItem × List Char) :=
  match stepBracket? f st cs with
  | none => none
  | some (.closed item rest) => some (item, rest)
  | some (.more st rest) =>
    if rest.length < cs.length then readBracketFrom? f st rest else none
termination_by cs.length

/-- Reads a class after its opening bracket. -/
def readBracket? (f : Flags) (cs : List Char) : Option (ClassItem × List Char) :=
  (openBracket? f ⟨[], []⟩ cs).bind fun (st, rest) => readBracketFrom? f st rest

end NameLint.Regex

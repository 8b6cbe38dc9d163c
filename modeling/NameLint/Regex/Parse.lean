import NameLint.Regex.Bracket

/-!
# Reading regular expressions

An expression is read with a stack of open groups. `Expr.parse?` gives none for a text that is no
well-formed expression, for one that is nested or grows beyond the limits, and for one that could match
something that is not text.
-/

namespace NameLint.Regex

open NameLint.Unicode

/-- An expression that has been read, with the depth of its nesting. -/
structure Term where
  expr : Expr
  depth : Nat
  /-- Whether a repetition may follow; none may follow a change of flags. -/
  repeatable : Bool

/-- A group that is still open: what stood before it, and the flags to go back to. -/
structure GroupFrame where
  terms : List Term
  branches : List Term
  flags : Flags

/-- The state of reading: the innermost group's terms since its last `|`, last first, the branches before
it, last first, the groups around it, and the names given to groups. -/
structure ParseState where
  terms : List Term
  branches : List Term
  frames : List GroupFrame
  flags : Flags
  names : List (List Char)

/-- The deepest nesting that is read. -/
def nestLimit : Nat := 250

/-- The largest weight of an expression, in bytes of a compiled form. -/
def weightLimit : Nat := 10 * 1024 * 1024

/-- One term for several in a row, given last first. -/
def Term.sequence : List Term → Term
  | [] => ⟨.empty, 0, true⟩
  | [t] => t
  | ts => ⟨.seqAll (ts.reverse.map (·.expr)), 1 + (ts.map (·.depth)).foldl max 0, true⟩

/-- One term for several alternatives, given last first. -/
def Term.alternatives : List Term → Term
  | [] => ⟨.empty, 0, true⟩
  | [t] => t
  | ts => ⟨.altAll (ts.reverse.map (·.expr)), 1 + (ts.map (·.depth)).foldl max 0, true⟩

/-- An estimate of the size that a set takes in a compiled expression: a range within ASCII is one
transition, and a large class is a small automaton over bytes. -/
def CharSet.weight : CharSet → Nat
  | .empty => 32
  | .range _ last => if isAscii last then 32 else 32 * 4
  | .property .decimalDigit | .property .blank => 8000
  | .property _ => 48000
  | .complement s | .anyCase s | .anyAsciiCase s => 640 + s.weight
  | .union s t | .inter s t | .diff s t | .symmDiff s t => s.weight + t.weight

/-- An estimate of the size of a compiled expression, in which a counted repetition is written out. -/
def Expr.weight : Expr → Nat
  | .empty => 0
  | .chars s => s.weight
  | .anchor _ => 32
  | .seq r s => r.weight + s.weight
  | .alt r s => r.weight + s.weight + 32
  | .repeated r min max =>
    match max with
    | none => (Nat.max min 1) * r.weight + 32
    | some max => max * r.weight + (max - min) * 32

namespace ParseState

/-- The state before anything is read. -/
def initial : ParseState := ⟨[], [], [], {}, []⟩

/-- Adds a term. -/
def add (st : ParseState) (expr : Expr) (depth : Nat) : ParseState :=
  { st with terms := ⟨expr, depth, true⟩ :: st.terms }

/-- The innermost group as one term. -/
def groupTerm (st : ParseState) : Term :=
  Term.alternatives (Term.sequence st.terms :: st.branches)

/-- Begins a new branch. -/
def branch (st : ParseState) : ParseState :=
  { st with terms := [], branches := Term.sequence st.terms :: st.branches }

/-- Opens a group whose content is read under `flags`. -/
def openGroup (st : ParseState) (flags : Flags) : ParseState :=
  { st with
    terms := [], branches := [], flags := flags,
    frames := ⟨st.terms, st.branches, st.flags⟩ :: st.frames }

/-- Closes the innermost group. -/
def closeGroup? (st : ParseState) : Option ParseState :=
  match st.frames with
  | [] => none
  | frame :: frames =>
    let inner := st.groupTerm
    some { st with
      terms := ⟨inner.expr, inner.depth + 1, true⟩ :: frame.terms,
      branches := frame.branches, flags := frame.flags, frames := frames }

/-- Puts the last term under a repetition. More than one repetition of what consumes nothing is the same
as one. -/
def repeatLast? (st : ParseState) (min : Nat) (max : Option Nat) : Option ParseState :=
  match st.terms with
  | [] => none
  | last :: terms =>
    if !last.repeatable then none
    else
      let expr :=
        if last.expr.consumesNothing then
          Expr.repeated last.expr (Nat.min min 1) (some (Nat.min (max.getD 1) 1))
        else .repeated last.expr min max
      some { st with terms := ⟨expr, last.depth + 1, true⟩ :: terms }

end ParseState

/-- Whether a character may stand in the name of a group. -/
def isGroupNameChar (first : Bool) (c : Char) : Bool :=
  if first then c == '_' || isAlphabetic c
  else c == '_' || c == '.' || c == '[' || c == ']' || isAlphanumeric c

/-- Reads the name of a group up to the closing angle bracket. -/
def readGroupName? (cs : List Char) : Option (List Char × List Char) :=
  match cs.takeWhile (· != '>'), cs.dropWhile (· != '>') with
  | c :: name, _ :: rest =>
    if isGroupNameChar true c && name.all (isGroupNameChar false) then some (c :: name, rest)
    else none
  | _, _ => none

/-- Opens a named group. No name is given twice. -/
def openNamedGroup? (st : ParseState) (cs : List Char) : Option (ParseState × List Char) := do
  let (name, rest) ← readGroupName? cs
  if st.names.contains name then none
  else return ({ st.openGroup st.flags with names := name :: st.names }, rest)

/-- Reads what follows an opening parenthesis: a name or flags of the group, or flags alone, which hold
from there to the end of the group around them. There is no look-around. -/
def readGroup? (st : ParseState) (cs : List Char) : Option (ParseState × List Char) :=
  match st.flags.skip cs with
  | '?' :: '=' :: _ | '?' :: '!' :: _ | '?' :: '<' :: '=' :: _ | '?' :: '<' :: '!' :: _ => none
  | '?' :: 'P' :: '<' :: rest | '?' :: '<' :: rest => openNamedGroup? st rest
  | '?' :: rest =>
    match st.flags.read? rest with
    | none => none
    | some (flags, _, ':', rest) => some (st.openGroup flags, rest)
    | some (flags, anyFlag, _, rest) =>
      if anyFlag then
        some ({ st with flags := flags, terms := ⟨.empty, 0, false⟩ :: st.terms }, rest)
      else none
  | cs => some (st.openGroup st.flags, cs)

/-- Passes over the mark of a repetition that prefers few. -/
def dropLazyMark : List Char → List Char
  | '?' :: rest => rest
  | cs => cs

/-- Reads a number that fits into 32 bits, with blanks around it. -/
def readCount? (f : Flags) (cs : List Char) : Option (Nat × List Char) :=
  let (digits, rest) := f.takeRun Char.isDigit (cs.dropWhile isBlank)
  let n := digits.foldl (fun n c => 10 * n + (c.toNat - '0'.toNat)) 0
  if digits.isEmpty ∨ UInt32.size ≤ n then none else some (n, f.skip (rest.dropWhile isBlank))

/-- Reads the bounds of a repetition after the opening brace: `n`, `n,` or `n,m`. -/
def readBounds? (f : Flags) (cs : List Char) : Option ((Nat × Option Nat) × List Char) := do
  let (min, rest) ← readCount? f (f.skip cs)
  match rest with
  | '}' :: rest => return ((min, some min), rest)
  | ',' :: rest =>
    match f.skip rest with
    | '}' :: rest => return ((min, none), rest)
    | rest =>
      let (max, rest) ← readCount? f rest
      match rest with
      | '}' :: rest => if min ≤ max then return ((min, some max), rest) else none
      | _ => none
  | _ => none

/-- The expression for any character, where characters are what is matched. -/
def dotExpr? (f : Flags) : Option Expr :=
  if !f.unicode then none
  else if f.dotAll then some (.chars (.property .anything))
  else if f.crlf then some (.chars (.complement (.union (.single '\n') (.single '\r'))))
  else some (.chars (.complement (.single '\n')))

/-- The expression for a character. Without the flag `u` only ASCII letters have another case. -/
def charExpr (f : Flags) (c : Char) : Expr :=
  if f.unicode || isAscii c then .chars (f.closeCase (.single c)) else .chars (.single c)

/-- The start of a line or of the text. -/
def startAnchor (f : Flags) : Anchor :=
  if !f.multiLine then .textStart else if f.crlf then .lineStartCrlf else .lineStart

/-- The end of a line or of the text. -/
def endAnchor (f : Flags) : Anchor :=
  if !f.multiLine then .textEnd else if f.crlf then .lineEndCrlf else .lineEnd

/-- Adds what an escape outside brackets stands for. A byte beyond ASCII is no text. -/
def addAtom? (st : ParseState) : Atom → Option ParseState
  | .char c => some (st.add (charExpr st.flags c) 0)
  | .byte _ => none
  | .set s => some (st.add (.chars s) 0)
  | .anchor a => some (st.add (.anchor a) 0)

/-- Reads the next piece, which begins with `c`. -/
def readPiece? (st : ParseState) (c : Char) (rest : List Char) : Option (ParseState × List Char) :=
  match c with
  | '(' => readGroup? st rest
  | ')' => st.closeGroup?.map (·, rest)
  | '|' => some (st.branch, rest)
  | '[' => (readBracket? st.flags rest).map fun (item, rest) => (st.add (.chars item.set) item.depth, rest)
  | '?' => (st.repeatLast? 0 (some 1)).map (·, dropLazyMark rest)
  | '*' => (st.repeatLast? 0 none).map (·, dropLazyMark rest)
  | '+' => (st.repeatLast? 1 none).map (·, dropLazyMark rest)
  | '{' =>
    if st.terms.isEmpty then none
    else (readBounds? st.flags rest).bind fun ((min, max), rest) =>
      (st.repeatLast? min max).map (·, dropLazyMark (st.flags.skip rest))
  | '\\' => (readEscape? st.flags rest).bind fun (atom, rest) => (addAtom? st atom).map (·, rest)
  | '.' => (dotExpr? st.flags).map fun r => (st.add r 0, rest)
  | '^' => some (st.add (.anchor (startAnchor st.flags)) 0, rest)
  | '$' => some (st.add (.anchor (endAnchor st.flags)) 0, rest)
  | c => some (st.add (charExpr st.flags c) 0, rest)

/-- Reads an expression of at most `n` pieces to the end of the text. -/
def parsePieces? (n : Nat) (st : ParseState) (cs : List Char) : Option Term :=
  match st.flags.skip cs, n with
  | [], _ => if st.frames.isEmpty then some st.groupTerm else none
  | _ :: _, 0 => none
  | c :: rest, n + 1 => (readPiece? st c rest).bind fun (st, rest) => parsePieces? n st rest

/-- Reads an expression to the end of the text. Every piece takes a character at least, so there are no more
pieces than characters. -/
def parseFrom? (st : ParseState) (cs : List Char) : Option Term :=
  parsePieces? cs.length st cs

/-- The expression that a text spells. -/
def Expr.parse? (text : List Char) : Option Expr :=
  match parseFrom? .initial text with
  | none => none
  | some t => if t.depth ≤ nestLimit ∧ t.expr.weight ≤ weightLimit then some t.expr else none

end NameLint.Regex

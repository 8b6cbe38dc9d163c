import NameLint.Regex.CharSet

/-!
# Regular expressions and their search

An expression relates positions of a text: from where it starts to where it ends. `advance` computes
the positions that are reached from a set of positions, and an expression is found in a text if some
position is reached from any.
-/

namespace NameLint.Regex

/-- Which characters count as parts of a word. -/
inductive WordRule where
  | unicode
  | ascii
  deriving DecidableEq, Repr

/-- A condition on a position that consumes nothing. -/
inductive Anchor where
  | textStart | textEnd
  /-- After a line feed or at the start. -/
  | lineStart
  /-- Before a line feed or at the end. -/
  | lineEnd
  /-- As `lineStart`, where a carriage return ends a line too, alone or with a line feed after it. -/
  | lineStartCrlf
  | lineEndCrlf
  | wordBoundary (rule : WordRule)
  | noWordBoundary (rule : WordRule)
  | wordStart (rule : WordRule)
  | wordEnd (rule : WordRule)
  /-- Where no word character stands before. -/
  | wordStartHalf (rule : WordRule)
  /-- Where no word character stands after. -/
  | wordEndHalf (rule : WordRule)
  deriving DecidableEq, Repr

/-- A regular expression. -/
inductive Expr where
  /-- The empty text. -/
  | empty
  /-- One character of a set. -/
  | chars (s : CharSet)
  /-- A condition on the position. -/
  | anchor (a : Anchor)
  | seq (r s : Expr)
  | alt (r s : Expr)
  /-- At least `min` repetitions, and at most `max` when there is a bound. -/
  | repeated (r : Expr) (min : Nat) (max : Option Nat)
  deriving Repr

/-- Whether a character, or the lack of one, counts as part of a word. -/
def WordRule.holds (rule : WordRule) : Option Char → Bool
  | none => false
  | some c =>
    match rule with
    | .unicode => Unicode.isWordCharacter c
    | .ascii => c.isAlphanum || c == '_'

/-- Whether an anchor holds between a character before and one after; at an end of the text the
character is missing. -/
def Anchor.holds (a : Anchor) (before after : Option Char) : Bool :=
  match a with
  | .textStart => before.isNone
  | .textEnd => after.isNone
  | .lineStart => before.isNone || before == some '\n'
  | .lineEnd => after.isNone || after == some '\n'
  | .lineStartCrlf =>
    before.isNone || before == some '\n' || (before == some '\r' && after != some '\n')
  | .lineEndCrlf =>
    after.isNone || after == some '\r' || (after == some '\n' && before != some '\r')
  | .wordBoundary rule => rule.holds before != rule.holds after
  | .noWordBoundary rule => rule.holds before == rule.holds after
  | .wordStart rule => !rule.holds before && rule.holds after
  | .wordEnd rule => rule.holds before && !rule.holds after
  | .wordStartHalf rule => !rule.holds before
  | .wordEndHalf rule => !rule.holds after

/-- The union of two ascending lists of positions. -/
def mergePositions : List Nat → List Nat → List Nat
  | [], js => js
  | is, [] => is
  | i :: is, j :: js =>
    if i < j then i :: mergePositions is (j :: js)
    else if j < i then j :: mergePositions (i :: is) js
    else i :: mergePositions is js
termination_by is js => is.length + js.length

/-- Applies a step `n` times, stopping early at a set that the step no longer changes. -/
def iterate (step : List Nat → List Nat) : Nat → List Nat → List Nat
  | 0, positions => positions
  | n + 1, positions =>
    let next := step positions
    if next = positions then positions else iterate step n next

/-- All positions reached by up to `n` steps from the newest ones, which are among those seen. -/
def closure (step : List Nat → List Nat) : Nat → (seen newest : List Nat) → List Nat
  | 0, seen, _ => seen
  | n + 1, seen, newest =>
    let fresh := (step newest).filter fun i => !seen.contains i
    if fresh.isEmpty then seen else closure step n (mergePositions seen fresh) fresh

namespace Expr

/-- The positions of the text that the expression leads to from some of the positions. -/
def advance (text : Array Char) : Expr → List Nat → List Nat
  | .empty, positions => positions
  | .chars s, positions =>
    positions.filterMap fun i => (text[i]?).bind fun c => if s.contains c then some (i + 1) else none
  | .anchor a, positions =>
    positions.filter fun i => a.holds (if i = 0 then none else text[i - 1]?) text[i]?
  | .seq r s, positions => s.advance text (r.advance text positions)
  | .alt r s, positions => mergePositions (r.advance text positions) (s.advance text positions)
  | .repeated r min max, positions =>
    let reached := iterate (r.advance text) min positions
    match max with
    | none => closure (r.advance text) (text.size + 1) reached reached
    | some max => closure (r.advance text) (max - min) reached reached

/-- Whether the expression leads from some position of the text to some position. -/
def found (r : Expr) (text : List Char) : Bool :=
  !(r.advance text.toArray (List.range (text.length + 1))).isEmpty

/-- The expressions one after the other. -/
def seqAll : List Expr → Expr
  | [] => .empty
  | [r] => r
  | r :: rest => .seq r (seqAll rest)

/-- The expressions as alternatives. -/
def altAll : List Expr → Expr
  | [] => .empty
  | [r] => r
  | r :: rest => .alt r (altAll rest)

/-- Whether the expression leads nowhere but to the position it starts from. -/
def consumesNothing : Expr → Bool
  | .empty | .anchor _ => true
  | .chars _ => false
  | .seq r s | .alt r s => r.consumesNothing && s.consumesNothing
  | .repeated r _ max => r.consumesNothing || max == some 0

end Expr

end NameLint.Regex

import NameLint.Proofs.Source.Offset

/-!
# The lexer by byte offset

The lexer as a program that keeps a byte offset into its text. Each of its loops looks at the text from the offset
on, moves the offset by one character at a time, and hands over to the next loop. Nothing here makes a loop end:
the loops are least fixed points, and one that went on for ever, or looked at the text from within a character,
would have no result.
-/

namespace NameLint.Source

open NameLint.Unicode

/-- What the lexer keeps: the whole text, the byte offset of what is left of it and the place of that, and whether
a directive may begin there. -/
structure Lexer where
  text : String
  offset : Nat
  place : Position
  lineStart : Bool

namespace Lexer

/-! ## One character -/

def ofText (text : String) : Lexer := ⟨text, 0, .start, true⟩

/-- What is left of the text. -/
def rest? (s : Lexer) : Option (List Char) := (textFrom? s.text s.offset).map String.toList

/-- The character that is `n` characters away, if there is one. -/
def peek? (s : Lexer) (n : Nat) : Option (Option Char) := s.rest?.map (·[n]?)

def past (s : Lexer) (c : Char) : Lexer :=
  { s with offset := s.offset + c.utf8Size, place := s.place.advance c, lineStart := s.lineStart || c = '\n' }

/-- The next character and the lexer behind it. -/
def bump? (s : Lexer) : Option (Option Char × Lexer) := do
  match ← s.peek? 0 with
  | none => return (none, s)
  | some c => return (some c, s.past c)

def bumps? : Nat → Lexer → Option Lexer
  | 0, s => some s
  | n + 1, s => do bumps? n (← s.bump?).2

/-! ## Loops -/

def bumpWhile? (p : Char → Bool) (s : Lexer) : Option Lexer := do
  if (← s.peek? 0).any p then (← s.bumps? 1) |>.bumpWhile? p else return s
partial_fixpoint

def bumpTo? (stop : Nat) (s : Lexer) : Option Lexer := do
  if s.offset < stop then (← s.bumps? 1) |>.bumpTo? stop else return s
partial_fixpoint

def comment? (s : Lexer) : Option Lexer := do
  match ← s.bump? with
  | (none, s) => return s
  | (some c, s) => if c = '*' ∧ (← s.peek? 0) = some '/' then s.bumps? 1 else s |>.comment?
partial_fixpoint

/-- Behind the closing quote of a literal, or in front of the line end before it. -/
def quoted? (quote : Char) (s : Lexer) : Option Lexer := do
  match ← s.peek? 0 with
  | none => return s
  | some c =>
    -- What a backslash escapes is taken unseen, be it a quote, a line end or nothing.
    if c = '\\' then (← s.bumps? 2) |>.quoted? quote
    else if c = '\n' then return s
    else if c = quote then s.bumps? 1
    else (← s.bumps? 1) |>.quoted? quote
partial_fixpoint

def literal? (quote : Char) (s : Lexer) : Option Lexer := do
  quoted? quote (← s.bumps? 1)

/-- Behind a literal with a raw prefix, from behind its opening quote. -/
def rawInside? (s : Lexer) : Option Lexer := do
  match offsetOf? ['('] (← s.rest?) with
  | none => s.literal? '"'
  | some opening =>
    let delimiter := (← textBetween? s.text s.offset (s.offset + opening)).toList
    if isNoDelimiter delimiter then s.literal? '"'
    else
      let start := s.offset + opening + 1
      let mark := ')' :: delimiter ++ ['"']
      match offsetOf? mark (← textFrom? s.text start).toList with
      | none => s.bumpTo? s.text.utf8ByteSize
      | some closing => s.bumpTo? (start + closing + utf8Size mark)

def rawString? (s : Lexer) : Option Lexer := do (← s.bumps? 1).rawInside?

/-- Behind a number, where `previous` is its last character so far. -/
def number? (previous : Char) (s : Lexer) : Option Lexer := do
  match ← s.peek? 0 with
  | none => return s
  | some c =>
    if c.isAlphanum || c = '.' || c = '\'' || c = '_'
        || ((c = '+' || c = '-') && ['e', 'E', 'p', 'P'].contains previous) then
      (← s.bumps? 1) |>.number? c
    else return s
partial_fixpoint

def directive? (s : Lexer) : Option Lexer := do
  match ← s.peek? 0, ← s.peek? 1, ← s.peek? 2 with
  | none, _, _ => return s
  | some c, second, third =>
    if c = '\n' then return s
    else if c = '/' ∧ second = some '*' then (← (← s.bumps? 2).comment?) |>.directive?
    else if isQuote c then (← s.literal? c) |>.directive?
    else if c = '\\' ∧ second = some '\n' then (← s.bumps? 2) |>.directive?
    else if c = '\\' ∧ second = some '\r' ∧ third = some '\n' then (← s.bumps? 3) |>.directive?
    else (← s.bumps? 1) |>.directive?
partial_fixpoint

def trivia? (s : Lexer) : Option Lexer := do
  match ← s.peek? 0, ← s.peek? 1 with
  | none, _ => return s
  | some c, second =>
    if isBlank c then (← s.bumps? 1) |>.trivia?
    else if c = '/' ∧ second = some '/' then (← s.bumpWhile? (· != '\n')) |>.trivia?
    else if c = '/' ∧ second = some '*' then (← (← s.bumps? 2).comment?) |>.trivia?
    else if c = '#' ∧ s.lineStart then (← s.directive?) |>.trivia?
    else return s
partial_fixpoint

/-! ## Tokens -/

/-- Behind a word, or behind the literal that a word and the quote after it begin. -/
def word? (s : Lexer) : Option (TokenKind × Lexer) := do
  let t ← s.bumpWhile? isIdentContinue
  let word ← textBetween? s.text s.offset t.offset
  match ← t.peek? 0 with
  | some '"' =>
    if stringPrefixes.contains word then
      return (.literal, ← if word.toList.getLast? = some 'R' then t.rawString? else t.literal? '"')
    else return (.word, t)
  | some '\'' =>
    if charPrefixes.contains word then return (.literal, ← t.literal? '\'') else return (.word, t)
  | _ => return (.word, t)

/-- Behind a punctuation mark that begins with `c`. -/
def mark? (c : Char) (s : Lexer) : Option Lexer := do
  let t ← s.bumps? 1
  match c, ← t.peek? 0 with
  | ':', some ':' => t.bumps? 1
  | '-', some '>' => t.bumps? 1
  | _, _ => return t

/-- Behind the token that begins with `c`, and its kind. -/
def token? (c : Char) (s : Lexer) : Option (TokenKind × Lexer) := do
  if isIdentStart c then s.word?
  else if c.isDigit || (c = '.' && (← s.peek? 1).any Char.isDigit) then
    return (.literal, ← (← s.bumps? 1).number? c)
  else if isQuote c then return (.literal, ← s.literal? c)
  else return (.mark, ← s.mark? c)

def beginToken (s : Lexer) : Lexer := { s with lineStart := false }

/-- The next token, if there is one, and the lexer behind it. -/
def next? (s : Lexer) : Option (Option Token × Lexer) := do
  let s ← s.trivia?
  match ← s.peek? 0 with
  | none => return (none, s)
  | some c =>
    let (kind, t) ← s.beginToken.token? c
    return (some ⟨kind, ← textBetween? t.text s.offset t.offset, s.place⟩, t)

/-- All tokens that come one after the other, up to the first call that gives none. -/
def stream? (s : Lexer) : Option (List Token) := do
  match ← s.next? with
  | (none, _) => return []
  | (some t, s) => return t :: (← s |>.stream?)
partial_fixpoint

end Lexer

end NameLint.Source

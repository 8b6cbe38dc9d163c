import NameLint.Source.Keyword
import NameLint.Source.Trivia

/-!
# From text to tokens

A token is split off the rest of the text by `splitToken`, after the blanks, comments and directives
before it. Every split keeps all characters, and a token has at least one, so `tokens` ends.
-/

namespace NameLint.Source

open NameLint.Unicode

/-- Characters that begin an identifier. -/
def isIdentStart (c : Char) : Bool := c = '_' || c = '$' || isAlphabetic c

/-- Characters that continue an identifier. -/
def isIdentContinue (c : Char) : Bool := c = '_' || c = '$' || isAlphanumeric c

/-- The words that make one literal with a double quote right after them. -/
def stringPrefixes : List String := ["L", "u", "U", "u8", "R", "LR", "uR", "UR", "u8R"]

/-- The words that make one literal with a single quote right after them. -/
def charPrefixes : List String := ["L", "u", "U", "u8"]

/-- Splits off the rest of a string or character literal after its opening quote: up to the closing
quote, or to the end of the line if there is none. A backslash takes the next character with it, a line
end too. -/
def splitQuoted (quote : Char) : List Char → List Char × List Char
  | [] => ([], [])
  | c :: rest =>
    if c = '\n' then ([], c :: rest)
    else if c = '\\' then
      match rest with
      | [] => ([c], [])
      | d :: rest =>
        let (inner, rest) := splitQuoted quote rest
        (c :: d :: inner, rest)
    else if c = quote then ([c], rest)
    else
      let (inner, rest) := splitQuoted quote rest
      (c :: inner, rest)

/-- Splits a text after the first place where `mark` stands, or at its end. -/
def splitThrough (mark : List Char) : List Char → List Char × List Char
  | [] => ([], [])
  | c :: rest =>
    if mark.isPrefixOf (c :: rest) then (c :: rest).splitAt mark.length
    else
      let (before, rest) := splitThrough mark rest
      (c :: before, rest)

/-- The size of a text in UTF-8. -/
def utf8Size (cs : List Char) : Nat :=
  cs.foldl (fun n c => n + c.utf8Size) 0

/-- The delimiter of a raw string, given what follows its opening quote: all before the first
parenthesis, if that is at most sixteen bytes without blanks and quotes. -/
def rawDelimiter? (cs : List Char) : Option (List Char) :=
  let delimiter := cs.takeWhile (· != '(')
  if delimiter.length < cs.length ∧ utf8Size delimiter ≤ 16
      ∧ delimiter.all (fun c => !isBlank c && c != '"') then
    some delimiter
  else none

/-- Splits off the rest of a string literal with a raw prefix after its opening quote. Without a
delimiter it is read like any other string from its second character on. -/
def splitRaw (cs : List Char) : List Char × List Char :=
  match rawDelimiter? cs with
  | some delimiter =>
    let (opening, rest) := cs.splitAt (delimiter.length + 1)
    let (body, rest) := splitThrough (')' :: delimiter ++ ['"']) rest
    (opening ++ body, rest)
  | none =>
    match cs with
    | [] => ([], [])
    | c :: rest =>
      let (inner, rest) := splitQuoted '"' rest
      (c :: inner, rest)

/-- Splits off the rest of a number after a character of it. A sign belongs to the number after the
letter of an exponent. -/
def splitNumber (previous : Char) : List Char → List Char × List Char
  | [] => ([], [])
  | c :: rest =>
    if c.isAlphanum || c = '.' || c = '\'' || c = '_'
        || ((c = '+' || c = '-') && ['e', 'E', 'p', 'P'].contains previous) then
      let (digits, rest) := splitNumber c rest
      (c :: digits, rest)
    else ([], c :: rest)

/-- Splits off a word, or the literal that a word and the quote after it begin. -/
def splitWord (cs : List Char) : TokenKind × List Char × List Char :=
  let word := cs.takeWhile isIdentContinue
  let rest := cs.dropWhile isIdentContinue
  let name := String.ofList word
  match rest with
  | '"' :: inside =>
    if stringPrefixes.contains name then
      let (inner, rest) :=
        if word.getLast? = some 'R' then splitRaw inside else splitQuoted '"' inside
      (.literal, word ++ '"' :: inner, rest)
    else (.word, word, rest)
  | '\'' :: inside =>
    if charPrefixes.contains name then
      let (inner, rest) := splitQuoted '\'' inside
      (.literal, word ++ '\'' :: inner, rest)
    else (.word, word, rest)
  | rest => (.word, word, rest)

/-- Whether a digit comes next. -/
def digitComesNext : List Char → Bool
  | [] => false
  | c :: _ => c.isDigit

/-- Splits off a punctuation mark. -/
def splitMark (c : Char) (rest : List Char) : List Char × List Char :=
  match c, rest with
  | ':', ':' :: rest => ([':', ':'], rest)
  | '-', '>' :: rest => (['-', '>'], rest)
  | c, rest => ([c], rest)

/-- Splits off the token that begins with `c`: its kind, its characters and the rest. -/
def splitToken (c : Char) (rest : List Char) : TokenKind × List Char × List Char :=
  if isIdentStart c then splitWord (c :: rest)
  else if c.isDigit || (c = '.' && digitComesNext rest) then
    let (digits, rest) := splitNumber c rest
    (.literal, c :: digits, rest)
  else if isQuote c then
    let (inner, rest) := splitQuoted c rest
    (.literal, c :: inner, rest)
  else
    let (mark, rest) := splitMark c rest
    (.mark, mark, rest)

/-! ## The splits keep all characters -/

theorem splitQuoted_append (quote : Char) (cs : List Char) :
    (splitQuoted quote cs).1 ++ (splitQuoted quote cs).2 = cs := by
  fun_induction splitQuoted quote cs <;> simp_all

theorem splitThrough_append (mark cs : List Char) :
    (splitThrough mark cs).1 ++ (splitThrough mark cs).2 = cs := by
  fun_induction splitThrough mark cs <;> simp_all

theorem splitRaw_append (cs : List Char) : (splitRaw cs).1 ++ (splitRaw cs).2 = cs := by
  unfold splitRaw
  split
  · simp [splitThrough_append]
  · cases cs with
    | nil => rfl
    | cons c rest => simp [splitQuoted_append]

theorem splitNumber_append (previous : Char) (cs : List Char) :
    (splitNumber previous cs).1 ++ (splitNumber previous cs).2 = cs := by
  fun_induction splitNumber previous cs <;> simp_all

theorem splitWord_append (cs : List Char) : (splitWord cs).2.1 ++ (splitWord cs).2.2 = cs := by
  have hcs := cs.takeWhile_append_dropWhile (p := isIdentContinue)
  unfold splitWord
  grind [splitRaw_append, splitQuoted_append]

theorem splitMark_append (c : Char) (rest : List Char) :
    (splitMark c rest).1 ++ (splitMark c rest).2 = c :: rest := by
  unfold splitMark
  split <;> rfl

theorem splitToken_append (c : Char) (rest : List Char) :
    (splitToken c rest).2.1 ++ (splitToken c rest).2.2 = c :: rest := by
  unfold splitToken
  split
  · exact splitWord_append _
  · split
    · simp [splitNumber_append]
    · split
      · simp [splitQuoted_append]
      · exact splitMark_append c rest

theorem splitWord_ne_nil {c : Char} (rest : List Char) (h : isIdentContinue c = true) :
    (splitWord (c :: rest)).2.1 ≠ [] := by
  unfold splitWord
  grind [List.takeWhile]

theorem isIdentContinue_of_isIdentStart {c : Char} (h : isIdentStart c = true) :
    isIdentContinue c = true := by
  simp only [isIdentStart, isIdentContinue, isAlphanumeric, Bool.or_eq_true] at h ⊢
  grind

/-- A token has a character. -/
theorem splitToken_ne_nil (c : Char) (rest : List Char) : (splitToken c rest).2.1 ≠ [] := by
  unfold splitToken
  split
  · exact splitWord_ne_nil rest (isIdentContinue_of_isIdentStart ‹_›)
  · split
    · simp
    · split
      · simp
      · simp only [splitMark]
        split <;> simp

/-- What is left after a token is shorter. -/
theorem splitToken_length_lt (c : Char) (rest : List Char) :
    (splitToken c rest).2.2.length < rest.length + 1 := by
  have happ := congrArg List.length (splitToken_append c rest)
  have hne := List.length_pos_iff.2 (splitToken_ne_nil c rest)
  simp only [List.length_append, List.length_cons] at happ
  omega

/-! ## The tokens of a text -/

/-- What is left after the text before a token and the token itself is shorter. -/
theorem splitToken_length_lt_of_splitTrivia {mode : TriviaMode} {cs rest : List Char} {c : Char}
    (h : (splitTrivia mode cs).2 = c :: rest) : (splitToken c rest).2.2.length < cs.length := by
  have hcs := congrArg List.length (splitTrivia_append mode cs)
  have hlt := splitToken_length_lt c rest
  rw [h] at hcs
  simp only [List.length_append, List.length_cons] at hcs
  omega

/-- The tokens of the rest of a text, given its place and whether a directive may begin there: not after
a token, until the line ends. -/
def tokensFrom (lineStart : Bool) (place : Position) (cs : List Char) : List Token :=
  let split := splitTrivia (.between lineStart) cs
  match _h : split.2 with
  | [] => []
  | c :: rest =>
    let place := place.after split.1
    let token := splitToken c rest
    ⟨token.1, String.ofList token.2.1, place⟩
      :: tokensFrom (token.2.1.contains '\n') (place.after token.2.1) token.2.2
termination_by cs.length
decreasing_by exact splitToken_length_lt_of_splitTrivia _h

/-- The tokens of a text. -/
def tokens (text : String) : List Token :=
  tokensFrom true .start text.toList

end NameLint.Source

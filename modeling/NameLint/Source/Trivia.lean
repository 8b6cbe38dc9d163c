import NameLint.Unicode.Property

/-!
# Text between tokens

Blanks, comments and preprocessor directives. They are passed over by a machine that knows what it is
inside of, and that splits a text into what it passes over and the rest.
-/

namespace NameLint.Source

open NameLint.Unicode

/-- What text between tokens is inside of. -/
inductive TriviaMode where
  /-- Between comments and directives; whether nothing but blanks and comments stands before on the
  line. -/
  | between (lineStart : Bool)
  /-- A comment that ends with its line. -/
  | lineComment
  /-- A bracketed comment; whether a token may not come before a directive on the line it ends in. -/
  | blockComment (lineStart : Bool)
  | directive
  /-- A bracketed comment in a directive, which may go on for several lines. -/
  | directiveComment
  /-- A string or character literal in a directive. -/
  | directiveLiteral (quote : Char)
  deriving DecidableEq, Repr

/-- Whether a character opens a string or character literal. -/
def isQuote (c : Char) : Bool := c = '"' || c = '\''

/-- How the text between tokens goes on with its next character `c`: how many characters after `c` are
taken together with it, and what the text is inside of after them; nothing if a token begins at `c`. A
directive begins with `#` and runs to the end of the line, past line ends that follow a backslash or
stand in a bracketed comment. -/
def TriviaMode.step? (mode : TriviaMode) (c : Char) (rest : List Char) :
    Option (Nat × TriviaMode) :=
  let next := rest.head?
  match mode with
  | .between lineStart =>
    if isBlank c then some (0, .between (lineStart || c = '\n'))
    else if c = '#' ∧ lineStart then some (0, .directive)
    else if c = '/' ∧ next = some '/' then some (1, .lineComment)
    else if c = '/' ∧ next = some '*' then some (1, .blockComment lineStart)
    else none
  | .lineComment => some (0, if c = '\n' then .between true else .lineComment)
  | .blockComment lineStart =>
    if c = '*' ∧ next = some '/' then some (1, .between lineStart)
    else some (0, .blockComment (lineStart || c = '\n'))
  | .directive =>
    if c = '\n' then some (0, .between true)
    else if c = '/' ∧ next = some '*' then some (1, .directiveComment)
    else if c = '\\' ∧ next = some '\n' then some (1, .directive)
    else if c = '\\' ∧ ['\r', '\n'].isPrefixOf rest then some (2, .directive)
    else if isQuote c then some (0, .directiveLiteral c)
    else some (0, .directive)
  | .directiveComment =>
    if c = '*' ∧ next = some '/' then some (1, .directive) else some (0, .directiveComment)
  | .directiveLiteral quote =>
    if c = '\n' then some (0, .between true)
    else if c = quote then some (0, .directive)
    else if c = '\\' then some (1, .directiveLiteral quote)
    else some (0, .directiveLiteral quote)

/-- Splits a text into the blanks, comments and directives it begins with and the rest. A comment that
is not closed runs to the end. -/
def splitTrivia (mode : TriviaMode) (cs : List Char) : List Char × List Char :=
  match cs with
  | [] => ([], [])
  | c :: rest =>
    match mode.step? c rest with
    | none => ([], c :: rest)
    | some (more, mode) =>
      let (skipped, after) := splitTrivia mode (rest.drop more)
      (c :: rest.take more ++ skipped, after)
termination_by cs.length
decreasing_by
  simp only [List.length_drop, List.length_cons]
  omega

/-- The two parts of the split make up the text. -/
theorem splitTrivia_append (mode : TriviaMode) (cs : List Char) :
    (splitTrivia mode cs).1 ++ (splitTrivia mode cs).2 = cs := by
  fun_induction splitTrivia mode cs with
  | case1 => rfl
  | case2 => rfl
  | case3 mode c rest more next _ skipped after heq ih =>
    rw [heq] at ih
    simp [ih]

end NameLint.Source

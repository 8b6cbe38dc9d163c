import NameLint.Unicode.Property

/-!
# The words of a name

A name falls into words at every character that is neither letter nor digit, before a capital that
follows a small letter or a digit, and before the last of several capitals when a small letter comes
next.
-/

namespace NameLint.Naming

open NameLint.Unicode

/-- Whether a small letter comes next. -/
def lowerComesNext : List Char → Bool
  | [] => false
  | c :: _ => isLowercase c

/-- Whether a new word begins at `c`, given the word so far, last character first, and what follows. -/
def beginsWord (word : List Char) (c : Char) (rest : List Char) : Bool :=
  match word with
  | [] => false
  | previous :: _ =>
    isUppercase c
      && (isLowercase previous || isNumeric previous
        || (isUppercase previous && lowerComesNext rest))

/-- The word whose characters have been gathered last first, if there are any. -/
def finishedWord (word : List Char) : List (List Char) :=
  if word.isEmpty then [] else [word.reverse]

/-- The words of the rest of a name, given the word so far, last character first. -/
def wordsFrom (word : List Char) : List Char → List (List Char)
  | [] => finishedWord word
  | c :: rest =>
    if !isAlphanumeric c then finishedWord word ++ wordsFrom [] rest
    else if beginsWord word c rest then finishedWord word ++ wordsFrom [c] rest
    else wordsFrom (c :: word) rest

/-- The words of a name, in order. -/
def splitWords (name : List Char) : List (List Char) :=
  wordsFrom [] name

end NameLint.Naming

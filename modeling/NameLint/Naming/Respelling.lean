import NameLint.Naming.Style
import NameLint.Naming.Words
import NameLint.Unicode.CaseMap

/-!
# Respelling a name in a style

The words of the name are put into the case that the style asks for and joined as it joins them. A
respelling is offered only if it is another name that is spelled in the style.
-/

namespace NameLint.Naming

open NameLint.Unicode

/-- A word with its first character in upper case and the others in lower case. -/
def capitalize : List Char → List Char
  | [] => []
  | c :: rest => toUpperChars c ++ rest.flatMap toLowerChars

namespace Style

/-- The words joined as the style prescribes. -/
def join (style : Style) (words : List (List Char)) : List Char :=
  let lower := words.map toLowerText
  match style with
  | .camel => (lower.take 1 ++ (words.drop 1).map capitalize).flatten
  | .pascal => (words.map capitalize).flatten
  | .snake => ['_'].intercalate lower
  | .screamingSnake => toUpperText (['_'].intercalate lower)
  | .kebab => ['-'].intercalate lower
  | .train => ['-'].intercalate (words.map capitalize)
  | .flat => lower.flatten

/-- The respelling of a name in a style: none if the name has no words, or if the joined words are the
name itself or are still not spelled in the style. -/
def convert (style : Style) (name : String) : Option String :=
  let words := splitWords name.toList
  let joined := style.join words
  if words.isEmpty then none
  else if joined != name.toList && style.accepts joined then some (String.ofList joined)
  else none

end Style

end NameLint.Naming

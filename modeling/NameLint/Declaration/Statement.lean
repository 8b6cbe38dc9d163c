import NameLint.Declaration.Scope
import NameLint.Source.Keyword

/-!
# The shape of a statement

A statement is what stands at the level of declarations between `;`, `{` and `}`. What only says how a
declaration is to be compiled is dropped from it, and its tokens are marked that stand outside all
brackets. Everything here is a view on the list of tokens; no positions in it are counted.
-/

namespace NameLint.Declaration

open NameLint.Source

/-- Splits a group off the tokens, from its opening mark to the closing mark that brings the depth back to
zero, or to the end if there is none. -/
def splitGroup (opening closing : String) (depth : Nat) : List Token → List Token × List Token
  | [] => ([], [])
  | t :: rest =>
    if t.isMark opening then
      let (group, rest) := splitGroup opening closing (depth + 1) rest
      (t :: group, rest)
    else if t.isMark closing then
      if depth ≤ 1 then ([t], rest)
      else
        let (group, rest) := splitGroup opening closing (depth - 1) rest
        (t :: group, rest)
    else
      let (group, rest) := splitGroup opening closing depth rest
      (t :: group, rest)

theorem splitGroup_append (opening closing : String) (depth : Nat) (ts : List Token) :
    (splitGroup opening closing depth ts).1 ++ (splitGroup opening closing depth ts).2 = ts := by
  fun_induction splitGroup opening closing depth ts <;> simp_all

theorem splitGroup_length_le (opening closing : String) (depth : Nat) (ts : List Token) :
    (splitGroup opening closing depth ts).2.length ≤ ts.length := by
  have h := congrArg List.length (splitGroup_append opening closing depth ts)
  simp only [List.length_append] at h
  omega

/-- What is left after the group that begins with the first token. -/
def afterGroup (opening closing : String) (ts : List Token) : List Token :=
  (splitGroup opening closing 0 ts).2

/-- The words that take a parenthesized group with them as an attribute. -/
def isAttributeWord (t : Token) : Bool :=
  t.kind = .word && ["__attribute__", "__declspec", "alignas", "_Alignas"].contains t.text

/-- Drops attributes and template headers. -/
def normalize : List Token → List Token
  | [] => []
  | [t] => [t]
  | t :: next :: rest =>
    if t.isMark "[" && next.isMark "[" then
      normalize (splitGroup "[" "]" 1 (next :: rest)).2
    else if isAttributeWord t && next.isMark "(" then
      normalize (splitGroup "(" ")" 1 rest).2
    else if t.isWord "template" && next.isMark "<" then
      normalize (splitGroup "<" ">" 1 rest).2
    else t :: normalize (next :: rest)
termination_by ts => ts.length
decreasing_by
  · have := splitGroup_length_le "[" "]" 1 (next :: rest)
    simp only [List.length_cons] at this ⊢
    omega
  · have := splitGroup_length_le "(" ")" 1 rest
    simp only [List.length_cons]
    omega
  · have := splitGroup_length_le "<" ">" 1 rest
    simp only [List.length_cons]
    omega
  · simp

/-- The number of unclosed parentheses and brackets; negative if more are closed than opened. -/
def bracketBalance (ts : List Token) : Int :=
  ts.foldl
    (fun depth t =>
      if t.isMark "(" || t.isMark "[" then depth + 1
      else if t.isMark ")" || t.isMark "]" then depth - 1
      else depth)
    0

/-- A token with the mark whether it stands outside all brackets. -/
structure Marked where
  token : Token
  isTop : Bool
  deriving DecidableEq, Repr

/-- What brackets are open at a token. -/
structure Nesting where
  /-- Open parentheses and brackets. -/
  brackets : Nat := 0
  /-- Open template argument lists. -/
  angles : Nat := 0
  /-- Whether an initializer has begun, in which `<` is a comparison. -/
  inInitializer : Bool := false
  deriving DecidableEq, Repr

/-- Whether nothing is open. -/
def Nesting.isTop (n : Nesting) : Bool := n.brackets = 0 && n.angles = 0

/-- The nesting after a token. -/
def Nesting.after (n : Nesting) (t : Token) : Nesting :=
  if t.kind ≠ .mark then n
  else match t.text with
    | "(" | "[" => { n with brackets := n.brackets + 1 }
    | ")" | "]" => { n with brackets := n.brackets - 1 }
    | "<" => if n.brackets = 0 ∧ !n.inInitializer then { n with angles := n.angles + 1 } else n
    | ">" => if n.brackets = 0 then { n with angles := n.angles - 1 } else n
    | "=" => if n.isTop then { n with inInitializer := true } else n
    | "," => if n.isTop then { n with inInitializer := false } else n
    | _ => n

/-- Marks the tokens that stand outside all brackets. -/
def markTop (n : Nesting) : List Token → List Marked
  | [] => []
  | t :: rest => ⟨t, n.isTop⟩ :: markTop (n.after t) rest

/-- Whether the token is the punctuation mark with this text, outside all brackets. -/
def Marked.isTopMark (m : Marked) (text : String) : Bool :=
  m.isTop && m.token.isMark text

/-- The plain tokens. -/
def tokensOf (ms : List Marked) : List Token := ms.map (·.token)

/-- The segments between the top-level commas. -/
def splitCommas : List Marked → List (List Marked)
  | [] => [[]]
  | m :: rest =>
    if m.isTopMark "," then [] :: splitCommas rest
    else match splitCommas rest with
      | [] => [[m]]
      | segment :: segments => (m :: segment) :: segments

/-- Whether some token names a type: a name, a built-in type, a type body or the end of a template
argument list. -/
def hasType (ts : List Token) : Bool :=
  ts.any fun t =>
    t.isName || t.kind = .body || (t.kind = .word && isBuiltinType t.text) || t.isMark ">"

/-- Whether a token is one of some punctuation marks. -/
def isOneOf (texts : List String) (t : Token) : Bool :=
  t.kind = .mark && texts.contains t.text

/-- Whether a token is one of some words. -/
def isWordOf (texts : List String) (t : Token) : Bool :=
  t.kind = .word && texts.contains t.text

/-- What stands before the first token with a property, that token, and what stands after it. -/
def cutAtFirst (p : Marked → Bool) : List Marked → Option (List Marked × Marked × List Marked)
  | [] => none
  | m :: rest =>
    if p m then some ([], m, rest)
    else (cutAtFirst p rest).map fun (before, found, after) => (m :: before, found, after)

end NameLint.Declaration

import NameLint.Regex.Basic

/-!
# Flags of an expression

The switches that change what the rest of an expression means, and what verbose mode passes over.
-/

namespace NameLint.Regex

open NameLint.Unicode

/-- The switches in force at a place of an expression. -/
structure Flags where
  /-- Letters match in any case. -/
  anyCase : Bool := false
  /-- `^` and `$` hold at the ends of lines. -/
  multiLine : Bool := false
  /-- `.` matches a line end too. -/
  dotAll : Bool := false
  /-- Lines may end in a carriage return. -/
  crlf : Bool := false
  /-- Classes and word boundaries range over all characters; otherwise over bytes. -/
  unicode : Bool := true
  /-- Blanks and comments are passed over. -/
  verbose : Bool := false
  deriving DecidableEq, Repr

namespace Flags

/-- Switches the flag with a letter on or off. Which repetition is tried first decides nothing about
whether a text matches, so `U` changes nothing. -/
def set? (f : Flags) (letter : Char) (on : Bool) : Option Flags :=
  match letter with
  | 'i' => some { f with anyCase := on }
  | 'm' => some { f with multiLine := on }
  | 's' => some { f with dotAll := on }
  | 'U' => some f
  | 'u' => some { f with unicode := on }
  | 'R' => some { f with crlf := on }
  | 'x' => some { f with verbose := on }
  | _ => none

/-- Reads flags up to the `:` or `)` that ends them. A letter and the minus sign may stand once only,
and not the minus sign last. Gives the flags, whether there were any, the character that ended them, and
the rest. -/
def read? (f : Flags) (cs : List Char) : Option (Flags × Bool × Char × List Char) :=
  go f [] true false cs
where
  go (f : Flags) (seen : List Char) (on afterMinus : Bool) :
      List Char → Option (Flags × Bool × Char × List Char)
    | [] => none
    | c :: rest =>
      if c = ':' ∨ c = ')' then
        if afterMinus then none else some (f, !seen.isEmpty, c, rest)
      else if seen.contains c then none
      else if c = '-' then go f (c :: seen) false true rest
      else
        match f.set? c on with
        | some f => go f (c :: seen) on false rest
        | none => none

/-- What is left after blanks and comments; a comment runs from `#` to the end of its line. -/
def dropIgnored (inComment : Bool) : List Char → List Char
  | [] => []
  | c :: rest =>
    if inComment then dropIgnored (c != '\n') rest
    else if isBlank c then dropIgnored false rest
    else if c = '#' then dropIgnored true rest
    else c :: rest

/-- Passes over blanks and comments in verbose mode. -/
def skip (f : Flags) (cs : List Char) : List Char :=
  if f.verbose then dropIgnored false cs else cs

/-- The characters up to the next closing brace, without those that verbose mode ignores, and the rest
after the brace. -/
def upToBrace? (f : Flags) (cs : List Char) : Option (List Char × List Char) :=
  go false cs
where
  go (inComment : Bool) : List Char → Option (List Char × List Char)
    | [] => none
    | c :: rest =>
      if inComment then go (c != '\n') rest
      else if f.verbose && isBlank c then go false rest
      else if f.verbose && c == '#' then go true rest
      else if c = '}' then some ([], rest)
      else (go false rest).map fun (name, rest) => (c :: name, rest)

/-- The longest run of characters that satisfy `p`, and the rest; after each of them verbose mode
passes over what it ignores. -/
def takeRun (f : Flags) (p : Char → Bool) (cs : List Char) : List Char × List Char :=
  go false false cs
where
  go (started inComment : Bool) : List Char → List Char × List Char
    | [] => ([], [])
    | c :: rest =>
      if inComment then go true (c != '\n') rest
      else if started && f.verbose && isBlank c then go true false rest
      else if started && f.verbose && c == '#' then go true true rest
      else if p c then
        let (run, rest) := go true false rest
        (c :: run, rest)
      else ([], c :: rest)

/-- A set closed under case where the flags ask for it. -/
def closeCase (f : Flags) (s : CharSet) : CharSet :=
  if !f.anyCase then s else if f.unicode then .anyCase s else .anyAsciiCase s

/-- A class as the flags want it: closed under case, then complemented if it is negated. Over bytes it
must stay within ASCII. -/
def finishSet? (f : Flags) (negated : Bool) (s : CharSet) : Option CharSet :=
  let closed := f.closeCase s
  let s := if negated then .complement closed else closed
  if f.unicode then some s
  else if s.hasNoHighByte then some (.inter (.property .ascii) s)
  else none

/-- Which characters make up words under the flags. -/
def wordRule (f : Flags) : WordRule :=
  if f.unicode then .unicode else .ascii

end Flags

end NameLint.Regex

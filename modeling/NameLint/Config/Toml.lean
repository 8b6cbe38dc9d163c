import NameLint.Text.Hex

/-!
# A TOML document of strings

A document is accepted if it is a list of keys with string values: no tables, no dotted keys, no other
values, and no key twice. Every way to fail is the same failure.
-/

namespace NameLint.Config.Toml

open NameLint.Text

/-- Tabs and spaces. -/
def isSpace (c : Char) : Bool := c = ' ' || c = '\t'

/-- Characters that may stand in comments and in literal strings. -/
def isPrintable (c : Char) : Bool := c = '\t' || (0x20 ≤ c.toNat && c.toNat != 0x7f)

/-- Characters of keys without quotes. -/
def isBareKey (c : Char) : Bool := c.isAlphanum || c = '-' || c = '_'

/-- Passes over the end of a line: a line feed, which a carriage return may precede. -/
def skipNewline? : List Char → Option (List Char)
  | '\n' :: rest => some rest
  | '\r' :: '\n' :: rest => some rest
  | _ => none

/-- Passes over the rest of a line that holds no more than spaces and a comment. -/
def skipLine? (cs : List Char) : Option (List Char) :=
  let cs := cs.dropWhile isSpace
  let cs := if cs.head? = some '#' then cs.dropWhile isPrintable else cs
  if cs.isEmpty then some [] else skipNewline? cs

/-! ## Strings -/

/-- The character that a one-letter escape stands for. -/
def simpleEscape? : Char → Option Char
  | 'b' => some '\x08'
  | 't' => some '\t'
  | 'n' => some '\n'
  | 'f' => some '\x0c'
  | 'r' => some '\r'
  | '"' => some '"'
  | '\\' => some '\\'
  | _ => none

/-- Reads a character given by its code in `width` hexadecimal digits. -/
def readCode? (width : Nat) (cs : List Char) : Option (Char × List Char) :=
  if cs.length < width then none
  else ((hexNumeral? (cs.take width)).bind scalar?).map (·, cs.drop width)

/-- Reads an escape after its backslash. -/
def readEscape? : List Char → Option (Char × List Char)
  | [] => none
  | 'u' :: rest => readCode? 4 rest
  | 'U' :: rest => readCode? 8 rest
  | c :: rest => (simpleEscape? c).map (·, rest)

/-- Passes over the spaces and line ends that follow a backslash at the end of a line. -/
def skipBlankLines : List Char → List Char
  | '\r' :: '\n' :: rest => skipBlankLines rest
  | c :: rest => if isSpace c || c = '\n' then skipBlankLines rest else c :: rest
  | [] => []

/-- Reads on in a string on one line, with its text so far, last character first. -/
def readLineFrom? (quote : Char) (text : List Char) (cs : List Char) :
    Option (List Char × List Char) :=
  let goOn (text rest : List Char) : Option (List Char × List Char) :=
    if rest.length < cs.length then readLineFrom? quote text rest else none
  match cs with
  | [] => none
  | c :: rest =>
    if c = quote then some (text.reverse, rest)
    else if c = '\\' ∧ quote = '"' then
      (readEscape? rest).bind fun (d, rest) => goOn (d :: text) rest
    else if isPrintable c then goOn (c :: text) rest
    else none
termination_by cs.length

/-- Reads on in a string on several lines. Up to two quotes in a row belong to it, also right before the
three that close it; a carriage return at the end of a line does not. -/
def readLinesFrom? (quote : Char) (text : List Char) (cs : List Char) :
    Option (List Char × List Char) :=
  let goOn (text rest : List Char) : Option (List Char × List Char) :=
    if rest.length < cs.length then readLinesFrom? quote text rest else none
  match cs with
  | [] => none
  | c :: rest =>
    if c = quote then
      let run := (cs.takeWhile (· = quote)).length
      if run < 3 then goOn (List.replicate run quote ++ text) (cs.drop run)
      else
        let own := min (run - 3) 2
        some ((List.replicate own quote ++ text).reverse, cs.drop (own + 3))
    else if c = '\\' ∧ quote = '"' then
      match skipNewline? (rest.dropWhile isSpace) with
      | some rest => goOn text (skipBlankLines rest)
      | none => (readEscape? rest).bind fun (d, rest) => goOn (d :: text) rest
    else
      match skipNewline? cs with
      | some rest => goOn ('\n' :: text) rest
      | none => if isPrintable c then goOn (c :: text) rest else none
termination_by cs.length

/-- Reads a string after its opening quote. Three quotes open one on several lines, and a line end right
after them does not belong to it. -/
def readString? (quote : Char) (cs : List Char) : Option (List Char × List Char) :=
  if [quote, quote].isPrefixOf cs then
    let cs := cs.drop 2
    readLinesFrom? quote [] ((skipNewline? cs).getD cs)
  else readLineFrom? quote [] cs

/-! ## Entries -/

/-- Reads a key: bare, or in quotes on one line. -/
def readKey? (cs : List Char) : Option (List Char × List Char) :=
  match cs with
  | [] => none
  | c :: rest =>
    if c = '"' || c = '\'' then readLineFrom? c [] rest
    else
      let key := cs.takeWhile isBareKey
      if key.isEmpty then none else some (key, cs.dropWhile isBareKey)

/-- Reads a value, which has to be a string. -/
def readValue? : List Char → Option (List Char × List Char)
  | [] => none
  | c :: rest => if c = '"' || c = '\'' then readString? c rest else none

/-- Reads an entry and the rest of its line. -/
def readEntry? (cs : List Char) : Option ((List Char × List Char) × List Char) := do
  let (key, rest) ← readKey? cs
  match rest.dropWhile isSpace with
  | '=' :: rest =>
    let (value, rest) ← readValue? (rest.dropWhile isSpace)
    return ((key, value), ← skipLine? rest)
  | _ => none

/-- Reads the lines of a document, with the entries so far, last first. -/
def readFrom? (pairs : List (List Char × List Char)) (cs : List Char) :
    Option (List (List Char × List Char)) :=
  let goOn (pairs : List (List Char × List Char)) (rest : List Char) :=
    if rest.length < cs.length then readFrom? pairs rest else none
  let line := cs.dropWhile isSpace
  match line with
  | [] => some pairs.reverse
  | c :: _ =>
    if c = '#' || c = '\n' || c = '\r' then (skipLine? line).bind (goOn pairs)
    else
      match readEntry? line with
      | none => none
      | some (pair, rest) =>
        if (pairs.lookup pair.1).isSome then none else goOn (pair :: pairs) rest
termination_by cs.length

/-- The entries of a document. A byte-order mark at its start does not belong to it. -/
def read? (text : List Char) : Option (List (List Char × List Char)) :=
  match text with
  | '\ufeff' :: rest => readFrom? [] rest
  | _ => readFrom? [] text

end NameLint.Config.Toml

import NameLint.Declaration.Statement

/-!
# What a statement declares

Two questions are asked of a statement: what the brace after it opens, and what names it declares when a
semicolon ends it. A shape that could be a declaration or something else declares nothing.
-/

namespace NameLint.Declaration

open NameLint.Source

/-- A declared function or variable. -/
structure Declarator where
  entity : Entity
  name : Token
  deriving DecidableEq, Repr

/-- What an opening brace belongs to. -/
inductive Opening where
  | namespaceBody
  /-- A record with its name, if it has one. -/
  | record (kind : RecordKind) (name : Option Token)
  | enumeration (name : Option Token)
  /-- A function body; without a name when the function is not to be reported. -/
  | function (name : Option Token)
  | initializer
  | block
  deriving DecidableEq, Repr

/-- First words of statements that declare nothing to report. -/
def skippedHeads : List String :=
  ["using", "typedef", "friend", "static_assert", "_Static_assert", "return", "co_return",
   "namespace", "template", "concept", "requires", "asm", "__asm__", "goto", "break", "continue",
   "case", "default", "throw", "delete", "import", "module"]

/-- First words of control statements. -/
def controlHeads : List String :=
  ["if", "else", "for", "while", "do", "switch", "try", "catch"]

/-- Keywords of expressions. -/
def expressionKeywords : List String :=
  ["this", "true", "false", "nullptr", "sizeof", "alignof", "new", "delete", "static_cast",
   "dynamic_cast", "reinterpret_cast", "const_cast", "typeid", "noexcept", "throw"]

/-- Words that look like macros for the linkage of a symbol: capitals, digits and underscores, with an
underscore or one of two endings. -/
def isExportMacro (word : String) : Bool :=
  let cs := word.toList
  cs.all (fun c => c.isUpper || c.isDigit || c = '_')
    && (cs.contains '_' || "EXPORT".toList.isSuffixOf cs || "API".toList.isSuffixOf cs)

/-! ## Functions -/

/-- Whether a name equals that of the record around it. -/
def isConstructor (site : Site) (name : Token) : Bool :=
  match site with
  | .member _ (some record) => name.text == record
  | _ => false

/-- The name of a function whose parameters begin after `before`, if it is to be reported: a name with
a type before it, neither qualified nor a constructor. -/
def functionName? (before : List Token) (site : Site) : Option Token :=
  match before.getLast? with
  | none => none
  | some name =>
    let head := before.dropLast
    let qualified := head.getLast?.any (isOneOf ["::", "~", ".", "->", ","])
    if name.isName && !qualified && hasType head && !isConstructor site name then some name else none

/-- How the content of a parenthesized list reads. -/
inductive Shape where
  | parameters
  /-- Values: what stands before the list is initialized by it. -/
  | initializer
  | ambiguous
  deriving DecidableEq, Repr

/-- Whether a token stands in expressions only. -/
def isExpressionToken (t : Token) : Bool :=
  match t.kind with
  | .literal | .group => true
  | .mark => ["+", "-", "/", "%", "!", "|", "^", "?", "~", ".", "->"].contains t.text
  | .word => expressionKeywords.contains t.text
  | .body => false

/-- Whether a token makes a list entry a parameter declaration. -/
def isDeclarationToken (t : Token) : Bool :=
  t.isMark "*" || t.isMark "&" || (t.kind = .word && isKeyword t.text)

/-- How one entry of a parenthesized list reads. -/
def entryShape (entry : List Token) : Shape :=
  if entry.isEmpty then .ambiguous
  else if entry.all (·.isMark ".") then .parameters
  else if entry.any isExpressionToken then .initializer
  else if entry.any (·.isMark "(") then .ambiguous
  else if entry.any isDeclarationToken || 2 ≤ (entry.filter (·.isName)).length then .parameters
  else .ambiguous

/-- An entry without its default value. -/
def withoutDefault (entry : List Marked) : List Token :=
  tokensOf (entry.takeWhile fun m => !m.isTopMark "=")

/-- How a parenthesized list reads: one entry that is a value decides for values, and else one that could
be either leaves it open. -/
def listShape (inner : List Token) : Shape :=
  if inner.isEmpty then .parameters
  else
    let shapes := (splitCommas (markTop {} inner)).map fun entry => entryShape (withoutDefault entry)
    if shapes.contains .initializer then .initializer
    else if shapes.contains .ambiguous then .ambiguous
    else .parameters

/-- What a statement declares whose first parenthesis at top level has `before` before it and begins
`fromParen`. -/
def parenthesized? (before fromParen : List Token) (site : Site) : Option Declarator :=
  let inner := (splitGroup "(" ")" 0 fromParen).1.tail.dropLast
  if inner.head?.any (isOneOf ["*", "&", "^"]) then
    if hasType before && !inner.any (·.isMark "(") then
      (inner.find? (·.isName)).map (⟨.variable, ·⟩)
    else none
  else
    match functionName? before site with
    | none => none
    | some name =>
      match listShape inner with
      | .parameters => some ⟨.function, name⟩
      | .initializer => some ⟨.variable, name⟩
      | .ambiguous => none

/-! ## Variables -/

/-- Whether a declarator ends before the token. -/
def endsDeclarator (t : Token) : Bool :=
  t.kind = .group || isOneOf ["=", "[", ":", "(", "\x7b"] t

/-- The variable that a segment between commas declares; the first needs a type before it, which the
others inherit. -/
def segmentVariable? (isFirst : Bool) (segment : List Marked) : Option Token :=
  let head := tokensOf (segment.takeWhile fun m => !(m.isTop && endsDeclarator m.token))
  match head.getLast? with
  | none => none
  | some name =>
    let before := head.dropLast
    let qualified := before.getLast?.any (isOneOf ["::", ".", "->"])
    if name.isName && !qualified && (!isFirst || hasType before) then some name else none

/-- The variables of a statement without parameters: none if the first segment declares none. -/
def variableDeclarators (ms : List Marked) : List Declarator :=
  match splitCommas ms with
  | [] => []
  | first :: others =>
    match segmentVariable? true first with
    | none => []
    | some name => (name :: others.filterMap (segmentVariable? false)).map (⟨.variable, ·⟩)

/-! ## Types -/

/-- The names in the head of a type: no qualifiers of a nested name, and not `final`. -/
def headNames : List Token → List Token
  | [] => []
  | t :: rest =>
    if t.isName && t.text != "final" && !rest.head?.any (·.isMark "::") then t :: headNames rest
    else headNames rest

/-- The names without the export macros before the last. -/
def withoutMacros (names : List Token) : List Token :=
  match names.getLast? with
  | none => []
  | some last => names.dropLast.filter (fun t => !isExportMacro t.text) ++ [last]

/-- What a brace opens after the first keyword of a type: the type's body, or the initializer of a
variable if two names stand before it. -/
def typeOpening? (ts : List Token) : Option Opening :=
  match ts.dropWhile fun t => !isWordOf ["class", "struct", "union", "enum"] t with
  | [] => none
  | keyword :: rest =>
    let rest :=
      if keyword.text == "enum" && rest.head?.any (isWordOf ["class", "struct"]) then rest.drop 1
      else rest
    let names := withoutMacros (headNames (rest.takeWhile fun t => !isOneOf [":", "<"] t))
    if 2 ≤ names.length then some .initializer
    else if keyword.text == "enum" then some (.enumeration names.getLast?)
    else (RecordKind.ofKeyword? keyword.text).map fun kind => .record kind names.getLast?

/-! ## Statements -/

/-- The first parenthesis or equals sign at top level. -/
def firstOfInterest (ms : List Marked) : Option (List Marked × Marked × List Marked) :=
  cutAtFirst (fun m => m.isTopMark "(" || m.isTopMark "=") ms

/-- Whether a colon at top level follows the parameters, in tokens that begin with them. -/
def hasMemberInitializers (fromParen : List Marked) : Bool :=
  let parameters := (splitGroup "(" ")" 0 (tokensOf fromParen)).1
  (fromParen.drop parameters.length).any (·.isTopMark ":")

/-- What a brace opens after a statement with parameters. -/
def openAfterParameters (ts : List Token) (before : List Marked) (fromParen : List Marked)
    (site : Site) : Opening :=
  if hasMemberInitializers fromParen && ts.getLast?.any (fun t => t.kind = .word || t.isMark ">") then
    .initializer
  else .function (functionName? (tokensOf before) site)

/-- What a brace opens after a statement with neither parameters nor an equals sign. -/
def openPlain (ts : List Token) : Opening :=
  match typeOpening? ts with
  | some opening => opening
  | none => if 2 ≤ ts.length && ts.getLast?.any (·.isName) then .initializer else .block

/-- What a brace opens after the tokens of a normalized statement. -/
def openAfter (ts : List Token) (site : Site) : Opening :=
  match ts with
  | [] => .block
  | first :: rest =>
    if (ts.take 2).any (·.isWord "namespace") then .namespaceBody
    else if first.isWord "extern" && rest.length = 1 && rest.any (·.kind = .literal) then .namespaceBody
    else if isWordOf controlHeads first then .block
    else if first.isWord "friend" || ts.any (·.isWord "operator") then .function none
    else
      match firstOfInterest (markTop {} ts) with
      | none => openPlain ts
      | some (before, found, after) =>
        if found.token.isMark "=" then .initializer
        else openAfterParameters ts before (found :: after) site

/-- What a brace opens after a statement. -/
def classifyOpen (statement : List Token) (site : Site) : Opening :=
  if 0 < bracketBalance statement then .initializer else openAfter (normalize statement) site

/-- A statement without the linkage that it begins with. -/
def withoutLinkage : List Token → List Token
  | first :: second :: rest =>
    if first.isWord "extern" && second.kind = .literal then rest else first :: second :: rest
  | ts => ts

/-- What the tokens of a normalized statement declare when a semicolon ends it. -/
def declaredBy (ts : List Token) (site : Site) : List Declarator :=
  if ts.head?.any (isWordOf skippedHeads) || ts.any (·.isWord "operator") then []
  else
    let ms := markTop {} ts
    match firstOfInterest ms with
    | some (before, found, after) =>
      if found.token.isMark "(" then
        (parenthesized? (tokensOf before) (tokensOf (found :: after)) site).toList
      else variableDeclarators ms
    | none => variableDeclarators ms

/-- What a statement declares when a semicolon ends it. -/
def classifyStatement (statement : List Token) (site : Site) : List Declarator :=
  declaredBy (withoutLinkage (normalize statement)) site

end NameLint.Declaration

import NameLint.Declaration.Classify
import NameLint.Source.Lexer

/-!
# Declared names

The names that a source text declares, each with its context and place. The tokens are read one by one:
`step` says what each does to the open scopes and to the statement at hand, and what names it makes
known. Reading ends at the first brace that is refused.
-/

namespace NameLint.Declaration

open NameLint.Source

/-- A declared name with its context and the place of its first character. -/
structure Occurrence where
  context : Context
  name : String
  place : Position
  deriving DecidableEq, Repr

/-- A name in a context. -/
def Occurrence.ofToken (context : Context) (t : Token) : Occurrence := ⟨context, t.text, t.place⟩

/-- The nesting of braces that is accepted unless another limit is given. -/
def defaultDepthLimit : Nat := 256

/-- The context of a function or variable at a site; a hidden site has none. -/
def Site.context? (site : Site) (entity : Entity) : Option Context :=
  match site with
  | .global => some (.global entity)
  | .member access _ => some (.member access entity)
  | .hidden => none

/-- The open scopes, and the tokens of the statement in the innermost one. -/
structure Reading where
  scopes : Scopes := []
  statement : List Token := []
  deriving DecidableEq, Repr

namespace Reading

/-- Opens the body of a type, whose declaration goes on when it closes. -/
def openType (limit : Nat) (r : Reading) (kind : ScopeKind) (named : Option Occurrence)
    (place : Position) : Except ExtractError (Reading × List Occurrence) :=
  (r.scopes.push limit ⟨kind, r.statement⟩ place).map fun scopes => (⟨scopes, []⟩, named.toList)

/-- Opens a scope before which the statement ends. -/
def openPlain (limit : Nat) (r : Reading) (kind : ScopeKind) (named : Option Occurrence)
    (place : Position) : Except ExtractError (Reading × List Occurrence) :=
  (r.scopes.push limit ⟨kind, []⟩ place).map fun scopes => (⟨scopes, []⟩, named.toList)

/-- Reads an opening brace where declarations are looked at. -/
def openBrace (limit : Nat) (r : Reading) (place : Position) :
    Except ExtractError (Reading × List Occurrence) :=
  let site := r.scopes.site
  match classifyOpen r.statement site with
  | .initializer =>
    (r.scopes.push limit ⟨.initializer, []⟩ place).map fun scopes => (⟨scopes, r.statement⟩, [])
  | .record kind name =>
    r.openType limit (.recordBody kind (name.map (·.text)) kind.defaultAccess)
      (kind.context?.bind fun context => name.map (.ofToken context)) place
  | .enumeration name => r.openType limit .enumBody (name.map (.ofToken .enumType)) place
  | .function name =>
    r.openPlain limit .functionBody
      ((site.context? .function).bind fun context => name.map (.ofToken context)) place
  | .namespaceBody => r.openPlain limit .namespaceBody none place
  | .block => r.openPlain limit .block none place

/-- Reads a closing brace. The declaration that an initializer or the body of a type belongs to goes on
with a placeholder for the braces. -/
def closeBrace (r : Reading) (brace : Token) : Except ExtractError (Reading × List Occurrence) :=
  (r.scopes.pop brace.place).map fun (frame, scopes) =>
    if scopes.isHidden then (⟨scopes, r.statement⟩, [])
    else match frame.kind with
      | .initializer => (⟨scopes, r.statement ++ [{ brace with kind := .group }]⟩, [])
      | .recordBody _ _ _ | .enumBody =>
        (⟨scopes, frame.declaration ++ [{ brace with kind := .body }]⟩, [])
      | _ => (⟨scopes, []⟩, [])

/-- Reads the semicolon that ends a statement. -/
def endStatement (r : Reading) : Reading × List Occurrence :=
  let site := r.scopes.site
  let found := (classifyStatement r.statement site).filterMap fun d =>
    (site.context? d.entity).map fun context => Occurrence.ofToken context d.name
  (⟨r.scopes, []⟩, found)

/-- The access level that a word sets. -/
def accessOf? (t : Token) : Option Access :=
  if t.kind = .word then Access.ofKeyword? t.text else none

/-- The access level that a label sets: its last word does, or the one before a name that ends it. -/
def labelAccess? (statement : List Token) : Option Access :=
  match statement.reverse with
  | [] => none
  | last :: before =>
    accessOf? last <|> (if last.isName then before.head?.bind accessOf? else none)

/-- Reads a colon, if it ends a label in the body of a record: an access label, or a single name, which
changes nothing. -/
def endLabel? (r : Reading) : Option Reading :=
  match r.scopes.site with
  | .member _ _ =>
    match labelAccess? r.statement with
    | some access => some ⟨r.scopes.setAccess access, []⟩
    | none =>
      match r.statement with
      | [label] => if label.isName then some ⟨r.scopes, []⟩ else none
      | _ => none
  | _ => none

/-- Adds a token to the statement. -/
def push (r : Reading) (t : Token) : Reading := ⟨r.scopes, r.statement ++ [t]⟩

/-- Reads a token where nothing is looked at: only braces count. -/
def stepHidden (limit : Nat) (r : Reading) (t : Token) :
    Except ExtractError (Reading × List Occurrence) :=
  if t.opensBrace then
    (r.scopes.push limit ⟨.block, []⟩ t.place).map fun scopes => (⟨scopes, r.statement⟩, [])
  else if t.closesBrace then r.closeBrace t
  else .ok (r, [])

/-- Reads a token where declarations are looked at. -/
def stepVisible (limit : Nat) (r : Reading) (t : Token) :
    Except ExtractError (Reading × List Occurrence) :=
  if t.opensBrace then r.openBrace limit t.place
  else if t.closesBrace then r.closeBrace t
  else if t.isMark ";" then .ok r.endStatement
  else if t.isMark ":" then .ok (r.endLabel?.getD (r.push t), [])
  else .ok (r.push t, [])

/-- Reads a token. -/
def step (limit : Nat) (r : Reading) (t : Token) : Except ExtractError (Reading × List Occurrence) :=
  if r.scopes.isHidden then r.stepHidden limit t else r.stepVisible limit t

end Reading

/-- What was found in a text, and the error that ended the search if one did. -/
structure Extraction where
  found : List Occurrence
  failed : Option ExtractError
  deriving DecidableEq, Repr

/-- What is found in the tokens from a state of reading on. Scopes that are not closed at the end, and a
statement without its semicolon, are accepted. -/
def extractFrom (limit : Nat) (r : Reading) : List Token → Extraction
  | [] => ⟨[], none⟩
  | t :: rest =>
    match r.step limit t with
    | .error e => ⟨[], some e⟩
    | .ok (r, found) =>
      let later := extractFrom limit r rest
      ⟨found ++ later.found, later.failed⟩

/-- The names that a source text declares. -/
def extract (text : String) (limit : Nat := defaultDepthLimit) : Extraction :=
  extractFrom limit {} (tokens text)

end NameLint.Declaration

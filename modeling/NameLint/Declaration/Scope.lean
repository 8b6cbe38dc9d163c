import NameLint.Declaration.Context
import NameLint.Source.Token

/-!
# Open scopes

One frame stands for each open brace, innermost first. The nesting is bounded: a push beyond the limit
and a pop of nothing are the two ways in which the braces of a text can be refused.
-/

namespace NameLint.Declaration

open NameLint.Source

/-- The kinds of type with members. -/
inductive RecordKind where
  | classRecord | structRecord | unionRecord
  deriving DecidableEq, Repr

namespace RecordKind

/-- The kind that a keyword introduces. -/
def ofKeyword? : String → Option RecordKind
  | "class" => some .classRecord
  | "struct" => some .structRecord
  | "union" => some .unionRecord
  | _ => none

/-- The access level before any label. -/
def defaultAccess : RecordKind → Access
  | .classRecord => .isPrivate
  | .structRecord | .unionRecord => .isPublic

/-- The context of the record's own name; a union's name has none. -/
def context? : RecordKind → Option Context
  | .classRecord => some .classType
  | .structRecord => some .structType
  | .unionRecord => none

end RecordKind

/-- What a pair of braces belongs to. -/
inductive ScopeKind where
  /-- A namespace or a linkage block; what is declared in it stays global. -/
  | namespaceBody
  /-- The body of a class, struct or union, with its name and the access level in force. -/
  | recordBody (kind : RecordKind) (name : Option String) (access : Access)
  | enumBody
  | functionBody
  /-- An initializer, after which the declaration around it goes on. -/
  | initializer
  /-- Any other braces. -/
  | block
  deriving DecidableEq, Repr

/-- Whether nothing inside is looked at. -/
def ScopeKind.isHidden : ScopeKind → Bool
  | .namespaceBody | .recordBody _ _ _ => false
  | .enumBody | .functionBody | .initializer | .block => true

/-- An open scope, with the tokens of the declaration that goes on when it closes. -/
structure Frame where
  kind : ScopeKind
  declaration : List Token := []
  deriving DecidableEq, Repr

/-- Where a statement stands. -/
inductive Site where
  /-- At file or namespace scope. -/
  | global
  /-- Directly in the body of a record with this name, if it has one. -/
  | member (access : Access) (record : Option String)
  /-- In a body whose content is not looked at. -/
  | hidden
  deriving DecidableEq, Repr

/-- Why the names of a text cannot be extracted. -/
inductive ExtractError where
  /-- The bytes from `offset` on are no text. -/
  | notUtf8 (offset : Nat)
  /-- A closing brace has no opening one. -/
  | unbalancedBrace (place : Position)
  /-- More than `limit` braces are open. -/
  | nestingTooDeep (place : Position) (limit : Nat)
  deriving DecidableEq, Repr

/-- The text of an error. -/
def ExtractError.message : ExtractError → String
  | .notUtf8 offset =>
    "file is not valid UTF-8 (invalid byte at offset " ++ toString offset ++ ")"
  | .unbalancedBrace place =>
    "unbalanced '\x7d' at line " ++ toString place.line ++ ", column " ++ toString place.column
  | .nestingTooDeep place limit =>
    "braces nested deeper than " ++ toString limit ++ " levels at line " ++ toString place.line
      ++ ", column " ++ toString place.column

/-- The open scopes, innermost first. -/
abbrev Scopes := List Frame

namespace Scopes

/-- Opens a scope at a place. -/
def push (limit : Nat) (scopes : Scopes) (frame : Frame) (place : Position) :
    Except ExtractError Scopes :=
  if limit ≤ scopes.length then .error (.nestingTooDeep place limit) else .ok (frame :: scopes)

/-- Closes the innermost scope at a place. -/
def pop (scopes : Scopes) (place : Position) : Except ExtractError (Frame × Scopes) :=
  match scopes with
  | [] => .error (.unbalancedBrace place)
  | frame :: rest => .ok (frame, rest)

/-- Where a statement in the innermost scope stands. -/
def site (scopes : Scopes) : Site :=
  match scopes with
  | [] => .global
  | frame :: _ =>
    match frame.kind with
    | .namespaceBody => .global
    | .recordBody _ name access => .member access name
    | _ => .hidden

/-- Whether nothing in the innermost scope is looked at. -/
def isHidden (scopes : Scopes) : Bool :=
  match scopes with
  | [] => false
  | frame :: _ => frame.kind.isHidden

/-- Changes the access level in force, directly in the body of a record. -/
def setAccess (scopes : Scopes) (access : Access) : Scopes :=
  match scopes with
  | ⟨.recordBody kind name _, declaration⟩ :: rest =>
    ⟨.recordBody kind name access, declaration⟩ :: rest
  | scopes => scopes

end Scopes

end NameLint.Declaration

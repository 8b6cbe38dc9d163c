import NameLint.Config.Yaml.Scanner

/-!
# A stream with one flat mapping

A stream is accepted if it holds one document, and this is a mapping of scalars to scalars or is empty or
null. Scalars are read as strings, whatever they look like and however they are tagged. Every way to fail
is the same failure.
-/

namespace NameLint.Config.Yaml

/-- What anchors have been given. An anchor's number is the count of different names before it, and an
alias stands for the last scalar under its name's number. -/
structure Anchors where
  numbers : List (List Char × Nat) := []
  /-- The last scalar under each number, or none for the mapping itself. -/
  scalars : List (Nat × Option (List Char)) := []

namespace Anchors

/-- Gives an anchor to a node. -/
def define (a : Anchors) (name : List Char) (node : Option (List Char)) : Anchors :=
  let number := a.numbers.length
  { numbers := (name, number) :: a.numbers.filter (·.1 != name)
    scalars := (number, node) :: a.scalars }

/-- The scalar that an alias stands for. -/
def scalar? (a : Anchors) (name : List Char) : Option (List Char) :=
  (a.numbers.lookup name).bind fun number => (a.scalars.lookup number).bind id

end Anchors

/-- What stands before a node. -/
structure Properties where
  anchor : Option (List Char) := none
  /-- Handle and suffix of the tag. -/
  tag : Option (List Char × List Char) := none

/-- Reads the properties of a node: an anchor and a tag, in either order. -/
def readProperties : List Token → Properties × List Token
  | .anchor name :: .tag handle suffix :: rest => (⟨some name, some (handle, suffix)⟩, rest)
  | .tag handle suffix :: .anchor name :: rest => (⟨some name, some (handle, suffix)⟩, rest)
  | .anchor name :: rest => (⟨some name, none⟩, rest)
  | .tag handle suffix :: rest => (⟨none, some (handle, suffix)⟩, rest)
  | ts => ({}, ts)

/-- What tag handles stand for. -/
abbrev Handles := List (List Char × List Char)

/-- The handles that need no directive. -/
def defaultHandles : Handles :=
  [(['!'], ['!']), (['!', '!'], "tag:yaml.org,2002:".toList)]

/-- The tag that the properties give; fails for an unknown handle. -/
def Properties.resolveTag? (p : Properties) (handles : Handles) : Option (Option (List Char)) :=
  match p.tag with
  | none => some none
  | some ([], suffix) => some (some suffix)
  | some (handle, suffix) => (handles.lookup handle).map fun expansion => some (expansion ++ suffix)

/-- The state of reading a document. -/
structure Reader where
  tokens : List Token
  handles : Handles
  anchors : Anchors := {}

/-- Reads a node that has to be a scalar or an alias of one. Properties alone stand for an empty scalar. -/
def Reader.scalar? (r : Reader) : Option (List Char × Reader) :=
  match r.tokens with
  | .alias name :: rest => (r.anchors.scalar? name).map fun text => (text, { r with tokens := rest })
  | ts =>
    let (p, ts') := readProperties ts
    let finish (text : List Char) (rest : List Token) : Option (List Char × Reader) :=
      (p.resolveTag? r.handles).map fun _ =>
        let anchors := match p.anchor with
          | some name => r.anchors.define name (some text)
          | none => r.anchors
        (text, { r with tokens := rest, anchors := anchors })
    match ts' with
    | .scalar text _ :: rest => finish text rest
    | _ => if ts'.length < ts.length then finish [] ts' else none

/-- Reads the node after a key or value mark, or nothing where one of some tokens follows. -/
def Reader.optionalScalar? (r : Reader) (ends : List Token) : Option (List Char × Reader) :=
  match r.tokens with
  | [] => none
  | t :: _ => if ends.contains t then some ([], r) else r.scalar?

/-- Reads the value of an entry, if it has one. -/
def Reader.entryValue? (r : Reader) (ends : List Token) : Option (List Char × Reader) :=
  match r.tokens with
  | .value :: rest => ({ r with tokens := rest } : Reader).optionalScalar? ends
  | _ => some ([], r)

/-- The pairs of a mapping. -/
abbrev Pairs := List (List Char × List Char)

/-- Reads the entries of a block mapping and its end. -/
def Reader.blockEntries? (r : Reader) (pairs : Pairs) : Option (Pairs × Reader) :=
  let ends := [Token.key, .value, .mappingEnd]
  match r.tokens with
  | .mappingEnd :: rest => some (pairs.reverse, { r with tokens := rest })
  | .key :: rest =>
    match ({ r with tokens := rest } : Reader).optionalScalar? ends with
    | none => none
    | some (key, r₁) =>
      match r₁.entryValue? ends with
      | none => none
      | some (value, r₂) =>
        if r₂.tokens.length < r.tokens.length then r₂.blockEntries? ((key, value) :: pairs) else none
  | _ => none
termination_by r.tokens.length

/-- Reads one entry of a flow mapping; one without a key mark has no value. -/
def Reader.flowEntry? (r : Reader) : Option ((List Char × List Char) × Reader) :=
  match r.tokens with
  | .key :: rest => do
    let (key, r) ← ({ r with tokens := rest } : Reader).optionalScalar? [.value, .entry, .flowEnd]
    let (value, r) ← r.entryValue? [.entry, .flowEnd]
    return ((key, value), r)
  | _ => r.scalar?.map fun (key, r) => ((key, []), r)

/-- Reads the entries of a flow mapping and its end; a comma may follow the last. -/
def Reader.flowEntries? (r : Reader) (pairs : Pairs) : Option (Pairs × Reader) :=
  match r.tokens with
  | .flowEnd :: rest => some (pairs.reverse, { r with tokens := rest })
  | _ =>
    match r.flowEntry? with
    | none => none
    | some (pair, r₁) =>
      match r₁.tokens with
      | .flowEnd :: rest => some ((pair :: pairs).reverse, { r₁ with tokens := rest })
      | .entry :: rest =>
        let r₂ := { r₁ with tokens := rest }
        if r₂.tokens.length < r.tokens.length then r₂.flowEntries? (pair :: pairs) else none
      | _ => none
termination_by r.tokens.length

/-- Whether a scalar that is the whole document is null, given its tag. -/
def isNullDocument (tag : Option (List Char)) (text : List Char) (plain : Bool) : Bool :=
  let null := ["null", "Null", "NULL", "~"].contains (String.ofList text)
  match tag with
  | none => plain && (text.isEmpty || null)
  | some tag => String.ofList tag == "tag:yaml.org,2002:null" && null

/-- Reads the node that is the whole document. A mapping may have no tag of the application's own. -/
def Reader.root? (r : Reader) : Option (Pairs × Reader) := do
  let (p, ts) := readProperties r.tokens
  let tag ← p.resolveTag? r.handles
  let anchors := match p.anchor with
    | some name => r.anchors.define name none
    | none => r.anchors
  let isOwn := tag.any fun t => t.head? = some '!'
  match ts with
  | .mappingStart :: rest =>
    if isOwn then none else ({ r with tokens := rest, anchors := anchors } : Reader).blockEntries? []
  | .flowStart :: rest =>
    if isOwn then none else ({ r with tokens := rest, anchors := anchors } : Reader).flowEntries? []
  | .scalar text plain :: rest =>
    if isNullDocument tag text plain then some ([], { r with tokens := rest }) else none
  | _ =>
    if ts.length < r.tokens.length && isNullDocument tag [] true then some ([], { r with tokens := ts })
    else none

/-- Reads the directives before a document: one version at most, and each handle once. -/
def readDirectives? (versionSeen : Bool) (handles : Handles) :
    List Token → Option (Handles × List Token)
  | .version major minor :: rest =>
    if versionSeen || major != 1 || !(minor == 1 || minor == 2) then none
    else readDirectives? true handles rest
  | .handle name expansion :: rest =>
    if (handles.lookup name).isSome then none
    else readDirectives? versionSeen ((name, expansion) :: handles) rest
  | ts => some (handles, ts)

/-- Whether a token begins a document after its directives. -/
def isDirective : Token → Bool
  | .version _ _ | .handle _ _ => true
  | _ => false

/-- Whether a document that has been started is empty before these tokens. -/
def endsDocument : List Token → Bool
  | [] => true
  | t :: _ => isDirective t || t = .documentStart || t = .documentEnd

/-- The pairs of the one document that the tokens make up. -/
def pairs? (ts : List Token) : Option Pairs := do
  let (own, rest) ← readDirectives? false [] ts
  let handles := own ++ defaultHandles
  let (pairs, rest) ←
    match rest with
    | .documentStart :: rest =>
      if endsDocument rest then some ([], rest)
      else (Reader.root? ⟨rest, handles, {}⟩).map fun (pairs, r) => (pairs, r.tokens)
    | _ =>
      if rest.length < ts.length then none
      else (Reader.root? ⟨rest, handles, {}⟩).map fun (pairs, r) => (pairs, r.tokens)
  if rest.all (· = .documentEnd) then return pairs else none

/-- The pairs of the flat mapping that a stream holds. -/
def read? (text : List Char) : Option Pairs :=
  (tokens? text).bind pairs?

end NameLint.Config.Yaml

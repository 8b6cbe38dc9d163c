import NameLint.Proofs.Statement.Types

/-!
# Declarators

A declaration of variables begins with a type. Behind it stand declarators between commas, each with its
pointers, a name, array bounds or a width, and a value. Every one of them is found unless one in front of it
leaves angle brackets open, which only the width of a bit-field can do.
-/

namespace NameLint.Declaration

open NameLint.Source

variable {ts us front : List Token} {n : Nesting} {t : Token} {q : Token → Bool}

/-- Whether a token stands between a type and a name. -/
def isPointer (t : Token) : Bool := isOneOf ["*", "&"] t || t.isWord "const"

/-- How much room a variable takes: array bounds, if any, or the width of a bit-field. -/
inductive Extent : List Token → Prop
  | bounds {ts : List Token} (bracketed : Bracketed false (·.isMark "[") ts) : Extent ts
  | width {colon : Token} {ts : List Token} (isColon : colon.isMark ":" = true)
      (bracketed : Bracketed false notComma ts) : Extent (colon :: ts)

/-- The value of a variable, if it has one: braces, or tokens behind an equals sign. -/
inductive InitialValue : List Token → Prop
  | none : InitialValue []
  | braces {group : Token} (isGroup : group.kind = .group) : InitialValue [group]
  | assigned {equals : Token} {ts : List Token} (isEquals : equals.isMark "=" = true)
      (bracketed : Bracketed false notComma ts) : InitialValue (equals :: ts)

/-- The declarator of a variable. -/
structure VariableDeclarator where
  pointers : List Token
  name : Token
  extent : List Token
  value : List Token
  pointing : ∀ t ∈ pointers, isPointer t = true
  isName : name.isName = true
  isExtent : Extent extent
  isValue : InitialValue value

theorem isTypeToken_of_isPointer (h : isPointer t = true) :
    isTypeToken t = true ∧ isBracket true t = false := by
  simp only [isPointer, isOneOf, Token.isWord, List.contains_eq_mem, List.mem_cons, List.not_mem_nil, or_false,
    Bool.or_eq_true, Bool.and_eq_true, decide_eq_true_eq, beq_iff_eq] at h
  rcases h with ⟨hkind, htext | htext⟩ | ⟨hkind, htext⟩ <;>
    simp [isTypeToken, isOneOf, isBracket, Token.isMark, hkind, htext]

theorem beginsDropped_of_isPointer (h : isPointer t = true) (next : Token) : beginsDropped t next = false := by
  simp only [isPointer, isOneOf, Token.isWord, List.contains_eq_mem, List.mem_cons, List.not_mem_nil, or_false,
    Bool.or_eq_true, Bool.and_eq_true, decide_eq_true_eq, beq_iff_eq] at h
  rcases h with ⟨hkind, htext | htext⟩ | ⟨hkind, htext⟩ <;>
    simp [beginsDropped, isAttributeWord, Token.isMark, Token.isWord, hkind, htext]

theorem bracketed_pointers {pointers : List Token} (h : ∀ t ∈ pointers, isPointer t = true) :
    Bracketed true isTypeToken pointers :=
  .of_plain fun t ht => isTypeToken_of_isPointer (h t ht)

theorem isQualified_append_pointers {pointers : List Token} (h : ∀ t ∈ pointers, isPointer t = true)
    (hts : isQualified ts = false) : isQualified (ts ++ pointers) = false := by
  rcases List.eq_nil_or_concat pointers with rfl | ⟨leading, last, rfl⟩
  · rwa [List.append_nil]
  · have hlast := h last (by simp)
    simp only [isPointer, isOneOf, Token.isWord, List.contains_eq_mem, List.mem_cons, List.not_mem_nil,
      or_false, Bool.or_eq_true, Bool.and_eq_true, decide_eq_true_eq, beq_iff_eq] at hlast
    rcases hlast with ⟨-, htext | htext⟩ | ⟨-, htext⟩ <;> simp [isQualified, isOneOf, htext]

theorem Extent.bracketed {extent : List Token} (h : Extent extent) : Bracketed false notComma extent := by
  cases h with
  | bounds bracketed => exact bracketed.mono fun t ht => by simp [notComma, Token.not_isMark ht]
  | width isColon bracketed =>
      exact .token (by simp [notComma, Token.not_isMark isColon])
        (isBracket_false_of_isMark isColon (by decide)) bracketed

namespace InitialValue

variable {value : List Token}

theorem bracketed (h : InitialValue value) : Bracketed false notComma value := by
  cases h with
  | none => exact .nil
  | braces isGroup =>
      exact .token (by simp [notComma, Token.isMark, isGroup]) (by simp [isBracket, Token.isMark, isGroup]) .nil
  | assigned isEquals bracketed =>
      exact .token (by simp [notComma, Token.not_isMark isEquals])
        (isBracket_false_of_isMark isEquals (by decide)) bracketed

theorem not_isGroupStart (h : InitialValue value) : value.head?.any isGroupStart = false := by
  cases h with
  | none => rfl
  | braces isGroup => simp [isGroupStart, Token.isMark, isGroup]
  | assigned isEquals bracketed => simp [isGroupStart, Token.not_isMark isEquals]

theorem endsDeclarator_normalize (h : InitialValue value) :
    ∀ t ∈ (normalize value).head?, endsDeclarator t = true := by
  cases h with
  | none => simp [normalize]
  | braces isGroup => simp [normalize, endsDeclarator, isGroup]
  | assigned isEquals bracketed =>
      rw [normalize_cons fun _ _ => beginsDropped_of_isMark isEquals (by simp [Token.not_isMark isEquals])]
      rintro t ⟨⟩
      exact endsDeclarator_of_isMark isEquals (by decide)

end InitialValue

namespace VariableDeclarator

/-- What stands behind the name. -/
def tail (d : VariableDeclarator) : List Token := d.extent ++ d.value

/-- The tokens of a declarator. -/
def tokens (d : VariableDeclarator) : List Token := d.pointers ++ d.name :: d.tail

/-- Whether everything is closed behind a declarator, as angle brackets are counted. -/
def isClosed (d : VariableDeclarator) : Bool := (nesting d.tail).isTop

variable (d : VariableDeclarator)

theorem bracketed_tail : Bracketed false notComma d.tail :=
  d.isExtent.bracketed.append d.isValue.bracketed

theorem name_kind : d.name.kind = .word := Token.kind_of_isName d.isName

theorem bracketed_name_tail : Bracketed false notComma (d.name :: d.tail) :=
  .token (by simp [notComma, Token.isMark, d.name_kind]) (by simp [isBracket, Token.isMark, d.name_kind])
    d.bracketed_tail

theorem bracketed_tokens : Bracketed false notComma d.tokens := by
  refine Bracketed.append (.of_plain fun t ht => ?_) d.bracketed_name_tail
  obtain ⟨htype, hbracket⟩ := isTypeToken_of_isPointer (d.pointing t ht)
  refine ⟨by simp [notComma, isMark_of_isTypeToken htype], ?_⟩
  simp only [isBracket, Bool.or_eq_false_iff] at hbracket ⊢
  simp [hbracket.1]

theorem not_isGroupStart_tail : d.tail.head?.any isGroupStart = false := by
  have hvalue := d.isValue.not_isGroupStart
  rw [tail]
  cases hextent : d.extent with
  | nil => simpa using hvalue
  | cons t ts =>
      have h := d.isExtent
      rw [hextent] at h
      have hmark : t.isMark "[" = true ∨ t.isMark ":" = true := by
        cases h with
        | bounds bracketed => exact .inl (bracketed.allowed_of_mem_head? rfl)
        | width isColon => exact .inr isColon
      rcases hmark with hmark | hmark <;> simp [isGroupStart, Token.not_isMark hmark]

/-- Attributes are dropped behind the name only. -/
theorem normalize_tokens : normalize d.tokens = d.pointers ++ d.name :: normalize d.tail := by
  have hname : ∀ next ∈ d.tail.head?, beginsDropped d.name next = false := by
    intro next hnext
    have hstart := d.not_isGroupStart_tail
    rw [Option.mem_def.mp hnext, Option.any_some, isGroupStart, Bool.or_eq_false_iff] at hstart
    have hsquare : d.name.isMark "[" = false := by simp [Token.isMark, d.name_kind]
    simp [beginsDropped, hsquare, hstart]
  rw [tokens, normalize_append_of_forall fun t ht => beginsDropped_of_isPointer (d.pointing t ht),
    normalize_cons hname]

variable {d}

/-- Behind the name stands what ends a declarator. -/
theorem endsDeclarator_normalize (hheaderless : Headerless d.tail) :
    ∀ t ∈ (normalize d.tail).head?, endsDeclarator t = true := by
  have hvalue := d.isValue.endsDeclarator_normalize
  rw [tail] at hheaderless ⊢
  generalize hextent : d.extent = extent at hheaderless ⊢
  have h := d.isExtent
  rw [hextent] at h
  cases h with
  | bounds bracketed =>
      rw [bracketed.normalize_append hheaderless.left_of_append d.isValue.not_isGroupStart, List.head?_append]
      have hkept := (bracketed.thinned hheaderless.left_of_append).bracketed
      cases hhead : (normalize extent).head? with
      | none => simpa [hhead] using hvalue
      | some t =>
          rintro t ⟨⟩
          exact endsDeclarator_of_isMark (hkept.allowed_of_mem_head? hhead) (by decide)
  | width isColon bracketed =>
      rw [List.cons_append,
        normalize_cons fun _ _ => beginsDropped_of_isMark isColon (by simp [Token.not_isMark isColon])]
      rintro t ⟨⟩
      exact endsDeclarator_of_isMark isColon (by decide)

theorem nesting_normalize (hheaderless : Headerless d.tail) :
    nesting (normalize d.tokens) = nesting d.tail := by
  rw [normalize_tokens, nesting, List.foldl_append, (bracketed_pointers d.pointing).foldl_type rfl,
    List.foldl_cons, Nesting.after_of_kind_ne_mark _ (by simp [d.name_kind]),
    (d.bracketed_tail.thinned hheaderless).foldl_after, nesting]

/-- Behind a type, or nothing at all, a declarator declares its name. -/
theorem segmentVariable?_normalize (isFirst : Bool) (hheaderless : Headerless d.tail)
    (hfront : Bracketed true isTypeToken front) (hqualified : isQualified front = false)
    (htyped : isFirst = true → hasType front = true) :
    segmentVariable? isFirst (markTop {} (front ++ normalize d.tokens)) = some d.name := by
  have hwhole := hfront.append (bracketed_pointers d.pointing)
  rw [normalize_tokens, ← List.append_assoc, markTop_append, hwhole.foldl_type rfl, markTop,
    Nesting.after_of_kind_ne_mark _ (by simp [d.name_kind])]
  refine segmentVariable?_of_type hwhole d.isName (isQualified_append_pointers d.pointing hqualified)
    (fun h => ?_) (fun m hm => ?_)
  · rw [hasType, List.any_append, Bool.or_eq_true]
    exact .inl (htyped h)
  · have hends := endsDeclarator_normalize hheaderless
    generalize normalize d.tail = tail at hm hends
    cases tail with
    | nil => cases hm
    | cons t tail =>
        cases hm
        exact ⟨rfl, hends t rfl⟩

end VariableDeclarator

/-! ## Declarations -/

theorem length_variableDeclarators_le (ms : List Marked) :
    (variableDeclarators ms).length ≤ (splitCommas ms).length := by
  unfold variableDeclarators
  split
  · simp
  · rename_i first others hsplit
    split
    · simp
    · simpa [hsplit] using List.length_filterMap_le (segmentVariable? false) others

section Separated

variable {declarators : List VariableDeclarator}

theorem VariableDeclarator.bracketed_normalize (hheaderless : ∀ d ∈ declarators, Headerless d.tokens) :
    ∀ s ∈ declarators.map fun d => normalize d.tokens, Bracketed false notComma s := by
  rw [List.forall_mem_map]
  exact fun d hd => (d.bracketed_tokens.thinned (hheaderless d hd)).bracketed

theorem VariableDeclarator.headerless_tail (hheaderless : ∀ d ∈ declarators, Headerless d.tokens) :
    ∀ d ∈ declarators, Headerless d.tail :=
  fun d hd => (hheaderless d hd).right_of_append.tail

theorem VariableDeclarator.isTop_nesting_normalize {d : VariableDeclarator} (h : Headerless d.tail) :
    (nesting (normalize d.tokens)).isTop = d.isClosed := by
  rw [nesting_normalize h]
  rfl

/-- A declarator that leaves something open takes the comma behind it along, so that there are too few. -/
theorem length_variableDeclarators_lt (hfront : Bracketed true isTypeToken front)
    (hheaderless : ∀ d ∈ declarators, Headerless d.tokens)
    (h : Separated (declarators.map fun d => normalize d.tokens) us)
    (hopen : ∃ d ∈ declarators.dropLast, d.isClosed = false) :
    (variableDeclarators (markTop {} (front ++ us))).length < declarators.length := by
  obtain ⟨d, hd, hopen⟩ := hopen
  have htail := VariableDeclarator.headerless_tail hheaderless d ((List.dropLast_sublist _).mem hd)
  have hlt := h.length_splitCommas_lt (VariableDeclarator.bracketed_normalize hheaderless)
    ⟨normalize d.tokens, by
      rw [← List.map_dropLast]
      exact ⟨List.mem_map_of_mem hd, (VariableDeclarator.isTop_nesting_normalize htail).trans hopen⟩⟩
  rw [List.length_map] at hlt
  obtain ⟨first, others, hsplit⟩ := List.exists_cons_of_ne_nil (splitCommas_ne_nil (markTop {} us))
  have hlength : (splitCommas (markTop {} (front ++ us))).length = (splitCommas (markTop {} us)).length := by
    rw [markTop_append, hfront.foldl_type rfl,
      splitCommas_append_of_no_comma (hfront.isTopMark_type (by decide)) hsplit, hsplit, List.length_cons,
      List.length_cons]
  calc (variableDeclarators (markTop {} (front ++ us))).length
      ≤ (splitCommas (markTop {} (front ++ us))).length := length_variableDeclarators_le _
    _ = (splitCommas (markTop {} us)).length := hlength
    _ < declarators.length := hlt

/-- Behind a type, declarators of which all but the last are closed declare their names. -/
theorem variableDeclarators_of_closed (hfront : Bracketed true isTypeToken front)
    (htyped : hasType front = true) (hqualified : isQualified front = false)
    (hheaderless : ∀ d ∈ declarators, Headerless d.tokens)
    (h : Separated (declarators.map fun d => normalize d.tokens) us)
    (hclosed : ∀ d ∈ declarators.dropLast, d.isClosed = true) :
    variableDeclarators (markTop {} (front ++ us)) = declarators.map fun d => ⟨.variable, d.name⟩ := by
  have htail := VariableDeclarator.headerless_tail hheaderless
  have hsplit := h.splitCommas_eq
    (fun s hs => (VariableDeclarator.bracketed_normalize hheaderless s hs).not_isTopMark_comma {}) (by
      rw [← List.map_dropLast, List.forall_mem_map]
      intro d hd
      rw [VariableDeclarator.isTop_nesting_normalize (htail d ((List.dropLast_sublist _).mem hd)), hclosed d hd])
  cases declarators with
  | nil => exact absurd rfl h.ne_nil
  | cons d others =>
      rw [List.map_cons, List.map_cons, List.map_map] at hsplit
      have hfirst := VariableDeclarator.segmentVariable?_normalize true (htail d (by simp)) hfront
        hqualified fun _ => htyped
      have hothers : (others.map (markTop {} ∘ fun d => normalize d.tokens)).filterMap
          (segmentVariable? false) = others.map (·.name) := by
        rw [List.filterMap_map, ← List.filterMap_eq_map]
        exact List.filterMap_congr fun d hd =>
          VariableDeclarator.segmentVariable?_normalize false (htail d (by simp [hd])) .nil rfl nofun
      rw [markTop_append, hfront.foldl_type rfl] at hfirst
      rw [markTop_append, hfront.foldl_type rfl]
      simp only [variableDeclarators,
        splitCommas_append_of_no_comma (hfront.isTopMark_type (by decide)) hsplit, hfirst, hothers]
      simp

/-- Behind a type, declarators declare their names exactly if all but the last are closed. -/
theorem variableDeclarators_separated_iff (hfront : Bracketed true isTypeToken front)
    (htyped : hasType front = true) (hqualified : isQualified front = false)
    (hheaderless : ∀ d ∈ declarators, Headerless d.tokens)
    (h : Separated (declarators.map fun d => normalize d.tokens) us) :
    variableDeclarators (markTop {} (front ++ us)) = declarators.map (fun d => ⟨.variable, d.name⟩) ↔
      ∀ d ∈ declarators.dropLast, d.isClosed = true := by
  refine ⟨fun hdeclared d hd => ?_, variableDeclarators_of_closed hfront htyped hqualified hheaderless h⟩
  by_contra hopen
  have hlt := length_variableDeclarators_lt hfront hheaderless h ⟨d, hd, by simpa using hopen⟩
  rw [hdeclared, List.length_map] at hlt
  exact absurd hlt (Nat.lt_irrefl _)

end Separated

theorem VariableDeclarator.not_isGroupStart_append (d : VariableDeclarator) (us : List Token) :
    (d.tokens ++ us).head?.any isGroupStart = false := by
  cases hpointers : d.pointers with
  | nil => simp [tokens, hpointers, isGroupStart, Token.isMark, d.name_kind]
  | cons t pointers =>
      have hbracket := (isTypeToken_of_isPointer (d.pointing t (by simp [hpointers]))).2
      simp only [isBracket, Bool.true_and, Bool.or_eq_false_iff] at hbracket
      simp [tokens, hpointers, isGroupStart, hbracket]

/-- Where nothing is open, a token that is no bracket opens nothing, except for template arguments. -/
theorem Nesting.isTop_after (hn : n.isTop = true) (plain : isBracket false t = false)
    (hless : t.isMark "<" = false ∨ n.inInitializer = true) : (n.after t).isTop = true := by
  simp only [isBracket, Bool.false_and, Bool.or_false, Bool.or_eq_false_iff] at plain
  obtain ⟨⟨⟨hopenRound, hcloseRound⟩, hopenSquare⟩, hcloseSquare⟩ := plain
  simp only [isTop, Bool.and_eq_true, decide_eq_true_eq] at hn
  rw [after_eq]
  split_ifs <;> simp_all [isTop]

theorem Nesting.inInitializer_after (hn : n.inInitializer = true) (hcomma : t.isMark "," = false) :
    (n.after t).inInitializer = true := by
  rw [after_eq]
  split_ifs <;> simp_all

/-- Tokens with closed brackets leave nothing open, unless an angle bracket in them opens template arguments. -/
theorem Bracketed.isTop_foldl (h : Bracketed false q ts) (hn : n.isTop = true)
    (hless : (∀ m ∈ markTop n ts, m.isTopMark "<" = false) ∨
      n.inInitializer = true ∧ ∀ t, q t = true → t.isMark "," = false) :
    (ts.foldl Nesting.after n).isTop = true := by
  generalize hangled : false = angled at h
  induction h generalizing n with
  | nil => exact hn
  | @token _ q t ts allowed plain more ih =>
      subst hangled
      rw [markTop, List.forall_mem_cons] at hless
      refine ih (Nesting.isTop_after hn plain (hless.imp ?_ And.left)) (hless.imp And.right ?_) rfl
      · rintro ⟨hless, -⟩
        simpa [Marked.isTopMark, hn] using hless
      · rintro ⟨hvalue, hcomma⟩
        exact ⟨Nesting.inInitializer_after hvalue (hcomma t allowed), hcomma⟩
  | @group _ _ opening closing inner ts allowed pair inside more _ ih =>
      rw [(inside.markTop_group pair n ts).1]
      refine ih hn (hless.imp_left fun hless m hm => hless m ?_) hangled
      rw [(inside.markTop_group pair n ts).2]
      simp [hm]
  | arguments => cases hangled

/-- Only the width of a bit-field can leave angle brackets open. -/
theorem VariableDeclarator.isClosed_of_extent (d : VariableDeclarator)
    (h : ∀ m ∈ markTop {} d.extent, m.isTopMark "<" = false) : d.isClosed = true := by
  have hextent : (d.extent.foldl Nesting.after {}).isTop = true :=
    d.isExtent.bracketed.isTop_foldl rfl (.inl h)
  rw [isClosed, nesting, tail, List.foldl_append]
  generalize d.extent.foldl Nesting.after {} = n at hextent ⊢
  generalize hvalue : d.value = value
  have hvalue := hvalue ▸ d.isValue
  cases hvalue with
  | none => exact hextent
  | braces isGroup => rwa [List.foldl_cons, Nesting.after_of_kind_ne_mark _ (by simp [isGroup])]
  | @assigned equals ts isEquals bracketed =>
      have hafter : n.after equals = { n with inInitializer := true } := by
        rw [Nesting.after_eq, hextent]
        simp [Token.not_isMark isEquals, isEquals]
      rw [List.foldl_cons, hafter]
      exact bracketed.isTop_foldl hextent (.inr ⟨rfl, fun t ht => by simpa [notComma] using ht⟩)

/-- A linkage, a type and declarators declare as many variables as they have declarators, unless one of them in
front of another leaves angle brackets open, which only the width of a bit-field can do. -/
theorem classifyStatement_declarators_iff {linkage specifiers rest : List Token}
    {declarators : List VariableDeclarator} (site : Site) (hlinkage : IsLinkage linkage)
    (hspecifiers : TypeSpecifier specifiers) (hrest : Separated (declarators.map (·.tokens)) rest)
    (hheaderless : Headerless rest) (hoperator : ∀ t ∈ specifiers ++ rest, t.isWord "operator" = false)
    (hparen : Unparenthesized (markTop {} (specifiers ++ rest))) :
    (classifyStatement (linkage ++ specifiers ++ rest) site = declarators.map (fun d => ⟨.variable, d.name⟩) ↔
        ∀ d ∈ declarators.dropLast, d.isClosed = true) ∧
      ∀ d : VariableDeclarator, (∀ m ∈ markTop {} d.extent, m.isTopMark "<" = false) → d.isClosed = true := by
  refine ⟨?_, VariableDeclarator.isClosed_of_extent⟩
  have hsegments : ∀ s ∈ declarators.map (·.tokens), Bracketed false (fun _ => true) s := by
    rw [List.forall_mem_map]
    exact fun d _ => d.bracketed_tokens.unangled
  have hstart : rest.head?.any isGroupStart = false := by
    cases declarators with
    | nil => exact absurd rfl hrest.ne_nil
    | cons d others =>
        obtain ⟨us, rfl⟩ := hrest.exists_append
        exact d.not_isGroupStart_append us
  obtain ⟨hbracketed, htyped, hqualified, hdeclares⟩ := hspecifiers.normalize
  -- What stands in front of the first value keeps clear of parentheses when attributes are dropped.
  have hmarks : Unparenthesized (markTop {} (normalize specifiers ++ normalize rest)) := by
    rw [markTop_append, hspecifiers.bracketed.foldl_type rfl] at hparen
    rw [markTop_append, hbracketed.foldl_type rfl]
    refine (hspecifiers.bracketed.thinned hspecifiers.headerless).unparenthesized_append {}
      (((hrest.bracketed hsegments).thinned hheaderless).unparenthesized {}) hparen
  have hnormalized : classifyStatement (linkage ++ specifiers ++ rest) site =
      variableDeclarators (markTop {} (normalize specifiers ++ normalize rest)) := by
    rw [classifyStatement, List.append_assoc, withoutLinkage_linkage hlinkage hspecifiers hstart]
    refine declaredBy_of_unparenthesized_marks hmarks ?_ ?_
    · rw [List.any_eq_false]
      intro t ht
      simpa using hoperator t
        (((normalize_sublist specifiers).append (normalize_sublist rest)).mem ht)
    · rw [List.head?_append_of_ne_nil _ (fun hnil => by simp [hnil, hasType] at htyped), hdeclares]
  rw [hnormalized]
  refine variableDeclarators_separated_iff hbracketed htyped hqualified (fun d hd => ?_) ?_
  · exact hrest.headerless hheaderless _ (List.mem_map_of_mem hd)
  · simpa [Function.comp_def] using hrest.normalize hsegments hheaderless

/-- The first declarator in `int *a[2] = f(x, y), b : 3`. -/
def boundedDeclarator : VariableDeclarator where
  pointers := [⟨.mark, "*", ⟨1, 5⟩⟩]
  name := ⟨.word, "a", ⟨1, 6⟩⟩
  extent := ⟨.mark, "[", ⟨1, 7⟩⟩ :: [⟨.literal, "2", ⟨1, 8⟩⟩] ++ ⟨.mark, "]", ⟨1, 9⟩⟩ :: []
  value := ⟨.mark, "=", ⟨1, 11⟩⟩ :: ⟨.word, "f", ⟨1, 13⟩⟩ ::
    (⟨.mark, "(", ⟨1, 14⟩⟩ :: [⟨.word, "x", ⟨1, 15⟩⟩, ⟨.mark, ",", ⟨1, 16⟩⟩, ⟨.word, "y", ⟨1, 18⟩⟩] ++
      ⟨.mark, ")", ⟨1, 19⟩⟩ :: [])
  pointing := by decide
  isName := by decide
  isExtent := .bounds (.group rfl (by decide) (.of_plain (by decide)) .nil)
  isValue := .assigned rfl (.token rfl (by decide) (.group rfl (by decide) (.of_plain (by decide)) .nil))

/-- The second declarator in `int *a[2] = f(x, y), b : 3`. -/
def widthDeclarator : VariableDeclarator where
  pointers := []
  name := ⟨.word, "b", ⟨1, 22⟩⟩
  extent := [⟨.mark, ":", ⟨1, 24⟩⟩, ⟨.literal, "3", ⟨1, 26⟩⟩]
  value := []
  pointing := by decide
  isName := by decide
  isExtent := .width rfl (.of_plain (by decide))
  isValue := .none

/-- A comma between arguments separates no declarators. -/
theorem classifyStatement_declarators_bound_and_width :
    classifyStatement (tokens "int *a[2] = f(x, y), b : 3") .global =
      [boundedDeclarator, widthDeclarator].map fun d => ⟨.variable, d.name⟩ := by
  have htokens : tokens "int *a[2] = f(x, y), b : 3" = [] ++ [⟨.word, "int", ⟨1, 1⟩⟩] ++
      (boundedDeclarator.tokens ++ ⟨.mark, ",", ⟨1, 20⟩⟩ :: widthDeclarator.tokens) := by
    decide +kernel
  have hrest : Separated ([boundedDeclarator, widthDeclarator].map (·.tokens))
      (boundedDeclarator.tokens ++ ⟨.mark, ",", ⟨1, 20⟩⟩ :: widthDeclarator.tokens) :=
    .cons (by decide) _ (.single _)
  have hspecifiers : TypeSpecifier [⟨.word, "int", ⟨1, 1⟩⟩] := typeSpecifier_of_words (by decide) (by decide)
  obtain ⟨hiff, hclosed⟩ := classifyStatement_declarators_iff .global (.inl rfl) hspecifiers hrest
    (by decide) (by decide) (by decide)
  rw [htokens]
  refine hiff.mpr fun d hd => hclosed d ?_
  obtain rfl : d = boundedDeclarator := by simpa using hd
  decide

/-- A shift in a width hides the comma behind it. -/
theorem classifyStatement_declarators_shifted_width :
    classifyStatement (tokens "unsigned a : 1 << 2, b : 3") .global =
      [⟨.variable, ⟨.word, "a", ⟨1, 10⟩⟩⟩] := by
  decide +kernel

end NameLint.Declaration

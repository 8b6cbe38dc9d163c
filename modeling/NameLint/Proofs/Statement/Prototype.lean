import NameLint.Proofs.Statement.Types

/-!
# Prototypes

A name behind a type with parameters in parentheses declares a function, unless a parameter holds something that
stands in expressions only. Then the parentheses are taken for the value of a variable.
-/

namespace NameLint.Declaration

open NameLint.Source

variable {type inner more : List Token} {f t opening closing : Token}

/-! ## Parameters -/

/-- Whether a word names a type by itself. -/
def isTypeWord (t : Token) : Bool := t.isName || t.kind = .word && isBuiltinType t.text

/-- At most an array bound: a literal in square brackets. -/
def IsBound (ts : List Token) : Prop :=
  ts = [] ∨ ∃ opening size closing, ts = [opening, size, closing] ∧ opening.isMark "[" = true ∧
    size.kind = .literal ∧ closing.isMark "]" = true

/-- The declaration of a parameter: a word for its type, template arguments and pointers behind it, the dots of
a pack, a name, and an array bound. -/
structure Parameter where
  qualifiers : List Token
  typeWord : Token
  more : List Token
  dots : List Token
  name : Token
  bound : List Token
  qualifying : ∀ t ∈ qualifiers, t.isWord "const" = true
  isTypeWord : isTypeWord typeWord = true
  bracketed : Bracketed true isTypeToken more
  unparenthesized : ∀ t ∈ more, t.isMark "(" = false
  dotted : ∀ t ∈ dots, t.isMark "." = true
  isName : name.isName = true
  isBound : IsBound bound

/-- Whether a token stands in a parameter outside of template arguments and its bound. -/
def isParameterToken (t : Token) : Bool := isTypeToken t || isOneOf [".", "["] t

theorem isMark_of_isParameterToken {text : String} (h : isParameterToken t = true)
    (htext : text ∉ ["::", "<", "*", "&", ".", "["]) : t.isMark text = false := by
  simp only [isParameterToken, isTypeToken, isOneOf, List.contains_eq_mem, Bool.or_eq_true, Bool.and_eq_true,
    decide_eq_true_eq] at h
  simp only [Token.isMark, Bool.and_eq_false_iff, decide_eq_false_iff_not, beq_eq_false_iff_ne]
  grind

/-- No word for a type begins a template header, and no name. -/
theorem not_template_of_isTypeWord (h : isTypeWord t = true) : t.isWord "template" = false := by
  by_contra htemplate
  simp only [Bool.not_eq_false, Token.isWord, Bool.and_eq_true, decide_eq_true_eq, beq_iff_eq] at htemplate
  simp [isTypeWord, Token.isName, htemplate, isKeyword, keywords, isBuiltinType, builtinTypes] at h

theorem beginsDropped_of_isTypeWord {next : Token} (h : isTypeWord t = true) (hkind : t.kind = .word)
    (hnext : next.isMark "(" = false) : beginsDropped t next = false := by
  have hsquare : t.isMark "[" = false := by simp [Token.isMark, hkind]
  simp [beginsDropped, hsquare, hnext, not_template_of_isTypeWord h]

theorem isTypeWord_of_isName (h : t.isName = true) : isTypeWord t = true := by
  simp [isTypeWord, h]

namespace Parameter

variable (d : Parameter)

/-- The tokens of a parameter, with these behind the word for its type. -/
def tokensWith (more : List Token) : List Token :=
  d.qualifiers ++ d.typeWord :: (more ++ (d.dots ++ d.name :: d.bound))

/-- The tokens of a parameter. -/
def tokens : List Token := d.tokensWith d.more

theorem typeWord_kind : d.typeWord.kind = .word := by
  have h := d.isTypeWord
  simp only [Declaration.isTypeWord, Bool.or_eq_true, Bool.and_eq_true, decide_eq_true_eq] at h
  exact h.elim Token.kind_of_isName And.left

theorem name_kind : d.name.kind = .word := Token.kind_of_isName d.isName

theorem bracketed_bound : Bracketed true isParameterToken d.bound := by
  rcases d.isBound with h | ⟨opening, size, closing, h, hopening, hsize, hclosing⟩ <;> rw [h]
  · exact .nil
  · have pair : isBracketPair opening closing = true := by simp [isBracketPair, hopening, hclosing]
    have hplain : isBracket false size = false := by simp [isBracket, Token.isMark, hsize]
    have hallowed : isParameterToken opening = true := by
      simp [isParameterToken, isOneOf, Token.kind_of_isMark hopening, Token.isMark_text hopening]
    exact .group hallowed pair (.token rfl hplain .nil) .nil

theorem bracketed_tokensWith (h : Bracketed true isTypeToken more) :
    Bracketed true isParameterToken (d.tokensWith more) := by
  have hword : ∀ t : Token, t.kind = .word → isParameterToken t = true ∧ isBracket true t = false := by
    intro t ht
    simp [isParameterToken, isTypeToken, isBracket, Token.isMark, ht]
  have hname := hword d.name d.name_kind
  have hdots : ∀ t ∈ d.dots, isParameterToken t = true ∧ isBracket true t = false := by
    intro t ht
    have hdot := d.dotted t ht
    simp [isParameterToken, isOneOf, isBracket, Token.not_isMark hdot, Token.kind_of_isMark hdot,
      Token.isMark_text hdot]
  have hqualifiers : ∀ t ∈ d.qualifiers, isParameterToken t = true ∧ isBracket true t = false := by
    intro t ht
    have hconst := d.qualifying t ht
    simp only [Token.isWord, Bool.and_eq_true, decide_eq_true_eq] at hconst
    exact hword t hconst.1
  have htypeWord := hword d.typeWord d.typeWord_kind
  exact Bracketed.append (.of_plain hqualifiers) (.token htypeWord.1 htypeWord.2
    ((h.mono fun t ht => by simp [isParameterToken, ht]).append
      (Bracketed.append (.of_plain hdots) (.token hname.1 hname.2 d.bracketed_bound))))

theorem normalize_bound :
    normalize d.bound = d.bound ∧ ∀ next ∈ d.bound.head?, next.isMark "(" = false := by
  rcases d.isBound with h | ⟨opening, size, closing, h, hopening, hsize, hclosing⟩ <;> rw [h]
  · simp [normalize]
  · have hmark : size.isMark "[" = false := by simp [Token.isMark, hsize]
    have hfirst : beginsDropped opening size = false := beginsDropped_of_isMark hopening fun _ => hmark
    have hsecond : beginsDropped size closing = false := by
      simp [beginsDropped, isAttributeWord, Token.isWord, hmark, hsize]
    refine ⟨normalize_of_isChain (by simp [hfirst, hsecond]), ?_⟩
    rintro next ⟨⟩
    exact Token.not_isMark hopening (by decide)

theorem not_isGroupStart_dots : (d.dots ++ d.name :: d.bound).head?.any isGroupStart = false := by
  cases hdots : d.dots with
  | nil => simp [isGroupStart, Token.isMark, d.name_kind]
  | cons t dots => simp [isGroupStart, Token.not_isMark (d.dotted t (by simp [hdots]))]

/-- No parenthesis stands behind the word for the type, so that it is no attribute. -/
theorem beginsDropped_typeWord :
    ∀ next ∈ (d.more ++ (d.dots ++ d.name :: d.bound)).head?, beginsDropped d.typeWord next = false := by
  refine fun next hnext => beginsDropped_of_isTypeWord d.isTypeWord d.typeWord_kind ?_
  cases hmore : d.more with
  | nil =>
      have hstart := d.not_isGroupStart_dots
      rw [hmore, List.nil_append, Option.mem_def] at hnext
      rw [hnext, Option.any_some, isGroupStart, Bool.or_eq_false_iff] at hstart
      exact hstart.1
  | cons first more =>
      rw [hmore] at hnext
      cases hnext
      exact d.unparenthesized next (by simp [hmore])

/-- Attributes are dropped from template arguments only. -/
theorem normalize_tokens (h : Headerless d.more) : normalize d.tokens = d.tokensWith (normalize d.more) := by
  have hconst : ∀ t ∈ d.qualifiers, ∀ next, beginsDropped t next = false := by
    intro t ht next
    have hword := d.qualifying t ht
    simp only [Token.isWord, Bool.and_eq_true, decide_eq_true_eq, beq_iff_eq] at hword
    simp [beginsDropped, isAttributeWord, Token.isMark, Token.isWord, hword]
  have hdots : ∀ t ∈ d.dots, ∀ next, beginsDropped t next = false := by
    intro t ht next
    exact beginsDropped_of_isMark (d.dotted t ht) (by simp [Token.not_isMark (d.dotted t ht)])
  obtain ⟨hbound, hparen⟩ := d.normalize_bound
  have hname : ∀ next ∈ d.bound.head?, beginsDropped d.name next = false := fun next hnext =>
    beginsDropped_of_isTypeWord (isTypeWord_of_isName d.isName) d.name_kind (hparen next hnext)
  rw [tokens, tokensWith, normalize_append_of_forall hconst, normalize_cons d.beginsDropped_typeWord,
    d.bracketed.normalize_append h d.not_isGroupStart_dots, normalize_append_of_forall hdots,
    normalize_cons hname, hbound]
  rfl

theorem unparenthesized_tokensWith (h : ∀ t ∈ more, t.isMark "(" = false) :
    ∀ t ∈ d.tokensWith more, t.isMark "(" = false := by
  have hword : ∀ t : Token, t.kind = .word → t.isMark "(" = false := by
    intro t ht
    simp [Token.isMark, ht]
  have hbound : ∀ t ∈ d.bound, t.isMark "(" = false := by
    rcases d.isBound with h | ⟨opening, size, closing, h, hopening, hsize, hclosing⟩ <;> rw [h]
    · exact nofun
    · have hmark : size.isMark "(" = false := by simp [Token.isMark, hsize]
      simp [Token.not_isMark hopening, Token.not_isMark hclosing, hmark]
  simp only [tokensWith, List.forall_mem_append, List.forall_mem_cons]
  refine ⟨fun t ht => hword t ?_, hword _ d.typeWord_kind, h,
    fun t ht => Token.not_isMark (d.dotted t ht) (by decide), hword _ d.name_kind, hbound⟩
  have hconst := d.qualifying t ht
  simp only [Token.isWord, Bool.and_eq_true, decide_eq_true_eq] at hconst
  exact hconst.1

/-- A parameter has two names, or a built-in type. -/
theorem declares_tokensWith (more : List Token) :
    (d.tokensWith more).any isDeclarationToken = true ∨
      2 ≤ ((d.tokensWith more).filter (·.isName)).length := by
  have hsub : [d.typeWord, d.name].Sublist (d.tokensWith more) := by
    have hname : [d.name].Sublist (more ++ (d.dots ++ d.name :: d.bound)) :=
      List.singleton_sublist.mpr (by simp)
    exact (hname.cons_cons d.typeWord).trans (List.sublist_append_right _ _)
  by_cases hname : d.typeWord.isName = true
  · right
    have hle := (hsub.filter (·.isName)).length_le
    simpa [hname, d.isName] using hle
  · left
    rw [List.any_eq_true]
    refine ⟨d.typeWord, hsub.mem (by simp), ?_⟩
    simp only [Token.isName, d.typeWord_kind, decide_true, Bool.true_and, Bool.not_eq_true', Bool.not_eq_false]
      at hname
    simp [isDeclarationToken, d.typeWord_kind, hname]

/-- A parameter reads as one, unless something in it stands in expressions only. -/
theorem entryShape_tokensWith (h : ∀ t ∈ more, t.isMark "(" = false) :
    entryShape (d.tokensWith more) =
      if (d.tokensWith more).any isExpressionToken then .initializer else .parameters := by
  have hmem : d.typeWord ∈ d.tokensWith more := by simp [tokensWith]
  have hempty : (d.tokensWith more).isEmpty = false := by
    rw [List.isEmpty_eq_false_iff_exists_mem]
    exact ⟨_, hmem⟩
  have hdots : (d.tokensWith more).all (·.isMark ".") = false := by
    rw [List.all_eq_false]
    exact ⟨_, hmem, by simp [Token.isMark, d.typeWord_kind]⟩
  have hparen : (d.tokensWith more).any (·.isMark "(") = false := by
    rw [List.any_eq_false]
    exact fun t ht => by simp [d.unparenthesized_tokensWith h t ht]
  have hdeclares := d.declares_tokensWith more
  rw [← decide_eq_true_eq (p := 2 ≤ _), ← Bool.or_eq_true] at hdeclares
  rw [entryShape, hempty, hdots, hparen, if_pos hdeclares]
  rfl

variable {d}

theorem bracketed_normalize (h : Headerless d.more) : Bracketed true isParameterToken (normalize d.tokens) := by
  rw [d.normalize_tokens h]
  exact d.bracketed_tokensWith (d.bracketed.thinned h).bracketed

theorem entryShape_normalize (h : Headerless d.more) :
    entryShape (normalize d.tokens) =
      if (normalize d.tokens).any isExpressionToken then .initializer else .parameters := by
  rw [d.normalize_tokens h]
  exact d.entryShape_tokensWith fun t ht => d.unparenthesized t ((normalize_sublist d.more).mem ht)

end Parameter

/-! ## Lists of parameters -/

theorem withoutDefault_markTop {ts : List Token} (h : ∀ m ∈ markTop {} ts, m.isTopMark "=" = false) :
    withoutDefault (markTop {} ts) = ts := by
  have hall : (markTop {} ts).takeWhile (fun m => !m.isTopMark "=") = markTop {} ts := by
    rw [List.takeWhile_eq_self_iff]
    exact fun m hm => by simp [h m hm]
  rw [withoutDefault, hall, tokensOf_markTop]

variable {parameters : List Parameter}

theorem contains_initializer (reads : Parameter → Bool) :
    (parameters.map fun d => if reads d then Shape.initializer else .parameters).contains .initializer =
      parameters.any reads := by
  induction parameters with
  | nil => rfl
  | cons d parameters ih => cases h : reads d <;> simp [h, ← ih]

theorem contains_ambiguous (reads : Parameter → Bool) :
    (parameters.map fun d => if reads d then Shape.initializer else .parameters).contains .ambiguous =
      false := by
  induction parameters with
  | nil => rfl
  | cons d parameters ih => cases h : reads d <;> simpa [h] using ih

/-- A list of parameters reads as one, unless something in it stands in expressions only. -/
theorem listShape_parameters (hheaderless : ∀ d ∈ parameters, Headerless d.more)
    (h : Separated (parameters.map fun d => normalize d.tokens) inner) (hinner : inner ≠ []) :
    listShape inner = if parameters.any fun d => (normalize d.tokens).any isExpressionToken then .initializer
      else .parameters := by
  have hbracketed : ∀ d ∈ parameters, Bracketed true isParameterToken (normalize d.tokens) :=
    fun d hd => Parameter.bracketed_normalize (hheaderless d hd)
  have hequals : ∀ t, isParameterToken t = true → t.isMark "=" = false :=
    fun t ht => isMark_of_isParameterToken ht (by decide)
  have hcomma : ∀ s ∈ parameters.map fun d => normalize d.tokens,
      ∀ m ∈ markTop {} s, m.isTopMark "," = false := by
    rw [List.forall_mem_map]
    exact fun d hd => (hbracketed d hd).isTopMark_of_unassigned hequals
      fun t ht => isMark_of_isParameterToken ht (by decide)
  have hclosed : ∀ s ∈ (parameters.map fun d => normalize d.tokens).dropLast, (nesting s).isTop = true := by
    rw [← List.map_dropLast, List.forall_mem_map]
    intro d hd
    rw [nesting, (hbracketed d ((List.dropLast_sublist _).mem hd)).foldl_of_unassigned hequals rfl]
    rfl
  have hshape : ∀ d ∈ parameters, entryShape (withoutDefault (markTop {} (normalize d.tokens))) =
      if (normalize d.tokens).any isExpressionToken then .initializer else .parameters := by
    intro d hd
    rw [withoutDefault_markTop ((hbracketed d hd).isTopMark_of_unassigned hequals hequals)]
    exact Parameter.entryShape_normalize (hheaderless d hd)
  rw [listShape, if_neg (by simpa using hinner), h.splitCommas_eq hcomma hclosed]
  simp only [List.map_map, Function.comp_def, List.map_congr_left hshape, contains_initializer,
    contains_ambiguous]
  split <;> rfl

/-! ## Prototypes -/

theorem parenthesized?_of_parameters {before : List Token} (hname : f.isName = true)
    (htyped : hasType before = true)
    (hqualified : before.getLast?.any (isOneOf ["::", "~", ".", "->", ","]) = false)
    (hstart : inner.head?.any (isOneOf ["*", "&", "^"]) = false)
    (inside : Bracketed false (fun _ => true) inner)
    (hopening : opening.isMark "(" = true) (hclosing : closing.isMark ")" = true) :
    parenthesized? (before ++ [f]) (opening :: inner ++ [closing]) .global =
      match listShape inner with
      | .parameters => some ⟨.function, f⟩
      | .initializer => some ⟨.variable, f⟩
      | .ambiguous => none := by
  have hinner : insideParentheses (opening :: inner ++ [closing]) = inner := by
    rw [insideParentheses, List.cons_append, splitGroup_cons_opening 0 hopening,
      inside.splitGroup_closing (by decide) (Token.not_isMark hclosing (by decide)) hclosing]
    simp
  have hfunction : functionName? (before ++ [f]) .global = some f :=
    functionName?_eq_some_iff.mpr ⟨before, rfl, hname, hqualified, htyped, rfl⟩
  rw [parenthesized?_eq, hinner, hstart, hfunction]
  rfl

theorem not_operator_of_isName (h : f.isName = true) : f.isWord "operator" = false := by
  by_contra hword
  simp only [Bool.not_eq_false, Token.isWord, Bool.and_eq_true, decide_eq_true_eq, beq_iff_eq] at hword
  simp [Token.isName, hword, isKeyword, keywords] at h

/-- Behind a type and a name a parenthesis decides what is declared. -/
theorem declaredBy_parenthesis {before rest : List Token} {site : Site}
    (hbefore : Bracketed true isTypeToken before)
    (hdeclares : before.head?.any (isWordOf skippedHeads) = false) (hne : before ≠ [])
    (hname : f.isName = true) (hopening : opening.isMark "(" = true)
    (hoperator : (before ++ f :: opening :: rest).any (·.isWord "operator") = false) :
    declaredBy (before ++ f :: opening :: rest) site =
      (parenthesized? (before ++ [f]) (opening :: rest) site).toList := by
  have hkind := Token.kind_of_isName hname
  let after := markTop (({} : Nesting).after opening) rest
  have hmarks : markTop {} (before ++ f :: opening :: rest) =
      (markTop {} before ++ [⟨f, true⟩]) ++ ⟨opening, true⟩ :: after := by
    rw [markTop_append, hbefore.foldl_type rfl, markTop, Nesting.after_of_kind_ne_mark _ (by simp [hkind]),
      markTop]
    simp [Nesting.isTop, after]
  have hinterest : ∀ m ∈ markTop {} before ++ [⟨f, true⟩], (m.isTopMark "(" || m.isTopMark "=") = false := by
    rw [List.forall_mem_append]
    refine ⟨fun m hm => ?_, by simp [Marked.isTopMark, Token.isMark, hkind]⟩
    rw [hbefore.isTopMark_type (by decide) m hm, hbefore.isTopMark_type (by decide) m hm, Bool.or_self]
  have hfirst : firstOfInterest (markTop {} (before ++ f :: opening :: rest)) =
      some (markTop {} before ++ [⟨f, true⟩], ⟨opening, true⟩, after) := by
    rw [hmarks, firstOfInterest]
    exact cutAtFirst_append (cutAtFirst_eq_none_iff.mpr hinterest) (by simp [Marked.isTopMark, hopening]) _
  have htokens : tokensOf (markTop {} before ++ [⟨f, true⟩]) = before ++ [f] := by
    rw [tokensOf, List.map_append, ← tokensOf, tokensOf_markTop]
    rfl
  have hrest : tokensOf (⟨opening, true⟩ :: after) = opening :: rest := by
    rw [tokensOf, List.map_cons, ← tokensOf, tokensOf_markTop]
  simp only [declaredBy, hoperator, List.head?_append_of_ne_nil _ hne, hdeclares, hfirst, hopening, htokens,
    hrest]
  rfl

theorem Parameter.head_normalize {d : Parameter} (h : Headerless d.more) (us : List Token) :
    (normalize d.tokens ++ us).head?.any (isOneOf ["*", "&", "^"]) = false ∧ normalize d.tokens ≠ [] := by
  rw [d.normalize_tokens h, tokensWith]
  cases hqualifiers : d.qualifiers with
  | nil => simp [isOneOf, d.typeWord_kind]
  | cons t qualifiers =>
      have hconst := d.qualifying t (by simp [hqualifiers])
      simp only [Token.isWord, Bool.and_eq_true, decide_eq_true_eq] at hconst
      simp [isOneOf, hconst.1]

/-- A prototype: a type, a name, and in parentheses parameters with commas between them. -/
structure Prototype where
  type : List Token
  name : Token
  opening : Token
  parameters : List Parameter
  inner : List Token
  closing : Token
  isType : TypeSpecifier type
  isName : name.isName = true
  isNoAttribute : isAttributeWord name = false
  opens : opening.isMark "(" = true
  separated : Separated (parameters.map (·.tokens)) inner
  closes : closing.isMark ")" = true
  headerless : Headerless inner
  declares : ∀ t ∈ type ++ inner, t.isWord "operator" = false

namespace Prototype

variable (d : Prototype)

/-- The tokens of a prototype. -/
def tokens : List Token := d.type ++ d.name :: (d.opening :: d.inner ++ [d.closing])

/-- Whether a parameter of a prototype holds something that stands in expressions only. -/
def readsAsValue : Bool := d.parameters.any fun e => (normalize e.tokens).any isExpressionToken

theorem bracketed_parameters :
    ∀ s ∈ d.parameters.map (·.tokens), Bracketed false (fun _ => true) s := by
  rw [List.forall_mem_map]
  exact fun e _ => (e.bracketed_tokensWith e.bracketed).unangled

theorem bracketed_inner : Bracketed false (fun _ => true) d.inner :=
  d.separated.bracketed d.bracketed_parameters

theorem separated_normalize :
    Separated (d.parameters.map fun e => normalize e.tokens) (normalize d.inner) := by
  simpa [Function.comp_def] using d.separated.normalize d.bracketed_parameters d.headerless

theorem headerless_more : ∀ e ∈ d.parameters, Headerless e.more := by
  intro e he
  have htokens : Headerless (e.qualifiers ++ e.typeWord :: (e.more ++ (e.dots ++ e.name :: e.bound))) :=
    d.separated.headerless d.headerless _ (List.mem_map_of_mem he)
  exact htokens.right_of_append.tail.left_of_append

/-- Attributes are dropped from template arguments only. -/
theorem normalize_tokens :
    normalize d.tokens = normalize d.type ++ d.name :: (d.opening :: normalize d.inner ++ [d.closing]) := by
  have hkind := Token.kind_of_isName d.isName
  have hsquare : d.name.isMark "[" = false := by simp [Token.isMark, hkind]
  have hstart : (d.name :: (d.opening :: d.inner ++ [d.closing])).head?.any isGroupStart = false := by
    simp [isGroupStart, Token.isMark, hkind]
  have hnext : ∀ next ∈ (d.opening :: d.inner ++ [d.closing]).head?, beginsDropped d.name next = false := by
    rintro next ⟨⟩
    simp [beginsDropped, hsquare, d.isNoAttribute, Token.not_isMark d.opens]
  have hend : ([d.closing] : List Token).head?.any isGroupStart = false := by
    simp [isGroupStart, Token.not_isMark d.closes]
  rw [tokens, d.isType.bracketed.normalize_append d.isType.headerless hstart, normalize_cons hnext,
    List.cons_append,
    normalize_cons fun _ _ => beginsDropped_of_isMark d.opens (by simp [Token.not_isMark d.opens]),
    d.bracketed_inner.normalize_append d.headerless hend]
  simp [normalize]

theorem declares_normalize :
    (normalize d.type ++ d.name :: d.opening :: (normalize d.inner ++ [d.closing])).any
      (·.isWord "operator") = false := by
  rw [List.any_eq_false]
  intro t ht
  simp only [List.mem_append, List.mem_cons, List.not_mem_nil, or_false] at ht
  rcases ht with ht | rfl | rfl | ht | rfl
  · simpa using d.declares t (List.mem_append_left _ ((normalize_sublist d.type).mem ht))
  · simp [not_operator_of_isName d.isName]
  · simp [Token.isWord, Token.kind_of_isMark d.opens]
  · simpa using d.declares t (List.mem_append_right _ ((normalize_sublist d.inner).mem ht))
  · simp [Token.isWord, Token.kind_of_isMark d.closes]

theorem head_normalize_inner :
    (normalize d.inner).head?.any (isOneOf ["*", "&", "^"]) = false ∧ normalize d.inner ≠ [] := by
  have hseparated := d.separated_normalize
  have hmore := d.headerless_more
  generalize d.parameters = parameters at hseparated hmore
  cases parameters with
  | nil => exact absurd rfl hseparated.ne_nil
  | cons e others =>
      obtain ⟨us, hus⟩ := hseparated.exists_append
      obtain ⟨hhead, hnonempty⟩ := Parameter.head_normalize (hmore e (by simp)) us
      rw [hus]
      exact ⟨hhead, by simp [hnonempty]⟩

/-- A prototype declares a function, or a variable if a parameter reads as a value. -/
theorem classifyStatement_tokens :
    classifyStatement d.tokens .global =
      if d.readsAsValue then [⟨.variable, d.name⟩] else [⟨.function, d.name⟩] := by
  obtain ⟨hbracketed, htyped, hqualified, hdeclares⟩ := d.isType.normalize
  have hne : normalize d.type ≠ [] := fun hnil => by simp [hnil, hasType] at htyped
  obtain ⟨hstart, hinner⟩ := d.head_normalize_inner
  have hshape := listShape_parameters d.headerless_more d.separated_normalize hinner
  rw [classifyStatement, d.normalize_tokens, withoutLinkage_type_append hbracketed htyped, List.cons_append,
    declaredBy_parenthesis hbracketed hdeclares hne d.isName d.opens d.declares_normalize, ← List.cons_append,
    parenthesized?_of_parameters d.isName htyped (not_qualifies_of_type hbracketed hqualified) hstart
      (d.bracketed_inner.thinned d.headerless).bracketed d.opens d.closes, hshape, readsAsValue]
  cases d.parameters.any fun e => (normalize e.tokens).any isExpressionToken <;> rfl

end Prototype

theorem isExpressionToken_of_literal (h : t.kind = .literal) : isExpressionToken t = true := by
  simp [isExpressionToken, h]

theorem Parameter.exists_literal {d : Parameter} (hheaderless : Headerless d.more)
    (h : d.bound ≠ [] ∨ ∃ t ∈ normalize d.more, t.kind = .literal) :
    ∃ t ∈ normalize d.tokens, t.kind = .literal := by
  rw [d.normalize_tokens hheaderless]
  rcases h with hbound | ⟨t, ht, hliteral⟩
  · obtain ⟨opening, size, closing, hsize, -, hliteral, -⟩ := d.isBound.resolve_left hbound
    exact ⟨size, by simp [tokensWith, hsize], hliteral⟩
  · exact ⟨t, by simp [tokensWith, ht], hliteral⟩

/-- The parameter in `const char f(const A<b, c> &d, int e)` that is a reference. -/
def referenceParameter : Parameter where
  qualifiers := [⟨.word, "const", ⟨1, 14⟩⟩]
  typeWord := ⟨.word, "A", ⟨1, 20⟩⟩
  more := ⟨.mark, "<", ⟨1, 21⟩⟩ :: [⟨.word, "b", ⟨1, 22⟩⟩, ⟨.mark, ",", ⟨1, 23⟩⟩, ⟨.word, "c", ⟨1, 25⟩⟩] ++
    ⟨.mark, ">", ⟨1, 26⟩⟩ :: [⟨.mark, "&", ⟨1, 28⟩⟩]
  dots := []
  name := ⟨.word, "d", ⟨1, 29⟩⟩
  bound := []
  qualifying := by decide
  isTypeWord := by decide
  bracketed := .arguments (by decide) rfl rfl (.of_plain (by decide)) (.of_plain (by decide))
  unparenthesized := by decide
  dotted := by decide
  isName := by decide
  isBound := .inl rfl

/-- The parameter in `const char f(const A<b, c> &d, int e)` of a built-in type. -/
def integerParameter : Parameter where
  qualifiers := []
  typeWord := ⟨.word, "int", ⟨1, 32⟩⟩
  more := []
  dots := []
  name := ⟨.word, "e", ⟨1, 36⟩⟩
  bound := []
  qualifying := by decide
  isTypeWord := by decide
  bracketed := .nil
  unparenthesized := by decide
  dotted := by decide
  isName := by decide
  isBound := .inl rfl

/-- The parameter in `void f(int a[4])`. -/
def arrayParameter : Parameter where
  qualifiers := []
  typeWord := ⟨.word, "int", ⟨1, 8⟩⟩
  more := []
  dots := []
  name := ⟨.word, "a", ⟨1, 12⟩⟩
  bound := [⟨.mark, "[", ⟨1, 13⟩⟩, ⟨.literal, "4", ⟨1, 14⟩⟩, ⟨.mark, "]", ⟨1, 15⟩⟩]
  qualifying := by decide
  isTypeWord := by decide
  bracketed := .nil
  unparenthesized := by decide
  dotted := by decide
  isName := by decide
  isBound := .inr ⟨_, _, _, rfl, by decide⟩

/-- The prototype `const char f(const A<b, c> &d, int e)`. -/
def referencePrototype : Prototype where
  type := [⟨.word, "const", ⟨1, 1⟩⟩, ⟨.word, "char", ⟨1, 7⟩⟩]
  name := ⟨.word, "f", ⟨1, 12⟩⟩
  opening := ⟨.mark, "(", ⟨1, 13⟩⟩
  parameters := [referenceParameter, integerParameter]
  inner := referenceParameter.tokens ++ ⟨.mark, ",", ⟨1, 30⟩⟩ :: integerParameter.tokens
  closing := ⟨.mark, ")", ⟨1, 37⟩⟩
  isType := typeSpecifier_of_words (by decide) (by decide)
  isName := by decide
  isNoAttribute := by decide
  opens := by decide
  separated := .cons (by decide) _ (.single _)
  closes := by decide
  headerless := by decide
  declares := by decide

/-- The prototype `void f(int a[4])`. -/
def arrayPrototype : Prototype where
  type := [⟨.word, "void", ⟨1, 1⟩⟩]
  name := ⟨.word, "f", ⟨1, 6⟩⟩
  opening := ⟨.mark, "(", ⟨1, 7⟩⟩
  parameters := [arrayParameter]
  inner := arrayParameter.tokens
  closing := ⟨.mark, ")", ⟨1, 16⟩⟩
  isType := typeSpecifier_of_words (by decide) (by decide)
  isName := by decide
  isNoAttribute := by decide
  opens := by decide
  separated := .single _
  closes := by decide
  headerless := by decide
  declares := by decide

end NameLint.Declaration

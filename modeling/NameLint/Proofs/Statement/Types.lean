import NameLint.Proofs.Statement.Segments

/-!
# Types in front of names

The type with which a declaration begins. Its angle brackets are closed, so that nothing but the words, pointers
and qualifiers of the type is at top level in it, and the name behind it is found.
-/

namespace NameLint.Declaration

open NameLint.Source

variable {ts us kept front : List Token} {ms : List Marked} {n : Nesting} {name t : Token} {site : Site}

/-- Whether a token stands in a type outside of template arguments. -/
def isTypeToken (t : Token) : Bool := t.kind = .word || t.kind = .body || isOneOf ["::", "<", "*", "&"] t

theorem not_endsDeclarator_of_isTypeToken (h : isTypeToken t = true) : endsDeclarator t = false := by
  simp only [isTypeToken, endsDeclarator, isOneOf, List.contains_eq_mem, List.mem_cons, List.not_mem_nil,
    or_false, Bool.or_eq_true, Bool.and_eq_true, decide_eq_true_eq, Bool.or_eq_false_iff,
    Bool.and_eq_false_iff, decide_eq_false_iff_not] at h ⊢
  grind

theorem isMark_of_isTypeToken {text : String} (h : isTypeToken t = true)
    (htext : text ∉ ["::", "<", "*", "&"]) : t.isMark text = false := by
  simp only [isTypeToken, isOneOf, List.contains_eq_mem, Bool.or_eq_true, Bool.and_eq_true,
    decide_eq_true_eq] at h
  simp only [Token.isMark, Bool.and_eq_false_iff, decide_eq_false_iff_not, beq_eq_false_iff_ne]
  grind

/-- The type in front of declarators: its angle brackets are closed, it names a type, it does not end in a
qualifier, and it does not begin as a statement that declares nothing. -/
structure TypeSpecifier (ts : List Token) : Prop where
  bracketed : Bracketed true isTypeToken ts
  headerless : Headerless ts
  typed : hasType ts = true
  unqualified : isQualified ts = false
  declares : ts.head?.any (isWordOf skippedHeads) = false

theorem not_isTypeToken_of_isBracketPair {opening closing : Token}
    (pair : isBracketPair opening closing = true) : isTypeToken opening = false := by
  by_contra htoken
  rw [Bool.not_eq_false] at htoken
  simp [isBracketPair, isMark_of_isTypeToken htoken] at pair

/-- In a type attributes stand within template arguments only. -/
theorem Thinned.type_spec (h : Thinned true isTypeToken ts kept) :
    kept.head? = ts.head? ∧ kept.getLast? = ts.getLast? ∧ hasType kept = hasType ts := by
  generalize hangled : true = angled at h
  generalize hp : isTypeToken = p at h
  induction h with
  | nil => exact ⟨rfl, rfl, rfl⟩
  | token allowed plain more ih =>
      obtain ⟨-, hlast, htype⟩ := ih hangled hp
      simp only [hasType] at htype
      simp [List.getLast?_cons, hlast, hasType, htype]
  | group allowed pair inside after => simp [← hp, not_isTypeToken_of_isBracketPair pair] at allowed
  | arguments allowed opens closes inside after _ ih =>
      obtain ⟨-, hlast, -⟩ := ih rfl hp
      simp [List.getLast?_append, List.getLast?_cons, hlast, hasType, closes]
  | squareAttribute allowed pair inside after => simp [← hp, not_isTypeToken_of_isBracketPair pair] at allowed
  | wordAttribute word allowed pair inside after =>
      simp [← hp, not_isTypeToken_of_isBracketPair pair] at allowed

/-- The tokens of a type leave the nesting as it is, except in a value. -/
theorem Bracketed.foldl_type (h : Bracketed true isTypeToken ts) (hn : n.inInitializer = false) :
    ts.foldl Nesting.after n = n :=
  h.foldl_of_unassigned (fun _ ht => isMark_of_isTypeToken ht (by decide)) hn

theorem Bracketed.isTypeToken_of_isTop (h : Bracketed true isTypeToken ts) :
    ∀ m ∈ markTop {} ts, m.isTop = true → isTypeToken m.token = true :=
  (h.allowed_of_isTop (fun _ => rfl) fun _ _ ht => isMark_of_isTypeToken ht (by decide)).1

theorem Bracketed.isTopMark_type {text : String} (h : Bracketed true isTypeToken ts)
    (htext : text ∉ ["::", "<", "*", "&"]) : ∀ m ∈ markTop {} ts, m.isTopMark text = false :=
  h.isTopMark_of_unassigned (fun _ ht => isMark_of_isTypeToken ht (by decide))
    fun _ ht => isMark_of_isTypeToken ht htext

namespace TypeSpecifier

/-- Dropping attributes leaves a type. -/
theorem normalize (h : TypeSpecifier ts) :
    Bracketed true isTypeToken (Declaration.normalize ts) ∧ hasType (Declaration.normalize ts) = true ∧
      isQualified (Declaration.normalize ts) = false ∧
        (Declaration.normalize ts).head?.any (isWordOf skippedHeads) = false := by
  have hthinned := h.bracketed.thinned h.headerless
  obtain ⟨hhead, hlast, htype⟩ := hthinned.type_spec
  exact ⟨hthinned.bracketed, by rw [htype, h.typed], by rw [isQualified, hlast]; exact h.unqualified,
    by rw [hhead, h.declares]⟩

end TypeSpecifier

/-- A type is not taken for a linkage. -/
theorem withoutLinkage_type_append (h : Bracketed true isTypeToken ts) (htyped : hasType ts = true)
    (us : List Token) : withoutLinkage (ts ++ us) = ts ++ us := by
  match ts with
  | [] => simp [hasType] at htyped
  | [first] =>
      have hfirst : first.isWord "extern" = false := by
        by_contra hword
        simp only [Bool.not_eq_false, Token.isWord, Bool.and_eq_true, decide_eq_true_eq, beq_iff_eq] at hword
        simp [hasType, Token.isName, Token.isMark, hword, isKeyword, keywords, isBuiltinType,
          builtinTypes] at htyped
      cases us with
      | nil => rfl
      | cons second us => simp [withoutLinkage, hfirst]
  | first :: second :: rest =>
      cases hfirst : first.isWord "extern" with
      | false => simp [withoutLinkage, hfirst]
      | true =>
          have hkind : first.kind ≠ .mark := by
            simp only [Token.isWord, Bool.and_eq_true, decide_eq_true_eq] at hfirst
            simp [hfirst.1]
          have hsecond : isTypeToken second = true := (h.of_cons hkind).allowed_of_mem_head? rfl
          have hliteral : second.kind ≠ .literal := by
            intro hliteral
            simp [isTypeToken, isOneOf, hliteral] at hsecond
          simp [withoutLinkage, hliteral]

theorem withoutLinkage_linkage {linkage : List Token} (hlinkage : IsLinkage linkage)
    (h : TypeSpecifier ts) (hus : us.head?.any isGroupStart = false) :
    withoutLinkage (normalize (linkage ++ (ts ++ us))) = normalize ts ++ normalize us := by
  obtain ⟨hbracketed, htyped, -, -⟩ := h.normalize
  have happend := h.bracketed.normalize_append h.headerless hus
  rcases hlinkage with rfl | ⟨first, second, rfl, hfirst, hsecond⟩
  · rw [List.nil_append, happend, withoutLinkage_type_append hbracketed htyped]
  · have hword : first.kind = .word ∧ first.text = "extern" := by
      simpa [Token.isWord] using hfirst
    have hdropFirst : ∀ next, beginsDropped first next = false := by
      simp [beginsDropped, isAttributeWord, Token.isMark, Token.isWord, hword]
    have hdropSecond : ∀ next, beginsDropped second next = false := by
      simp [beginsDropped, isAttributeWord, Token.isMark, Token.isWord, hsecond]
    rw [List.cons_append, List.cons_append, List.nil_append, normalize_cons fun _ _ => hdropFirst _,
      normalize_cons fun _ _ => hdropSecond _, happend]
    simp [withoutLinkage, hfirst, hsecond]

/-- Whether a word belongs to a built-in ts. -/
def isPlainTypeWord (t : Token) : Bool :=
  isWordOf ["const", "volatile"] t || t.kind = .word && isBuiltinType t.text

/-- Words of built-in types make a type. -/
theorem typeSpecifier_of_words (h : ∀ t ∈ ts, isPlainTypeWord t = true) (htyped : hasType ts = true) :
    TypeSpecifier ts := by
  have hword : ∀ t ∈ ts, t.kind = .word := by
    intro t ht
    have hplain := h t ht
    simp only [isPlainTypeWord, isWordOf, Bool.or_eq_true, Bool.and_eq_true, decide_eq_true_eq] at hplain
    exact hplain.elim And.left And.left
  refine ⟨.of_plain fun t ht => ?_, ?_, htyped, ?_, ?_⟩
  · simp [isTypeToken, isBracket, Token.isMark, hword t ht]
  · rw [Headerless, List.isChain_iff_getElem]
    intro i hi
    simp [Token.isMark, hword _ (List.getElem_mem (show i + 1 < ts.length by omega))]
  · rw [isQualified, Option.any_eq_false]
    intro t ht
    simp [isOneOf, hword t (List.mem_of_getLast? ht)]
  · rw [Option.any_eq_false]
    intro t ht
    have hplain := h t (List.mem_of_mem_head? ht)
    have hdisjoint : ∀ text ∈ ["const", "volatile"] ++ builtinTypes, text ∉ skippedHeads := by decide
    have hmem : t.text ∈ ["const", "volatile"] ++ builtinTypes := by
      simp only [isPlainTypeWord, isWordOf, isBuiltinType, Bool.or_eq_true, Bool.and_eq_true,
        List.contains_iff_mem] at hplain
      exact List.mem_append.mpr (hplain.imp And.right And.right)
    simp [isWordOf, hdisjoint _ hmem]

/-- What ends a type qualifies no name behind it. -/
theorem not_qualifies_of_type (h : Bracketed true isTypeToken ts) (hqualified : isQualified ts = false) :
    ts.getLast?.any (isOneOf ["::", "~", ".", "->", ","]) = false := by
  rw [isQualified] at hqualified
  cases hlast : ts.getLast? with
  | none => rfl
  | some t =>
      rw [hlast, Option.any_some] at hqualified
      rw [Option.any_some]
      have hallowed := h.allowed_of_mem_getLast? hlast
      simp only [isTypeToken, isOneOf, List.contains_eq_mem, Bool.or_eq_true, Bool.and_eq_true,
        decide_eq_true_eq, Bool.and_eq_false_iff, decide_eq_false_iff_not] at hallowed hqualified ⊢
      grind

/-! ## What is declared behind a type -/

/-- Without a parenthesis in front of the first value a statement declares variables. -/
theorem declaredBy_of_unparenthesized_marks (h : Unparenthesized (markTop {} ts))
    (hoperator : ts.any (·.isWord "operator") = false)
    (hdeclares : ts.head?.any (isWordOf skippedHeads) = false) :
    declaredBy ts site = variableDeclarators (markTop {} ts) := by
  cases hfirst : firstOfInterest (markTop {} ts) with
  | none =>
      rw [declaredBy_of_firstOfInterest hoperator hfirst, hdeclares]
      rfl
  | some cut =>
      obtain ⟨before, found, after⟩ := cut
      obtain ⟨hbefore, hfound⟩ := cutAtFirst_spec hfirst
      rw [cutAtFirst_eq hfirst] at h
      have hfree := h.of_append fun m hm => ((Bool.or_eq_false_iff.mp (hbefore m hm)).2)
      have hparen : found.token.isMark "(" = false := by
        rcases unparenthesized_cons.mp hfree with hequals | ⟨hparen, -⟩
        · simp only [Marked.isTopMark, Bool.and_eq_true] at hequals
          exact Token.not_isMark hequals.2 (by decide)
        · rw [hparen, Bool.false_or, Marked.isTopMark, Bool.and_eq_true] at hfound
          exact Token.not_isMark hfound.2 (by decide)
      simp only [declaredBy, hdeclares, hoperator, Bool.or_self, hfirst, hparen]
      rfl

/-- A segment declares the name behind a type if what ends a declarator follows, or nothing. -/
theorem segmentVariable?_of_type {isFirst : Bool} {rest : List Marked}
    (hfront : Bracketed true isTypeToken front) (hname : name.isName = true)
    (hqualified : isQualified front = false)
    (htyped : isFirst = true → hasType front = true)
    (hrest : ∀ m ∈ rest.head?, m.isTop = true ∧ endsDeclarator m.token = true) :
    segmentVariable? isFirst (markTop {} front ++ ⟨name, true⟩ :: rest) = some name := by
  refine segmentVariable?_eq_some_iff.mpr ⟨front, ?_, hname, hqualified, htyped⟩
  have hends : endsDeclarator name = false := by simp [endsDeclarator, isOneOf, Token.kind_of_isName hname]
  have hkeep : ∀ m ∈ markTop {} front, (!(m.isTop && endsDeclarator m.token)) = true := by
    intro m hm
    rw [Bool.not_eq_true', Bool.and_eq_false_imp]
    exact fun htop => not_endsDeclarator_of_isTypeToken (hfront.isTypeToken_of_isTop m hm htop)
  have hstop : rest.takeWhile (fun m => !(m.isTop && endsDeclarator m.token)) = [] := by
    cases rest with
    | nil => rfl
    | cons m rest => simp [hrest m rfl]
  rw [List.takeWhile_append_of_pos hkeep, List.takeWhile_cons_of_pos (by simp [hends]), hstop, tokensOf,
    List.map_append, ← tokensOf, tokensOf_markTop]
  rfl

theorem endsDeclarator_of_isMark {text : String} (h : t.isMark text = true)
    (htext : text ∈ ["=", "[", ":", "(", "\x7b"]) : endsDeclarator t = true := by
  simp only [endsDeclarator, isOneOf, Token.kind_of_isMark h, Token.isMark_text h,
    List.contains_iff_mem.mpr htext]
  rfl

end NameLint.Declaration

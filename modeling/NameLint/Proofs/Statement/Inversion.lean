import NameLint.Declaration.Classify

/-!
# Inversion

What tokens must be like for a name in them to be declared or a body behind them to be opened: for each way in
which a statement is read, what is asked of it.
-/

namespace NameLint.Declaration

open NameLint.Source

variable {ts before fromParen : List Token} {ms front segment head after : List Marked} {paren : Marked} {site : Site}
  {name : Token} {d : Declarator}

/-! ## Linkages -/

/-- A linkage at most: a word and the name of a language. -/
def IsLinkage (ts : List Token) : Prop :=
  ts = [] ∨ ∃ first second, ts = [first, second] ∧ first.isWord "extern" = true ∧ second.kind = .literal

theorem exists_linkage (ts : List Token) : ∃ linkage, IsLinkage linkage ∧ ts = linkage ++ withoutLinkage ts := by
  unfold withoutLinkage
  split
  · rename_i first second rest
    split
    · rename_i hlinkage
      rw [Bool.and_eq_true, decide_eq_true_eq] at hlinkage
      exact ⟨[first, second], .inr ⟨first, second, rfl, hlinkage⟩, rfl⟩
    · exact ⟨[], .inl rfl, rfl⟩
  · exact ⟨[], .inl rfl, rfl⟩

/-! ## The first parenthesis -/

@[simp] theorem tokensOf_markTop (n : Nesting) (ts : List Token) : tokensOf (markTop n ts) = ts := by
  induction ts generalizing n with
  | nil => rfl
  | cons t ts ih => simpa [markTop, tokensOf] using ih (n.after t)

theorem cutAtFirst_eq {p : Marked → Bool} {ms before after : List Marked} {found : Marked}
    (h : cutAtFirst p ms = some (before, found, after)) : ms = before ++ found :: after := by
  fun_induction cutAtFirst p ms generalizing before with
  | case1 => cases h
  | case2 m rest _ =>
      cases h
      rfl
  | case3 m rest _ ih =>
      obtain ⟨⟨before, found, after⟩, hrest, heq⟩ := Option.map_eq_some_iff.mp h
      cases heq
      rw [ih hrest]
      rfl

theorem cutAtFirst_spec {p : Marked → Bool} {before after : List Marked} {found : Marked}
    (h : cutAtFirst p ms = some (before, found, after)) :
    (∀ m ∈ before, p m = false) ∧ p found = true := by
  fun_induction cutAtFirst p ms generalizing before with
  | case1 => cases h
  | case2 m rest hm =>
      cases h
      exact ⟨by simp, hm⟩
  | case3 m rest hm ih =>
      obtain ⟨⟨before, found, after⟩, hrest, heq⟩ := Option.map_eq_some_iff.mp h
      cases heq
      obtain ⟨hbefore, hfound⟩ := ih hrest
      exact ⟨List.forall_mem_cons.mpr ⟨by simpa using hm, hbefore⟩, hfound⟩

theorem cutAtFirst_eq_none_iff {p : Marked → Bool} :
    cutAtFirst p ms = none ↔ ∀ m ∈ ms, p m = false := by
  fun_induction cutAtFirst p ms with
  | case1 => simp
  | case2 m rest hm => simp [hm]
  | case3 m rest hm ih => simp [hm, ih]

theorem cutAtFirst_append_of_forall {p : Marked → Bool} (h : ∀ m ∈ front, p m = false) (ms : List Marked) :
    cutAtFirst p (front ++ ms) =
      (cutAtFirst p ms).map fun (head, found, after) => (front ++ head, found, after) := by
  induction front with
  | nil => simp
  | cons m rest ih =>
      obtain ⟨hm, hrest⟩ := List.forall_mem_cons.mp h
      simp [cutAtFirst, hm, ih hrest, Function.comp_def]

/-- Of parentheses and equals signs at top level the first is a parenthesis, with `head` in front of it. -/
structure FirstParenthesis (ts : List Token) (head : List Marked) (paren : Marked) (after : List Marked) :
    Prop where
  first : firstOfInterest (markTop {} ts) = some (head, paren, after)
  opens : paren.token.isMark "(" = true

namespace FirstParenthesis

theorem tokens_eq (h : FirstParenthesis ts head paren after) :
    ts = tokensOf head ++ paren.token :: tokensOf after := by
  calc ts = tokensOf (markTop {} ts) := (tokensOf_markTop {} ts).symm
    _ = tokensOf head ++ paren.token :: tokensOf after := by
      rw [cutAtFirst_eq h.first]
      simp [tokensOf]

end FirstParenthesis

/-! ## Variables -/

/-- Whether a name behind these tokens belongs to another one. -/
def isQualified (before : List Token) : Bool :=
  before.getLast?.any (isOneOf ["::", ".", "->"])

theorem segmentVariable?_eq_some_iff {isFirst : Bool} :
    segmentVariable? isFirst segment = some name ↔
      ∃ before, tokensOf (segment.takeWhile fun m => !(m.isTop && endsDeclarator m.token)) =
          before ++ [name] ∧
        name.isName = true ∧ isQualified before = false ∧ (isFirst = true → hasType before = true) := by
  simp only [segmentVariable?]
  generalize tokensOf (segment.takeWhile fun m => !(m.isTop && endsDeclarator m.token)) = head
  cases hlast : head.getLast? with
  | none => simp [List.getLast?_eq_none_iff.mp hlast]
  | some last =>
      obtain ⟨before, rfl⟩ := List.getLast?_eq_some_iff.mp hlast
      simp only [List.dropLast_concat, List.append_singleton_inj]
      change (if last.isName && !isQualified before && (!isFirst || hasType before) then some last
        else none) = some name ↔ _
      constructor
      · intro h
        split at h
        · rename_i hcond
          cases h
          simp only [Bool.and_eq_true, Bool.not_eq_true', Bool.or_eq_true] at hcond
          refine ⟨before, ⟨rfl, rfl⟩, hcond.1.1, hcond.1.2, fun hfirst => ?_⟩
          simpa [hfirst] using hcond.2
        · cases h
      · rintro ⟨_, ⟨rfl, rfl⟩, hname, hqualified, htype⟩
        rw [if_pos (by cases isFirst <;> simp_all)]

/-! ## Functions -/

theorem functionName?_eq_some_iff :
    functionName? before site = some name ↔ ∃ type, before = type ++ [name] ∧ name.isName = true ∧
      type.getLast?.any (isOneOf ["::", "~", ".", "->", ","]) = false ∧ hasType type = true ∧
        isConstructor site name = false := by
  simp only [functionName?]
  cases hlast : before.getLast? with
  | none => simp [List.getLast?_eq_none_iff.mp hlast]
  | some last =>
      obtain ⟨type, rfl⟩ := List.getLast?_eq_some_iff.mp hlast
      simp only [List.dropLast_concat, List.append_singleton_inj]
      constructor
      · intro h
        split at h
        · rename_i hcond
          cases h
          simp only [Bool.and_eq_true, Bool.not_eq_true'] at hcond
          exact ⟨type, ⟨rfl, rfl⟩, hcond.1.1.1, hcond.1.1.2, hcond.1.2, hcond.2⟩
        · cases h
      · rintro ⟨_, ⟨rfl, rfl⟩, hname, hqualified, htyped, hconstructor⟩
        simp [hname, hqualified, htyped, hconstructor]

/-! ## Parentheses -/

/-- What stands between a parenthesis and the one that closes it. -/
def insideParentheses (fromParen : List Token) : List Token := (splitGroup "(" ")" 0 fromParen).1.tail.dropLast

/-- A pointer in parentheses behind a type: the first name inside is declared. -/
structure PointerDeclarator (before fromParen : List Token) (name : Token) : Prop where
  typed : hasType before = true
  pointer : (insideParentheses fromParen).head?.any (isOneOf ["*", "&", "^"]) = true
  simple : (insideParentheses fromParen).any (·.isMark "(") = false
  named : (insideParentheses fromParen).find? (·.isName) = some name

/-- A name with a parenthesized list behind it that begins as no pointer does. -/
structure ListDeclarator (before fromParen : List Token) (site : Site) (name : Token) : Prop where
  list : (insideParentheses fromParen).head?.any (isOneOf ["*", "&", "^"]) = false
  named : functionName? before site = some name

theorem parenthesized?_eq (before fromParen : List Token) (site : Site) :
    parenthesized? before fromParen site =
      if (insideParentheses fromParen).head?.any (isOneOf ["*", "&", "^"]) then
        if hasType before && !(insideParentheses fromParen).any (·.isMark "(") then
          ((insideParentheses fromParen).find? (·.isName)).map (⟨.variable, ·⟩)
        else none
      else
        match functionName? before site with
        | none => none
        | some name =>
          match listShape (insideParentheses fromParen) with
          | .parameters => some ⟨.function, name⟩
          | .initializer => some ⟨.variable, name⟩
          | .ambiguous => none := rfl

/-- What a parenthesis declares: a pointer in it, or the name in front of it, as its list reads. -/
theorem parenthesized?_eq_some_iff :
    parenthesized? before fromParen site = some d ↔
      PointerDeclarator before fromParen d.name ∧ d.entity = .variable ∨
      ListDeclarator before fromParen site d.name ∧
        (listShape (insideParentheses fromParen) = .parameters ∧ d.entity = .function ∨
          listShape (insideParentheses fromParen) = .initializer ∧ d.entity = .variable) := by
  obtain ⟨entity, name⟩ := d
  rw [parenthesized?_eq]
  constructor
  · intro h
    split at h
    · rename_i hpointer
      split at h
      · rename_i htyped
        rw [Bool.and_eq_true, Bool.not_eq_true'] at htyped
        obtain ⟨_, hfind, heq⟩ := Option.map_eq_some_iff.mp h
        cases heq
        exact .inl ⟨⟨htyped.1, hpointer, htyped.2, hfind⟩, rfl⟩
      · cases h
    · rename_i hlist
      rw [Bool.not_eq_true] at hlist
      split at h
      · cases h
      · rename_i f hname
        split at h
        · rename_i hshape
          cases h
          exact .inr ⟨⟨hlist, hname⟩, .inl ⟨hshape, rfl⟩⟩
        · rename_i hshape
          cases h
          exact .inr ⟨⟨hlist, hname⟩, .inr ⟨hshape, rfl⟩⟩
        · cases h
  · rintro (⟨h, rfl⟩ | ⟨h, ⟨hshape, rfl⟩ | ⟨hshape, rfl⟩⟩)
    · rw [if_pos h.pointer, h.typed, h.simple, h.named]
      rfl
    · simp only [h.list, h.named, hshape]
      rfl
    · simp only [h.list, h.named, hshape]
      rfl

/-! ## What a semicolon ends -/

/-- A statement declares what its first parenthesis does, or else what its segments do. -/
theorem mem_declaredBy_iff :
    d ∈ declaredBy ts site ↔ ts.head?.any (isWordOf skippedHeads) = false ∧
      ts.any (·.isWord "operator") = false ∧
        ((∃ head paren after, FirstParenthesis ts head paren after ∧
            parenthesized? (tokensOf head) (paren.token :: tokensOf after) site = some d) ∨
          (∀ head paren after, ¬ FirstParenthesis ts head paren after) ∧
            d ∈ variableDeclarators (markTop {} ts)) := by
  simp only [declaredBy]
  constructor
  · intro h
    split at h
    · cases h
    rename_i hdeclares
    simp only [Bool.or_eq_true, not_or, Bool.not_eq_true] at hdeclares
    refine ⟨hdeclares.1, hdeclares.2, ?_⟩
    split at h
    · rename_i head found after hfirst
      split at h
      · rename_i hparen
        exact .inl ⟨head, found, after, ⟨hfirst, hparen⟩, Option.mem_toList.mp h⟩
      · rename_i hparen
        refine .inr ⟨?_, h⟩
        rintro _ _ _ ⟨hfirst', hopens⟩
        cases hfirst.symm.trans hfirst'
        exact hparen hopens
    · rename_i hnone
      refine .inr ⟨?_, h⟩
      rintro _ _ _ ⟨hfirst, -⟩
      cases hnone.symm.trans hfirst
  · rintro ⟨hdeclares, hoperator, ⟨head, paren, after, hparen, hd⟩ | ⟨hnone, hd⟩⟩
    · simp only [hdeclares, hoperator, hparen.first, hparen.opens]
      simpa [tokensOf] using hd
    · simp only [hdeclares, hoperator, Bool.or_self]
      cases hfirst : firstOfInterest (markTop {} ts) with
      | none => exact hd
      | some cut =>
          obtain ⟨head, found, after⟩ := cut
          cases hopens : found.token.isMark "(" with
          | true => exact absurd ⟨hfirst, hopens⟩ (hnone head found after)
          | false => simpa [hopens] using hd

/-! ## What a brace opens -/

theorem openAfter_eq {ts : List Token} {first : Token} {rest : List Token} (site : Site)
    (h : ts = first :: rest) :
    openAfter ts site =
      if (ts.take 2).any (·.isWord "namespace") then .namespaceBody
      else if first.isWord "extern" && rest.length = 1 && rest.any (·.kind = .literal) then
        .namespaceBody
      else if isWordOf controlHeads first then .block
      else if first.isWord "friend" || ts.any (·.isWord "operator") then .function none
      else
        match firstOfInterest (markTop {} ts) with
        | none => openPlain ts
        | some (before, found, after) =>
          if found.token.isMark "=" then .initializer
          else openAfterParameters ts before (found :: after) site := by
  subst h
  rfl

/-- The words of the tokens do not say what a brace behind them opens. -/
structure Undecided (ts : List Token) : Prop where
  unspaced : (ts.take 2).any (·.isWord "namespace") = false
  uncontrolled : ts.head?.any (isWordOf controlHeads) = false
  friendless : ts.head?.any (·.isWord "friend") = false
  unoperated : ts.any (·.isWord "operator") = false

/-- Only tokens whose words do not decide open a type, or a function that is reported: a type without
parameters, a function with them. -/
theorem openAfter_cases (ts : List Token) (site : Site) :
    openAfter ts site ∈ [.namespaceBody, .block, .function none, .initializer] ∨
      Undecided ts ∧
        (firstOfInterest (markTop {} ts) = none ∧ openAfter ts site = openPlain ts ∨
          ∃ head paren after, FirstParenthesis ts head paren after ∧
            openAfter ts site = openAfterParameters ts head (paren :: after) site) := by
  cases hts : ts with
  | nil => exact .inl (by simp [openAfter])
  | cons first rest =>
      rw [← hts]
      generalize hopening : openAfter ts site = opening
      rw [openAfter_eq site hts] at hopening
      split at hopening
      · exact .inl (by simp [← hopening])
      rename_i hnamespace
      split at hopening
      · exact .inl (by simp [← hopening])
      split at hopening
      · exact .inl (by simp [← hopening])
      rename_i hcontrol
      split at hopening
      · exact .inl (by simp [← hopening])
      rename_i hfriend
      simp only [Bool.or_eq_true, not_or, Bool.not_eq_true] at hnamespace hcontrol hfriend
      have hundecided : Undecided ts :=
        ⟨hnamespace, by simp [hts, hcontrol], by simp [hts, hfriend.1], hfriend.2⟩
      split at hopening
      · rename_i hnone
        exact .inr ⟨hundecided, .inl ⟨hnone, hopening.symm⟩⟩
      rename_i head found after hfirst
      split at hopening
      · exact .inl (by simp [← hopening])
      rename_i hequals
      have hopens : found.token.isMark "(" = true := by
        have hfound := (cutAtFirst_spec hfirst).2
        simp only [Marked.isTopMark, Bool.or_eq_true, Bool.and_eq_true] at hfound
        exact (hfound.resolve_right fun h => hequals h.2).2
      exact .inr ⟨hundecided, .inr ⟨head, found, after, ⟨hfirst, hopens⟩, hopening.symm⟩⟩

end NameLint.Declaration

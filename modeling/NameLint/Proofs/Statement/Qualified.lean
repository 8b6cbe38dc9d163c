import Mathlib.Data.List.Basic
import NameLint.Proofs.Statement.Functions

/-!
# Names of other scopes

A name with `::` on either side belongs to another scope or names one. Functions, and variables between commas,
are looked at for that; the first name in the parentheses of a pointer is taken as it stands.
-/

namespace NameLint.Declaration

open NameLint.Source

variable {ts us linkage before after fromParen statement : List Token} {ms segment head rest : List Marked}
  {paren : Marked} {site : Site} {name t : Token} {d : Declarator}

/-! ## Names that stand apart -/

/-- A token in its place among others, with no `::` directly in front of it or behind it. -/
def StandsApart (ts : List Token) (t : Token) : Prop :=
  ∃ before after, ts = before ++ t :: after ∧
    before.getLast?.any (·.isMark "::") = false ∧ after.head?.any (·.isMark "::") = false

/-- A token that is there once stands apart in its only place. -/
theorem StandsApart.of_once (h : StandsApart (before ++ t :: after) t) (hbefore : t ∉ before)
    (hafter : t ∉ after) :
    before.getLast?.any (·.isMark "::") = false ∧ after.head?.any (·.isMark "::") = false := by
  obtain ⟨before', after', hts, happart⟩ := h
  obtain ⟨rfl, -, rfl⟩ := (List.append_cons_inj_of_notMem hbefore hafter).mp hts
  exact happart

/-- A token that stands apart does so behind anything but `::`. -/
theorem StandsApart.append_left (h : StandsApart ts t) (hus : us.getLast?.any (·.isMark "::") = false) :
    StandsApart (us ++ ts) t := by
  obtain ⟨before, after, rfl, hbefore, hafter⟩ := h
  refine ⟨us ++ before, after, by rw [List.append_assoc], ?_, hafter⟩
  rw [List.getLast?_append]
  cases hlast : before.getLast? with
  | none => exact hus
  | some last => simpa [hlast] using hbefore

theorem IsLinkage.standsApart_append (hlinkage : IsLinkage linkage) (h : StandsApart ts t) :
    StandsApart (linkage ++ ts) t := by
  apply h.append_left
  rw [Option.any_eq_false]
  intro last hlast
  simp [Token.isMark, hlinkage.kind_ne_mark last (List.mem_of_getLast? hlast)]

/-- What none of some marks qualifies is not qualified by one of them. -/
theorem any_isMark_eq_false_of_isOneOf {texts : List String} {text : String} {o : Option Token}
    (h : o.any (isOneOf texts) = false) (htext : text ∈ texts) : o.any (·.isMark text) = false := by
  rw [Option.any_eq_false] at h ⊢
  intro t ht
  have hnot := h t ht
  by_contra hmark
  rw [Bool.not_eq_false] at hmark
  simp [isOneOf, Token.kind_of_isMark hmark, Token.isMark_text hmark, htext] at hnot

/-! ## Variables between commas -/

/-- Marked tokens in their place among others: behind a comma or at the start, and in front of a comma or at
the end. -/
structure BetweenCommas (ms front segment rest : List Marked) : Prop where
  marks : ms = front ++ (segment ++ rest)
  comma_left : ∀ m ∈ front.getLast?, m.isTopMark "," = true
  comma_right : ∀ m ∈ rest.head?, m.isTopMark "," = true

theorem takeWhile_betweenCommas (ms : List Marked) :
    BetweenCommas ms [] (ms.takeWhile fun m => !m.isTopMark ",") (ms.dropWhile fun m => !m.isTopMark ",") := by
  refine ⟨List.takeWhile_append_dropWhile.symm, by simp, ?_⟩
  intro m hm
  have hhead := List.head?_dropWhile_not (fun m => !m.isTopMark ",") ms
  rw [Option.mem_def.mp hm] at hhead
  simpa using hhead

/-- A comma in front of a segment stays there when more is put in front of it. -/
theorem BetweenCommas.cons {front : List Marked} (h : BetweenCommas ms front segment rest) {m : Marked}
    (hm : front = [] → m.isTopMark "," = true) : BetweenCommas (m :: ms) (m :: front) segment rest := by
  refine ⟨by rw [h.marks, List.cons_append], ?_, h.comma_right⟩
  cases front with
  | nil => simpa using hm rfl
  | cons first front =>
      rw [List.getLast?_cons_cons]
      exact h.comma_left

/-- Segments stand between commas; those behind the first have something in front of them. -/
theorem exists_betweenCommas (h : segment ∈ (splitCommas ms).tail) :
    ∃ front rest, front ≠ [] ∧ BetweenCommas ms front segment rest := by
  fun_induction splitCommas ms with
  | case1 => cases h
  | case2 m ms hcomma ih =>
      obtain ⟨others, hsplit⟩ := splitCommas_head ms
      rw [List.tail_cons, hsplit, List.mem_cons] at h
      rcases h with rfl | hmem
      · exact ⟨[m], _, by simp, (takeWhile_betweenCommas ms).cons fun _ => hcomma⟩
      · obtain ⟨front, rest, hne, hbetween⟩ := ih (by rwa [hsplit])
        exact ⟨m :: front, rest, by simp, hbetween.cons fun hnil => absurd hnil hne⟩
  | case3 => cases h
  | case4 m ms _ first others hsplit ih =>
      obtain ⟨front, rest, hne, hbetween⟩ := ih (by rwa [hsplit])
      exact ⟨m :: front, rest, by simp, hbetween.cons fun hnil => absurd hnil hne⟩

theorem mem_variableDeclarators (h : d ∈ variableDeclarators ms) :
    ∃ front segment rest, BetweenCommas ms front segment rest ∧
      ∃ isFirst, segmentVariable? isFirst segment = some d.name := by
  obtain ⟨others, hsplit⟩ := splitCommas_head ms
  simp only [variableDeclarators, hsplit] at h
  split at h
  · cases h
  rename_i name hname
  rw [List.map_cons, List.mem_cons, List.mem_map] at h
  rcases h with rfl | ⟨other, hother, rfl⟩
  · exact ⟨[], _, _, takeWhile_betweenCommas ms, true, hname⟩
  · obtain ⟨segment, hsegment, hvariable⟩ := List.mem_filterMap.mp hother
    obtain ⟨front, rest, -, hbetween⟩ := exists_betweenCommas (by rwa [hsplit])
    exact ⟨front, segment, rest, hbetween, false, hvariable⟩

theorem not_isMark_colons_of_isTopMark {m : Marked} (h : m.isTopMark "," = true) :
    m.token.isMark "::" = false := by
  rw [Marked.isTopMark, Bool.and_eq_true] at h
  exact Token.not_isMark h.2 (by decide)

/-- A comma qualifies no name, and neither does what ends a declarator. -/
theorem BetweenCommas.standsApart {front : List Marked} {isFirst : Bool}
    (h : BetweenCommas ms front segment rest) (hname : segmentVariable? isFirst segment = some name) :
    StandsApart (tokensOf ms) name := by
  obtain ⟨before, hdeclarator, -, hqualified, -⟩ := segmentVariable?_eq_some_iff.mp hname
  let continues : Marked → Bool := fun m => !(m.isTop && endsDeclarator m.token)
  have hsegment : tokensOf segment = before ++ name :: tokensOf (segment.dropWhile continues) := by
    rw [List.append_cons, ← hdeclarator, tokensOf, tokensOf, tokensOf, ← List.map_append,
      List.takeWhile_append_dropWhile]
  refine ⟨tokensOf front ++ before, tokensOf (segment.dropWhile continues ++ rest), ?_, ?_, ?_⟩
  · rw [h.marks, tokensOf, List.map_append, List.map_append, ← tokensOf, ← tokensOf, hsegment]
    simp [tokensOf]
  · rw [List.getLast?_append]
    cases hlast : before.getLast? with
    | none =>
        rw [Option.none_or, tokensOf, List.getLast?_map, Option.any_eq_false]
        intro t ht
        obtain ⟨m, hm, rfl⟩ := Option.map_eq_some_iff.mp ht
        simp [not_isMark_colons_of_isTopMark (h.comma_left m hm)]
    | some last =>
        rw [isQualified, hlast] at hqualified
        exact any_isMark_eq_false_of_isOneOf hqualified (by decide)
  · rw [tokensOf, List.head?_map, List.head?_append, Option.any_eq_false]
    intro t ht
    obtain ⟨m, hm, rfl⟩ := Option.map_eq_some_iff.mp ht
    have hhead := List.head?_dropWhile_not continues segment
    cases hstop : (segment.dropWhile continues).head? with
    | none =>
        rw [hstop, Option.none_or] at hm
        simp [not_isMark_colons_of_isTopMark (h.comma_right m hm)]
    | some stop =>
        rw [hstop] at hhead hm
        cases hm
        simp only [continues, Bool.not_eq_false', Bool.and_eq_true] at hhead
        simp [not_isMark_colons_of_endsDeclarator hhead.2]

/-! ## Functions -/

/-- A function's name stands in front of its parameters and behind its type. -/
theorem FirstParenthesis.standsApart (h : FirstParenthesis ts head paren rest)
    (hname : functionName? (tokensOf head) site = some name) : StandsApart ts name := by
  obtain ⟨type, hhead, -, hqualified, -⟩ := functionName?_eq_some_iff.mp hname
  refine ⟨type, paren.token :: tokensOf rest, ?_, any_isMark_eq_false_of_isOneOf hqualified (by decide), ?_⟩
  · rw [h.tokens_eq, hhead, List.append_assoc]
    rfl
  · simp [Token.not_isMark h.opens (show "(" ≠ "::" by decide)]

/-! ## What is reported -/

/-- A pointer in the first parenthesis is what the tokens declare. -/
structure DeclaresPointer (ts : List Token) (name : Token) : Prop where
  declares : ts.head?.any (isWordOf skippedHeads) = false
  unoperated : ts.any (·.isWord "operator") = false
  pointer : ∃ head paren rest, FirstParenthesis ts head paren rest ∧
    PointerDeclarator (tokensOf head) (paren.token :: tokensOf rest) name

theorem DeclaresPointer.mem_declaredBy (h : DeclaresPointer ts name) (site : Site) :
    ⟨.variable, name⟩ ∈ declaredBy ts site := by
  obtain ⟨head, paren, rest, hparen, hpointer⟩ := h.pointer
  refine mem_declaredBy_iff.mpr ⟨h.declares, h.unoperated, .inl ⟨head, paren, rest, hparen, ?_⟩⟩
  exact parenthesized?_eq_some_iff.mpr (.inl ⟨hpointer, rfl⟩)

/-- What is declared otherwise than as a pointer in parentheses stands apart. -/
theorem standsApart_or_declaresPointer (h : d ∈ declaredBy ts site) :
    StandsApart ts d.name ∨ d.entity = .variable ∧ DeclaresPointer ts d.name := by
  obtain ⟨hdeclares, hoperator, ⟨head, paren, rest, hparen, hd⟩ | ⟨-, hd⟩⟩ := mem_declaredBy_iff.mp h
  · rcases parenthesized?_eq_some_iff.mp hd with ⟨hpointer, hentity⟩ | ⟨hlist, -⟩
    · exact .inr ⟨hentity, hdeclares, hoperator, head, paren, rest, hparen, hpointer⟩
    · exact .inl (hparen.standsApart hlist.named)
  · obtain ⟨front, segment, rest, hbetween, isFirst, hname⟩ := mem_variableDeclarators hd
    have happart := hbetween.standsApart hname
    rw [tokensOf_markTop] at happart
    exact .inl happart

/-- Names that are reported stand apart from `::`, except a pointer's: nothing else is declared with a qualifier
than what is declared in parentheses behind `*`, `&` or `^`, and no function is. -/
theorem classify_standsApart (statement : List Token) (site : Site) :
    ((∀ d ∈ classifyStatement statement site, StandsApart (normalize statement) d.name) ↔
      ∀ name, DeclaresPointer (withoutLinkage (normalize statement)) name →
        StandsApart (normalize statement) name) ∧
    (∀ d ∈ classifyStatement statement site, d.entity = .function →
      StandsApart (normalize statement) d.name) ∧
    ∀ name, classifyOpen statement site = .function (some name) →
      StandsApart (normalize statement) name := by
  obtain ⟨linkage, hlinkage, hts⟩ := exists_linkage (normalize statement)
  have hdeclared : ∀ d ∈ classifyStatement statement site, StandsApart (normalize statement) d.name ∨
      d.entity = .variable ∧ DeclaresPointer (withoutLinkage (normalize statement)) d.name := by
    intro d hd
    refine (standsApart_or_declaresPointer hd).imp_left fun happart => ?_
    rw [hts]
    exact hlinkage.standsApart_append happart
  refine ⟨⟨?_, ?_⟩, ?_, ?_⟩
  · intro h name hpointer
    exact h _ (hpointer.mem_declaredBy site)
  · intro h d hd
    rcases hdeclared d hd with happart | ⟨-, hpointer⟩
    · exact happart
    · exact h d.name hpointer
  · intro d hd hentity
    rcases hdeclared d hd with happart | ⟨hvariable, -⟩
    · exact happart
    · rw [hentity] at hvariable
      cases hvariable
  · intro name hopen
    obtain ⟨-, head, paren, rest, hopens⟩ := classifyOpen_eq_function_iff.mp hopen
    exact hopens.toFirstParenthesis.standsApart hopens.named

/-- The class of a static member is reported as a pointer's name. -/
theorem classifyStatement_member_pointer :
    ¬ ∀ d ∈ classifyStatement (tokens "int (*A::handler)(int)") .global,
      StandsApart (normalize (tokens "int (*A::handler)(int)")) d.name := by
  intro h
  have hmem : ⟨.variable, ⟨.word, "A", ⟨1, 7⟩⟩⟩ ∈ classifyStatement (tokens "int (*A::handler)(int)") .global := by
    decide +kernel
  have hts : normalize (tokens "int (*A::handler)(int)") =
      [⟨.word, "int", ⟨1, 1⟩⟩, ⟨.mark, "(", ⟨1, 5⟩⟩, ⟨.mark, "*", ⟨1, 6⟩⟩] ++ ⟨.word, "A", ⟨1, 7⟩⟩ ::
        [⟨.mark, "::", ⟨1, 8⟩⟩, ⟨.word, "handler", ⟨1, 10⟩⟩, ⟨.mark, ")", ⟨1, 17⟩⟩, ⟨.mark, "(", ⟨1, 18⟩⟩,
          ⟨.word, "int", ⟨1, 19⟩⟩, ⟨.mark, ")", ⟨1, 22⟩⟩] := by
    decide +kernel
  have happart := h _ hmem
  rw [hts] at happart
  exact absurd (happart.of_once (by decide) (by decide)).2 (by decide)

end NameLint.Declaration

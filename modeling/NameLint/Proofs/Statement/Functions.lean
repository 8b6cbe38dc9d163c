import NameLint.Proofs.Statement.Types

/-!
# Prototypes and definitions

What a statement must have for a function to be reported in it, when a semicolon ends it and when a brace
follows it. A function with a prototype is also reported with a body: a linkage in front of it moves neither
its parameters nor its name, and what a body's head is asked besides leaves the name alone.
-/

namespace NameLint.Declaration

open NameLint.Source

variable {ts linkage before statement : List Token} {ms head after : List Marked} {paren : Marked} {site : Site}
  {name : Token} {d : Declarator}

/-! ## What stands in front of a function -/

/-- A linkage in front of a statement stands in front of the same parenthesis. -/
theorem FirstParenthesis.linkage_append (h : FirstParenthesis ts head paren after) (hlinkage : IsLinkage linkage) :
    FirstParenthesis (linkage ++ ts) (linkage.map (⟨·, true⟩) ++ head) paren after := by
  refine ⟨?_, h.opens⟩
  have hskip : ∀ m ∈ linkage.map (⟨·, true⟩ : Token → Marked),
      (m.isTopMark "(" || m.isTopMark "=") = false := by
    intro m hm
    obtain ⟨t, ht, rfl⟩ := List.mem_map.mp hm
    simp [Marked.isTopMark, Token.isMark, hlinkage.kind_ne_mark t ht]
  rw [markTop_append_of_kind_ne_mark {} hlinkage.kind_ne_mark, firstOfInterest]
  change cutAtFirst _ (linkage.map (⟨·, true⟩) ++ _) = _
  rw [cutAtFirst_append_of_forall hskip, ← firstOfInterest, h.first]
  rfl

/-- More in front of the type of a function leaves its name. -/
theorem functionName?_append (h : functionName? before site = some name) (us : List Token) :
    functionName? (us ++ before) site = some name := by
  obtain ⟨type, rfl, hname, hqualified, htyped, hconstructor⟩ := functionName?_eq_some_iff.mp h
  have hne : type ≠ [] := by
    rintro rfl
    simp [hasType] at htyped
  refine functionName?_eq_some_iff.mpr ⟨us ++ type, by rw [List.append_assoc], hname, ?_, ?_, hconstructor⟩
  · rwa [List.getLast?_append_of_ne_nil _ hne]
  · rw [hasType, List.any_append, ← hasType, ← hasType, htyped, Bool.or_true]

/-! ## What a brace opens -/

/-- Whether a colon at top level follows the parameters. -/
def hasColonBehindParameters (ts : List Token) : Bool :=
  (firstOfInterest (markTop {} ts)).any fun (_, found, after) =>
    found.token.isMark "(" && hasMemberInitializers (found :: after)

/-- Whether what stands behind a constructor's parameters ends in a member, whose value a brace would open. -/
def endsInMember (ts : List Token) (paren : Marked) (after : List Marked) : Bool :=
  hasMemberInitializers (paren :: after) && ts.getLast?.any fun t => t.kind = .word || t.isMark ">"

/-- What a brace needs to open a function that is reported. -/
structure OpensFunction (ts : List Token) (site : Site) (name : Token) (head : List Marked) (paren : Marked)
    (after : List Marked) : Prop extends FirstParenthesis ts head paren after, Undecided ts where
  body : endsInMember ts paren after = false
  named : functionName? (tokensOf head) site = some name

theorem openAfterParameters_eq_function_iff :
    openAfterParameters ts head (paren :: after) site = .function (some name) ↔
      endsInMember ts paren after = false ∧ functionName? (tokensOf head) site = some name := by
  simp only [openAfterParameters, endsInMember]
  split <;> simp [*]

theorem openPlain_ne_function (ts : List Token) (name : Option Token) : openPlain ts ≠ .function name := by
  intro h
  unfold openPlain at h
  split at h
  · rename_i opening hopening
    subst h
    cases hdrop : ts.dropWhile fun t => !isTypeKeyword t with
    | nil =>
        simp only [isTypeKeyword] at hdrop
        simp [typeOpening?, hdrop] at hopening
    | cons keyword rest =>
        rw [typeOpening?_of_dropWhile hdrop] at hopening
        split at hopening
        · cases hopening
        split at hopening
        · cases hopening
        · obtain ⟨_, -, hrecord⟩ := Option.map_eq_some_iff.mp hopening
          cases hrecord
  · split at h <;> cases h

/-- Two tokens that are a linkage leave no place for a parenthesis. -/
theorem FirstParenthesis.not_linkage {first : Token} {rest : List Token}
    (h : FirstParenthesis (first :: rest) head paren after) :
    (first.isWord "extern" && rest.length = 1 && rest.any (·.kind = .literal)) = false := by
  by_contra hlinkage
  rw [Bool.not_eq_false, Bool.and_eq_true, Bool.and_eq_true, decide_eq_true_eq] at hlinkage
  obtain ⟨⟨hword, hlength⟩, hliteral⟩ := hlinkage
  obtain ⟨second, rfl⟩ := List.length_eq_one_iff.mp hlength
  have hmem : paren.token ∈ [first, second] := h.tokens_eq ▸ by simp
  have hkind := Token.kind_of_isMark h.opens
  rw [List.mem_cons, List.mem_singleton] at hmem
  rcases hmem with heq | heq
  · simp [Token.isWord, ← heq, hkind] at hword
  · simp [← heq, hkind] at hliteral

theorem openAfter_eq_function_iff :
    openAfter ts site = .function (some name) ↔
      ∃ head paren after, OpensFunction ts site name head paren after := by
  constructor
  · intro h
    rcases openAfter_cases ts site with
      hother | ⟨hundecided, ⟨-, hplain⟩ | ⟨head, paren, after, hparen, hopening⟩⟩
    · simp [h] at hother
    · exact absurd (hplain.symm.trans h) (openPlain_ne_function _ _)
    · obtain ⟨hbody, hname⟩ := openAfterParameters_eq_function_iff.mp (hopening.symm.trans h)
      exact ⟨head, paren, after, hparen, hundecided, hbody, hname⟩
  · rintro ⟨head, paren, after, h⟩
    cases hts : ts with
    | nil => exact absurd h.tokens_eq (by simp [hts])
    | cons first rest =>
        have hcontrol : isWordOf controlHeads first = false := by simpa [hts] using h.uncontrolled
        have hfriend : first.isWord "friend" = false := by simpa [hts] using h.friendless
        have hequals : paren.token.isMark "=" = false := Token.not_isMark h.opens (by decide)
        rw [← hts, openAfter_eq site hts]
        simp only [h.unspaced, (hts ▸ h.toFirstParenthesis).not_linkage, hcontrol, hfriend, h.unoperated,
          h.first, hequals]
        exact openAfterParameters_eq_function_iff.mpr ⟨h.body, h.named⟩

theorem classifyOpen_eq_function_iff :
    classifyOpen statement site = .function (some name) ↔
      bracketBalance statement ≤ 0 ∧
        ∃ head paren after, OpensFunction (normalize statement) site name head paren after := by
  rw [classifyOpen, ← openAfter_eq_function_iff]
  split
  · rename_i hopen
    exact iff_of_false (by simp) fun h => absurd h.1 (by omega)
  · rename_i hopen
    exact ⟨fun h => ⟨by omega, h⟩, fun h => h.2⟩

/-! ## Prototypes with a body -/

theorem entity_of_mem_variableDeclarators (h : d ∈ variableDeclarators ms) : d.entity = .variable := by
  unfold variableDeclarators at h
  split at h
  · cases h
  split at h
  · cases h
  obtain ⟨_, -, rfl⟩ := List.mem_map.mp h
  rfl

/-- What begins a declaration is no friend, with a linkage in front of it or without. -/
theorem IsLinkage.friendless (h : IsLinkage linkage) (hdeclares : ts.head?.any (isWordOf skippedHeads) = false) :
    (linkage ++ ts).head?.any (·.isWord "friend") = false := by
  rcases h with rfl | ⟨first, second, rfl, hword, -⟩
  · rw [List.nil_append, Option.any_eq_false]
    intro t ht
    rw [Option.any_eq_false] at hdeclares
    exact isWord_eq_false_of_isWordOf (by simpa using hdeclares t ht) (by decide)
  · simp only [Token.isWord, Bool.and_eq_true, beq_iff_eq] at hword
    simp [Token.isWord, hword]

theorem endsInMember_eq_false (h : FirstParenthesis ts head paren after)
    (hcolon : hasColonBehindParameters ts = false) : endsInMember ts paren after = false := by
  simp only [hasColonBehindParameters, h.first, Option.any_some, h.opens, Bool.true_and] at hcolon
  rw [endsInMember, hcolon, Bool.false_and]

/-- A function that a statement declares is the one whose body a brace behind the statement opens, unless the
statement reads as something else in front of a brace: brackets are open in it, it begins as control flow or as
a namespace, or members are initialized behind the parameters. -/
theorem classifyOpen_of_prototype (hbalance : bracketBalance statement ≤ 0)
    (hcontrol : (normalize statement).head?.any (isWordOf controlHeads) = false)
    (hnamespace : ((normalize statement).take 2).any (·.isWord "namespace") = false)
    (hcolon : hasColonBehindParameters (normalize statement) = false)
    (hd : d ∈ classifyStatement statement site) (hentity : d.entity = .function) :
    classifyOpen statement site = .function (some d.name) := by
  obtain ⟨linkage, hlinkage, hts⟩ := exists_linkage (normalize statement)
  obtain ⟨hdeclares, hoperator, hcases⟩ := mem_declaredBy_iff.mp hd
  rcases hcases with ⟨head, paren, after, hparen, hsome⟩ | ⟨-, hvariable⟩
  · have hname : functionName? (tokensOf head) site = some d.name := by
      rcases parenthesized?_eq_some_iff.mp hsome with ⟨-, hvariable⟩ | ⟨hlist, -⟩
      · rw [hentity] at hvariable
        cases hvariable
      · exact hlist.named
    have hparen' := hparen.linkage_append hlinkage
    rw [← hts] at hparen'
    have htokens : tokensOf (linkage.map (⟨·, true⟩) ++ head) = linkage ++ tokensOf head := by
      simp [tokensOf, Function.comp_def]
    refine classifyOpen_eq_function_iff.mpr ⟨hbalance, _, paren, after, hparen',
      ⟨hnamespace, hcontrol, ?_, ?_⟩, endsInMember_eq_false hparen' hcolon, ?_⟩
    · rw [hts]
      exact hlinkage.friendless hdeclares
    · rw [hts, List.any_append, hoperator, Bool.or_false, List.any_eq_false]
      intro t ht
      simpa using hlinkage.not_isWord (show "operator" ≠ "extern" by decide) t ht
    · rw [htokens]
      exact functionName?_append hname linkage
  · rw [entity_of_mem_variableDeclarators hvariable] at hentity
    cases hentity

/-- A linkage is skipped for the prototype only. -/
theorem classifyOpen_of_prototype_linkage :
    classifyStatement (tokens "extern \"C\" int f(int a)") .global = [⟨.function, ⟨.word, "f", ⟨1, 16⟩⟩⟩] ∧
      classifyOpen (tokens "extern \"C\" int f(int a)") .global =
        .function (some ⟨.word, "f", ⟨1, 16⟩⟩) := by
  have hprototype : classifyStatement (tokens "extern \"C\" int f(int a)") .global =
      [⟨.function, ⟨.word, "f", ⟨1, 16⟩⟩⟩] := by
    decide +kernel
  refine ⟨hprototype, ?_⟩
  exact classifyOpen_of_prototype (d := ⟨.function, ⟨.word, "f", ⟨1, 16⟩⟩⟩) (by decide +kernel)
    (by decide +kernel) (by decide +kernel) (by decide +kernel) (by simp [hprototype]) rfl

end NameLint.Declaration

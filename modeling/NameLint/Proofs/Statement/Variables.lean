import Mathlib.Data.List.Chain
import NameLint.Proofs.Statement.Relabel
import NameLint.Proofs.Statement.TypeHead

/-!
# The heads of variables

A variable's value stands in braces, behind an equals sign or directly behind the declarator. With the equals
sign the brace always opens a value. Without it that is decided by the head alone: by the names behind the
keyword of a type, if there is one, and else by whether the head ends in a name. Where a value is opened, it
changes nothing in what the statement declares.
-/

namespace NameLint.Declaration

open NameLint.Source

variable {ts us values : List Token} {ms : List Marked} {site : Site} {t equals : Token}

/-! ## Statements from which nothing is dropped -/

/-- Whether two tokens in a row begin an attribute or a template header. -/
def beginsDropped (t next : Token) : Bool :=
  t.isMark "[" && next.isMark "[" || isAttributeWord t && next.isMark "(" ||
    t.isWord "template" && next.isMark "<"

theorem normalize_of_isChain (h : ts.IsChain fun t next => beginsDropped t next = false) :
    normalize ts = ts := by
  fun_induction normalize ts with
  | case1 => rfl
  | case2 => rfl
  | case3 t next rest hbegins ih =>
      exact absurd (List.isChain_cons_cons.mp h).1 (by rw [beginsDropped, hbegins]; simp)
  | case4 t next rest _ hbegins ih =>
      exact absurd (List.isChain_cons_cons.mp h).1 (by rw [beginsDropped, hbegins]; simp)
  | case5 t next rest _ _ hbegins ih =>
      exact absurd (List.isChain_cons_cons.mp h).1 (by rw [beginsDropped, hbegins]; simp)
  | case6 t next rest _ _ _ ih => rw [ih (List.isChain_cons_cons.mp h).2]

theorem withoutLinkage_append (h : 2 ≤ ts.length) :
    withoutLinkage (ts ++ us) = withoutLinkage ts ++ us := by
  match ts, h with
  | first :: second :: rest, _ =>
      simp only [List.cons_append, withoutLinkage]
      split <;> rfl

/-! ## Brackets -/

/-- The nesting behind some tokens. -/
def nesting (ts : List Token) : Nesting := ts.foldl Nesting.after {}

theorem nesting_concat (ts : List Token) (t : Token) : nesting (ts ++ [t]) = (nesting ts).after t := by
  simp [nesting]

theorem markTop_append (n : Nesting) (ts us : List Token) :
    markTop n (ts ++ us) = markTop n ts ++ markTop (ts.foldl Nesting.after n) us := by
  induction ts generalizing n with
  | nil => rfl
  | cons t ts ih => simp [markTop, ih]

theorem token_mem_of_mem_markTop {n : Nesting} {m : Marked} (h : m ∈ markTop n ts) : m.token ∈ ts := by
  have hmem : m.token ∈ tokensOf (markTop n ts) := List.mem_map_of_mem h
  simpa using hmem

theorem nesting_withoutLinkage (ts : List Token) : nesting (withoutLinkage ts) = nesting ts := by
  unfold withoutLinkage
  split
  · rename_i first second rest
    split
    · rename_i hlinkage
      simp only [Bool.and_eq_true, Token.isWord, decide_eq_true_eq] at hlinkage
      simp [nesting, Nesting.after_of_kind_ne_mark _ (t := first) (by simp [hlinkage.1.1]),
        Nesting.after_of_kind_ne_mark _ (t := second) (by simp [hlinkage.2])]
    · rfl
  · rfl

theorem Nesting.brackets_after (n : Nesting) (t : Token) :
    (n.after t).brackets =
      if t.isMark "(" || t.isMark "[" then n.brackets + 1
      else if t.isMark ")" || t.isMark "]" then n.brackets - 1
      else n.brackets := by
  unfold after
  split
  · rename_i hkind
    simp [Token.isMark, hkind]
  · rename_i hkind
    rw [not_not] at hkind
    simp only [Token.isMark, hkind, decide_true, Bool.true_and]
    split
    case h_9 => simp_all
    all_goals simp [*] <;> split <;> rfl

/-- More brackets may be closed than opened, but never do more stay open. -/
theorem bracketBalance_le_brackets (ts : List Token) : bracketBalance ts ≤ (nesting ts).brackets := by
  induction ts using List.reverseRecOn with
  | nil => exact Int.le_refl 0
  | append_singleton ts t ih =>
      rw [nesting_concat, Nesting.brackets_after]
      simp only [bracketBalance, List.foldl_append, List.foldl_cons, List.foldl_nil] at ih ⊢
      -- A bracket that closes nothing counts on the left only.
      split
      · omega
      · split <;> omega

theorem bracketBalance_of_isTop (h : (nesting ts).isTop = true) : ¬ 0 < bracketBalance ts := by
  have hle := bracketBalance_le_brackets ts
  simp only [Nesting.isTop, Bool.and_eq_true, decide_eq_true_eq] at h
  omega

/-! ## Heads -/

/-- Words that begin other statements than declarations of variables. -/
def otherHeads : List String := ["namespace", "friend", "operator"] ++ controlHeads

/-- Tokens as they stand in the head of a variable: no parentheses, no equals sign outside of brackets, no
words of other statements, and nothing that is dropped. -/
structure HeadTokens (ts : List Token) : Prop where
  unparenthesized : ∀ t ∈ ts, t.isMark "(" = false
  unassigned : ∀ m ∈ markTop {} ts, m.isTopMark "=" = false
  declares : ∀ t ∈ ts, isWordOf otherHeads t = false
  kept : ts.IsChain fun t next => beginsDropped t next = false

/-- The head of a variable: all its brackets are closed, and it has a type and a declarator. -/
structure VariableHead (ts : List Token) : Prop extends HeadTokens ts where
  closed : (nesting ts).isTop = true
  typed : 2 ≤ (withoutLinkage ts).length

/-- A closed part of a head behind which the body of a type may stand: a type's keyword, with at most one name
that counts behind it. -/
structure TypeHead (ts : List Token) : Prop where
  closed : (nesting ts).isTop = true
  keyword : ts.any isTypeKeyword = true
  named : (typeNames ts).length ≤ 1

/-- Whether a brace behind a head opens a value: two names count behind the keyword of a type, or there is no
such keyword and the head ends in a name. -/
def OpensValue (ts : List Token) : Prop :=
  2 ≤ (typeNames ts).length ∨ ts.any isTypeKeyword = false ∧ ts.getLast?.any (·.isName) = true

theorem HeadTokens.of_append (h : HeadTokens (ts ++ us)) : HeadTokens ts where
  unparenthesized t ht := h.unparenthesized t (List.mem_append_left _ ht)
  unassigned m hm := h.unassigned m (by rw [markTop_append]; exact List.mem_append_left _ hm)
  declares t ht := h.declares t (List.mem_append_left _ ht)
  kept := h.kept.left_of_append

theorem HeadTokens.firstOfInterest_eq_none (h : HeadTokens ts) : firstOfInterest (markTop {} ts) = none := by
  rw [firstOfInterest, cutAtFirst_eq_none_iff]
  intro m hm
  rw [h.unassigned m hm, Bool.or_false, Marked.isTopMark,
    h.unparenthesized m.token (token_mem_of_mem_markTop hm), Bool.and_false]

theorem VariableHead.two_le_length (h : VariableHead ts) : 2 ≤ ts.length :=
  h.typed.trans (withoutLinkage_sublist ts).length_le

/-! ## What a brace opens -/

theorem isWord_eq_false_of_isWordOf {texts : List String} {text : String} (h : isWordOf texts t = false)
    (hmem : text ∈ texts) : t.isWord text = false := by
  by_contra hword
  simp only [Bool.not_eq_false, Token.isWord, Bool.and_eq_true, decide_eq_true_eq, beq_iff_eq] at hword
  simp [isWordOf, hword.1, hword.2, hmem] at h

/-- Without the words of other statements, what a brace opens is decided by parentheses and equals signs. -/
theorem openAfter_of_declares (h : ∀ t ∈ ts, isWordOf otherHeads t = false) (hne : withoutLinkage ts ≠ []) :
    openAfter ts site =
      match firstOfInterest (markTop {} ts) with
      | none => openPlain ts
      | some (before, found, after) =>
        if found.token.isMark "=" then .initializer
        else openAfterParameters ts before (found :: after) site := by
  have hword : ∀ text ∈ otherHeads, ts.any (·.isWord text) = false := by
    intro text htext
    rw [List.any_eq_false]
    intro t ht
    simp [isWord_eq_false_of_isWordOf (h t ht) htext]
  cases hts : ts with
  | nil => simp [hts, withoutLinkage] at hne
  | cons first rest =>
      rw [← hts, openAfter_eq site hts]
      have hfirst : isWordOf otherHeads first = false := h first (by simp [hts])
      have hnamespace : (ts.take 2).any (·.isWord "namespace") = false := by
        have hall := hword "namespace" (by decide)
        rw [List.any_eq_false] at hall ⊢
        exact fun t ht => hall t (List.mem_of_mem_take ht)
      have hlinkage : (first.isWord "extern" && rest.length = 1 && rest.any (·.kind = .literal)) = false := by
        rcases rest with _ | ⟨second, _ | ⟨third, rest⟩⟩
        · simp
        · by_contra hboth
          simp_all [withoutLinkage]
        · simp
      have hcontrol : isWordOf controlHeads first = false := by
        simp only [isWordOf, otherHeads, Bool.and_eq_false_iff, List.contains_eq_mem,
          decide_eq_false_iff_not] at hfirst ⊢
        exact hfirst.imp_right fun hmem hin => hmem (List.mem_append_right _ hin)
      have hfriend : first.isWord "friend" = false := isWord_eq_false_of_isWordOf hfirst (by decide)
      rw [hnamespace, hlinkage, hcontrol, hfriend, hword "operator" (by decide)]
      rfl

theorem HeadTokens.classifyOpen_eq (h : HeadTokens ts) (hclosed : (nesting ts).isTop = true)
    (hne : withoutLinkage ts ≠ []) : classifyOpen ts site = openPlain ts := by
  rw [classifyOpen, if_neg (bracketBalance_of_isTop hclosed), normalize_of_isChain h.kept,
    openAfter_of_declares h.declares hne, h.firstOfInterest_eq_none]

theorem openPlain_of_typeNames (h : 2 ≤ (typeNames ts).length) : openPlain ts = .initializer := by
  cases hdrop : ts.dropWhile fun t => !isTypeKeyword t with
  | nil => simp [typeNames, hdrop, headNames, withoutMacros] at h
  | cons keyword rest => rw [openPlain, typeOpening?_of_dropWhile hdrop, if_pos h]

theorem openPlain_of_no_keyword (h : ts.any isTypeKeyword = false) :
    openPlain ts = if 2 ≤ ts.length && ts.getLast?.any (·.isName) then .initializer else .block := by
  have hdrop : ts.dropWhile (fun t => !isTypeKeyword t) = [] := by
    simpa using h
  have hnone : typeOpening? ts = none := by
    simp only [isTypeKeyword] at hdrop
    rw [typeOpening?, hdrop]
  rw [openPlain, hnone]

theorem TypeHead.openPlain_opensType (h : TypeHead ts) : (openPlain ts).opensType = true := by
  cases hdrop : ts.dropWhile fun t => !isTypeKeyword t with
  | nil =>
      obtain ⟨t, ht, hkeyword⟩ := List.any_eq_true.mp h.keyword
      have hnot := List.dropWhile_eq_nil_iff.mp hdrop t ht
      simp [hkeyword] at hnot
  | cons keyword rest =>
      have hkeyword : isTypeKeyword keyword = true := by
        have hhead := List.head?_dropWhile_not (fun t => !isTypeKeyword t) ts
        rw [hdrop] at hhead
        simpa using hhead
      rw [openPlain, typeOpening?_of_dropWhile hdrop, if_neg (by have := h.named; omega)]
      simp only [isTypeKeyword, isWordOf, Bool.and_eq_true, List.contains_iff_mem, List.mem_cons,
        List.not_mem_nil, or_false] at hkeyword
      rcases hkeyword.2 with htext | htext | htext | htext <;> rw [htext] <;> rfl

theorem TypeHead.classifyOpen_opensType (h : TypeHead ts) (htokens : HeadTokens ts) :
    (classifyOpen ts site).opensType = true := by
  have hne : withoutLinkage ts ≠ [] := by
    intro hnil
    obtain ⟨t, ht, hkeyword⟩ := List.any_eq_true.mp h.keyword
    obtain ⟨linkage, hlinkage, hts⟩ := exists_linkage ts
    rw [hts, hnil, List.append_nil] at ht
    rw [hlinkage.not_isTypeKeyword t ht] at hkeyword
    cases hkeyword
  rw [htokens.classifyOpen_eq h.closed hne]
  exact h.openPlain_opensType

theorem VariableHead.classifyOpen_eq (h : VariableHead ts) : classifyOpen ts site = openPlain ts :=
  h.toHeadTokens.classifyOpen_eq h.closed fun hnil => by simpa [hnil] using h.typed

theorem VariableHead.classifyOpen_of_opensValue (h : VariableHead ts) (hopens : OpensValue ts) :
    classifyOpen ts site = .initializer := by
  rw [h.classifyOpen_eq]
  rcases hopens with hnames | ⟨hkeyword, hlast⟩
  · exact openPlain_of_typeNames hnames
  · rw [openPlain_of_no_keyword hkeyword, hlast, decide_eq_true h.two_le_length]
    rfl

/-- Without the keyword of a type, a head that does not end in a name is followed by no value. -/
theorem VariableHead.classifyOpen_of_last (h : VariableHead ts) (hkeyword : ts.any isTypeKeyword = false)
    (hlast : ts.getLast?.any (·.isName) = false) : classifyOpen ts site = .block := by
  rw [h.classifyOpen_eq, openPlain_of_no_keyword hkeyword, hlast, Bool.and_false]
  rfl

theorem cutAtFirst_append {p : Marked → Bool} {m : Marked} (h : cutAtFirst p ms = none) (hm : p m = true)
    (after : List Marked) :
    cutAtFirst p (ms ++ m :: after) = some (ms, m, after) := by
  rw [cutAtFirst_append_of_forall (cutAtFirst_eq_none_iff.mp h), cutAtFirst, if_pos hm]
  simp

/-- Whether a token belongs to a value: an equals sign, or what stands for its braces. -/
def isValueToken (t : Token) : Bool := t.kind = .group || t.isMark "="

theorem beginsDropped_of_isValueToken {next : Token} (h : isValueToken next = true) :
    beginsDropped t next = false := by
  simp only [isValueToken, Bool.or_eq_true, decide_eq_true_eq] at h
  rcases h with hkind | hmark
  · simp [beginsDropped, Token.isMark, hkind]
  · simp [beginsDropped, Token.not_isMark hmark]

theorem VariableHead.normalize_append (h : VariableHead ts) (hvalues : ∀ t ∈ values, isValueToken t = true) :
    normalize (ts ++ values) = ts ++ values := by
  refine normalize_of_isChain (List.isChain_append.mpr ⟨h.kept, ?_, fun _ _ next hnext => ?_⟩)
  · rw [List.isChain_iff_getElem]
    intro i hi
    exact beginsDropped_of_isValueToken (hvalues _ (List.getElem_mem _))
  · exact beginsDropped_of_isValueToken (hvalues next (List.mem_of_mem_head? hnext))

theorem markTop_values {n : Nesting} (hn : n.isTop = true) (hvalues : ∀ t ∈ values, isValueToken t = true) :
    markTop n values = values.map (⟨·, true⟩) := by
  induction values generalizing n with
  | nil => rfl
  | cons t rest ih =>
      obtain ⟨ht, hrest⟩ := List.forall_mem_cons.mp hvalues
      have hafter : (n.after t).isTop = true := by
        simp only [isValueToken, Bool.or_eq_true, decide_eq_true_eq] at ht
        rcases ht with hkind | hmark
        · rwa [Nesting.after_of_kind_ne_mark n (by simp [hkind])]
        · have htext := Token.isMark_text hmark
          simp only [Token.isMark, Bool.and_eq_true, decide_eq_true_eq] at hmark
          have hset : n.after t = { n with inInitializer := true } := by
            simp [Nesting.after, hmark.1, htext, hn]
          rw [hset]
          exact hn
      rw [markTop, ih hafter hrest, hn]
      rfl

theorem markTop_append_values (hclosed : (nesting ts).isTop = true)
    (hvalues : ∀ t ∈ values, isValueToken t = true) :
    markTop {} (ts ++ values) = markTop {} ts ++ values.map (⟨·, true⟩) := by
  rw [markTop_append]
  exact congrArg _ (markTop_values hclosed hvalues)

/-- Behind an equals sign a brace opens a value. -/
theorem VariableHead.classifyOpen_concat (h : VariableHead ts) (hequals : equals.isMark "=" = true) :
    classifyOpen (ts ++ [equals]) site = .initializer := by
  have hvalues : ∀ t ∈ [equals], isValueToken t = true := by simp [isValueToken, hequals]
  have hdeclares : ∀ t ∈ ts ++ [equals], isWordOf otherHeads t = false := by
    intro t ht
    rcases List.mem_append.mp ht with ht | ht
    · exact h.declares t ht
    · simp only [Token.isMark, Bool.and_eq_true, decide_eq_true_eq] at hequals
      simp [List.mem_singleton.mp ht, isWordOf, hequals.1]
  have hne : withoutLinkage (ts ++ [equals]) ≠ [] := by
    simp [withoutLinkage_append h.two_le_length]
  have hcut := cutAtFirst_append (m := ⟨equals, true⟩) h.firstOfInterest_eq_none
    (by simp [Marked.isTopMark, hequals]) []
  rw [classifyOpen]
  split
  · rfl
  · rw [h.normalize_append hvalues, openAfter_of_declares hdeclares hne,
      markTop_append_values h.closed hvalues, List.map_singleton, firstOfInterest, hcut]
    simp [hequals]

/-! ## What a head declares -/

theorem classifyStatement_nil (site : Site) : classifyStatement [] site = [] := by
  simp [classifyStatement, normalize, withoutLinkage, declaredBy, markTop, firstOfInterest, cutAtFirst,
    variableDeclarators, splitCommas, segmentVariable?, tokensOf]

/-- Whether a declarator goes on behind a token. -/
def continuesDeclarator (m : Marked) : Bool := !(m.isTop && endsDeclarator m.token)

theorem segmentVariable?_takeWhile (isFirst : Bool) (segment : List Marked) :
    segmentVariable? isFirst (segment.takeWhile continuesDeclarator) = segmentVariable? isFirst segment := by
  have hsame : (segment.takeWhile continuesDeclarator).takeWhile
      (fun m => !(m.isTop && endsDeclarator m.token)) =
        segment.takeWhile fun m => !(m.isTop && endsDeclarator m.token) := List.takeWhile_idem
  simp only [segmentVariable?, hsame]

theorem splitCommas_ne_nil (ms : List Marked) : splitCommas ms ≠ [] := by
  obtain ⟨others, hsplit⟩ := splitCommas_head ms
  simp [hsplit]

/-- What a statement declares is decided by what stands in its segments before the declarators end. -/
theorem variableDeclarators_congr {ms ns : List Marked}
    (h : (splitCommas ms).map (·.takeWhile continuesDeclarator) =
      (splitCommas ns).map (·.takeWhile continuesDeclarator)) :
    variableDeclarators ms = variableDeclarators ns := by
  obtain ⟨first, others, hms⟩ := List.exists_cons_of_ne_nil (splitCommas_ne_nil ms)
  obtain ⟨first', others', hns⟩ := List.exists_cons_of_ne_nil (splitCommas_ne_nil ns)
  rw [hms, hns, List.map_cons, List.map_cons, List.cons.injEq] at h
  have hall : ∀ segments : List (List Marked), segments.filterMap (segmentVariable? false) =
      (segments.map (·.takeWhile continuesDeclarator)).filterMap (segmentVariable? false) := by
    intro segments
    rw [List.filterMap_map]
    exact List.filterMap_congr fun segment _ => (segmentVariable?_takeWhile false segment).symm
  have hfirst : segmentVariable? true first = segmentVariable? true first' := by
    rw [← segmentVariable?_takeWhile, h.1, segmentVariable?_takeWhile]
  have hothers : others.filterMap (segmentVariable? false) = others'.filterMap (segmentVariable? false) := by
    rw [hall others, h.2, ← hall others']
  simp only [variableDeclarators, hms, hns, hfirst, hothers]

theorem splitCommas_of_no_comma (h : ∀ m ∈ ms, m.isTopMark "," = false) : splitCommas ms = [ms] := by
  induction ms with
  | nil => rfl
  | cons m rest ih =>
      obtain ⟨hm, hrest⟩ := List.forall_mem_cons.mp h
      simp [splitCommas, hm, ih hrest]

theorem splitCommas_append {p : Marked → Bool} {after : List Marked}
    (hcomma : ∀ m ∈ after, m.isTopMark "," = false) (hstops : after.takeWhile p = []) :
    (splitCommas (ms ++ after)).map (·.takeWhile p) = (splitCommas ms).map (·.takeWhile p) := by
  fun_induction splitCommas ms with
  | case1 =>
      rw [List.nil_append, splitCommas_of_no_comma hcomma]
      simp [hstops]
  | case2 m rest hm ih => simp [splitCommas, hm, ih]
  | case3 m rest hm heq ih => exact absurd heq (splitCommas_ne_nil rest)
  | case4 m rest hm segment segments heq ih =>
      -- The segment may be the last one, which takes in what is added.
      obtain ⟨segment', segments', hsplit⟩ :=
        List.exists_cons_of_ne_nil (splitCommas_ne_nil (rest ++ after))
      rw [heq, hsplit, List.map_cons, List.map_cons, List.cons.injEq] at ih
      rw [List.cons_append, splitCommas, if_neg hm, hsplit]
      simp only [List.map_cons, List.takeWhile_cons, ih.1, ih.2]

theorem declaredBy_of_unparenthesized (hparen : ∀ t ∈ ts, t.isMark "(" = false)
    (hoperator : ts.any (·.isWord "operator") = false) :
    declaredBy ts site =
      if ts.head?.any (isWordOf skippedHeads) then [] else variableDeclarators (markTop {} ts) := by
  cases hfirst : firstOfInterest (markTop {} ts) with
  | none => exact declaredBy_of_firstOfInterest hoperator hfirst
  | some cut =>
      obtain ⟨before, found, after⟩ := cut
      have hmem : found ∈ markTop {} ts := by
        rw [cutAtFirst_eq hfirst]
        simp
      have hfound : found.token.isMark "(" = false := hparen _ (token_mem_of_mem_markTop hmem)
      simp only [declaredBy, hoperator, Bool.or_false, hfirst, hfound]
      rfl

/-- A value behind a head changes nothing in what the statement declares. -/
theorem VariableHead.classifyStatement_append (h : VariableHead ts) (hne : values ≠ [])
    (hvalues : ∀ t ∈ values, isValueToken t = true) :
    classifyStatement (ts ++ values) site = classifyStatement ts site := by
  have hvalue : ∀ t ∈ values, t.isMark "(" = false ∧ t.isWord "operator" = false ∧ t.isMark "," = false ∧
      endsDeclarator t = true := by
    intro t ht
    have hvalue := hvalues t ht
    simp only [isValueToken, Bool.or_eq_true, decide_eq_true_eq] at hvalue
    rcases hvalue with hkind | hmark
    · simp [Token.isMark, Token.isWord, endsDeclarator, hkind]
    · have htext := Token.isMark_text hmark
      simp only [Token.isMark, Bool.and_eq_true, decide_eq_true_eq] at hmark
      simp [Token.isMark, Token.isWord, endsDeclarator, isOneOf, hmark.1, htext]
  have hinside : ∀ t ∈ withoutLinkage ts, t ∈ ts := fun t ht => (withoutLinkage_sublist ts).mem ht
  have hparen : ∀ t ∈ withoutLinkage ts, t.isMark "(" = false :=
    fun t ht => h.unparenthesized t (hinside t ht)
  have hoperator : ∀ t ∈ withoutLinkage ts, t.isWord "operator" = false :=
    fun t ht => isWord_eq_false_of_isWordOf (h.declares t (hinside t ht)) (by decide)
  have hstart : withoutLinkage ts ≠ [] := fun hnil => by simpa [hnil] using h.typed
  have hvariables : variableDeclarators (markTop {} (withoutLinkage ts ++ values)) =
      variableDeclarators (markTop {} (withoutLinkage ts)) := by
    rw [markTop_append_values (by rw [nesting_withoutLinkage]; exact h.closed) hvalues]
    refine variableDeclarators_congr (splitCommas_append (fun m hm => ?_) ?_)
    · obtain ⟨t, ht, rfl⟩ := List.mem_map.mp hm
      simp [Marked.isTopMark, hvalue t ht]
    · obtain ⟨first, rest, rfl⟩ := List.exists_cons_of_ne_nil hne
      simp [continuesDeclarator, hvalue first]
  rw [classifyStatement, classifyStatement, h.normalize_append hvalues, normalize_of_isChain h.kept,
    withoutLinkage_append h.two_le_length,
    declaredBy_of_unparenthesized
      (List.forall_mem_append.mpr ⟨hparen, fun t ht => (hvalue t ht).1⟩)
      (List.any_eq_false.mpr (List.forall_mem_append.mpr ⟨by simpa using hoperator,
        fun t ht => by simp [hvalue t ht]⟩)),
    declaredBy_of_unparenthesized hparen (List.any_eq_false.mpr (by simpa using hoperator)),
    List.head?_append_of_ne_nil _ hstart, hvariables]

end NameLint.Declaration

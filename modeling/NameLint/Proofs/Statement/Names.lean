import NameLint.Proofs.Statement.Inversion

/-!
# The names of a statement

The names that a statement declares, and the one before a body that it opens, are names among its tokens
and come in their order.
-/

namespace NameLint.Declaration

open NameLint.Source

/-! ## Views on a statement keep the order of its tokens -/

theorem splitGroup_sublist (opening closing : String) (depth : Nat) (ts : List Token) :
    (splitGroup opening closing depth ts).2.Sublist ts := by
  conv => rhs; rw [← splitGroup_append opening closing depth ts]
  exact List.sublist_append_right _ _

theorem normalize_sublist (ts : List Token) : (normalize ts).Sublist ts := by
  fun_induction normalize ts with
  | case1 => exact .refl _
  | case2 => exact .refl _
  | case3 t next rest _ ih => exact ih.trans ((splitGroup_sublist ..).trans (List.sublist_cons_self ..))
  | case4 t next rest _ _ ih =>
      exact ih.trans ((splitGroup_sublist ..).trans (.cons _ (List.sublist_cons_self ..)))
  | case5 t next rest _ _ _ ih =>
      exact ih.trans ((splitGroup_sublist ..).trans (.cons _ (List.sublist_cons_self ..)))
  | case6 t next rest _ _ _ ih => exact ih.cons_cons t

theorem withoutLinkage_sublist (ts : List Token) : (withoutLinkage ts).Sublist ts := by
  obtain ⟨linkage, -, hts⟩ := exists_linkage ts
  conv => rhs; rw [hts]
  exact List.sublist_append_right _ _

theorem tokensOf_sublist {ms ns : List Marked} (h : ms.Sublist ns) :
    (tokensOf ms).Sublist (tokensOf ns) := h.map _

theorem splitCommas_flatten_sublist (ms : List Marked) : (splitCommas ms).flatten.Sublist ms := by
  fun_induction splitCommas ms with
  | case1 => exact .refl _
  | case2 m rest _ ih => exact .cons _ ih
  | case3 m rest _ heq ih => simp
  | case4 m rest _ segment segments heq ih =>
      rw [heq] at ih
      exact ih.cons_cons m

theorem filterMap_sublist_flatten {pick : List Marked → Option Token}
    (hpick : ∀ ms t, pick ms = some t → t ∈ tokensOf ms) (segments : List (List Marked)) :
    (segments.filterMap pick).Sublist (tokensOf segments.flatten) := by
  induction segments with
  | nil => exact .refl _
  | cons ms segments ih =>
      rw [List.flatten_cons, tokensOf, List.map_append]
      cases ht : pick ms with
      | none =>
          rw [List.filterMap_cons_none ht]
          exact ih.trans (List.sublist_append_right _ _)
      | some t =>
          rw [List.filterMap_cons_some ht]
          exact (List.singleton_sublist.mpr (hpick ms t ht)).append ih

/-! ## What ends with a semicolon -/

variable {site : Site} {n : Token}

theorem functionName?_eq_some {before : List Token} (h : functionName? before site = some n) :
    n ∈ before ∧ n.isName = true := by
  obtain ⟨type, rfl, hname, -⟩ := functionName?_eq_some_iff.mp h
  exact ⟨by simp, hname⟩

theorem segmentVariable?_eq_some {isFirst : Bool} {segment : List Marked}
    (h : segmentVariable? isFirst segment = some n) : n ∈ tokensOf segment ∧ n.isName = true := by
  obtain ⟨before, hhead, hname, -⟩ := segmentVariable?_eq_some_iff.mp h
  have hsub := tokensOf_sublist
    (List.takeWhile_sublist (l := segment) fun m => !(m.isTop && endsDeclarator m.token))
  rw [hhead] at hsub
  exact ⟨hsub.mem (by simp), hname⟩

theorem variableDeclarators_names (ms : List Marked) :
    ((variableDeclarators ms).map (·.name)).Sublist (tokensOf ms) ∧
      ∀ d ∈ variableDeclarators ms, d.name.isName = true := by
  unfold variableDeclarators
  have hflat := tokensOf_sublist (splitCommas_flatten_sublist ms)
  split
  · exact ⟨List.nil_sublist _, by simp⟩
  rename_i first others hsplit
  rw [hsplit, List.flatten_cons, tokensOf, List.map_append] at hflat
  split
  · exact ⟨List.nil_sublist _, by simp⟩
  rename_i name hname
  obtain ⟨hmem, hisName⟩ := segmentVariable?_eq_some hname
  constructor
  · have hsegment : ∀ ms t, segmentVariable? false ms = some t → t ∈ tokensOf ms :=
      fun ms t h => (segmentVariable?_eq_some h).1
    have hothers := filterMap_sublist_flatten hsegment others
    simpa [Function.comp_def] using ((List.singleton_sublist.mpr hmem).append hothers).trans hflat
  · intro d hd
    simp only [List.map_cons, List.mem_cons, List.mem_map, List.mem_filterMap] at hd
    rcases hd with rfl | ⟨other, ⟨segment, -, hsome⟩, rfl⟩
    · exact hisName
    · exact (segmentVariable?_eq_some hsome).2

theorem insideParentheses_sublist (fromParen : List Token) :
    (insideParentheses fromParen).Sublist fromParen := by
  refine (List.dropLast_sublist _).trans ((List.tail_sublist _).trans ?_)
  conv => rhs; rw [← splitGroup_append "(" ")" 0 fromParen]
  exact List.sublist_append_left _ _

theorem parenthesized?_eq_some {before fromParen : List Token} {d : Declarator}
    (h : parenthesized? before fromParen site = some d) :
    d.name ∈ before ++ fromParen ∧ d.name.isName = true := by
  rcases parenthesized?_eq_some_iff.mp h with ⟨hpointer, -⟩ | ⟨hlist, -⟩
  · have hmem := List.mem_of_find?_eq_some hpointer.named
    exact ⟨List.mem_append_right _ ((insideParentheses_sublist fromParen).mem hmem),
      List.find?_some hpointer.named⟩
  · obtain ⟨hmem, hname⟩ := functionName?_eq_some hlist.named
    exact ⟨List.mem_append_left _ hmem, hname⟩

theorem declaredBy_names (ts : List Token) (site : Site) :
    ((declaredBy ts site).map (·.name)).Sublist ts ∧
      ∀ d ∈ declaredBy ts site, d.name.isName = true := by
  have hvariables := variableDeclarators_names (markTop {} ts)
  rw [tokensOf_markTop] at hvariables
  simp only [declaredBy]
  split
  · exact ⟨List.nil_sublist _, by simp⟩
  split
  · rename_i before found after hfirst
    split
    · have hts : tokensOf before ++ tokensOf (found :: after) = ts := by
        rw [← tokensOf_markTop {} ts, cutAtFirst_eq hfirst]
        simp [tokensOf]
      cases hd : parenthesized? (tokensOf before) (tokensOf (found :: after)) site with
      | none => exact ⟨List.nil_sublist _, by simp⟩
      | some d =>
          obtain ⟨hmem, hisName⟩ := parenthesized?_eq_some hd
          exact ⟨List.singleton_sublist.mpr (hts ▸ hmem), by simpa using hisName⟩
    · exact hvariables
  · exact hvariables

/-- What a semicolon ends declares names among its tokens, in their order. -/
theorem classifyStatement_names (statement : List Token) (site : Site) :
    ((classifyStatement statement site).map (·.name)).Sublist statement ∧
      ∀ d ∈ classifyStatement statement site, d.name.isName = true := by
  obtain ⟨hsub, hisName⟩ := declaredBy_names (withoutLinkage (normalize statement)) site
  exact ⟨hsub.trans ((withoutLinkage_sublist _).trans (normalize_sublist _)), hisName⟩

/-! ## What a brace opens -/

/-- The name of what a brace opens. -/
def Opening.name? : Opening → Option Token
  | .record _ name | .enumeration name | .function name => name
  | .namespaceBody | .initializer | .block => none

theorem headNames_spec (ts : List Token) :
    (headNames ts).Sublist ts ∧ ∀ n ∈ headNames ts, n.isName = true := by
  fun_induction headNames ts with
  | case1 => exact ⟨.refl _, by simp⟩
  | case2 t rest hname ih =>
      simp only [Bool.and_eq_true] at hname
      exact ⟨ih.1.cons_cons t, List.forall_mem_cons.mpr ⟨hname.1.1, ih.2⟩⟩
  | case3 t rest _ ih => exact ⟨.cons t ih.1, ih.2⟩

theorem withoutMacros_sublist (names : List Token) : (withoutMacros names).Sublist names := by
  unfold withoutMacros
  split
  · exact List.nil_sublist _
  · rename_i last hlast
    obtain ⟨leading, rfl⟩ := List.getLast?_eq_some_iff.mp hlast
    rw [List.dropLast_concat]
    exact List.filter_sublist.append (.refl _)

theorem typeOpening?_name {ts : List Token} {opening : Opening} (h : typeOpening? ts = some opening)
    (hn : opening.name? = some n) : n ∈ ts ∧ n.isName = true := by
  simp only [typeOpening?] at h
  split at h
  · cases h
  rename_i keyword rest hdrop
  have hrest : rest.Sublist ts :=
    (List.sublist_cons_self keyword rest).trans (hdrop ▸ List.dropWhile_sublist _)
  generalize hhead : (if keyword.text == "enum" && rest.head?.any (isWordOf ["class", "struct"]) then
    rest.drop 1 else rest) = head at h
  have hts : head.Sublist ts := by
    rw [← hhead]
    split
    · exact (List.drop_sublist 1 rest).trans hrest
    · exact hrest
  generalize hnames : withoutMacros (headNames (head.takeWhile fun t => !isOneOf [":", "<"] t)) =
    names at h
  have hname : ∀ n ∈ names, n ∈ ts ∧ n.isName = true := by
    intro n hn
    rw [← hnames] at hn
    obtain ⟨hsub, hisName⟩ := headNames_spec (head.takeWhile fun t => !isOneOf [":", "<"] t)
    have hn := (withoutMacros_sublist _).mem hn
    exact ⟨(hsub.trans ((List.takeWhile_sublist _).trans hts)).mem hn, hisName n hn⟩
  have hlast : opening.name? = none ∨ opening.name? = names.getLast? := by
    split at h
    · cases h
      exact .inl rfl
    split at h
    · cases h
      exact .inr rfl
    · obtain ⟨kind, -, rfl⟩ := Option.map_eq_some_iff.mp h
      exact .inr rfl
  rcases hlast with hnone | hlast
  · simp [hnone] at hn
  · exact hname n (List.mem_of_getLast? (hlast ▸ hn))

theorem openPlain_name {ts : List Token} (hn : (openPlain ts).name? = some n) :
    n ∈ ts ∧ n.isName = true := by
  unfold openPlain at hn
  split at hn
  · rename_i opening hopening
    exact typeOpening?_name hopening hn
  · split at hn <;> cases hn

theorem openAfterParameters_name {ts : List Token} {before fromParen : List Marked}
    (hn : (openAfterParameters ts before fromParen site).name? = some n) :
    n ∈ tokensOf before ∧ n.isName = true := by
  unfold openAfterParameters at hn
  split at hn
  · cases hn
  · exact functionName?_eq_some hn

theorem openAfter_name {ts : List Token} (hn : (openAfter ts site).name? = some n) :
    n ∈ ts ∧ n.isName = true := by
  rcases openAfter_cases ts site with hnameless | ⟨-, ⟨-, hplain⟩ | ⟨head, paren, after, hparen, hopening⟩⟩
  · simp only [List.mem_cons, List.not_mem_nil, or_false] at hnameless
    rcases hnameless with h | h | h | h <;> rw [h] at hn <;> cases hn
  · exact openPlain_name (hplain ▸ hn)
  · rw [hopening] at hn
    obtain ⟨hmem, hname⟩ := openAfterParameters_name hn
    rw [hparen.tokens_eq]
    exact ⟨List.mem_append_left _ hmem, hname⟩

/-- What a brace opens has a name among the tokens before the brace, if it has one. -/
theorem classifyOpen_name {statement : List Token}
    (hn : (classifyOpen statement site).name? = some n) : n ∈ statement ∧ n.isName = true := by
  unfold classifyOpen at hn
  split at hn
  · cases hn
  · obtain ⟨hmem, hisName⟩ := openAfter_name hn
    exact ⟨(normalize_sublist statement).mem hmem, hisName⟩

end NameLint.Declaration

import NameLint.Proofs.Statement.Attributes

/-!
# Segments

A list whose entries have commas between them. At top level it has no more entries than that, and just as many
if no entry in front of another one leaves anything open.
-/

namespace NameLint.Declaration

open NameLint.Source

variable {ts us : List Token} {ms ns : List Marked} {segments : List (List Token)} {n : Nesting} {comma : Token}

/-- `Separated segments ts`: the tokens are the segments with commas between them. -/
inductive Separated : List (List Token) → List Token → Prop
  | single (ts : List Token) : Separated [ts] ts
  | cons {comma : Token} {segments : List (List Token)} {us : List Token} (isComma : comma.isMark "," = true)
      (ts : List Token) (more : Separated segments us) : Separated (ts :: segments) (ts ++ comma :: us)

/-- Whether a token is no comma. -/
def notComma (t : Token) : Bool := !t.isMark ","

theorem Nesting.after_comma (n : Nesting) (h : comma.isMark "," = true) :
    n.after comma = if n.isTop then { n with inInitializer := false } else n := by
  rw [after_eq]
  simp [Token.not_isMark h, h]

theorem Nesting.eq_default_of_isTop (h : n.isTop = true) (hvalue : n.inInitializer = false) : n = {} := by
  simp only [isTop, Bool.and_eq_true, decide_eq_true_eq] at h
  cases n
  simp_all

theorem splitCommas_append_of_no_comma {first : List Marked} {others : List (List Marked)}
    (hms : ∀ m ∈ ms, m.isTopMark "," = false) (hns : splitCommas ns = first :: others) :
    splitCommas (ms ++ ns) = (ms ++ first) :: others := by
  induction ms with
  | nil => exact hns
  | cons m ms ih =>
      obtain ⟨hm, hms⟩ := List.forall_mem_cons.mp hms
      simp [splitCommas, hm, ih hms]

/-- Where commas are in brackets, none is at top level. -/
theorem Bracketed.not_isTopMark_comma (h : Bracketed false notComma ts) (n : Nesting) :
    ∀ m ∈ markTop n ts, m.isTopMark "," = false := by
  intro m hm
  rw [Marked.isTopMark, Bool.and_eq_false_imp]
  intro htop
  obtain ⟨hallowed, -⟩ := h.allowed_of_isTop (fun hangled => absurd hangled Bool.false_ne_true)
    (fun hangled => absurd hangled Bool.false_ne_true)
  simpa [notComma] using hallowed m hm htop

/-- A comma at top level ends a segment. -/
theorem splitCommas_comma_of_isTop (hts : ∀ m ∈ markTop n ts, m.isTopMark "," = false)
    (isComma : comma.isMark "," = true) (htop : (ts.foldl Nesting.after n).isTop = true) (us : List Token) :
    splitCommas (markTop n (ts ++ comma :: us)) = markTop n ts :: splitCommas (markTop {} us) := by
  have hafter : (ts.foldl Nesting.after n).after comma = {} := by
    refine Nesting.eq_default_of_isTop ?_ ?_ <;> rw [Nesting.after_comma _ isComma, if_pos htop]
    exact htop
  rw [markTop_append, markTop, hafter, htop]
  have hsplit : splitCommas (⟨comma, true⟩ :: markTop {} us) = [] :: splitCommas (markTop {} us) := by
    simp [splitCommas, Marked.isTopMark, isComma]
  rw [splitCommas_append_of_no_comma hts hsplit, List.append_nil]

/-- Any other comma ends none. -/
theorem length_splitCommas_of_not_isTop (hts : ∀ m ∈ markTop n ts, m.isTopMark "," = false)
    (isComma : comma.isMark "," = true) (htop : (ts.foldl Nesting.after n).isTop = false) (us : List Token) :
    (splitCommas (markTop n (ts ++ comma :: us))).length =
      (splitCommas (markTop (ts.foldl Nesting.after n) us)).length := by
  rw [markTop_append, markTop, Nesting.after_comma _ isComma, htop, if_neg Bool.false_ne_true]
  obtain ⟨first, others, hsplit⟩ := List.exists_cons_of_ne_nil
    (splitCommas_ne_nil (markTop (ts.foldl Nesting.after n) us))
  have hcomma : splitCommas (⟨comma, false⟩ :: markTop (ts.foldl Nesting.after n) us) =
      (⟨comma, false⟩ :: first) :: others := by
    simp [splitCommas, Marked.isTopMark, hsplit]
  rw [splitCommas_append_of_no_comma hts hcomma, hsplit]
  rfl

namespace Separated

theorem ne_nil (h : Separated segments ts) : segments ≠ [] := by
  cases h <;> simp

theorem exists_append {first : List Token} (h : Separated (first :: segments) ts) :
    ∃ us, ts = first ++ us := by
  cases h with
  | single => exact ⟨[], (List.append_nil _).symm⟩
  | cons isComma _ more => exact ⟨_, rfl⟩

theorem headerless (h : Separated segments ts) (hheaderless : Headerless ts) :
    ∀ s ∈ segments, Headerless s := by
  induction h with
  | single ts => simpa using hheaderless
  | cons isComma ts more ih =>
      exact List.forall_mem_cons.mpr ⟨hheaderless.left_of_append, ih hheaderless.right_of_append.tail⟩

/-- There are at most as many segments at top level as between all commas. -/
theorem length_splitCommas_le (h : Separated segments ts)
    (hsegments : ∀ s ∈ segments, Bracketed false notComma s) (n : Nesting) :
    (splitCommas (markTop n ts)).length ≤ segments.length := by
  induction h generalizing n with
  | single ts =>
      rw [splitCommas_of_no_comma ((hsegments ts (by simp)).not_isTopMark_comma n)]
      simp
  | cons isComma ts more ih =>
      obtain ⟨hts, hmore⟩ := List.forall_mem_cons.mp hsegments
      cases htop : (ts.foldl Nesting.after n).isTop with
      | true =>
          rw [splitCommas_comma_of_isTop (hts.not_isTopMark_comma _) isComma htop]
          simpa using ih hmore {}
      | false =>
          rw [length_splitCommas_of_not_isTop (hts.not_isTopMark_comma _) isComma htop]
          exact (ih hmore _).trans (Nat.le_succ _)

/-- The segments at top level are those between all commas where no segment has one at top level or leaves
anything open. -/
theorem splitCommas_eq (h : Separated segments ts)
    (hsegments : ∀ s ∈ segments, ∀ m ∈ markTop {} s, m.isTopMark "," = false)
    (hclosed : ∀ s ∈ segments.dropLast, (nesting s).isTop = true) :
    splitCommas (markTop {} ts) = segments.map (markTop {}) := by
  induction h with
  | single ts =>
      rw [splitCommas_of_no_comma (hsegments ts (by simp))]
      rfl
  | cons isComma ts more ih =>
      obtain ⟨hts, hmore⟩ := List.forall_mem_cons.mp hsegments
      rw [List.dropLast_cons_of_ne_nil more.ne_nil] at hclosed
      obtain ⟨htop, hclosed⟩ := List.forall_mem_cons.mp hclosed
      rw [splitCommas_comma_of_isTop hts isComma htop, ih hmore hclosed]
      rfl

/-- Where a segment in front of another one leaves something open, there are fewer at top level. -/
theorem length_splitCommas_lt (h : Separated segments ts)
    (hsegments : ∀ s ∈ segments, Bracketed false notComma s)
    (hopen : ∃ s ∈ segments.dropLast, (nesting s).isTop = false) :
    (splitCommas (markTop {} ts)).length < segments.length := by
  induction h with
  | single ts => simp at hopen
  | cons isComma ts more ih =>
      obtain ⟨hts, hmore⟩ := List.forall_mem_cons.mp hsegments
      rw [List.dropLast_cons_of_ne_nil more.ne_nil, List.exists_mem_cons_iff] at hopen
      cases htop : (nesting ts).isTop with
      | true =>
          rw [splitCommas_comma_of_isTop (hts.not_isTopMark_comma _) isComma htop]
          simpa using ih hmore (hopen.resolve_left (by simp [htop]))
      | false =>
          rw [length_splitCommas_of_not_isTop (hts.not_isTopMark_comma _) isComma htop]
          exact Nat.lt_succ_of_le (more.length_splitCommas_le hmore _)

/-- Attributes are dropped from each segment by itself. -/
theorem normalize (h : Separated segments ts) (hsegments : ∀ s ∈ segments, Bracketed false (fun _ => true) s)
    (hheaderless : Headerless ts) :
    Separated (segments.map Declaration.normalize) (Declaration.normalize ts) := by
  induction h with
  | single ts => exact .single _
  | @cons comma _ us isComma ts more ih =>
      obtain ⟨hts, hmore⟩ := List.forall_mem_cons.mp hsegments
      rw [hts.normalize_append hheaderless.left_of_append (by simp [isGroupStart, Token.not_isMark isComma]),
        normalize_cons fun _ _ => beginsDropped_of_isMark isComma (by simp [Token.not_isMark isComma])]
      exact .cons isComma _ (ih hmore hheaderless.right_of_append.tail)

theorem bracketed (h : Separated segments ts) (hsegments : ∀ s ∈ segments, Bracketed false (fun _ => true) s) :
    Bracketed false (fun _ => true) ts := by
  induction h with
  | single ts => exact hsegments ts (by simp)
  | cons isComma ts more ih =>
      obtain ⟨hts, hmore⟩ := List.forall_mem_cons.mp hsegments
      exact hts.append (.token rfl (isBracket_false_of_isMark isComma (by decide)) (ih hmore))

end Separated

end NameLint.Declaration

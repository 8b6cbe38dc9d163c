import NameLint.Proofs.Statement.Variables

/-!
# Brackets in statements

Tokens whose brackets are closed in the order in which they were opened. What stands in brackets is never at top
level, and leaves the nesting behind it as it is.
-/

namespace NameLint.Source

theorem Token.kind_of_isMark {t : Token} {text : String} (h : t.isMark text = true) : t.kind = .mark := by
  simp only [Token.isMark, Bool.and_eq_true, decide_eq_true_eq] at h
  exact h.1

end NameLint.Source

namespace NameLint.Declaration

open NameLint.Source

variable {angled : Bool} {p q : Token → Bool} {ts us inner : List Token} {t opening closing : Token}
  {n : Nesting} {m : Marked}

/-- Whether two tokens are a pair of parentheses or of square brackets. -/
def isBracketPair (opening closing : Token) : Bool :=
  opening.isMark "(" && closing.isMark ")" || opening.isMark "[" && closing.isMark "]"

/-- Whether a token is a parenthesis or a square bracket, or an angle bracket where these are brackets. -/
def isBracket (angled : Bool) (t : Token) : Bool :=
  t.isMark "(" || t.isMark ")" || t.isMark "[" || t.isMark "]" || angled && (t.isMark "<" || t.isMark ">")

/-- `Bracketed angled p ts`: all parentheses and square brackets are closed, and if `angled` the angle brackets
of template arguments are too. What stands outside of them satisfies `p`. Inside of parentheses and square
brackets `<` and `>` compare. -/
inductive Bracketed : Bool → (Token → Bool) → List Token → Prop
  | nil {angled : Bool} {p : Token → Bool} : Bracketed angled p []
  | token {angled : Bool} {p : Token → Bool} {t : Token} {ts : List Token} (allowed : p t = true)
      (plain : isBracket angled t = false) (more : Bracketed angled p ts) : Bracketed angled p (t :: ts)
  | group {angled : Bool} {p : Token → Bool} {opening closing : Token} {inner ts : List Token}
      (allowed : p opening = true) (pair : isBracketPair opening closing = true)
      (inside : Bracketed false (fun _ => true) inner) (more : Bracketed angled p ts) :
      Bracketed angled p (opening :: inner ++ closing :: ts)
  | arguments {p : Token → Bool} {opening closing : Token} {inner ts : List Token}
      (allowed : p opening = true) (opens : opening.isMark "<" = true) (closes : closing.isMark ">" = true)
      (inside : Bracketed true (fun _ => true) inner) (more : Bracketed true p ts) :
      Bracketed true p (opening :: inner ++ closing :: ts)

namespace Bracketed

theorem mono (h : Bracketed angled p ts) (hpq : ∀ t, p t = true → q t = true) : Bracketed angled q ts := by
  induction h with
  | nil => exact .nil
  | token allowed plain more ih => exact .token (hpq _ allowed) plain (ih hpq)
  | group allowed pair inside more _ ih => exact .group (hpq _ allowed) pair inside (ih hpq)
  | arguments allowed opens closes inside more _ ih =>
      exact .arguments (hpq _ allowed) opens closes inside (ih hpq)

theorem append (h : Bracketed angled p ts) (h' : Bracketed angled p us) : Bracketed angled p (ts ++ us) := by
  induction h with
  | nil => exact h'
  | token allowed plain more ih => exact .token allowed plain (ih h')
  | group allowed pair inside more _ ih =>
      rw [List.append_assoc]
      exact .group allowed pair inside (ih h')
  | arguments allowed opens closes inside more _ ih =>
      rw [List.append_assoc]
      exact .arguments allowed opens closes inside (ih h')

theorem of_plain (h : ∀ t ∈ ts, p t = true ∧ isBracket angled t = false) : Bracketed angled p ts := by
  induction ts with
  | nil => exact .nil
  | cons t ts ih =>
      obtain ⟨ht, hts⟩ := List.forall_mem_cons.mp h
      exact .token ht.1 ht.2 (ih hts)

theorem allowed_of_mem_head? (h : Bracketed angled p ts) (ht : t ∈ ts.head?) : p t = true := by
  cases h with
  | nil => cases ht
  | token allowed plain more =>
      cases ht
      exact allowed
  | group allowed pair inside more =>
      cases ht
      exact allowed
  | arguments allowed opens closes inside more =>
      cases ht
      exact allowed

/-- Tokens end in what is allowed or in a closing bracket. -/
theorem allowed_of_mem_getLast? (h : Bracketed angled p ts) (ht : t ∈ ts.getLast?) :
    p t = true ∨ isOneOf [")", "]", ">"] t = true := by
  have hmark : ∀ {closing : Token} {text : String}, closing.isMark text = true → text ∈ [")", "]", ">"] →
      isOneOf [")", "]", ">"] closing = true := by
    intro closing text hclosing htext
    simp only [Token.isMark, Bool.and_eq_true, beq_iff_eq] at hclosing
    simp only [isOneOf, hclosing.1, hclosing.2, List.contains_iff_mem.mpr htext, Bool.and_self]
  induction h with
  | nil => cases ht
  | @token _ _ first ts allowed plain more ih =>
      rw [List.getLast?_cons] at ht
      cases hlast : ts.getLast? with
      | none =>
          obtain rfl : first = t := by simpa [hlast] using ht
          exact .inl allowed
      | some last => exact ih (by simpa [hlast] using ht)
  | @group _ _ opening closing inner ts allowed pair inside more _ ih =>
      rw [List.getLast?_append, List.getLast?_cons] at ht
      cases hlast : ts.getLast? with
      | none =>
          obtain rfl : closing = t := by simpa [hlast] using ht
          simp only [isBracketPair, Bool.or_eq_true, Bool.and_eq_true] at pair
          exact .inr (pair.elim (fun h => hmark h.2 (by decide)) fun h => hmark h.2 (by decide))
      | some last => exact ih (by simpa [hlast] using ht)
  | @arguments _ opening closing inner ts allowed opens closes inside more _ ih =>
      rw [List.getLast?_append, List.getLast?_cons] at ht
      cases hlast : ts.getLast? with
      | none =>
          obtain rfl : closing = t := by simpa [hlast] using ht
          exact .inr (hmark closes (by decide))
      | some last => exact ih (by simpa [hlast] using ht)

/-- Brackets are marks. -/
theorem of_cons (h : Bracketed angled p (t :: ts)) (hkind : t.kind ≠ .mark) : Bracketed angled p ts := by
  generalize hus : t :: ts = us at h
  cases h with
  | nil => cases hus
  | token allowed plain more =>
      cases hus
      exact more
  | group allowed pair inside more =>
      cases hus
      simp [isBracketPair, Token.isMark, hkind] at pair
  | arguments allowed opens closes inside more =>
      cases hus
      simp [Token.isMark, hkind] at opens

end Bracketed

theorem isBracket_false_of_isMark {text : String} (h : t.isMark text = true)
    (htext : text ∉ ["(", ")", "[", "]"]) : isBracket false t = false := by
  simp only [List.mem_cons, List.not_mem_nil, or_false, not_or, ← ne_eq] at htext
  obtain ⟨hopenRound, hcloseRound, hopenSquare, hcloseSquare⟩ := htext
  simp [isBracket, Token.not_isMark h, *]

theorem Bracketed.unangled (h : Bracketed angled p ts) : Bracketed false (fun _ => true) ts := by
  induction h with
  | nil => exact .nil
  | token allowed plain more ih =>
      exact .token rfl (by simp [isBracket] at plain ⊢; exact plain.1) ih
  | group allowed pair inside more _ ih => exact .group rfl pair inside ih
  | arguments allowed opens closes inside more ihInside ih =>
      exact .token rfl (isBracket_false_of_isMark opens (by decide))
        (ihInside.append (.token rfl (isBracket_false_of_isMark closes (by decide)) ih))

/-! ## Nesting -/

theorem Nesting.after_eq (n : Nesting) (t : Token) :
    n.after t =
      if t.isMark "(" || t.isMark "[" then { n with brackets := n.brackets + 1 }
      else if t.isMark ")" || t.isMark "]" then { n with brackets := n.brackets - 1 }
      else if t.isMark "<" then
        if n.brackets = 0 ∧ !n.inInitializer then { n with angles := n.angles + 1 } else n
      else if t.isMark ">" then if n.brackets = 0 then { n with angles := n.angles - 1 } else n
      else if t.isMark "=" then if n.isTop then { n with inInitializer := true } else n
      else if t.isMark "," then if n.isTop then { n with inInitializer := false } else n
      else n := by
  unfold after
  split
  · rename_i hkind
    simp [Token.isMark, hkind]
  · rename_i hkind
    rw [not_not] at hkind
    simp only [Token.isMark, hkind, decide_true, Bool.true_and]
    split
    case h_9 => simp_all
    all_goals simp [*]

/-- Brackets are open, or template arguments whose angle brackets count. -/
def Nesting.Buried (angled : Bool) (n : Nesting) : Prop :=
  n.brackets ≠ 0 ∨ angled = true ∧ n.angles ≠ 0 ∧ n.inInitializer = false

theorem Nesting.Buried.isTop_eq_false (h : n.Buried angled) : n.isTop = false := by
  rcases h with hbrackets | ⟨-, hangles, -⟩
  · simp [isTop, hbrackets]
  · simp [isTop, hangles]

theorem Nesting.after_opening (n : Nesting) (h : isBracketPair opening closing = true) :
    n.after opening = { n with brackets := n.brackets + 1 } := by
  simp only [isBracketPair, Bool.or_eq_true, Bool.and_eq_true] at h
  rw [after_eq, if_pos (by simpa using h.imp And.left And.left)]

theorem Nesting.after_closing (n : Nesting) (h : isBracketPair opening closing = true) :
    n.after closing = { n with brackets := n.brackets - 1 } := by
  simp only [isBracketPair, Bool.or_eq_true, Bool.and_eq_true] at h
  have hnot : (closing.isMark "(" || closing.isMark "[") = false := by
    rcases h with ⟨-, h⟩ | ⟨-, h⟩ <;> simp [Token.not_isMark h]
  rw [after_eq, hnot, if_neg Bool.false_ne_true, if_pos (by simpa using h.imp And.right And.right)]

theorem Nesting.after_of_plain (h : isBracket angled t = false) (hburied : n.Buried angled) :
    n.after t = n := by
  simp only [isBracket, Bool.or_eq_false_iff] at h
  obtain ⟨⟨⟨⟨hopenRound, hcloseRound⟩, hopenSquare⟩, hcloseSquare⟩, hangle⟩ := h
  simp only [after_eq, hopenRound, hcloseRound, hopenSquare, hcloseSquare, hburied.isTop_eq_false]
  rcases hburied with hbrackets | ⟨rfl, -, -⟩
  · simp [hbrackets]
  · simp only [Bool.true_and, Bool.or_eq_false_iff] at hangle
    simp [hangle]

theorem Nesting.after_lessThan (n : Nesting) (h : t.isMark "<" = true) :
    n.after t = if n.brackets = 0 ∧ !n.inInitializer then { n with angles := n.angles + 1 } else n := by
  rw [after_eq]
  simp [Token.not_isMark h, h]

theorem Nesting.after_greaterThan (n : Nesting) (h : t.isMark ">" = true) :
    n.after t = if n.brackets = 0 then { n with angles := n.angles - 1 } else n := by
  rw [after_eq]
  simp [Token.not_isMark h, h]

/-- Tokens between two that open and close something have the marks of the inside. -/
theorem markTop_enclosed {n' : Nesting} (hopening : n.after opening = n') (hclosing : n'.after closing = n)
    (hfold : inner.foldl Nesting.after n' = n') (hmarks : markTop n' inner = inner.map (⟨·, false⟩))
    (htop : n'.isTop = false) (ts : List Token) :
    (opening :: inner ++ closing :: ts).foldl Nesting.after n = ts.foldl Nesting.after n ∧
      markTop n (opening :: inner ++ closing :: ts) =
        ⟨opening, n.isTop⟩ :: inner.map (⟨·, false⟩) ++ ⟨closing, false⟩ :: markTop n ts := by
  simp [markTop, markTop_append, hopening, hfold, hclosing, hmarks, htop]

/-- Between angle brackets something is open, unless they compare in a value. -/
theorem Nesting.exists_buried (hn : n.brackets ≠ 0 ∨ n.inInitializer = false)
    (hopens : opening.isMark "<" = true) (hcloses : closing.isMark ">" = true) :
    ∃ n' : Nesting, n'.Buried true ∧ n.after opening = n' ∧ n'.after closing = n := by
  by_cases hbrackets : n.brackets = 0
  · have hvalue : n.inInitializer = false := hn.resolve_left (by simp [hbrackets])
    refine ⟨{ n with angles := n.angles + 1 }, .inr ⟨rfl, by simp, hvalue⟩, ?_, ?_⟩
    · simp [after_lessThan n hopens, hbrackets, hvalue]
    · rw [after_greaterThan _ hcloses, if_pos hbrackets, Nat.add_sub_cancel]
  · refine ⟨n, .inl hbrackets, ?_, ?_⟩
    · simp [after_lessThan n hopens, hbrackets]
    · simp [after_greaterThan n hcloses, hbrackets]

/-- What stands in open brackets leaves them open, and nothing in it is at top level. -/
theorem Bracketed.buried (h : Bracketed angled p ts) (hn : n.Buried angled) :
    ts.foldl Nesting.after n = n ∧ markTop n ts = ts.map (⟨·, false⟩) := by
  induction h generalizing n with
  | nil => exact ⟨rfl, rfl⟩
  | token allowed plain more ih =>
      rw [List.foldl_cons, markTop, Nesting.after_of_plain plain hn, (ih hn).2, hn.isTop_eq_false]
      exact ⟨(ih hn).1, rfl⟩
  | group allowed pair inside more ihInside ih =>
      have hinside : ({ n with brackets := n.brackets + 1 } : Nesting).Buried false := .inl (by simp)
      obtain ⟨hfold, hmarks⟩ := ihInside hinside
      obtain ⟨hwhole, hwholeMarks⟩ := markTop_enclosed (n.after_opening pair)
        (Nesting.after_closing _ pair) hfold hmarks hinside.isTop_eq_false _
      rw [hwhole, hwholeMarks, (ih hn).1, (ih hn).2, hn.isTop_eq_false]
      simp
  | arguments allowed opens closes inside more ihInside ih =>
      obtain ⟨n', hinside, hopening, hclosing⟩ :=
        Nesting.exists_buried (hn.imp_right fun h => h.2.2) opens closes
      obtain ⟨hfold, hmarks⟩ := ihInside hinside
      obtain ⟨hwhole, hwholeMarks⟩ := markTop_enclosed hopening hclosing hfold hmarks
        hinside.isTop_eq_false _
      rw [hwhole, hwholeMarks, (ih hn).1, (ih hn).2, hn.isTop_eq_false]
      simp

/-- A group in parentheses or square brackets leaves the nesting as it is. -/
theorem Bracketed.markTop_group (inside : Bracketed false q inner) (pair : isBracketPair opening closing = true)
    (n : Nesting) (ts : List Token) :
    (opening :: inner ++ closing :: ts).foldl Nesting.after n = ts.foldl Nesting.after n ∧
      markTop n (opening :: inner ++ closing :: ts) =
        ⟨opening, n.isTop⟩ :: inner.map (⟨·, false⟩) ++ ⟨closing, false⟩ :: markTop n ts := by
  have hinside : ({ n with brackets := n.brackets + 1 } : Nesting).Buried false := .inl (by simp)
  obtain ⟨hfold, hmarks⟩ := inside.buried hinside
  exact markTop_enclosed (n.after_opening pair) (Nesting.after_closing _ pair) hfold hmarks
    hinside.isTop_eq_false ts

/-- Template arguments leave the nesting as it is, except in a value. -/
theorem Bracketed.markTop_arguments (inside : Bracketed true q inner) (opens : opening.isMark "<" = true)
    (closes : closing.isMark ">" = true) (hn : n.inInitializer = false) (ts : List Token) :
    (opening :: inner ++ closing :: ts).foldl Nesting.after n = ts.foldl Nesting.after n ∧
      markTop n (opening :: inner ++ closing :: ts) =
        ⟨opening, n.isTop⟩ :: inner.map (⟨·, false⟩) ++ ⟨closing, false⟩ :: markTop n ts := by
  obtain ⟨n', hinside, hopening, hclosing⟩ := Nesting.exists_buried (.inr hn) opens closes
  obtain ⟨hfold, hmarks⟩ := inside.buried hinside
  exact markTop_enclosed hopening hclosing hfold hmarks hinside.isTop_eq_false ts

theorem forall_isTop_enclosed {isTop : Bool} {ms : List Marked} (hopening : p opening = true)
    (hms : ∀ m ∈ ms, m.isTop = true → p m.token = true) :
    ∀ m ∈ ⟨opening, isTop⟩ :: inner.map (⟨·, false⟩) ++ ⟨closing, false⟩ :: ms,
      m.isTop = true → p m.token = true := by
  rw [List.forall_mem_append, List.forall_mem_cons, List.forall_mem_cons]
  exact ⟨⟨fun _ => hopening, by simp⟩, nofun, hms⟩

/-- At top level stands only what is allowed there: in values, and elsewhere when angle brackets are closed. -/
theorem Bracketed.allowed_of_isTop (h : Bracketed angled p ts) (hn : angled = true → n.inInitializer = false)
    (hp : angled = true → ∀ t, p t = true → t.isMark "=" = false) :
    (∀ m ∈ markTop n ts, m.isTop = true → p m.token = true) ∧
      (angled = true → ts.foldl Nesting.after n = n) := by
  induction h generalizing n with
  | nil => exact ⟨by simp [markTop], fun _ => rfl⟩
  | @token angled p t ts allowed plain more ih =>
      have hafter : angled = true → n.after t = n := by
        rintro rfl
        simp only [isBracket, Bool.true_and, Bool.or_eq_false_iff] at plain
        obtain ⟨⟨⟨⟨hopenRound, hcloseRound⟩, hopenSquare⟩, hcloseSquare⟩, hless, hgreater⟩ := plain
        simp only [Nesting.after_eq, hopenRound, hcloseRound, hopenSquare, hcloseSquare, hless, hgreater,
          hp rfl t allowed]
        have hsame : ({ n with inInitializer := false } : Nesting) = n := by rw [← hn rfl]
        simp [hsame]
      obtain ⟨hmarks, hfold⟩ := ih (n := n.after t) (fun h => by rw [hafter h, hn h]) hp
      refine ⟨?_, fun h => ?_⟩
      · rw [markTop]
        exact List.forall_mem_cons.mpr ⟨fun _ => allowed, hmarks⟩
      · rw [List.foldl_cons, hfold h, hafter h]
  | group allowed pair inside more _ ih =>
      obtain ⟨hmarks, hfold⟩ := ih hn hp
      rw [(inside.markTop_group pair n _).1, (inside.markTop_group pair n _).2]
      exact ⟨forall_isTop_enclosed allowed hmarks, hfold⟩
  | arguments allowed opens closes inside more _ ih =>
      obtain ⟨hmarks, hfold⟩ := ih hn hp
      rw [(inside.markTop_arguments opens closes (hn rfl) _).1,
        (inside.markTop_arguments opens closes (hn rfl) _).2]
      exact ⟨forall_isTop_enclosed allowed hmarks, hfold⟩

/-- Without an equals sign outside of brackets, tokens leave the nesting as it is, except in a value. -/
theorem Bracketed.foldl_of_unassigned (h : Bracketed true p ts) (hp : ∀ t, p t = true → t.isMark "=" = false)
    (hn : n.inInitializer = false) : ts.foldl Nesting.after n = n :=
  (h.allowed_of_isTop (fun _ => hn) fun _ => hp).2 rfl

theorem Bracketed.isTopMark_of_unassigned {text : String} (h : Bracketed true p ts)
    (hp : ∀ t, p t = true → t.isMark "=" = false) (htext : ∀ t, p t = true → t.isMark text = false) :
    ∀ m ∈ markTop {} ts, m.isTopMark text = false := by
  intro m hm
  rw [Marked.isTopMark, Bool.and_eq_false_imp]
  exact fun htop => htext _ ((h.allowed_of_isTop (fun _ => rfl) fun _ => hp).1 m hm htop)

end NameLint.Declaration

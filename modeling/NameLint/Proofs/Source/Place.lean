import NameLint.Source.Lexer

/-!
# The order of places

Places are ordered by line and then by column. Reading on in a text leads to later places, so the tokens
of a text stand at strictly increasing ones.
-/

namespace NameLint.Source

namespace Position

/-- A place comes before another on an earlier line, or further left on the same one. -/
instance : LT Position where
  lt p q := p.line < q.line ∨ p.line = q.line ∧ p.column < q.column

variable {p q s : Position}

theorem lt_iff : p < q ↔ p.line < q.line ∨ p.line = q.line ∧ p.column < q.column := Iff.rfl

instance : DecidableLT Position := fun p q => decidable_of_iff _ (lt_iff (p := p) (q := q)).symm

theorem lt_irrefl (p : Position) : ¬ p < p := by
  simp [lt_iff]

theorem lt_trans (h : p < q) (h' : q < s) : p < s := by
  rw [lt_iff] at *
  omega

theorem ne_of_lt (h : p < q) : p ≠ q := fun he => lt_irrefl q (he ▸ h)

theorem lt_advance (p : Position) (c : Char) : p < p.advance c := by
  unfold advance
  split <;> simp [lt_iff]

theorem lt_or_eq_after (p : Position) (cs : List Char) : p < p.after cs ∨ p.after cs = p := by
  induction cs generalizing p with
  | nil => exact .inr rfl
  | cons c cs ih =>
      rw [after_cons]
      rcases ih (p.advance c) with h | h
      · exact .inl (lt_trans (lt_advance p c) h)
      · rw [h]
        exact .inl (lt_advance p c)

theorem lt_after_of_ne_nil {cs : List Char} (h : cs ≠ []) : p < p.after cs := by
  cases cs with
  | nil => exact absurd rfl h
  | cons c cs =>
      rw [after_cons]
      rcases lt_or_eq_after (p.advance c) cs with hlt | heq
      · exact lt_trans (lt_advance p c) hlt
      · rw [heq]
        exact lt_advance p c

theorem lt_of_lt_after {cs : List Char} (h : p.after cs < q) : p < q := by
  rcases lt_or_eq_after p cs with hlt | heq
  · exact lt_trans hlt h
  · exact heq ▸ h

end Position

/-! ## One token of a text after the other -/

section

variable {lineStart : Bool} {place : Position} {cs rest : List Char} {c : Char}

theorem tokensFrom_eq_nil (h : (splitTrivia (.between lineStart) cs).2 = []) :
    tokensFrom lineStart place cs = [] := by
  rw [tokensFrom]
  split
  · rfl
  · rename_i heq
    exact absurd (h.symm.trans heq) (by simp)

theorem tokensFrom_eq_cons (h : (splitTrivia (.between lineStart) cs).2 = c :: rest) :
    tokensFrom lineStart place cs =
      ⟨(splitToken c rest).1, String.ofList (splitToken c rest).2.1,
          place.after (splitTrivia (.between lineStart) cs).1⟩ ::
        tokensFrom ((splitToken c rest).2.1.contains '\n')
          ((place.after (splitTrivia (.between lineStart) cs).1).after (splitToken c rest).2.1)
          (splitToken c rest).2.2 := by
  rw [tokensFrom]
  split
  · rename_i heq
    exact absurd (heq.symm.trans h) (by simp)
  · rename_i c' rest' heq
    obtain ⟨rfl, rfl⟩ := List.cons.inj (heq.symm.trans h)
    rfl

/-- Induction over a text token by token, for any way to split off tokens that makes the text shorter. -/
theorem tokenwise_induction {trivia : Bool → List Char → List Char × List Char}
    {token : Char → List Char → TokenKind × List Char × List Char}
    (shorter : ∀ lineStart cs c rest, (trivia lineStart cs).2 = c :: rest →
      (token c rest).2.2.length < cs.length)
    {motive : Bool → Position → List Char → Prop}
    (none : ∀ lineStart place cs, (trivia lineStart cs).2 = [] → motive lineStart place cs)
    (next : ∀ lineStart place cs c rest, (trivia lineStart cs).2 = c :: rest →
      motive ((token c rest).2.1.contains '\n')
        ((place.after (trivia lineStart cs).1).after (token c rest).2.1) (token c rest).2.2 →
      motive lineStart place cs)
    (lineStart : Bool) (place : Position) (cs : List Char) : motive lineStart place cs := by
  induction hn : cs.length using Nat.strongRecOn generalizing lineStart place cs with
  | ind n ih =>
      cases hsplit : (trivia lineStart cs).2 with
      | nil => exact none lineStart place cs hsplit
      | cons c rest =>
          have hlt := shorter lineStart cs c rest hsplit
          exact next lineStart place cs c rest hsplit (ih _ (hn ▸ hlt) _ _ _ rfl)

theorem tokensFrom_induction {motive : Bool → Position → List Char → Prop}
    (none : ∀ lineStart place cs, (splitTrivia (.between lineStart) cs).2 = [] →
      motive lineStart place cs)
    (token : ∀ lineStart place cs c rest, (splitTrivia (.between lineStart) cs).2 = c :: rest →
      motive ((splitToken c rest).2.1.contains '\n')
        ((place.after (splitTrivia (.between lineStart) cs).1).after (splitToken c rest).2.1)
        (splitToken c rest).2.2 →
      motive lineStart place cs)
    (lineStart : Bool) (place : Position) (cs : List Char) : motive lineStart place cs :=
  tokenwise_induction (fun _ _ _ _ h => splitToken_length_lt_of_splitTrivia h) none token
    lineStart place cs

end

/-! ## The tokens of a text stand in order -/

/-- `ts` stand at strictly increasing places. -/
def InOrder (ts : List Token) : Prop := ts.Pairwise fun t u => t.place < u.place

/-- No token stands before the place where the text begins, and each stands after the one before. -/
theorem tokensFrom_inOrder (lineStart : Bool) (place : Position) (cs : List Char) :
    (∀ t ∈ tokensFrom lineStart place cs, place < t.place ∨ t.place = place) ∧
      InOrder (tokensFrom lineStart place cs) := by
  induction lineStart, place, cs using tokensFrom_induction with
  | none lineStart place cs h =>
      rw [tokensFrom_eq_nil h]
      exact ⟨by simp, .nil⟩
  | token lineStart place cs c rest h ih =>
      rw [tokensFrom_eq_cons h]
      have hbefore := Position.lt_or_eq_after place (splitTrivia (.between lineStart) cs).1
      have hlater : ∀ t ∈ tokensFrom _ _ _, place.after (splitTrivia (.between lineStart) cs).1 < t.place :=
        fun t ht => by
          have htoken := Position.lt_after_of_ne_nil
            (p := place.after (splitTrivia (.between lineStart) cs).1) (splitToken_ne_nil c rest)
          rcases ih.1 t ht with hlt | heq
          · exact Position.lt_trans htoken hlt
          · exact heq ▸ htoken
      refine ⟨?_, List.pairwise_cons.mpr ⟨hlater, ih.2⟩⟩
      rintro t (_ | ⟨_, ht⟩)
      · exact hbefore
      · exact .inl (Position.lt_of_lt_after (hlater t ht))

theorem tokens_inOrder (text : String) : InOrder (tokens text) :=
  (tokensFrom_inOrder true .start text.toList).2

section

variable {t u : Token} {ts us : List Token}

theorem InOrder.lt_of_append (h : InOrder (us ++ ts)) (hu : u ∈ us) (ht : t ∈ ts) :
    u.place < t.place :=
  (List.pairwise_append.mp h).2.2 u hu t ht

theorem InOrder.drop_middle (h : InOrder (us ++ t :: ts)) : InOrder (us ++ ts) :=
  h.sublist ((List.Sublist.refl us).append (List.sublist_cons_self t ts))

/-- A token joins what stands before it, whatever its kind becomes. -/
theorem InOrder.snoc {kind : TokenKind} (h : InOrder (us ++ t :: ts)) :
    InOrder (us ++ [{ t with kind }] ++ ts) := by
  obtain ⟨hus, hts, hacross⟩ := List.pairwise_append.mp h
  obtain ⟨ht, hts⟩ := List.pairwise_cons.mp hts
  rw [List.append_assoc]
  refine List.pairwise_append.mpr ⟨hus, List.pairwise_cons.mpr ⟨ht, hts⟩, ?_⟩
  rintro u hu v (_ | ⟨_, hv⟩)
  · exact hacross u hu t List.mem_cons_self
  · exact hacross u hu v (List.mem_cons_of_mem t hv)

end

theorem InOrder.index_unique {ts : List Token} (h : InOrder ts) {i j : Nat} (hi : i < ts.length)
    (hj : j < ts.length) (he : ts[i].place = ts[j].place) : i = j := by
  have hlt := List.pairwise_iff_getElem.mp h
  rcases Nat.lt_trichotomy i j with hij | hij | hij
  · exact absurd he (Position.ne_of_lt (hlt i j hi hj hij))
  · exact hij
  · exact absurd he.symm (Position.ne_of_lt (hlt j i hj hi hij))

end NameLint.Source

import NameLint.Proofs.Source.Place
import NameLint.Proofs.Source.Split

/-!
# Tokens in the lines of their text

A place that is reached by reading a text is the place of its rest in the lines of the text, as line feeds
divide it. So a word of a text stands in the line and column that its token has.
-/

namespace NameLint.Source

/-- In the line and column of a place, in a text that is divided at its line feeds, stand some characters. -/
structure StandsAt (text : List Char) (place : Position) (word : List Char) : Prop where
  line_pos : 1 ≤ place.line
  column_pos : 1 ≤ place.column
  inLine : ∃ line, (text.splitOn '\n')[place.line - 1]? = some line ∧
    word <+: line.drop (place.column - 1)

/-! ## Lines -/

theorem splitOn_lineFeed_of_not_mem {cs : List Char} (h : '\n' ∉ cs) (rest : List Char) :
    (cs ++ '\n' :: rest).splitOn '\n' = cs :: rest.splitOn '\n' := by
  simp only [List.splitOn_eq_splitOnP]
  refine List.splitOnP_append_cons_of_forall_mem (fun c hc => ?_) '\n' (by simp) rest
  exact beq_false_of_ne (ne_of_mem_of_not_mem hc h)

/-- The first line of a text is what stands before its first line feed. -/
theorem getElem?_zero_splitOn_lineFeed (cs : List Char) :
    (cs.splitOn '\n')[0]? = some (cs.takeWhile (· != '\n')) := by
  induction cs with
  | nil => rfl
  | cons c cs ih =>
      rw [List.splitOn_eq_splitOnP] at ih ⊢
      rw [List.splitOnP_cons_eq_if_modifyHead]
      by_cases hc : c = '\n'
      · simp [hc]
      · cases hsplit : cs.splitOnP (· == '\n') <;> simp_all

/-- In the line of the place that is reached after the beginning `start` of a line and some more of the
text, what comes next in the text stands at its column. -/
theorem rest_inLine (place : Position) (start : List Char) (hstart : '\n' ∉ start)
    (hcolumn : place.column = start.length + 1) (before rest : List Char) :
    place.line ≤ (place.after before).line ∧ 1 ≤ (place.after before).column ∧
      ∃ line, ((start ++ before ++ rest).splitOn '\n')[(place.after before).line - place.line]? =
          some line ∧
        line.drop ((place.after before).column - 1) = rest.takeWhile (· != '\n') := by
  induction before generalizing place start with
  | nil =>
      have hall : ∀ c ∈ start, (c != '\n') = true := fun c hc =>
        bne_iff_ne.mpr (ne_of_mem_of_not_mem hc hstart)
      have hline : (start ++ rest).takeWhile (· != '\n') = start ++ rest.takeWhile (· != '\n') :=
        List.takeWhile_append_of_pos hall
      simp [hcolumn, getElem?_zero_splitOn_lineFeed, hline]
  | cons c before ih =>
      by_cases hc : c = '\n'
      · -- The line is over, and nothing of the next one stands before the rest.
        subst hc
        have hadvance : place.advance '\n' = ⟨place.line + 1, 1⟩ := by simp [Position.advance]
        obtain ⟨hle, hpos, line, hline, hdrop⟩ :=
          ih (place.advance '\n') [] (by simp) (by simp [hadvance])
        have hlines : (start ++ '\n' :: before ++ rest).splitOn '\n' =
            start :: (before ++ rest).splitOn '\n' := by
          rw [List.append_assoc, List.cons_append, splitOn_lineFeed_of_not_mem hstart]
        rw [Position.after_cons, hlines]
        rw [hadvance] at hle hpos hline hdrop ⊢
        have hindex : (Position.after ⟨place.line + 1, 1⟩ before).line - place.line =
            (Position.after ⟨place.line + 1, 1⟩ before).line - (place.line + 1) + 1 := by
          simp only at hle
          omega
        refine ⟨Nat.le_of_succ_le hle, hpos, line, ?_, hdrop⟩
        rw [hindex, List.getElem?_cons_succ]
        exact hline
      · have hadvance : place.advance c = ⟨place.line, place.column + 1⟩ := by
          simp [Position.advance, hc]
        have hnext := ih (place.advance c) (start ++ [c]) (by simp [hstart, Ne.symm hc])
          (by simp [hadvance, hcolumn])
        simpa [hadvance] using hnext

theorem standsAt_after (before : List Char) {word : List Char} (rest : List Char)
    (hword : '\n' ∉ word) :
    StandsAt (before ++ word ++ rest) (Position.start.after before) word := by
  have hstart : '\n' ∉ ([] : List Char) := by simp
  obtain ⟨hline, hcolumn, line, hfound, hdrop⟩ :=
    rest_inLine .start [] hstart rfl before (word ++ rest)
  refine ⟨hline, hcolumn, line, by simpa [Position.start] using hfound, ?_⟩
  have hall : ∀ c ∈ word, (c != '\n') = true := fun c hc =>
    bne_iff_ne.mpr (ne_of_mem_of_not_mem hc hword)
  rw [hdrop, List.takeWhile_append_of_pos hall]
  exact List.prefix_append _ _

/-! ## Words -/

theorem splitToken_word {c : Char} {rest : List Char} (h : (splitToken c rest).1 = .word) :
    (splitToken c rest).2.1 = (c :: rest).takeWhile isIdentContinue := by
  unfold splitToken at h ⊢
  split at h
  · rename_i hstart
    rw [if_pos hstart]
    exact splitWord_text h
  · split at h
    · cases h
    · split at h <;> cases h

/-- The characters of a word in a text stand at its place. -/
theorem tokensFrom_word_after (lineStart : Bool) (place : Position) (cs : List Char) {t : Token}
    (ht : t ∈ tokensFrom lineStart place cs) (hword : t.kind = .word) :
    '\n' ∉ t.text.toList ∧
      ∃ before rest, cs = before ++ t.text.toList ++ rest ∧ t.place = place.after before := by
  induction lineStart, place, cs using tokensFrom_induction with
  | none lineStart place cs h => simp [tokensFrom_eq_nil h] at ht
  | token lineStart place cs c rest h ih =>
      have hcs := splitTrivia_append (.between lineStart) cs
      have htoken := splitToken_append c rest
      rw [h] at hcs
      rw [tokensFrom_eq_cons h] at ht
      rcases List.mem_cons.mp ht with rfl | ht
      · refine ⟨?_, _, (splitToken c rest).2.2, ?_, rfl⟩
        · rw [String.toList_ofList, splitToken_word hword]
          exact fun hmem => absurd (List.mem_takeWhile_imp hmem) (by decide)
        · rw [String.toList_ofList, List.append_assoc, htoken, hcs]
      · obtain ⟨hno, before, after, hrest, hplace⟩ := ih ht
        refine ⟨hno, (splitTrivia (.between lineStart) cs).1 ++ (splitToken c rest).2.1 ++ before,
          after, ?_, ?_⟩
        · calc
            cs = (splitTrivia (.between lineStart) cs).1 ++
                ((splitToken c rest).2.1 ++ (splitToken c rest).2.2) := by rw [htoken, hcs]
            _ = _ := by rw [hrest]; simp
        · rw [hplace, Position.after_append, Position.after_append]

/-- A word of a text stands in the line and column of its token. -/
theorem standsAt_of_mem_tokens {text : String} {t : Token} (ht : t ∈ tokens text)
    (hword : t.kind = .word) : StandsAt text.toList t.place t.text.toList := by
  obtain ⟨hno, before, rest, hcs, hplace⟩ := tokensFrom_word_after true .start text.toList ht hword
  rw [hcs, hplace]
  exact standsAt_after before rest hno

end NameLint.Source

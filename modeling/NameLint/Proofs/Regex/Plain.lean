import Mathlib
import NameLint.Proofs.Regex.Anchorless
import NameLint.Proofs.Regex.Enclosed
import NameLint.Proofs.Source.Pieces

/-!
# Texts that match themselves

Letters, digits and underscores have no meaning of their own in an expression. A text of them is read as one
character after the other, and as an expression it has just one word, the text.
-/

namespace NameLint.Regex

open NameLint.Unicode

/-- A letter, a digit or an underscore. -/
def isPlain (c : Char) : Bool :=
  c.isAlphanum || c == '_'

theorem isAscii_of_isPlain {c : Char} (h : isPlain c = true) : isAscii c = true := by
  rcases Bool.or_eq_true_iff.mp h with halphanum | hunderscore
  · exact Source.isAscii_of_isAlphanum halphanum
  · rw [beq_iff_eq.mp hunderscore]
    rfl

/-! ## Expressions in a row -/

namespace Expr

theorem seqAll_cons_cons (r s : Expr) (rs : List Expr) : seqAll (r :: s :: rs) = .seq r (seqAll (s :: rs)) := rfl

theorem language_seqAll (rs : List Expr) : (seqAll rs).language = (rs.map language).prod := by
  induction rs with
  | nil => rfl
  | cons r rs ih =>
      cases rs with
      | nil => simp [seqAll]
      | cons s rs =>
          rw [seqAll_cons_cons, language_seq, ih]
          exact List.prod_cons.symm

theorem isAnchorless_seqAll {rs : List Expr} (h : ∀ r ∈ rs, r.IsAnchorless) : (seqAll rs).IsAnchorless := by
  induction rs with
  | nil => trivial
  | cons r rs ih =>
      obtain ⟨hr, hrs⟩ := List.forall_mem_cons.mp h
      cases rs with
      | nil => exact hr
      | cons s rs => exact ⟨hr, ih hrs⟩

theorem weight_seqAll (rs : List Expr) : (seqAll rs).weight = (rs.map weight).sum := by
  induction rs with
  | nil => rfl
  | cons r rs ih =>
      cases rs with
      | nil => simp [seqAll]
      | cons s rs =>
          rw [seqAll_cons_cons, weight, ih]
          exact List.sum_cons.symm

/-- One character after the other. -/
def literal (text : List Char) : Expr :=
  seqAll (text.map fun c => .chars (.single c))

theorem mem_language_literal {text w : List Char} : w ∈ (literal text).language ↔ w = text := by
  rw [literal, language_seqAll, List.map_map]
  induction text generalizing w with
  | nil => exact Iff.rfl
  | cons c text ih =>
      rw [List.map_cons, List.prod_cons, Function.comp_apply, language_single, letter, mem_oneOf_mul]
      simp only [ih]
      constructor
      · rintro ⟨_, _, rfl, rfl, rfl⟩
        rfl
      · rintro rfl
        exact ⟨c, text, rfl, rfl, rfl⟩

theorem isAnchorless_literal (text : List Char) : (literal text).IsAnchorless :=
  isAnchorless_seqAll (List.forall_mem_map.mpr fun _ _ => trivial)

theorem matches_literal_iff (text name : List Char) : (literal text).Matches name ↔ name = text := by
  rw [matches_iff (isAnchorless_literal text), mem_language_literal]

theorem weight_literal {text : List Char} (h : ∀ c ∈ text, isPlain c = true) :
    (literal text).weight = 32 * text.length := by
  have hweight : ∀ c ∈ text, (Expr.chars (.single c)).weight = 32 := fun c hc =>
    if_pos (isAscii_of_isPlain (h c hc))
  have hweights : (text.map fun c => Expr.chars (.single c)).map weight = text.map fun _ => 32 := by
    rw [List.map_map]
    exact List.map_congr_left hweight
  rw [literal, weight_seqAll, hweights, List.map_const', List.sum_replicate_nat, Nat.mul_comm]

end Expr

/-! ## Reading plain texts -/

theorem Term.sequence_expr (ts : List Term) :
    (Term.sequence ts).expr = Expr.seqAll (ts.reverse.map (·.expr)) := by
  match ts with
  | [] | [_] | _ :: _ :: _ => rfl

theorem Term.sequence_depth_le {ts : List Term} (h : ∀ t ∈ ts, t.depth = 0) : (Term.sequence ts).depth ≤ 1 := by
  match ts with
  | [] => exact Nat.zero_le 1
  | [t] => exact (h t List.mem_cons_self).le.trans (Nat.zero_le 1)
  | t :: u :: ts =>
      have hdepths : (t :: u :: ts).map (·.depth) = List.replicate (ts.length + 2) 0 :=
        List.eq_replicate_iff.mpr ⟨by simp, by simpa using h⟩
      have hmax (n : Nat) : (List.replicate n 0).foldl max 0 = 0 := by
        induction n with
        | zero => rfl
        | succ n ih => exact ih
      have hsequence : (Term.sequence (t :: u :: ts)).depth = 1 + ((t :: u :: ts).map (·.depth)).foldl max 0 := rfl
      rw [hsequence, hdepths, hmax]

namespace ParseState

/-- The state after a text whose characters stand for themselves. -/
def addLiteral (st : ParseState) (text : List Char) : ParseState :=
  { st with terms := (text.map fun c => ⟨.chars (.single c), 0, true⟩).reverse ++ st.terms }

theorem addLiteral_cons (st : ParseState) (c : Char) (text : List Char) :
    st.addLiteral (c :: text) = (st.add (.chars (.single c)) 0).addLiteral text := by
  simp [addLiteral, add]

theorem groupTerm_addLiteral (text : List Char) : (initial.addLiteral text).groupTerm.expr = Expr.literal text ∧
    (initial.addLiteral text).groupTerm.depth ≤ 1 := by
  constructor
  · simp [groupTerm, Term.alternatives, Term.sequence_expr, addLiteral, initial, Expr.literal, Function.comp_def]
  · refine Term.sequence_depth_le fun t ht => ?_
    simp only [addLiteral, initial, List.append_nil, List.mem_reverse, List.mem_map] at ht
    obtain ⟨c, -, rfl⟩ := ht
    rfl

end ParseState

/-- A letter, digit or underscore stands for itself. -/
theorem readPiece?_plain {st : ParseState} {c : Char} (h : isPlain c = true) (hflags : st.flags = {})
    (rest : List Char) : readPiece? st c rest = some (st.add (.chars (.single c)) 0, rest) := by
  have hchar : charExpr st.flags c = .chars (.single c) := by rw [hflags]; rfl
  unfold readPiece?
  split
  case h_13 => rw [hchar]
  all_goals cases h

theorem parseFrom?_plain_append {st : ParseState} {text : List Char} (h : ∀ c ∈ text, isPlain c = true)
    (hflags : st.flags = {}) (rest : List Char) :
    parseFrom? st (text ++ rest) = parseFrom? (st.addLiteral text) rest := by
  induction text generalizing st with
  | nil => rfl
  | cons c text ih =>
      obtain ⟨hc, htext⟩ := List.forall_mem_cons.mp h
      have hskip : st.flags.skip (c :: (text ++ rest)) = c :: (text ++ rest) := by rw [hflags]; rfl
      rw [List.cons_append, parseFrom?_of_skip_eq_cons st hskip, readPiece?_plain hc hflags, Option.bind_some,
        ParseState.addLiteral_cons]
      exact ih htext hflags

end NameLint.Regex

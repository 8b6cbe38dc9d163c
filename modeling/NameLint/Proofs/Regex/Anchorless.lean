import Mathlib.Computability.Language
import NameLint.Proofs.Regex.Language

/-!
# Expressions without anchors

An expression without anchors does not look at what is around it. What it relates is a language of words: it leads
from a position over a word of its language that stands there.
-/

namespace NameLint.Regex

open scoped Computability

/-- The words of one character that satisfies a condition. -/
def oneOf (p : Char → Prop) : Language Char := {w | ∃ c, p c ∧ w = [c]}

/-- The words of one character between two. -/
def between (first last : Char) : Language Char := oneOf fun c => first ≤ c ∧ c ≤ last

/-- The word of one character. -/
def letter (c : Char) : Language Char := oneOf (· = c)

section

variable {p q : Char → Prop} {l : Language Char} {w : List Char}

theorem mem_oneOf : w ∈ oneOf p ↔ ∃ c, p c ∧ w = [c] := Iff.rfl

theorem oneOf_congr (h : ∀ c, p c ↔ q c) : oneOf p = oneOf q :=
  congrArg oneOf (funext fun c => propext (h c))

theorem oneOf_add : oneOf p + oneOf q = oneOf fun c => p c ∨ q c := by
  ext w
  simp only [Language.mem_add, mem_oneOf, or_and_right, exists_or]

theorem mem_oneOf_mul : w ∈ oneOf p * l ↔ ∃ c rest, w = c :: rest ∧ p c ∧ rest ∈ l := by
  rw [Language.mem_mul]
  constructor
  · rintro ⟨-, ⟨c, hc, rfl⟩, rest, hrest, rfl⟩
    exact ⟨c, rest, rfl, hc, hrest⟩
  · rintro ⟨c, rest, rfl, hc, hrest⟩
    exact ⟨[c], ⟨c, hc, rfl⟩, rest, hrest, rfl⟩

theorem mem_kstar_iff : w ∈ l∗ ↔ w = [] ∨ w ∈ l * l∗ := by
  conv_lhs => rw [← Language.one_add_self_mul_kstar_eq_kstar, Language.mem_add, Language.mem_one]

theorem mem_kstar_oneOf : w ∈ (oneOf p)∗ ↔ ∀ c ∈ w, p c := by
  induction w with
  | nil => simp [Language.nil_mem_kstar]
  | cons c rest ih =>
      rw [mem_kstar_iff, mem_oneOf_mul, List.forall_mem_cons, ← ih]
      simp

end

namespace Expr

/-- No anchor stands in an expression. -/
def IsAnchorless : Expr → Prop
  | .empty | .chars _ => True
  | .anchor _ => False
  | .seq r s | .alt r s => r.IsAnchorless ∧ s.IsAnchorless
  | .repeated r _ _ => r.IsAnchorless

/-- The words of an expression without anchors. -/
def language : Expr → Language Char
  | .empty | .anchor _ => 1
  | .chars s => oneOf (s.contains · = true)
  | .seq r s => r.language * s.language
  | .alt r s => r.language + s.language
  | .repeated r min max =>
    {w | ∃ n, min ≤ n ∧ (∀ m, max = some m → n ≤ Nat.max min m) ∧ w ∈ r.language ^ n}

end Expr

/-! ## Words that stand at a position -/

/-- A word of a language stands at a position of a text, and ends at another. -/
def StandsBetween (text : List Char) (l : Language Char) (i j : Nat) : Prop :=
  ∃ w ∈ l, w <+: text.drop i ∧ j = i + w.length

namespace StandsBetween

variable {text : List Char} {l m : Language Char} {i j n : Nat}

theorem one_iff : StandsBetween text 1 i j ↔ i = j := by
  constructor
  · rintro ⟨w, rfl, -, rfl⟩
    rfl
  · rintro rfl
    exact ⟨[], rfl, List.nil_prefix, rfl⟩

theorem oneOf_iff {p : Char → Prop} :
    StandsBetween text (oneOf p) i j ↔ (∃ c, text[i]? = some c ∧ p c) ∧ j = i + 1 := by
  constructor
  · rintro ⟨-, ⟨c, hc, rfl⟩, hstands, rfl⟩
    obtain ⟨rest, hrest⟩ := hstands
    have hhead := congrArg List.head? hrest
    rw [List.head?_drop] at hhead
    exact ⟨⟨c, hhead.symm, hc⟩, rfl⟩
  · rintro ⟨⟨c, hc, hp⟩, rfl⟩
    obtain ⟨hi, rfl⟩ := List.getElem?_eq_some_iff.mp hc
    refine ⟨[text[i]], ⟨_, hp, rfl⟩, ?_, rfl⟩
    rw [List.drop_eq_getElem_cons hi]
    exact List.prefix_append [_] _

theorem add_iff : StandsBetween text (l + m) i j ↔ StandsBetween text l i j ∨ StandsBetween text m i j := by
  simp only [StandsBetween, Language.mem_add, or_and_right, exists_or]

theorem mul_iff :
    StandsBetween text (l * m) i j ↔ ∃ k, StandsBetween text l i k ∧ StandsBetween text m k j := by
  constructor
  · rintro ⟨-, ⟨v, hv, w, hw, rfl⟩, ⟨rest, hrest⟩, rfl⟩
    have hdrop : text.drop (i + v.length) = w ++ rest := by
      rw [← List.drop_drop, ← hrest, List.append_assoc, List.drop_left]
    refine ⟨i + v.length, ⟨v, hv, ⟨w ++ rest, by rw [← hrest, List.append_assoc]⟩, rfl⟩, w, hw, ?_, ?_⟩
    · exact hdrop ▸ List.prefix_append w rest
    · rw [List.length_append, Nat.add_assoc]
  · rintro ⟨_, ⟨v, hv, ⟨rest, hrest⟩, rfl⟩, w, hw, hstands, rfl⟩
    rw [← List.drop_drop, ← hrest, List.drop_left] at hstands
    refine ⟨v ++ w, ⟨v, hv, w, hw, rfl⟩, ?_, ?_⟩
    · exact hrest ▸ (List.prefix_append_right_inj v).mpr hstands
    · rw [List.length_append, Nat.add_assoc]

theorem pow_iff : StandsBetween text (l ^ n) i j ↔ Times (StandsBetween text l) n i j := by
  induction n generalizing i with
  | zero => rw [pow_zero, one_iff]; rfl
  | succ n ih => simp only [pow_succ', mul_iff, ih, Times]

end StandsBetween

namespace Expr

variable {r : Expr}

/-- An expression without anchors leads over the words of its language, wherever they stand. -/
theorem leads_iff (hr : r.IsAnchorless) (text : List Char) (i j : Nat) :
    r.Leads text.toArray i j ↔ StandsBetween text r.language i j := by
  induction r generalizing i j with
  | empty => exact StandsBetween.one_iff.symm
  | anchor a => cases hr
  | chars s => simp only [Leads, language, StandsBetween.oneOf_iff, List.getElem?_toArray]
  | seq r s ihr ihs => simp only [Leads, language, StandsBetween.mul_iff, ihr hr.1, ihs hr.2]
  | alt r s ihr ihs => simp only [Leads, language, StandsBetween.add_iff, ihr hr.1, ihs hr.2]
  | repeated r min max ih =>
      have hrelation : r.Leads text.toArray = StandsBetween text r.language := by
        funext i j
        exact propext (ih hr i j)
      simp only [Leads, hrelation, ← StandsBetween.pow_iff]
      constructor
      · rintro ⟨n, hmin, hmax, w, hw, hstands⟩
        exact ⟨w, ⟨n, hmin, hmax, hw⟩, hstands⟩
      · rintro ⟨w, ⟨n, hmin, hmax, hw⟩, hstands⟩
        exact ⟨n, hmin, hmax, w, hw, hstands⟩

/-- The names that an expression without anchors matches as a whole are the words of its language. -/
theorem matches_iff (hr : r.IsAnchorless) (name : List Char) : r.Matches name ↔ name ∈ r.language := by
  rw [Matches, leads_iff hr]
  constructor
  · rintro ⟨w, hw, hstands, hlength⟩
    rw [List.drop_zero] at hstands
    rwa [← hstands.eq_of_length (by omega)]
  · exact fun hname => ⟨name, hname, List.prefix_refl _, by simp⟩

/-! ## The words of each expression -/

theorem language_seq (r s : Expr) : (Expr.seq r s).language = r.language * s.language := rfl

theorem language_alt (r s : Expr) : (Expr.alt r s).language = r.language + s.language := rfl

theorem language_range (first last : Char) :
    (Expr.chars (.range first last)).language = between first last :=
  oneOf_congr fun c => by simp [CharSet.contains]

theorem language_single (c : Char) : (Expr.chars (.single c)).language = letter c :=
  oneOf_congr fun d => by
    rw [CharSet.single, CharSet.contains, Bool.and_eq_true, decide_eq_true_eq, decide_eq_true_eq,
      and_comm]
    exact ⟨fun ⟨hle, hge⟩ => Char.le_antisymm hle hge, fun heq => heq ▸ ⟨Char.le_refl _, Char.le_refl _⟩⟩

theorem language_union (s t : CharSet) :
    (Expr.chars (.union s t)).language = (Expr.chars s).language + (Expr.chars t).language := by
  simp only [language, oneOf_add]
  exact oneOf_congr fun c => by simp [CharSet.contains]

/-- A repetition without bounds. -/
theorem language_repeated_zero_none (r : Expr) : (Expr.repeated r 0 none).language = r.language∗ := by
  ext w
  rw [Language.kstar_eq_iSup_pow, Language.mem_iSup]
  constructor
  · rintro ⟨n, -, -, hw⟩
    exact ⟨n, hw⟩
  · rintro ⟨n, hw⟩
    exact ⟨n, Nat.zero_le n, nofun, hw⟩

end Expr

end NameLint.Regex

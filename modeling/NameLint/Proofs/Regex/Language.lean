import Mathlib.Data.Finset.Card
import Mathlib.Data.Finset.Range
import Mathlib.Logic.Function.Iterate
import NameLint.Regex.Basic

/-!
# The language of an expression

What an expression relates is said by recursion over the expression, and the search is proved to find just
that. A repetition without a bound is the one place where the search has to stop by itself: every round finds
a position that was not seen before, and a text has finitely many.
-/

namespace NameLint.Regex

/-- Whether `n` steps of a relation in a row lead from one position to another. -/
def Times (R : Nat → Nat → Prop) : Nat → Nat → Nat → Prop
  | 0, i, j => i = j
  | n + 1, i, j => ∃ k, R i k ∧ Times R n k j

namespace Expr

/-- Whether an expression leads from one position of a text to another. Where the bound of a repetition is
below the least number, the least number is what is asked for. -/
def Leads (text : Array Char) : Expr → Nat → Nat → Prop
  | .empty, i, j => i = j
  | .chars s, i, j => (∃ c, text[i]? = some c ∧ s.contains c = true) ∧ j = i + 1
  | .anchor a, i, j => a.holds (if i = 0 then none else text[i - 1]?) text[i]? = true ∧ i = j
  | .seq r s, i, j => ∃ k, r.Leads text i k ∧ s.Leads text k j
  | .alt r s, i, j => r.Leads text i j ∨ s.Leads text i j
  | .repeated r min max, i, j =>
    ∃ n, min ≤ n ∧ (∀ m, max = some m → n ≤ Nat.max min m) ∧ Times (r.Leads text) n i j

/-- Whether a name as a whole is in the language of an expression. -/
def Matches (r : Expr) (name : List Char) : Prop :=
  r.Leads name.toArray 0 name.length

end Expr

/-! ## Steps in a row -/

section Times

variable {R : Nat → Nat → Prop} {i j k m n bound : Nat}

theorem Times.trans (h : Times R m i k) (h' : Times R n k j) : Times R (m + n) i j := by
  induction m generalizing i with
  | zero => simpa [show i = k from h] using h'
  | succ m ih =>
      obtain ⟨l, hl, hrest⟩ := h
      rw [Nat.succ_add]
      exact ⟨l, hl, ih hrest⟩

theorem Times.split (h : Times R (m + n) i j) : ∃ k, Times R m i k ∧ Times R n k j := by
  induction m generalizing i with
  | zero => exact ⟨i, rfl, by simpa using h⟩
  | succ m ih =>
      rw [Nat.succ_add] at h
      obtain ⟨l, hl, hrest⟩ := h
      obtain ⟨k, hk, hkj⟩ := ih hrest
      exact ⟨k, ⟨l, hl, hk⟩, hkj⟩

/-- What is closed under a relation is closed under any number of its steps. -/
theorem Times.closed {p : Nat → Prop} (hp : ∀ i j, p i → R i j → p j) (h : Times R n i j) (hi : p i) :
    p j := by
  induction n generalizing i with
  | zero => exact (show i = j from h) ▸ hi
  | succ n ih =>
      obtain ⟨k, hk, hrest⟩ := h
      exact ih hrest (hp i k hi hk)

end Times

/-! ## Sets of positions -/

theorem mem_mergePositions {x : Nat} (is js : List Nat) :
    x ∈ mergePositions is js ↔ x ∈ is ∨ x ∈ js := by
  fun_induction mergePositions is js with
  | case1 js => simp
  | case2 is h => simp
  | case3 i is j js hlt ih => simp [ih, or_assoc]
  | case4 i is j js hlt hgt ih => simp [ih]; tauto
  | case5 i is j js hlt hgt ih =>
      obtain rfl : i = j := by omega
      simp [ih]; tauto

/-- Stopping early at a set that no longer changes makes no difference. -/
theorem iterate_eq (step : List Nat → List Nat) (n : Nat) (is : List Nat) :
    iterate step n is = step^[n] is := by
  induction n generalizing is with
  | zero => rfl
  | succ n ih =>
      simp only [iterate]
      split
      next h => rw [Function.iterate_succ_apply, h, Function.iterate_fixed h]
      next => rw [ih, Function.iterate_succ_apply]

/-- The positions that a step leads to from the newest ones and that have not been seen. -/
def fresh (step : List Nat → List Nat) (seen newest : List Nat) : List Nat :=
  (step newest).filter fun i => !seen.contains i

theorem closure_succ (step : List Nat → List Nat) (n : Nat) (seen newest : List Nat) :
    closure step (n + 1) seen newest =
      if (fresh step seen newest).isEmpty then seen
      else closure step n (mergePositions seen (fresh step seen newest)) (fresh step seen newest) :=
  rfl

/-- A step on sets of positions up to a bound goes where a relation leads, and stays within the bound. -/
structure Follows (bound : Nat) (step : List Nat → List Nat) (R : Nat → Nat → Prop) : Prop where
  mem_iff : ∀ is, (∀ i ∈ is, i ≤ bound) → ∀ j, j ∈ step is ↔ ∃ i ∈ is, R i j
  le : ∀ i j, R i j → i ≤ bound → j ≤ bound

namespace Follows

variable {bound n : Nat} {step : List Nat → List Nat} {R : Nat → Nat → Prop} {is seen newest : List Nat}

theorem step_le (h : Follows bound step R) (his : ∀ i ∈ is, i ≤ bound) : ∀ j ∈ step is, j ≤ bound := by
  intro j hj
  obtain ⟨i, hi, hij⟩ := (h.mem_iff is his j).mp hj
  exact h.le i j hij (his i hi)

theorem mem_iterate (h : Follows bound step R) (his : ∀ i ∈ is, i ≤ bound) (j : Nat) :
    j ∈ iterate step n is ↔ ∃ i ∈ is, Times R n i j := by
  rw [iterate_eq]
  induction n generalizing is with
  | zero => simp [Times]
  | succ n ih =>
      rw [Function.iterate_succ_apply, ih (h.step_le his)]
      simp only [h.mem_iff is his, Times]
      exact ⟨fun ⟨k, ⟨i, hi, hik⟩, hkj⟩ => ⟨i, hi, k, hik, hkj⟩,
        fun ⟨i, hi, k, hik, hkj⟩ => ⟨k, ⟨i, hi, hik⟩, hkj⟩⟩

/-- What holds of the sets that `closure` carries: the newest positions are among those seen, and from all
others every step leads to what has been seen. -/
structure Frontier (bound : Nat) (R : Nat → Nat → Prop) (seen newest : List Nat) : Prop where
  le : ∀ i ∈ seen, i ≤ bound
  newest_seen : ∀ i ∈ newest, i ∈ seen
  old_closed : ∀ i ∈ seen, i ∉ newest → ∀ j, R i j → j ∈ seen

theorem Frontier.all (h : ∀ i ∈ seen, i ≤ bound) : Frontier bound R seen seen :=
  ⟨h, fun _ hi => hi, fun _ hi hnew => absurd hi hnew⟩

theorem mem_fresh (h : Follows bound step R) (hf : Frontier bound R seen newest) (j : Nat) :
    j ∈ fresh step seen newest ↔ (∃ i ∈ newest, R i j) ∧ j ∉ seen := by
  simp [fresh, h.mem_iff newest fun i hi => hf.le i (hf.newest_seen i hi)]

theorem Frontier.closed (h : Follows bound step R) (hf : Frontier bound R seen newest)
    (hfresh : fresh step seen newest = []) : ∀ i j, i ∈ seen → R i j → j ∈ seen := by
  intro i j hi hij
  by_cases hnew : i ∈ newest
  · by_contra hj
    have hmem := (h.mem_fresh hf j).mpr ⟨⟨i, hnew, hij⟩, hj⟩
    rw [hfresh] at hmem
    exact absurd hmem List.not_mem_nil
  · exact hf.old_closed i hi hnew j hij

theorem Frontier.next (h : Follows bound step R) (hf : Frontier bound R seen newest) :
    Frontier bound R (mergePositions seen (fresh step seen newest)) (fresh step seen newest) where
  le i hi := by
    rcases (mem_mergePositions _ _).mp hi with hi | hi
    · exact hf.le i hi
    · obtain ⟨⟨k, hk, hki⟩, -⟩ := (h.mem_fresh hf i).mp hi
      exact h.le k i hki (hf.le k (hf.newest_seen k hk))
  newest_seen i hi := (mem_mergePositions _ _).mpr (.inr hi)
  old_closed i hi hold j hij := by
    have hi : i ∈ seen := ((mem_mergePositions _ _).mp hi).resolve_right hold
    rw [mem_mergePositions]
    by_cases hj : j ∈ seen
    · exact .inl hj
    · have hnew : i ∈ newest := by
        by_contra hnew
        exact hj (hf.old_closed i hi hnew j hij)
      exact .inr ((h.mem_fresh hf j).mpr ⟨⟨i, hnew, hij⟩, hj⟩)

/-- A bounded closure holds what up to `n` steps lead to. -/
theorem mem_closure (h : Follows bound step R) (hf : Frontier bound R seen newest) (j : Nat) :
    j ∈ closure step n seen newest ↔ ∃ m ≤ n, ∃ i ∈ seen, Times R m i j := by
  induction n generalizing seen newest with
  | zero => simp [closure, Times]
  | succ n ih =>
      simp only [closure_succ, List.isEmpty_iff]
      split
      next hfresh =>
        refine ⟨fun hj => ⟨0, Nat.zero_le _, j, hj, rfl⟩, fun ⟨m, _, i, hi, hij⟩ => ?_⟩
        exact hij.closed (hf.closed h hfresh) hi
      next =>
        rw [ih (hf.next h)]
        constructor
        · rintro ⟨m, hm, i, hi, hij⟩
          rcases (mem_mergePositions _ _).mp hi with hi | hi
          · exact ⟨m, by omega, i, hi, hij⟩
          · obtain ⟨⟨k, hk, hki⟩, -⟩ := (h.mem_fresh hf i).mp hi
            exact ⟨m + 1, by omega, k, hf.newest_seen k hk, i, hki, hij⟩
        · rintro ⟨m, hm, i, hi, hij⟩
          have hseen : ∀ k ∈ seen, k ∈ mergePositions seen (fresh step seen newest) :=
            fun k hk => (mem_mergePositions _ _).mpr (.inl hk)
          cases m with
          | zero => exact ⟨0, Nat.zero_le _, i, hseen i hi, hij⟩
          | succ m =>
              obtain ⟨k, hik, hkj⟩ := hij
              refine ⟨m, by omega, k, ?_, hkj⟩
              by_cases hnew : i ∈ newest
              · by_cases hk : k ∈ seen
                · exact hseen k hk
                · exact (hf.next h).newest_seen k ((h.mem_fresh hf k).mpr ⟨⟨i, hnew, hik⟩, hk⟩)
              · exact hseen k (hf.old_closed i hi hnew k hik)

/-- The positions that have not been seen. -/
def unseen (bound : Nat) (seen : List Nat) : Finset Nat :=
  (Finset.range (bound + 1)).filter (· ∉ seen)

theorem unseen_card_le (bound : Nat) (seen : List Nat) : (unseen bound seen).card ≤ bound + 1 :=
  (Finset.card_filter_le _ _).trans_eq (Finset.card_range _)

/-- With a round for every position that has not been seen, nothing is left to find. -/
theorem closure_closed (h : Follows bound step R) (hf : Frontier bound R seen newest)
    (hn : (unseen bound seen).card ≤ n) :
    ∀ i j, i ∈ closure step n seen newest → R i j → j ∈ closure step n seen newest := by
  induction n generalizing seen newest with
  | zero =>
      intro i j hi hij
      have hj : j ∉ unseen bound seen := by simp [Finset.card_eq_zero.mp (Nat.le_zero.mp hn)]
      have hle : j ≤ bound := h.le i j hij (hf.le i hi)
      simpa [closure, unseen, Nat.lt_succ_of_le hle] using hj
  | succ n ih =>
      simp only [closure_succ, List.isEmpty_iff]
      split
      next hfresh => exact hf.closed h hfresh
      next hfresh =>
        obtain ⟨x, hx⟩ := List.exists_mem_of_ne_nil _ hfresh
        have hxle : x ≤ bound := (hf.next h).le x ((hf.next h).newest_seen x hx)
        have hsub : unseen bound (mergePositions seen (fresh step seen newest)) ⊂ unseen bound seen := by
          refine Finset.ssubset_iff_of_subset (fun i hi => ?_) |>.mpr ⟨x, ?_, ?_⟩
          · simp only [unseen, Finset.mem_filter, mem_mergePositions, not_or] at hi ⊢
            exact ⟨hi.1, hi.2.1⟩
          · simpa [unseen, Nat.lt_succ_of_le hxle] using ((h.mem_fresh hf x).mp hx).2
          · simp only [unseen, Finset.mem_filter, mem_mergePositions, not_and, not_not]
            exact fun _ => .inr hx
        exact ih (hf.next h) (by have := Finset.card_lt_card hsub; omega)

/-- A closure with a round for every position of the text holds what any number of steps leads to. -/
theorem mem_closure_all (h : Follows bound step R) (his : ∀ i ∈ is, i ≤ bound) (j : Nat) :
    j ∈ closure step (bound + 1) is is ↔ ∃ m, ∃ i ∈ is, Times R m i j := by
  have hf : Frontier bound R is is := .all his
  constructor
  · rw [h.mem_closure hf]
    exact fun ⟨m, _, hm⟩ => ⟨m, hm⟩
  · rintro ⟨m, i, hi, hij⟩
    have hstart : i ∈ closure step (bound + 1) is is := by
      rw [h.mem_closure hf]
      exact ⟨0, Nat.zero_le _, i, hi, rfl⟩
    exact hij.closed (h.closure_closed hf (unseen_card_le bound is)) hstart

end Follows

/-! ## The search -/

namespace Expr

variable {text : Array Char} {r : Expr}

theorem leads_le (r : Expr) {i j : Nat} (h : r.Leads text i j) (hi : i ≤ text.size) : j ≤ text.size := by
  induction r generalizing i j with
  | empty => exact (show i = j from h) ▸ hi
  | chars s =>
      obtain ⟨⟨c, hc, -⟩, rfl⟩ := h
      exact (Array.getElem?_eq_some_iff.mp hc).1
  | anchor a => exact h.2 ▸ hi
  | seq r s ihr ihs =>
      obtain ⟨k, hk, hkj⟩ := h
      exact ihs hkj (ihr hk hi)
  | alt r s ihr ihs => exact h.elim (ihr · hi) (ihs · hi)
  | repeated r min max ih =>
      obtain ⟨n, -, -, hn⟩ := h
      exact hn.closed (p := (· ≤ text.size)) (fun i j hi hij => ih hij hi) hi

/-- A repetition is the least number of times, and then up to as many times as are left. -/
theorem leads_repeated_iff {min : Nat} {max : Option Nat} {i j : Nat} :
    (Expr.repeated r min max).Leads text i j ↔
      ∃ k, Times (r.Leads text) min i k ∧
        ∃ m, (∀ bound, max = some bound → m ≤ bound - min) ∧ Times (r.Leads text) m k j := by
  simp only [Leads]
  constructor
  · rintro ⟨n, hmin, hmax, hn⟩
    obtain ⟨m, rfl⟩ := Nat.exists_eq_add_of_le hmin
    obtain ⟨k, hk, hkj⟩ := hn.split
    refine ⟨k, hk, m, fun bound hb => ?_, hkj⟩
    have hle : min + m ≤ Max.max min bound := hmax bound hb
    omega
  · rintro ⟨k, hk, m, hm, hkj⟩
    refine ⟨min + m, Nat.le_add_right _ _, fun bound hb => ?_, hk.trans hkj⟩
    have hle : m ≤ bound - min := hm bound hb
    show min + m ≤ Max.max min bound
    omega

/-- The positions that are computed are those that the expression leads to. -/
theorem follows_advance (r : Expr) : Follows text.size (r.advance text) (r.Leads text) where
  le _ _ := r.leads_le
  mem_iff := by
    induction r with
    | empty => simp [advance, Leads]
    | chars s =>
        intro is _ j
        simp only [advance, List.mem_filterMap, Option.bind_eq_some_iff, Option.ite_none_right_eq_some,
          Option.some.injEq, Leads]
        exact ⟨fun ⟨i, hi, c, hc, hs, hj⟩ => ⟨i, hi, ⟨c, hc, hs⟩, hj.symm⟩,
          fun ⟨i, hi, ⟨c, hc, hs⟩, hj⟩ => ⟨i, hi, c, hc, hs, hj.symm⟩⟩
    | anchor a =>
        intro is _ j
        simp only [advance, List.mem_filter, Leads]
        exact ⟨fun ⟨hj, h⟩ => ⟨j, hj, h, rfl⟩, fun ⟨i, hi, h, hij⟩ => hij ▸ ⟨hi, h⟩⟩
    | seq r s ihr ihs =>
        intro is his j
        have hr : Follows text.size (r.advance text) (r.Leads text) := ⟨ihr, fun _ _ => r.leads_le⟩
        simp only [advance, ihs _ (hr.step_le his), ihr is his, Leads]
        exact ⟨fun ⟨k, ⟨i, hi, hik⟩, hkj⟩ => ⟨i, hi, k, hik, hkj⟩,
          fun ⟨i, hi, k, hik, hkj⟩ => ⟨k, ⟨i, hi, hik⟩, hkj⟩⟩
    | alt r s ihr ihs =>
        intro is his j
        simp only [advance, mem_mergePositions, ihr is his, ihs is his, Leads, and_or_left, exists_or]
    | repeated r min max ih =>
        intro is his j
        have hr : Follows text.size (r.advance text) (r.Leads text) := ⟨ih, fun _ _ => r.leads_le⟩
        have hreached : ∀ k ∈ iterate (r.advance text) min is, k ≤ text.size := by
          intro k hk
          obtain ⟨i, hi, hik⟩ := (hr.mem_iterate his k).mp hk
          exact hik.closed (p := (· ≤ text.size)) (fun i j hi hij => r.leads_le hij hi) (his i hi)
        simp only [leads_repeated_iff, advance]
        cases max with
        | none =>
            simp only [hr.mem_closure_all hreached, hr.mem_iterate his, reduceCtorEq, false_implies,
              implies_true, true_and]
            exact ⟨fun ⟨m, k, ⟨i, hi, hik⟩, hkj⟩ => ⟨i, hi, k, hik, m, hkj⟩,
              fun ⟨i, hi, k, hik, m, hkj⟩ => ⟨m, k, ⟨i, hi, hik⟩, hkj⟩⟩
        | some bound =>
            simp only [hr.mem_closure (.all hreached), hr.mem_iterate his, Option.some.injEq,
              forall_eq']
            exact ⟨fun ⟨m, hm, k, ⟨i, hi, hik⟩, hkj⟩ => ⟨i, hi, k, hik, m, hm, hkj⟩,
              fun ⟨i, hi, k, hik, m, hm, hkj⟩ => ⟨m, hm, k, ⟨i, hi, hik⟩, hkj⟩⟩

/-- An expression is found in a text just if it leads from some position of the text to some other. -/
theorem found_iff (r : Expr) (text : List Char) :
    r.found text = true ↔ ∃ i ≤ text.length, ∃ j, r.Leads text.toArray i j := by
  have hstart : ∀ i ∈ List.range (text.length + 1), i ≤ text.toArray.size := by
    intro i hi
    simpa [Nat.lt_succ_iff] using hi
  simp only [found, Bool.not_eq_true', List.isEmpty_eq_false_iff_exists_mem,
    (follows_advance r).mem_iff _ hstart, List.mem_range, Nat.lt_succ_iff]
  exact ⟨fun ⟨j, i, hi, h⟩ => ⟨i, hi, j, h⟩, fun ⟨i, hi, j, h⟩ => ⟨j, i, hi, h⟩⟩

/-- Between anchors at both ends of the text, an expression is found just where it matches the whole. -/
theorem found_between_anchors_iff (r : Expr) (text : List Char) :
    (Expr.seq (.anchor .textStart) (.seq r (.anchor .textEnd))).found text = true ↔ r.Matches text := by
  rw [found_iff]
  simp only [Leads, Anchor.holds, Matches]
  constructor
  · rintro ⟨i, hi, j, k, ⟨hstart, rfl⟩, l, hr, hend, rfl⟩
    have hi0 : i = 0 := by
      by_contra hne
      have hlt : i - 1 < text.length := by omega
      simp [hne, hlt] at hstart
    subst hi0
    have hle := r.leads_le hr (Nat.zero_le _)
    have hge : text.length ≤ l := by simpa using hend
    obtain rfl : l = text.length := Nat.le_antisymm (by simpa using hle) hge
    exact hr
  · exact fun h => ⟨0, Nat.zero_le _, text.length, 0, by simp, text.length, h, by simp⟩

end Expr

end NameLint.Regex

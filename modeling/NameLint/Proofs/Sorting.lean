import Mathlib.Data.List.Forall2
import Mathlib.Data.List.Perm.Basic
import Mathlib.Data.List.Pairwise

/-!
# Orders with ties, and sorting by them

A list is sorted by which of two comes before the other. What ties stays as it was, so that a sorted list
depends only on the lists of what ties with each other.
-/

namespace NameLint

/-- A relation by which lists can be sorted: of two that are in order, any third comes after the first or before
the second. -/
structure Precedes {α : Type _} (before : α → α → Bool) : Prop where
  asymm : ∀ {a b}, before a b = true → before b a = false
  through : ∀ {a c}, before a c = true → ∀ b, before a b = true ∨ before b c = true

namespace Precedes

variable {α β : Type _} {before : α → α → Bool}

/-! ## Orders put together -/

theorem nat : Precedes fun a b : Nat => decide (a < b) where
  asymm h := by
    simp only [decide_eq_true_eq, decide_eq_false_iff_not] at h ⊢
    omega
  through h b := by
    simp only [decide_eq_true_eq] at h ⊢
    omega

theorem string : Precedes fun a b : String => decide (a < b) where
  asymm h := by
    simp only [decide_eq_true_eq, decide_eq_false_iff_not] at h ⊢
    exact String.lt_asymm h
  through {a c} h b := by
    simp only [decide_eq_true_eq] at h ⊢
    by_cases hab : a < b
    · exact .inl hab
    · refine .inr (String.not_le.mp fun hcb => String.not_le.mpr h ?_)
      exact String.le_trans hcb (String.not_lt.mp hab)

theorem comap (h : Precedes before) (key : β → α) : Precedes fun a b => before (key a) (key b) where
  asymm := h.asymm
  through hac b := h.through hac (key b)

/-- One order, and another one among what ties in the first. -/
theorem lex {same second : α → α → Bool} (h : Precedes before) (h₂ : Precedes second)
    (hsame : ∀ a b, same a b = true ↔ before a b = false ∧ before b a = false) :
    Precedes fun a b => before a b || (same a b && second a b) where
  asymm {a b} hab := by
    simp only [Bool.or_eq_true, Bool.and_eq_true, Bool.or_eq_false_iff, Bool.and_eq_false_iff] at hab ⊢
    rcases hab with hab | ⟨htie, hab⟩
    · refine ⟨h.asymm hab, .inl ?_⟩
      rw [Bool.eq_false_iff, ne_eq, hsame]
      simp [hab]
    · exact ⟨((hsame a b).mp htie).2, .inr (h₂.asymm hab)⟩
  through {a c} hac b := by
    simp only [Bool.or_eq_true, Bool.and_eq_true] at hac ⊢
    rcases hac with hac | ⟨htie, hac⟩
    · exact (h.through hac b).imp .inl .inl
    by_cases hab : before a b = true
    · exact .inl (.inl hab)
    by_cases hbc : before b c = true
    · exact .inr (.inl hbc)
    -- What is between two that tie ties with both.
    have hba : before b a ≠ true := fun hba => by
      rcases h.through hba c with hbc' | hca
      · exact hbc hbc'
      · simp [((hsame a c).mp htie).2] at hca
    have hcb : before c b ≠ true := fun hcb => by
      rcases h.through hcb a with hca | hab'
      · simp [((hsame a c).mp htie).2] at hca
      · exact hab hab'
    simp only [Bool.not_eq_true] at hab hbc hba hcb
    exact (h₂.through hac b).imp (fun hab' => .inr ⟨(hsame a b).mpr ⟨hab, hba⟩, hab'⟩)
      (fun hbc' => .inr ⟨(hsame b c).mpr ⟨hbc, hcb⟩, hbc'⟩)

/-! ## Sorting -/

/-- Whether neither of two comes before the other. -/
def Tied (before : α → α → Bool) (a b : α) : Bool := !before a b && !before b a

theorem tied_comm (a b : α) : Tied before a b = Tied before b a :=
  Bool.and_comm ..

/-- Of what does not tie there is one sorted list. -/
theorem eq_of_perm {xs ys zs : List α} (hxs : xs.Pairwise fun a b => before b a = false)
    (hys : ys.Pairwise fun a b => before b a = false) (hxz : xs.Perm zs) (hyz : ys.Perm zs)
    (hties : zs.Pairwise fun a b => Tied before a b = false) : xs = ys := by
  have hsymm : Std.Symm fun a b => Tied before a b = false := ⟨fun a b hab => by rwa [tied_comm]⟩
  refine (hxz.trans hyz.symm).eq_of_pairwise (fun a b ha hb hba hab => ?_) hxs hys
  by_contra hne
  have htied := hties.forall (hxz.mem_iff.mp ha) (hyz.mem_iff.mp hb) hne
  simp [Tied, hba, hab] at htied

/-- A list whose members are related to those of a sorted one is sorted, if the order does not tell apart what is
related. -/
theorem pairwise_of_forall₂ {R : α → α → Prop} (hR : ∀ {a b c d}, R a b → R c d → before a c = before b d)
    {xs ys : List α} (hsame : List.Forall₂ R xs ys) (hxs : xs.Pairwise fun a b => before b a = false) :
    ys.Pairwise fun a b => before b a = false := by
  obtain ⟨hlength, hget⟩ := List.forall₂_iff_get.mp hsame
  rw [List.pairwise_iff_getElem] at hxs ⊢
  intro i j hi hj hij
  have hbefore := hR (hget j (hlength ▸ hj) hj) (hget i (hlength ▸ hi) hi)
  exact hbefore.symm.trans (hxs i j _ _ hij)

variable (h : Precedes before)
include h

theorem trans (a b c : α) (hab : (!before b a) = true) (hbc : (!before c b) = true) :
    (!before c a) = true := by
  simp only [Bool.not_eq_true'] at hab hbc ⊢
  rw [Bool.eq_false_iff]
  intro hca
  rcases h.through hca b with hcb | hba
  · simp [hbc] at hcb
  · simp [hab] at hba

theorem total (a b : α) : (!before b a || !before a b) = true := by
  cases hba : before b a with
  | false => rfl
  | true => simp [h.asymm hba]

theorem tied_self (a : α) : Tied before a a = true := by
  have haa : before a a = false := by
    rw [Bool.eq_false_iff]
    intro haa
    simp [h.asymm haa] at haa
  simp [Tied, haa]

theorem pairwise_mergeSort (xs : List α) :
    (xs.mergeSort fun a b => !before b a).Pairwise fun a b => before b a = false := by
  simpa using List.pairwise_mergeSort h.trans h.total xs

/-- Sorting leaves what ties in its order. -/
theorem filter_tied_mergeSort (a : α) (xs : List α) :
    (xs.mergeSort fun b c => !before c b).filter (Tied before a) = xs.filter (Tied before a) := by
  have hsorted : (xs.filter (Tied before a)).Pairwise fun b c => (!before c b) = true := by
    refine List.pairwise_iff_forall_sublist.mpr fun {b c} hbc => ?_
    have hb : b ∈ xs.filter (Tied before a) := hbc.mem (by simp)
    have hc : c ∈ xs.filter (Tied before a) := hbc.mem (by simp)
    simp only [List.mem_filter, Tied, Bool.and_eq_true] at hb hc
    exact h.trans b a c hb.2.1 hc.2.2
  have hsub := (List.sublist_mergeSort h.trans h.total hsorted List.filter_sublist).filter (Tied before a)
  rw [List.filter_filter, List.filter_congr fun b _ => Bool.and_self _] at hsub
  exact (hsub.eq_of_length ((List.mergeSort_perm ..).filter _).length_eq.symm).symm

/-- Two sorted lists are the same if they are as far as what ties is concerned. -/
theorem eq_of_filter_tied {xs ys : List α} (hxs : xs.Pairwise fun a b => before b a = false)
    (hys : ys.Pairwise fun a b => before b a = false)
    (hties : ∀ a, xs.filter (Tied before a) = ys.filter (Tied before a)) : xs = ys := by
  have hmem : ∀ {xs ys : List α}, (∀ a, xs.filter (Tied before a) = ys.filter (Tied before a)) →
      ∀ a ∈ xs, a ∈ ys := fun hties a ha =>
    (List.mem_filter.mp (hties a ▸ List.mem_filter.mpr ⟨ha, h.tied_self a⟩)).1
  induction xs generalizing ys with
  | nil =>
      cases ys with
      | nil => rfl
      | cons y ys => cases hmem (fun a => (hties a).symm) y (List.mem_cons_self ..)
  | cons x xs ih =>
      cases ys with
      | nil => cases hmem hties x (List.mem_cons_self ..)
      | cons y ys =>
          have hxx := h.tied_self x
          have hyy := h.tied_self y
          simp only [Tied, Bool.and_eq_true, Bool.not_eq_true'] at hxx hyy
          have hyx : before y x = false := by
            rcases List.mem_cons.mp (hmem (fun a => (hties a).symm) y (List.mem_cons_self ..)) with rfl | hy
            · exact hxx.1
            · exact (List.pairwise_cons.mp hxs).1 y hy
          have hxy : before x y = false := by
            rcases List.mem_cons.mp (hmem hties x (List.mem_cons_self ..)) with rfl | hx
            · exact hxx.1
            · exact (List.pairwise_cons.mp hys).1 x hx
          have htie : Tied before x y = true := by simp [Tied, hxy, hyx]
          have hheads := hties x
          rw [List.filter_cons_of_pos (h.tied_self x), List.filter_cons_of_pos htie] at hheads
          obtain ⟨rfl, -⟩ := List.cons.inj hheads
          refine congrArg (x :: ·) (ih (List.pairwise_cons.mp hxs).2 (List.pairwise_cons.mp hys).2 fun a => ?_)
          have ha := hties a
          cases hax : Tied before a x with
          | true => simpa [List.filter_cons_of_pos hax] using ha
          | false => simpa [List.filter_cons_of_neg (Bool.eq_false_iff.mp hax)] using ha

/-- A sorted list depends only on the lists of what ties with each other. -/
theorem mergeSort_congr {xs ys : List α}
    (hties : ∀ a, xs.filter (Tied before a) = ys.filter (Tied before a)) :
    (xs.mergeSort fun a b => !before b a) = ys.mergeSort fun a b => !before b a :=
  h.eq_of_filter_tied (h.pairwise_mergeSort xs) (h.pairwise_mergeSort ys) fun a => by
    rw [h.filter_tied_mergeSort, h.filter_tied_mergeSort, hties]

theorem pairwise_before_mergeSort {xs : List α} (hties : xs.Pairwise fun a b => Tied before a b = false) :
    (xs.mergeSort fun a b => !before b a).Pairwise fun a b => before a b = true := by
  have huntied := ((List.mergeSort_perm xs fun a b => !before b a).pairwise_iff fun {a b} hab => by
    rwa [tied_comm]).mpr hties
  refine (h.pairwise_mergeSort xs).imp₂ (fun a b hba hab => ?_) huntied
  simpa [Tied, hba] using hab

theorem mergeSort_mergeSort (xs : List α) :
    ((xs.mergeSort fun a b => !before b a).mergeSort fun a b => !before b a) =
      xs.mergeSort fun a b => !before b a :=
  List.mergeSort_of_pairwise (List.pairwise_mergeSort h.trans h.total xs)

/-- Lists that are the same up to their order and to a relation that the order does not see are sorted alike. -/
theorem forall₂_mergeSort {R : α → α → Prop} (hR : ∀ {a b c d}, R a b → R c d → before a c = before b d)
    {xs ys zs : List α} (hperm : xs.Perm zs) (hsame : List.Forall₂ R zs ys)
    (hties : ys.Pairwise fun a b => Tied before a b = false) :
    List.Forall₂ R (xs.mergeSort fun a b => !before b a) (ys.mergeSort fun a b => !before b a) := by
  obtain ⟨ws, hws, hwsys⟩ := List.perm_comp_forall₂ ((List.mergeSort_perm xs _).trans hperm) hsame
  have hsorted := @pairwise_of_forall₂ α before R hR _ _ hws (h.pairwise_mergeSort xs)
  rwa [eq_of_perm hsorted (h.pairwise_mergeSort ys) hwsys (List.mergeSort_perm ys _) hties] at hws

end Precedes

end NameLint

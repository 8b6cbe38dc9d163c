import Mathlib.Data.List.Nodup
import NameLint.Proofs.FileTree.Path
import NameLint.Report.Basic

/-!
# The order of reports

Violations and failures are sorted by orders with ties. What is added to a report is sorted as if it had been
sorted before.
-/

namespace NameLint.Report

open NameLint.FileTree

/-! ## Filtering lists -/

/-- What passes a filter in some lists put together, if only lists with a certain key hold any of it. -/
theorem filter_flatMap_eq {α β : Type _} {f : α → List β} {p : β → Bool} {q : α → Bool} {as : List α}
    (h : ∀ a ∈ as, ∀ b ∈ f a, p b = true → q a = true) :
    (as.flatMap f).filter p = ((as.filter q).flatMap f).filter p := by
  induction as with
  | nil => rfl
  | cons a as ih =>
      obtain ⟨ha, has⟩ := List.forall_mem_cons.mp h
      rw [List.flatMap_cons, List.filter_append, ih has]
      cases hq : q a with
      | true => simp [List.filter_cons_of_pos hq]
      | false =>
          have hnone : (f a).filter p = [] := List.filter_eq_nil_iff.mpr fun b hb hpb => by
            simp [ha b hb hpb] at hq
          rw [hnone, List.filter_cons_of_neg (Bool.eq_false_iff.mp hq), List.nil_append]

/-- Of lists that differ in order only, what at most one passes is the same. -/
theorem filter_eq_of_perm {α : Type _} {q : α → Bool} {as bs : List α} (h : as.Perm bs)
    (hone : as.Pairwise fun a b => ¬ (q a = true ∧ q b = true)) : as.filter q = bs.filter q := by
  have hperm := h.filter q
  cases hfilter : as.filter q with
  | nil => exact (List.nil_perm.mp (hfilter ▸ hperm)).symm
  | cons a rest =>
      cases rest with
      | nil => exact (List.singleton_perm.mp (hfilter ▸ hperm))
      | cons b rest =>
          have hpair := hone.filter q
          rw [hfilter] at hpair
          have hab := (List.pairwise_cons.mp hpair).1 b (List.mem_cons_self ..)
          have hmem : ∀ c ∈ a :: b :: rest, q c = true := fun c hc => (List.mem_filter.mp (hfilter ▸ hc)).2
          exact absurd ⟨hmem a (by simp), hmem b (by simp)⟩ hab

/-- Of some lists put together, the list of one key, if each list holds what has its key. -/
theorem filter_flatMap_of_key {α β : Type _} [BEq α] [LawfulBEq α] {f : α → List β} {key : β → α} {as : List α}
    {a : α} (hnodup : as.Nodup) (ha : a ∈ as) (hkey : ∀ a, ∀ b ∈ f a, key b = a) :
    (as.flatMap f).filter (key · == a) = f a := by
  rw [filter_flatMap_eq (q := (· == a)) fun a' _ b hb hba => by rwa [hkey a' b hb] at hba, List.filter_beq,
    List.count_eq_one_of_mem hnodup ha]
  simpa using fun b hb => hkey a b hb

/-! ## Orders with ties -/

theorem Violation.precedes : Precedes Violation.isBefore :=
  (Path.precedes.comap Violation.file).lex
    ((Precedes.nat.comap fun v => v.place.line).lex
      ((Precedes.nat.comap fun v => v.place.column).lex (Precedes.string.comap Violation.identifier)
        fun v w => by simp only [beq_iff_eq, decide_eq_false_iff_not]; omega)
      fun v w => by simp only [beq_iff_eq, decide_eq_false_iff_not]; omega)
    fun v w => Path.isSame_iff v.file w.file

theorem Failure.precedes : Precedes Failure.isBefore :=
  Path.precedes.comap Failure.path

/-- Violations that tie are in the same file. -/
theorem Violation.isSame_of_tied {v w : Violation} (h : Precedes.Tied isBefore v w = true) :
    v.file.isSame w.file = true := by
  simp only [Precedes.Tied, isBefore, Bool.and_eq_true, Bool.not_eq_true', Bool.or_eq_false_iff] at h
  exact (Path.isSame_iff v.file w.file).mpr ⟨h.1.1, h.2.1⟩

theorem Failure.isSame_of_tied {f g : Failure} (h : Precedes.Tied isBefore f g = true) :
    f.path.isSame g.path = true := by
  simp only [Precedes.Tied, isBefore, Bool.and_eq_true, Bool.not_eq_true'] at h
  exact (Path.isSame_iff f.path g.path).mpr h

/-! ## Sorting reports -/

namespace ScanReport

variable {r s : ScanReport}

/-- A sorted report depends only on the lists of violations and of failures that tie with each other. -/
theorem sort_congr
    (violations : ∀ v, r.violations.filter (Precedes.Tied Violation.isBefore v) =
      s.violations.filter (Precedes.Tied Violation.isBefore v))
    (failures : ∀ f, r.failures.filter (Precedes.Tied Failure.isBefore f) =
      s.failures.filter (Precedes.Tied Failure.isBefore f))
    (filesChecked : r.filesChecked = s.filesChecked) : r.sort = s.sort := by
  simp only [sort, mk.injEq]
  exact ⟨Violation.precedes.mergeSort_congr violations, Failure.precedes.mergeSort_congr failures,
    filesChecked⟩

/-- Reports may be sorted before they are put together. -/
theorem sort_extend_sort (r s : ScanReport) : (r.sort.extend s.sort).sort = (r.extend s).sort := by
  refine sort_congr (fun v => ?_) (fun f => ?_) rfl
  · simp only [extend, sort, List.filter_append, Violation.precedes.filter_tied_mergeSort]
  · simp only [extend, sort, List.filter_append, Failure.precedes.filter_tied_mergeSort]

end ScanReport

end NameLint.Report

import Mathlib.Data.List.Induction
import NameLint.Ignore.Filter

/-!
# What is kept below what is left out

Whatever lies in a directory that is left out is left out with it, unless a rule keeps it or a directory on the
way to it.
-/

namespace NameLint.Ignore

open NameLint.FileTree

variable {rules : List Rule} {names rest : List String} {isDirectory keeps : Bool}

theorem exists_of_decision (h : decision? rules names isDirectory = some keeps) :
    ∃ rule ∈ rules, rule.keeps = keeps ∧ rule.fits names isDirectory = true := by
  obtain ⟨rule, hfind, hkeeps⟩ := Option.map_eq_some_iff.mp h
  have hfits := List.find?_some hfind
  exact ⟨rule, List.mem_reverse.mp (List.mem_of_find?_eq_some hfind), hkeeps, hfits⟩

/-- Names that are not left out have a rule that keeps them, if the directory they are in is left out. -/
theorem leavesOut_concat {name : String} (hkept : leavesOut rules (names ++ [name]) isDirectory = false) :
    (∃ rule ∈ rules, rule.keeps = true ∧ rule.fits (names ++ [name]) isDirectory = true) ∨
      leavesOut rules names true = false := by
  rw [leavesOut] at hkept
  split at hkept
  · rename_i keeps hdecision
    obtain ⟨rule, hmem, hkeeps, hfits⟩ := exists_of_decision hdecision
    exact .inl ⟨rule, hmem, by simpa [hkeeps] using hkept, hfits⟩
  · exact .inr (by simpa using hkept)

/-- What is kept below a directory that is left out is kept by a rule that fits it or a directory between the
two. -/
theorem exists_keeping_rule (hout : leavesOut rules names true = true)
    (hkept : leavesOut rules (names ++ rest) isDirectory = false) (hrest : rest ≠ []) :
    ∃ rule ∈ rules, rule.keeps = true ∧ ∃ more, more ≠ [] ∧ more <+: rest ∧
      rule.fits (names ++ more) (isDirectory || decide (more ≠ rest)) = true := by
  induction rest using List.reverseRecOn generalizing isDirectory with
  | nil => exact absurd rfl hrest
  | append_singleton rest name ih =>
      rw [← List.append_assoc] at hkept
      rcases leavesOut_concat hkept with ⟨rule, hmem, hkeeps, hfits⟩ | habove
      · refine ⟨rule, hmem, hkeeps, rest ++ [name], by simp, List.prefix_rfl, ?_⟩
        simpa using hfits
      have hmore : rest ≠ [] := by
        rintro rfl
        simp [hout] at habove
      obtain ⟨rule, hmem, hkeeps, more, hnonempty, hprefix, hfits⟩ := ih habove hmore
      have hne : more ≠ rest ++ [name] := by
        rintro rfl
        have hlength := hprefix.length_le
        rw [List.length_append, List.length_singleton] at hlength
        omega
      exact ⟨rule, hmem, hkeeps, more, hnonempty, hprefix.trans (List.prefix_append ..),
        by simpa [hne] using hfits⟩

namespace IgnoreFilter

variable {filter : IgnoreFilter} {d q : Location}

/-- What a filter keeps below a directory that it skips is kept by a rule that fits it or a directory between
the two. -/
theorem exists_keeping_rule (hout : filter.skipsPlace d true = true) (hbelow : d <+: q) (hne : d ≠ q)
    (hkept : filter.skipsPlace q false = false) :
    ∃ above rules, filter.rules? = some (above, rules) ∧ ∃ rule ∈ rules, rule.keeps = true ∧
      ∃ e, d <+: e ∧ d ≠ e ∧ e <+: q ∧ rule.fits (e.drop above.length) (decide (e ≠ q)) = true := by
  obtain ⟨rest, rfl⟩ := hbelow
  unfold skipsPlace at hout hkept
  cases hrules : filter.rules? with
  | none => simp [hrules] at hout
  | some found =>
      obtain ⟨above, rules⟩ := found
      simp only [hrules, Bool.and_eq_true, List.isPrefixOf_iff_prefix, bne_iff_ne] at hout hkept
      obtain ⟨⟨hunder, hlength⟩, hleft⟩ := hout
      have hlonger : above.length < d.length := by
        have := hunder.length_le
        omega
      have hinside : (above.isPrefixOf (d ++ rest) && (d ++ rest).length != above.length) = true := by
        simp only [Bool.and_eq_true, List.isPrefixOf_iff_prefix, bne_iff_ne, List.length_append]
        exact ⟨hunder.trans (List.prefix_append ..), by omega⟩
      rw [hinside, Bool.true_and, List.drop_append_of_le_length (Nat.le_of_lt hlonger)] at hkept
      have hrest : rest ≠ [] := by
        rintro rfl
        simp at hne
      obtain ⟨rule, hmem, hkeeps, more, hmore, hprefix', hfits⟩ :=
        Ignore.exists_keeping_rule hleft hkept hrest
      refine ⟨above, rules, rfl, rule, hmem, hkeeps, d ++ more, List.prefix_append .., ?_, ?_, ?_⟩
      · simpa using hmore
      · exact (List.prefix_append_right_inj d).mpr hprefix'
      · simpa [List.drop_append_of_le_length (Nat.le_of_lt hlonger)] using hfits

end IgnoreFilter

end NameLint.Ignore

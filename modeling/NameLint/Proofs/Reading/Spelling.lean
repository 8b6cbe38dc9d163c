import NameLint.Proofs.Reading.Site
import NameLint.Proofs.Source.Lines

/-!
# How a name that is found is spelled

A name that is found is spelled by the text itself, in the line and column where it is reported. Placeholders
for braces and reserved words are never reported.
-/

namespace NameLint.Declaration

open NameLint.Source

/-- A name that is found is a word of the text that is not reserved, with its place; and where the text is
divided at its line feeds, exactly the name stands in its line from its column on. -/
theorem found_standsAt (text : String) (limit : Nat) :
    ∀ o ∈ (extract text limit).found,
      (∃ t ∈ tokens text, t.kind = .word ∧ isKeyword t.text = false ∧ t.text = o.name ∧
        t.place = o.place) ∧
      StandsAt text.toList o.place o.name.toList := by
  intro o ho
  obtain ⟨i, ⟨n, hi, hname, htext, hplace⟩, -⟩ := foundAt_extract text limit o ho
  have hn : n ∈ tokens text := List.mem_of_getElem? hi
  simp only [Token.isName, Bool.and_eq_true, decide_eq_true_eq, Bool.not_eq_true'] at hname
  refine ⟨⟨n, hn, hname.1, hname.2, htext, hplace⟩, ?_⟩
  rw [← htext, ← hplace]
  exact standsAt_of_mem_tokens hn hname.1

theorem found_standsAt_after_comment :
    ⟨.global .function, "f", ⟨2, 8⟩⟩ ∈ (extract "/* x\n*/ int f(void);").found ∧
      StandsAt "/* x\n*/ int f(void);".toList ⟨2, 8⟩ "f".toList := by
  have hfound : ⟨.global .function, "f", ⟨2, 8⟩⟩ ∈ (extract "/* x\n*/ int f(void);").found := by
    decide +kernel
  exact ⟨hfound, (found_standsAt _ _ _ hfound).2⟩

end NameLint.Declaration

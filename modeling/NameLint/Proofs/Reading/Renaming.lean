import Mathlib.Logic.Equiv.Basic
import NameLint.Proofs.Reading.Relabel

/-!
# Other names

What is found hangs on the structure of declarations and not on how names are spelled: under other names the
same declarations are found, in the same contexts and places.
-/

namespace NameLint.Source

/-- The token under another name, if it is a word. -/
def Token.rename (f : String → String) (t : Token) : Token :=
  if t.kind = .word then { t with text := f t.text } else t

theorem Token.relabel_renaming (σ : Renaming) (t : Token) :
    t.relabel { names := σ } = t.rename σ.rename := by
  obtain ⟨kind, text, place⟩ := t
  cases kind <;> rfl

end NameLint.Source

namespace NameLint.Declaration

open NameLint.Source

/-- An occurrence under another name. -/
def Occurrence.rename (f : String → String) (o : Occurrence) : Occurrence := { o with name := f o.name }

theorem Extraction.relabel_renaming (σ : Renaming) (x : Extraction) :
    x.relabel { names := σ } = ⟨x.found.map (·.rename σ.rename), x.failed⟩ := by
  have hfailed : ExtractError.relabel { names := σ } = id := by
    funext e
    cases e <;> rfl
  simp only [relabel, hfailed, Option.map_id]
  rfl

/-- If names are replaced by others, different ones for different names, so that words with a meaning keep
theirs and export macros stay export macros, the same declarations are found under the new names, and reading
ends at the same error, if at one. -/
theorem extractFrom_rename {f : String → String} (injective : Function.Injective f)
    (fixes : ∀ word, isMeaningful word = true → f word = word)
    (exportMacro : ∀ word, isExportMacro (f word) = isExportMacro word) (limit : Nat) (ts : List Token) :
    extractFrom limit {} (ts.map (·.rename f)) =
      ⟨(extractFrom limit {} ts).found.map (·.rename f), (extractFrom limit {} ts).failed⟩ := by
  let σ : Renaming := ⟨f, injective, fixes, exportMacro⟩
  have htokens : ts.map (·.rename f) = ts.map (·.relabel { names := σ }) :=
    List.map_congr_left fun t _ => (Token.relabel_renaming σ t).symm
  rw [htokens, ← Extraction.relabel_renaming σ]
  exact Reading.extractFrom_relabel { names := σ } limit {} ts

/-- Two names for each other. -/
def exchanged : Equiv.Perm String := Equiv.swap "Widget" "size"

/-- The name of a record and the name of its constructor stay the same name. -/
theorem extractFrom_rename_constructor :
    Function.Injective exchanged ∧ (∀ word, isMeaningful word = true → exchanged word = word) ∧
      (∀ word, isExportMacro (exchanged word) = isExportMacro word) ∧
      extractFrom defaultDepthLimit {}
          ((tokens "struct Widget \x7b Widget(int n); int size; \x7d;").map (·.rename exchanged)) =
        ⟨[⟨.structType, "size", ⟨1, 8⟩⟩, ⟨.member .isPublic .variable, "Widget", ⟨1, 36⟩⟩], none⟩ := by
  have fixes : ∀ word, isMeaningful word = true → exchanged word = word := by
    intro word hword
    refine Equiv.swap_apply_of_ne_of_ne ?_ ?_ <;> rintro rfl <;> revert hword <;> decide
  have exportMacro : ∀ word, isExportMacro (exchanged word) = isExportMacro word := by
    intro word
    rw [exchanged, Equiv.swap_apply_def]
    split
    · subst word
      decide
    · split
      · subst word
        decide
      · rfl
  have hfound : extractFrom defaultDepthLimit {}
      (tokens "struct Widget \x7b Widget(int n); int size; \x7d;") =
        ⟨[⟨.structType, "Widget", ⟨1, 8⟩⟩, ⟨.member .isPublic .variable, "size", ⟨1, 36⟩⟩], none⟩ := by
    decide +kernel
  refine ⟨exchanged.injective, fixes, exportMacro, ?_⟩
  rw [extractFrom_rename exchanged.injective fixes exportMacro, hfound]
  simp [Occurrence.rename, exchanged]

end NameLint.Declaration

import NameLint.Proofs.Source.Relabel
import NameLint.Proofs.Statement.Alike

/-!
# What a statement does not hang on

Neither the places of tokens nor the texts of literals decide what a statement declares and what a brace
opens after it, and names only by which of them are the same: if tokens are moved, literals reworded and names
replaced, the new names are declared in the places of the old ones.
-/

namespace NameLint.Declaration

open NameLint.Source

variable (ρ : Relabelling)

/-- A relabelled token reads like before: the words that are read have a meaning of their own. -/
theorem readsAlike_relabel : ReadsAlike (·.relabel ρ) where
  kind t := Token.kind_relabel ρ t
  mark t h := by simp [Token.relabel, h]
  word t h text htext := by
    have hmeaningful : readWords.all isMeaningful = true := by decide
    rw [Token.text_relabel_of_word ρ h]
    exact ρ.names.rename_eq_iff (List.all_eq_true.mp hmeaningful text htext)
  keyword t h := by rw [Token.text_relabel_of_word ρ h, ρ.names.isKeyword_rename]
  exportMacro t h := by rw [Token.text_relabel_of_word ρ h, ρ.names.exportMacro]

/-- A site with a new name for its record. -/
def Site.relabel : Site → Site
  | .global => .global
  | .member access record => .member access (record.map ρ.names.rename)
  | .hidden => .hidden

/-- A declarator with its name relabelled. -/
def Declarator.relabel (d : Declarator) : Declarator := ⟨d.entity, d.name.relabel ρ⟩

/-- What a brace opens, with its name relabelled. -/
def Opening.relabel : Opening → Opening
  | .record kind name => .record kind (name.map (·.relabel ρ))
  | .enumeration name => .enumeration (name.map (·.relabel ρ))
  | .function name => .function (name.map (·.relabel ρ))
  | .namespaceBody => .namespaceBody
  | .initializer => .initializer
  | .block => .block

/-- Different names stay different, so that only a constructor is called like its record. -/
theorem keepsConstructors_relabel (site : Site) : KeepsConstructors (·.relabel ρ) site (site.relabel ρ) := by
  intro n h
  rcases site with _ | ⟨access, _ | record⟩ | _
  · rfl
  · rfl
  · simp only [Site.relabel, Option.map_some, isConstructor, Token.text_relabel_of_isName ρ h]
    rw [Bool.eq_iff_iff, beq_iff_eq, beq_iff_eq, ρ.names.injective.eq_iff]
  · rfl

theorem isWordOf_relabel {texts : List String} (h : texts.all isMeaningful = true) (t : Token) :
    isWordOf texts (t.relabel ρ) = isWordOf texts t := by
  by_cases hkind : t.kind = .word
  · rw [isWordOf, Token.text_relabel_of_word ρ hkind, ρ.names.contains_rename h]
    rfl
  · simp [isWordOf, hkind]

/-- A relabelled statement declares the relabelled names. -/
theorem classifyStatement_relabel (statement : List Token) (site : Site) :
    classifyStatement (statement.map (·.relabel ρ)) (site.relabel ρ) =
      (classifyStatement statement site).map (·.relabel ρ) :=
  (readsAlike_relabel ρ).classifyStatement_map (keepsConstructors_relabel ρ site) fun t _ =>
    isWordOf_relabel ρ (by decide) t

/-- A brace behind a relabelled statement opens the same under the relabelled name. -/
theorem classifyOpen_relabel (statement : List Token) (site : Site) :
    classifyOpen (statement.map (·.relabel ρ)) (site.relabel ρ) =
      (classifyOpen statement site).relabel ρ := by
  have hopening : ∀ opening : Opening, opening.map (·.relabel ρ) = opening.relabel ρ := by
    intro opening
    cases opening <;> rfl
  rw [← hopening]
  exact (readsAlike_relabel ρ).classifyOpen_map (keepsConstructors_relabel ρ site) fun t _ =>
    Token.isWord_relabel ρ (by decide) t

end NameLint.Declaration

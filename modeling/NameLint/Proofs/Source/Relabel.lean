import Mathlib.Logic.Function.Basic
import NameLint.Declaration.Classify

/-!
# Tokens moved, literals reworded and names replaced

A relabelling gives tokens new places, literals new texts and names new names. What tokens are, and how words
with a meaning of their own and marks read, stays as it is.
-/

namespace NameLint.Source

open NameLint.Declaration (isExportMacro)

/-- Words that are read for what they say: the reserved words, and a few that have a meaning in some places. -/
def isMeaningful (word : String) : Bool :=
  isKeyword word || ["final", "import", "module", "__asm__", "__attribute__", "__declspec"].contains word

/-- New names, different ones for different names. Words with a meaning keep their texts, and export macros
stay export macros. -/
structure Renaming where
  rename : String → String
  injective : Function.Injective rename
  fixes : ∀ word, isMeaningful word = true → rename word = word
  exportMacro : ∀ word, isExportMacro (rename word) = isExportMacro word

namespace Renaming

/-- The renaming that leaves all names. -/
def unchanged : Renaming := ⟨id, Function.injective_id, fun _ _ => rfl, fun _ => rfl⟩

variable (σ : Renaming)

theorem rename_eq_iff {text word : String} (h : isMeaningful text = true) :
    σ.rename word = text ↔ word = text := by
  rw [← σ.fixes text h, σ.injective.eq_iff, σ.fixes text h]

theorem contains_rename {texts : List String} (h : texts.all isMeaningful = true) (word : String) :
    texts.contains (σ.rename word) = texts.contains word := by
  rw [List.all_eq_true] at h
  rw [Bool.eq_iff_iff, List.contains_iff_mem, List.contains_iff_mem]
  constructor
  · intro hmem
    rwa [(σ.rename_eq_iff (h _ hmem)).mp rfl]
  · intro hmem
    rwa [σ.fixes word (h word hmem)]

theorem isKeyword_rename (word : String) : isKeyword (σ.rename word) = isKeyword word :=
  σ.contains_rename (List.all_eq_true.mpr fun text htext => by
    simp [isMeaningful, isKeyword, htext]) word

end Renaming

/-- New places for tokens, new texts for literals and new names. -/
structure Relabelling where
  move : Position → Position := id
  reword : String → String := id
  names : Renaming := .unchanged

/-- The token at its new place, with its new text if it is a literal or a word. -/
def Token.relabel (ρ : Relabelling) (t : Token) : Token where
  kind := t.kind
  text := match t.kind with
    | .word => ρ.names.rename t.text
    | .literal => ρ.reword t.text
    | .mark | .group | .body => t.text
  place := ρ.move t.place

namespace Token

variable (ρ : Relabelling)

@[simp] theorem kind_relabel (t : Token) : (t.relabel ρ).kind = t.kind := rfl

@[simp] theorem place_relabel (t : Token) : (t.relabel ρ).place = ρ.move t.place := rfl

theorem text_relabel_of_word {t : Token} (h : t.kind = .word) :
    (t.relabel ρ).text = ρ.names.rename t.text := by
  simp [relabel, h]

@[simp] theorem isMark_relabel (t : Token) (text : String) :
    (t.relabel ρ).isMark text = t.isMark text := by
  by_cases h : t.kind = .mark <;> simp [isMark, relabel, h]

theorem isWord_relabel {text : String} (h : isMeaningful text = true) (t : Token) :
    (t.relabel ρ).isWord text = t.isWord text := by
  by_cases hkind : t.kind = .word
  · have hsame : (ρ.names.rename t.text == text) = (t.text == text) := by
      rw [Bool.eq_iff_iff, beq_iff_eq, beq_iff_eq, ρ.names.rename_eq_iff h]
    simp [isWord, hkind, text_relabel_of_word ρ hkind, hsame]
  · simp [isWord, hkind]

@[simp] theorem isName_relabel (t : Token) : (t.relabel ρ).isName = t.isName := by
  by_cases h : t.kind = .word
  · simp [isName, h, text_relabel_of_word ρ h, ρ.names.isKeyword_rename]
  · simp [isName, h]

@[simp] theorem opensBrace_relabel (t : Token) : (t.relabel ρ).opensBrace = t.opensBrace :=
  isMark_relabel ρ t _

@[simp] theorem closesBrace_relabel (t : Token) : (t.relabel ρ).closesBrace = t.closesBrace :=
  isMark_relabel ρ t _

theorem text_relabel_of_isName {t : Token} (h : t.isName = true) :
    (t.relabel ρ).text = ρ.names.rename t.text :=
  text_relabel_of_word ρ (kind_of_isName h)

end Token

end NameLint.Source

import NameLint.Proofs.Naming.FullMatch
import NameLint.Proofs.Regex.Plain

/-!
# Patterns without marks

A text of letters, digits and underscores that names no style, such as a misspelled style, is a pattern that fits one
name, the text. Only the size of an expression bounds how long the text may be.
-/

namespace NameLint.Naming

open NameLint.Regex

theorem Style.ofName?_eq_none_iff {text : String} : Style.ofName? text = none ↔ ∀ style : Style, style.name ≠ text := by
  rw [ofName?, List.find?_eq_none]
  simp only [beq_iff_eq]
  exact forall_congr' fun style => forall_prop_of_true (Style.mem_all style)

namespace Pattern

variable {text : String}

/-- The expression of a plain text as a pattern. -/
def literalExpr (text : String) : Expr :=
  .seq (.anchor .textStart) (.seq (.literal text.toList) (.anchor .textEnd))

/-- The longest text that surely stays within the limit on size. A character takes a state of 32 bytes, as do the
two anchors and four states around the whole expression. -/
def literalLimit : Nat :=
  weightLimit / 32 - 6

example : literalLimit = 327674 := rfl

theorem weight_literalExpr (h : ∀ c ∈ text.toList, isPlain c = true) :
    (literalExpr text).weight = 32 * (text.length + 2) := by
  have hweight := Expr.weight_literal h
  rw [String.length_toList] at hweight
  simp only [literalExpr, Expr.weight, hweight]
  omega

theorem fits_literalExpr_iff (text name : String) :
    (Pattern.custom text (literalExpr text)).fits name = true ↔ name = text := by
  rw [fits, literalExpr, Expr.found_between_anchors_iff, Expr.matches_literal_iff, String.toList_inj]

/-- A plain text is refused as a pattern only for its length. -/
theorem custom?_plain (h : ∀ c ∈ text.toList, isPlain c = true) :
    custom? text = if 32 * (text.length + 2) ≤ weightLimit then some (.custom text (literalExpr text)) else none := by
  obtain ⟨hexpr, hdepth⟩ := ParseState.groupTerm_addLiteral text.toList
  obtain ⟨t, ht, hanchored, hnest⟩ :=
    parseFrom?_anchor_end (show (ParseState.initial.addLiteral text.toList).frames = [] from rfl)
  have hparse : parseFrom? .initial (anchored text.toList) = some t := by
    rw [parseFrom?_anchored, parseFrom?_plain_append h rfl]
    exact ht
  have hdeep : t.depth ≤ nestLimit := by
    have hlimit : 3 ≤ nestLimit := by decide
    omega
  have hliteral : t.expr = literalExpr text := by rw [hanchored, hexpr, literalExpr]
  simp only [custom?, Expr.parse?, hparse, hliteral, weight_literalExpr h, hdeep, true_and]
  split <;> rfl

theorem ofText?_eq_custom? (h : ∀ style : Style, style.name ≠ text) : ofText? text = custom? text := by
  rw [ofText?, Style.ofName?_eq_none_iff.mpr h]

end Pattern

end NameLint.Naming

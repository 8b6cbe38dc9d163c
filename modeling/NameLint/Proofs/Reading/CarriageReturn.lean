import Mathlib.Data.List.Infix
import NameLint.Proofs.Reading.Relabel
import NameLint.Proofs.Source.CrlfTokens

/-!
# What carriage returns change

With a carriage return before each line feed the same is extracted from a text, unless a literal in quotes
takes a line end: with carriage returns it ends with its line instead.
-/

namespace NameLint.Declaration

open NameLint.Source

theorem Extraction.relabel_eq_self {ρ : Relabelling} (h : ρ.move = id) (hnames : ρ.names.rename = id)
    (x : Extraction) : x.relabel ρ = x := by
  have hfound : Occurrence.relabel ρ = id := by
    funext o
    simp [Occurrence.relabel, h, hnames]
  have hfailed : ExtractError.relabel ρ = id := by
    funext e
    cases e <;> simp [ExtractError.relabel, h]
  simp [relabel, hfound, hfailed]

namespace Reading

/-- The texts of literals do not influence what is extracted. -/
theorem extractFrom_eq_of_literalsErased {ts us : List Token} (limit : Nat)
    (h : ts.map (·.relabel literalsErased) = us.map (·.relabel literalsErased)) :
    extractFrom limit {} ts = extractFrom limit {} us := by
  have herased : ∀ ts, extractFrom limit {} (ts.map (·.relabel literalsErased)) =
      extractFrom limit {} ts := fun ts =>
    (extractFrom_relabel literalsErased limit {} ts).trans
      (Extraction.relabel_eq_self rfl rfl _)
  rw [← herased ts, ← herased us, h]

end Reading

theorem extract_withCarriageReturns_eq {text : String} (h : '\r' ∉ text.toList) (limit : Nat) :
    extract (withCarriageReturns text) limit = extractFrom limit {} (inLineTokens text) := by
  refine Reading.extractFrom_eq_of_literalsErased limit ?_
  simp only [tokens, inLineTokens, withCarriageReturns, String.toList_ofList]
  exact tokensFrom_crlf true .start h

/-- Carriage returns before the line feeds of a text change nothing exactly when the text reads the same
with literals in quotes ended with their line; so they change nothing if nothing stands at the end of a line
that could take the line end into a literal. -/
theorem extract_withCarriageReturns_iff (text : String) (limit : Nat) (h : '\r' ∉ text.toList) :
    (extract (withCarriageReturns text) limit = extract text limit ↔
      extractFrom limit {} (inLineTokens text) = extract text limit) ∧
    (LinesUnspliced text.toList → extract (withCarriageReturns text) limit = extract text limit) := by
  refine ⟨by rw [extract_withCarriageReturns_eq h], fun hlines => ?_⟩
  rw [extract_withCarriageReturns_eq h, inLineTokens, inLineTokensFrom_of_unspliced _ _ hlines]
  rfl

theorem extract_withCarriageReturns_iff_two_lines :
    '\r' ∉ "int x;\nint y;".toList ∧
      extract (withCarriageReturns "int x;\nint y;") = extract "int x;\nint y;" := by
  have hno : '\r' ∉ "int x;\nint y;".toList := by decide
  exact ⟨hno, (extract_withCarriageReturns_iff "int x;\nint y;" defaultDepthLimit hno).2
    ⟨by decide, by decide⟩⟩

/-- A string that a backslash takes to the next line ends at the backslash with carriage returns, and then
the brace in it has no opening one. -/
theorem extract_withCarriageReturns_ne_continued_string :
    '\r' ∉ "const char *s = \"a\\\n\x7d\";\nint y;\n".toList ∧
      (extract (withCarriageReturns "const char *s = \"a\\\n\x7d\";\nint y;\n")).failed =
        some (.unbalancedBrace ⟨2, 1⟩) ∧
      (extract "const char *s = \"a\\\n\x7d\";\nint y;\n").failed = none := by
  have hcrlf : withCarriageReturns "const char *s = \"a\\\n\x7d\";\nint y;\n" =
      "const char *s = \"a\\\r\n\x7d\";\r\nint y;\r\n" := rfl
  rw [hcrlf]
  decide +kernel

end NameLint.Declaration

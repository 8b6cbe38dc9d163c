import NameLint.Proofs.Naming.FullMatch
import NameLint.Proofs.Regex.Anchorless
import NameLint.Proofs.Source.Pieces

/-!
# The grammars of the styles

Each style has a grammar, a regular language of names, and is tested by hand and not by an expression. The test
accepts just the names in the grammar, and so does the pattern that spells the grammar.
-/

namespace NameLint.Naming

open NameLint.Regex
open scoped Computability

/-! ## Grammars -/

namespace Style

/-- The names that are spelled in a style. -/
def grammar : Style → Language Char
  | .camel => between 'a' 'z' * (between 'A' 'Z' + between 'a' 'z' + between '0' '9')∗
  | .pascal => between 'A' 'Z' * (between 'A' 'Z' + between 'a' 'z' + between '0' '9')∗
  | .snake => between 'a' 'z' * (letter '_' + (between 'a' 'z' + between '0' '9'))∗
  | .screamingSnake => between 'A' 'Z' * (letter '_' + (between 'A' 'Z' + between '0' '9'))∗
  | .kebab => between 'a' 'z' * (letter '-' + (between 'a' 'z' + between '0' '9'))∗
  | .train => between 'A' 'Z' * (letter '-' * between 'A' 'Z' + (between 'a' 'z' + between '0' '9'))∗
  | .flat => (between 'a' 'z' + between '0' '9')∗

/-- The expression that spells the grammar of a style. -/
def grammarText : Style → String
  | .camel => "[a-z][A-Za-z0-9]*"
  | .pascal => "[A-Z][A-Za-z0-9]*"
  | .snake => "[a-z](_|[a-z0-9])*"
  | .screamingSnake => "[A-Z](_|[A-Z0-9])*"
  | .kebab => "[a-z](-|[a-z0-9])*"
  | .train => "[A-Z](-[A-Z]|[a-z0-9])*"
  | .flat => "[a-z0-9]*"

end Style

/-! ## Names by their characters -/

theorem between_lower : between 'a' 'z' = oneOf (Char.isLower · = true) :=
  oneOf_congr fun _ => Source.isLower_iff_toNat.symm

theorem between_upper : between 'A' 'Z' = oneOf (Char.isUpper · = true) :=
  oneOf_congr fun _ => Source.isUpper_iff_toNat.symm

theorem between_digit : between '0' '9' = oneOf (Char.isDigit · = true) :=
  oneOf_congr fun _ => Source.isDigit_iff_toNat.symm

namespace Style

/-- What stands behind the first letter of a name in train case. -/
def trainTail : Language Char :=
  (letter '-' * between 'A' 'Z' + (between 'a' 'z' + between '0' '9'))∗

/-- A hyphen and the capital behind it are one step, any other character is one by itself. -/
theorem mem_trainTail_iff {cs : List Char} : cs ∈ trainTail ↔ cs = [] ∨
    (∃ c rest, cs = '-' :: c :: rest ∧ c.isUpper = true ∧ rest ∈ trainTail) ∨
    ∃ c rest, cs = c :: rest ∧ isLowerOrDigit c = true ∧ rest ∈ trainTail := by
  unfold trainTail
  conv_lhs => rw [mem_kstar_iff, add_mul, mul_assoc, Language.mem_add]
  rw [between_lower, between_upper, between_digit, oneOf_add, letter, mem_oneOf_mul, mem_oneOf_mul]
  simp only [mem_oneOf_mul, isLowerOrDigit, Bool.or_eq_true]
  refine or_congr_right (or_congr_left ?_)
  constructor
  · rintro ⟨-, -, rfl, rfl, c, rest, rfl, hc, hrest⟩
    exact ⟨c, rest, rfl, hc, hrest⟩
  · rintro ⟨c, rest, rfl, hc, hrest⟩
    exact ⟨_, _, rfl, rfl, c, rest, rfl, hc, hrest⟩

theorem acceptsTrainTail_iff (cs : List Char) : acceptsTrainTail cs = true ↔ cs ∈ trainTail := by
  fun_induction acceptsTrainTail cs with
  | case1 => exact iff_of_true rfl (mem_trainTail_iff.mpr (.inl rfl))
  | case2 c rest ih =>
      have hhyphen : isLowerOrDigit '-' = false := by decide
      rw [mem_trainTail_iff, Bool.and_eq_true, ih]
      simp [hhyphen]
  | case3 c rest hhyphen ih =>
      rw [mem_trainTail_iff, Bool.and_eq_true, ih]
      constructor
      · exact fun ⟨hc, hrest⟩ => .inr (.inr ⟨c, rest, rfl, hc, hrest⟩)
      · rintro (hnil | ⟨d, rest', hcs, -⟩ | ⟨d, rest', hcs, hc, hrest⟩)
        · cases hnil
        · obtain ⟨rfl, rfl⟩ := List.cons.inj hcs
          exact (hhyphen d rest' rfl rfl).elim
        · obtain ⟨rfl, rfl⟩ := List.cons.inj hcs
          exact ⟨hc, hrest⟩

/-- A style that fixes the case of the first letter looks at that letter and then at the rest. -/
theorem accepts_iff_of_leading {style : Style} {leads : Char → Bool} {cs : List Char}
    (h : style.leading? = some leads) :
    style.accepts cs = true ↔ ∃ c rest, cs = c :: rest ∧ leads c = true ∧ style.acceptsTail rest = true := by
  unfold accepts
  rw [h]
  cases cs <;> simp

/-- The test of a style accepts the names in its grammar. -/
theorem accepts_iff_mem_grammar (style : Style) (cs : List Char) :
    style.accepts cs = true ↔ cs ∈ style.grammar := by
  cases style with
  | flat =>
      simp only [grammar, between_lower, between_digit, oneOf_add, mem_kstar_oneOf]
      simp [accepts, leading?, acceptsTail, isLowerOrDigit]
  | train =>
      have hgrammar : grammar .train = between 'A' 'Z' * trainTail := rfl
      rw [accepts_iff_of_leading rfl, hgrammar, between_upper, mem_oneOf_mul]
      simp only [acceptsTail, acceptsTrainTail_iff]
  | camel | pascal =>
      rw [accepts_iff_of_leading rfl]
      simp only [grammar, between_lower, between_upper, between_digit, oneOf_add, mem_oneOf_mul,
        mem_kstar_oneOf, acceptsTail, List.all_eq_true, Source.isAlphanum_iff, Source.isAlpha_iff]
  | snake | screamingSnake | kebab =>
      rw [accepts_iff_of_leading rfl]
      simp only [grammar, between_lower, between_upper, between_digit, letter, oneOf_add, mem_oneOf_mul,
        mem_kstar_oneOf, acceptsTail, List.all_eq_true, isLowerOrDigit, isUpperOrDigit, Bool.or_eq_true,
        beq_iff_eq]

/-! ## The pattern of a grammar -/

/-- The expression that the text of a grammar spells. -/
def grammarExpr : Style → Expr
  | .camel => .seq (.chars (.range 'a' 'z')) (.repeated (.chars
      (.union (.range 'A' 'Z') (.union (.range 'a' 'z') (.range '0' '9')))) 0 none)
  | .pascal => .seq (.chars (.range 'A' 'Z')) (.repeated (.chars
      (.union (.range 'A' 'Z') (.union (.range 'a' 'z') (.range '0' '9')))) 0 none)
  | .snake => .seq (.chars (.range 'a' 'z')) (.repeated (.alt (.chars (.single '_'))
      (.chars (.union (.range 'a' 'z') (.range '0' '9')))) 0 none)
  | .screamingSnake => .seq (.chars (.range 'A' 'Z')) (.repeated (.alt (.chars (.single '_'))
      (.chars (.union (.range 'A' 'Z') (.range '0' '9')))) 0 none)
  | .kebab => .seq (.chars (.range 'a' 'z')) (.repeated (.alt (.chars (.single '-'))
      (.chars (.union (.range 'a' 'z') (.range '0' '9')))) 0 none)
  | .train => .seq (.chars (.range 'A' 'Z')) (.repeated (.alt
      (.seq (.chars (.single '-')) (.chars (.range 'A' 'Z')))
      (.chars (.union (.range 'a' 'z') (.range '0' '9')))) 0 none)
  | .flat => .repeated (.chars (.union (.range 'a' 'z') (.range '0' '9'))) 0 none

theorem custom?_grammarText (style : Style) : Pattern.custom? style.grammarText = some
    (.custom style.grammarText
      (.seq (.anchor .textStart) (.seq style.grammarExpr (.anchor .textEnd)))) := by
  cases style <;> cbv

theorem language_grammarExpr (style : Style) : style.grammarExpr.language = style.grammar := by
  cases style <;>
    simp only [grammarExpr, grammar, Expr.language_seq, Expr.language_alt, Expr.language_repeated_zero_none,
      Expr.language_range, Expr.language_single, Expr.language_union, add_assoc]

theorem isAnchorless_grammarExpr (style : Style) : style.grammarExpr.IsAnchorless := by
  cases style <;> simp [grammarExpr, Expr.IsAnchorless]

/-- A style fits the names in its grammar, and the text of the grammar is a pattern that fits the same. -/
theorem fits_iff_grammar (style : Style) :
    (∀ name, style.fits name = true ↔ name.toList ∈ style.grammar) ∧
      ∃ pattern, Pattern.custom? style.grammarText = some pattern ∧
        ∀ name, pattern.fits name = style.fits name := by
  refine ⟨fun name => style.accepts_iff_mem_grammar name.toList, _, custom?_grammarText style, fun name => ?_⟩
  rw [Bool.eq_iff_iff, Pattern.fits, Expr.found_between_anchors_iff,
    Expr.matches_iff style.isAnchorless_grammarExpr, language_grammarExpr]
  exact (style.accepts_iff_mem_grammar name.toList).symm

end Style

end NameLint.Naming

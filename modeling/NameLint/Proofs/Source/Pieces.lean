import NameLint.Proofs.Source.Relabel
import NameLint.Proofs.Source.ToEnd

/-!
# Texts put together

The tokens of a text that begins with a blank, a word or a mark, by the tokens of what follows; and the
tokens of a text that begins one line further down.
-/

namespace NameLint.Source

open NameLint.Unicode

variable {lineStart : Bool} {place : Position} {c : Char} {rest : List Char}

/-! ## One piece in front of a text -/

theorem tokensFrom_blank (h : isBlank c = true) :
    tokensFrom lineStart place (c :: rest) =
      tokensFrom (lineStart || c = '\n') (place.advance c) rest := by
  have htrivia : splitTrivia (.between lineStart) (c :: rest) =
      (c :: (splitTrivia (.between (lineStart || c = '\n')) rest).1,
        (splitTrivia (.between (lineStart || c = '\n')) rest).2) := by
    rw [splitTrivia]
    simp [TriviaMode.step?, h]
  cases hleft : (splitTrivia (.between (lineStart || c = '\n')) rest).2 with
  | nil => rw [tokensFrom_eq_nil hleft, tokensFrom_eq_nil (by rw [htrivia]; exact hleft)]
  | cons d tail =>
      rw [tokensFrom_eq_cons hleft, tokensFrom_eq_cons (by rw [htrivia]; exact hleft), htrivia]
      rfl

/-- A text begins with a token if it does not go on as text between tokens. -/
theorem tokensFrom_of_step?_eq_none (h : (TriviaMode.between lineStart).step? c rest = none) :
    tokensFrom lineStart place (c :: rest) =
      ⟨(splitToken c rest).1, String.ofList (splitToken c rest).2.1, place⟩ ::
        tokensFrom ((splitToken c rest).2.1.contains '\n') (place.after (splitToken c rest).2.1)
          (splitToken c rest).2.2 := by
  have htrivia : splitTrivia (.between lineStart) (c :: rest) = ([], c :: rest) := by
    rw [splitTrivia, h]
  rw [tokensFrom_eq_cons (by rw [htrivia]), htrivia]
  rfl

/-- A text that begins with a character that is neither blank nor begins a comment or a directive begins
with a token. -/
theorem tokensFrom_token (hblank : isBlank c = false) (hslash : c ≠ '/') (hhash : c ≠ '#') :
    tokensFrom lineStart place (c :: rest) =
      ⟨(splitToken c rest).1, String.ofList (splitToken c rest).2.1, place⟩ ::
        tokensFrom ((splitToken c rest).2.1.contains '\n') (place.after (splitToken c rest).2.1)
          (splitToken c rest).2.2 :=
  tokensFrom_of_step?_eq_none (TriviaMode.step?_between_eq_none_iff.mpr (by simp [hblank, hslash, hhash]))

theorem tokensFrom_mark (h : c ∈ [';', '\x7b', '\x7d']) :
    tokensFrom lineStart place (c :: rest) =
      ⟨.mark, String.ofList [c], place⟩ :: tokensFrom false (place.advance c) rest := by
  have hplain : isBlank c = false ∧ c ≠ '/' ∧ c ≠ '#' ∧ [c].contains '\n' = false := by
    simp only [List.mem_cons, List.not_mem_nil, or_false] at h
    rcases h with rfl | rfl | rfl <;> decide
  rw [tokensFrom_token hplain.1 hplain.2.1 hplain.2.2.1, splitToken_of_mem h, hplain.2.2.2]
  rfl

theorem tokensFrom_colons :
    tokensFrom lineStart place (':' :: ':' :: rest) =
      ⟨.mark, "::", place⟩ :: tokensFrom false (place.after [':', ':']) rest := by
  have hsplit : splitToken ':' (':' :: rest) = (.mark, [':', ':'], rest) := by
    rw [splitToken, if_neg (by decide), if_neg (by simp), if_neg (by decide)]
    rfl
  rw [tokensFrom_token (by decide) (by decide) (by decide), hsplit]
  rfl

/-! ## Identifiers -/

/-- A text without blanks that makes one word, in front of whatever does not continue it. -/
structure Identifier where
  text : String
  begins : text.toList.head?.any isIdentStart = true
  continues : text.toList.all isIdentContinue = true
  unbroken : text.toList.all (!isBlank ·) = true

/-- A word ends where its text does if what follows neither continues it nor makes a literal with it. -/
theorem tokensFrom_identifier_append (name : Identifier)
    (hrest : ∀ c ∈ rest.head?, isIdentContinue c = false ∧ isQuote c = false) :
    tokensFrom lineStart place (name.text.toList ++ rest) =
      ⟨.word, name.text, place⟩ :: tokensFrom false (place.after name.text.toList) rest := by
  obtain ⟨text, begins, continues, unbroken⟩ := name
  rw [List.all_eq_true] at continues unbroken
  have hword := splitWord_of_continues continues hrest
  have hfeed : text.toList.contains '\n' = false := by
    rw [Bool.eq_false_iff, ne_eq, List.contains_iff_mem]
    exact fun hmem => absurd (unbroken _ hmem) (by decide)
  cases hchars : text.toList with
  | nil => simp [hchars] at begins
  | cons d tail =>
      have hd : isIdentStart d = true := by simpa [hchars] using begins
      have hsplit : splitToken d (tail ++ rest) = (.word, d :: tail, rest) := by
        rw [splitToken, if_pos hd, ← List.cons_append, ← hchars, hword]
      have hne : ∀ e, isIdentStart e = false → d ≠ e := fun e he hde => by simp [← hde, hd] at he
      rw [List.cons_append, tokensFrom_token (by simpa using unbroken d (by simp [hchars]))
        (hne '/' (by decide)) (hne '#' (by decide)), hsplit, ← hchars, hfeed, String.ofList_toList]

theorem tokensFrom_identifier (name : Identifier) (hnext : isIdentContinue c = false)
    (hquote : isQuote c = false) :
    tokensFrom lineStart place (name.text.toList ++ c :: rest) =
      ⟨.word, name.text, place⟩ :: tokensFrom false (place.after name.text.toList) (c :: rest) :=
  tokensFrom_identifier_append name (by simp [hnext, hquote])

theorem Identifier.lineFeed_not_mem (name : Identifier) : '\n' ∉ name.text.toList := fun hmem =>
  absurd (List.all_eq_true.mp name.unbroken _ hmem) (by decide)

/-! ## Letters and digits -/

theorem isUpper_iff_toNat : c.isUpper = true ↔ 65 ≤ c.toNat ∧ c.toNat ≤ 90 := by
  change decide _ = true ↔ _
  rw [decide_eq_true_eq]
  exact Iff.rfl

theorem isLower_iff_toNat : c.isLower = true ↔ 97 ≤ c.toNat ∧ c.toNat ≤ 122 := by
  change (decide _ && decide _) = true ↔ _
  rw [Bool.and_eq_true, decide_eq_true_eq, decide_eq_true_eq]
  exact Iff.rfl

theorem isDigit_iff_toNat : c.isDigit = true ↔ 48 ≤ c.toNat ∧ c.toNat ≤ 57 := Char.isDigit_iff_toNat

theorem isAlpha_iff : c.isAlpha = true ↔ c.isUpper = true ∨ c.isLower = true := Bool.or_eq_true_iff

theorem isAlphanum_iff : c.isAlphanum = true ↔ c.isAlpha = true ∨ c.isDigit = true := Bool.or_eq_true_iff

theorem toNat_of_isAlphanum (h : c.isAlphanum = true) :
    48 ≤ c.toNat ∧ c.toNat ≤ 57 ∨ 65 ≤ c.toNat ∧ c.toNat ≤ 90 ∨ 97 ≤ c.toNat ∧ c.toNat ≤ 122 := by
  rw [isAlphanum_iff, isAlpha_iff, isUpper_iff_toNat, isLower_iff_toNat, isDigit_iff_toNat] at h
  omega

theorem isAscii_of_isAlphanum (h : c.isAlphanum = true) : isAscii c = true := by
  have hrange := toNat_of_isAlphanum h
  simp only [isAscii, decide_eq_true_eq]
  omega

theorem isBlank_of_isAlphanum (h : c.isAlphanum = true) : isBlank c = false := by
  have hrange := toNat_of_isAlphanum h
  rw [Bool.eq_false_iff]
  simp only [isBlank, ne_eq, Bool.or_eq_true, Bool.and_eq_true, decide_eq_true_eq, beq_iff_eq]
  omega

theorem isIdentContinue_of_isAlphanum (h : c.isAlphanum = true) : isIdentContinue c = true := by
  have hascii := isAscii_of_isAlphanum h
  rw [isAlphanum_iff] at h
  simp [isIdentContinue, isAlphanumeric, isAlphabetic, isNumeric, hascii, h]

theorem isIdentStart_of_isAlphanum (h : c.isAlphanum = true) : isIdentStart c = c.isAlpha := by
  have hne : c ≠ '_' ∧ c ≠ '$' := by
    constructor <;> rintro rfl <;> cases h
  simp [isIdentStart, isAlphabetic, isAscii_of_isAlphanum h, hne]

theorem isIdentStart_of_isDigit (h : c.isDigit = true) : isIdentStart c = false := by
  rw [isIdentStart_of_isAlphanum (isAlphanum_iff.mpr (.inr h)), Bool.eq_false_iff, ne_eq, isAlpha_iff,
    isUpper_iff_toNat, isLower_iff_toNat]
  rw [isDigit_iff_toNat] at h
  omega

/-- Letters and digits behind a digit belong to the number. -/
theorem splitNumber_of_isAlphanum (previous : Char) (h : rest.all Char.isAlphanum = true) :
    splitNumber previous rest = (rest, []) := by
  induction rest generalizing previous with
  | nil => rfl
  | cons c rest ih =>
      simp only [List.all_cons, Bool.and_eq_true] at h
      rw [splitNumber, if_pos (by simp [h.1]), ih c h.2]

theorem tokensFrom_number (hdigit : c.isDigit = true) (h : rest.all Char.isAlphanum = true) :
    tokensFrom lineStart place (c :: rest) = [⟨.literal, String.ofList (c :: rest), place⟩] := by
  have hc : c.isAlphanum = true := isAlphanum_iff.mpr (.inr hdigit)
  have hne : c ≠ '/' ∧ c ≠ '#' := by
    constructor <;> rintro rfl <;> cases hdigit
  have hsplit : splitToken c rest = (.literal, c :: rest, []) := by
    rw [splitToken, if_neg (by simp [isIdentStart_of_isDigit hdigit]), if_pos (by simp [hdigit]),
      splitNumber_of_isAlphanum c h]
  rw [tokensFrom_token (isBlank_of_isAlphanum hc) hne.1 hne.2, hsplit, tokensFrom_nil]

/-! ## A text in other lines -/

theorem Position.line_after (p : Position) {cs : List Char} (h : '\n' ∉ cs) :
    (p.after cs).line = p.line := by
  induction cs generalizing p with
  | nil => rfl
  | cons c cs ih =>
      simp only [List.mem_cons, not_or] at h
      rw [after_cons, ih _ h.2, advance, if_neg (Ne.symm h.1)]

/-- The place one line further down. -/
def Position.below (p : Position) : Position := ⟨p.line + 1, p.column⟩

/-- Tokens one line further down. -/
def lineBelow : Relabelling := { move := Position.below }

theorem Token.relabel_lineBelow (t : Token) : t.relabel lineBelow = ⟨t.kind, t.text, t.place.below⟩ := by
  obtain ⟨kind, text, place⟩ := t
  cases kind <;> rfl

theorem Position.after_below (p : Position) (cs : List Char) :
    p.below.after cs = (p.after cs).below := by
  induction cs generalizing p with
  | nil => rfl
  | cons c cs ih =>
      have hadvance : p.below.advance c = (p.advance c).below := by
        unfold advance
        split <;> rfl
      rw [after_cons, after_cons, hadvance, ih]

theorem tokensFrom_below (lineStart : Bool) (place : Position) (cs : List Char) :
    tokensFrom lineStart place.below cs = (tokensFrom lineStart place cs).map (·.relabel lineBelow) := by
  induction lineStart, place, cs using tokensFrom_induction with
  | none lineStart place cs h => rw [tokensFrom_eq_nil h, tokensFrom_eq_nil h]; rfl
  | token lineStart place cs c rest h ih =>
      rw [tokensFrom_eq_cons h, tokensFrom_eq_cons h, Position.after_below, Position.after_below, ih]
      simp [Token.relabel_lineBelow]

end NameLint.Source

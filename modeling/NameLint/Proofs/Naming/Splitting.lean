import Mathlib.Data.List.Chain
import NameLint.Naming.Respelling
import NameLint.Proofs.Source.Pieces

/-!
# Splitting what was joined

Words that are joined are found again by splitting. Each is gathered whole, and between two of them a new word
begins, at a separator or at a capital behind a small letter or a digit. What decides both is ASCII, where case
and class are plain.
-/

namespace NameLint.Naming

open NameLint.Unicode

/-! ## ASCII characters -/

section Ascii

variable {c : Char}

theorem isUppercase_of_isAscii (h : isAscii c = true) : isUppercase c = c.isUpper := if_pos h

theorem isLowercase_of_isAscii (h : isAscii c = true) : isLowercase c = c.isLower := if_pos h

theorem isNumeric_of_isAscii (h : isAscii c = true) : isNumeric c = c.isDigit := if_pos h

theorem isAlphanumeric_of_isAscii (h : isAscii c = true) : isAlphanumeric c = c.isAlphanum := by
  simp [isAlphanumeric, isAlphabetic, isNumeric, h, Char.isAlphanum]

theorem isAlphanumeric_of_isAlphanum (h : c.isAlphanum = true) : isAlphanumeric c = true := by
  rw [isAlphanumeric_of_isAscii (Source.isAscii_of_isAlphanum h), h]

theorem isAlphanum_of_isUpper (h : c.isUpper = true) : c.isAlphanum = true :=
  Source.isAlphanum_iff.mpr (.inl (Source.isAlpha_iff.mpr (.inl h)))

theorem isAlphanum_of_isLowerOrDigit (h : Style.isLowerOrDigit c = true) : c.isAlphanum = true :=
  Source.isAlphanum_iff.mpr <| (Bool.or_eq_true_iff.mp h).imp_left fun hlower =>
    Source.isAlpha_iff.mpr (.inr hlower)

theorem not_isLower_of_isDigit (h : c.isDigit = true) : ¬ c.isLower = true := by
  intro hlower
  have := Source.isDigit_iff_toNat.mp h
  have := Source.isLower_iff_toNat.mp hlower
  omega

theorem not_isUpper_of_isLowerOrDigit (h : Style.isLowerOrDigit c = true) : ¬ c.isUpper = true := by
  intro hupper
  have hrange := Source.isUpper_iff_toNat.mp hupper
  rcases Bool.or_eq_true_iff.mp h with hlower | hdigit
  · have := Source.isLower_iff_toNat.mp hlower
    omega
  · have := Source.isDigit_iff_toNat.mp hdigit
    omega

theorem isLowerOrDigit_of_isLower (h : c.isLower = true) : Style.isLowerOrDigit c = true :=
  Bool.or_eq_true_iff.mpr (.inl h)

theorem isLowerOrDigit_of_isDigit (h : c.isDigit = true) : Style.isLowerOrDigit c = true :=
  Bool.or_eq_true_iff.mpr (.inr h)

theorem isLowerOrDigit_of_isUpper (h : c.isUpper = true) : Style.isLowerOrDigit c = false :=
  Bool.eq_false_iff.mpr fun hsmall => not_isUpper_of_isLowerOrDigit hsmall h

theorem isUppercase_of_isUpper (h : c.isUpper = true) : isUppercase c = true := by
  rw [isUppercase_of_isAscii (Source.isAscii_of_isAlphanum (isAlphanum_of_isUpper h)), h]

theorem isUppercase_of_isLowerOrDigit (h : Style.isLowerOrDigit c = true) : isUppercase c = false := by
  rw [isUppercase_of_isAscii (Source.isAscii_of_isAlphanum (isAlphanum_of_isLowerOrDigit h))]
  exact Bool.eq_false_iff.mpr (not_isUpper_of_isLowerOrDigit h)

theorem isLowercase_or_isNumeric (h : c.isAlphanum = true) :
    (isLowercase c || isNumeric c) = Style.isLowerOrDigit c := by
  have hascii := Source.isAscii_of_isAlphanum h
  rw [isLowercase_of_isAscii hascii, isNumeric_of_isAscii hascii, Style.isLowerOrDigit]

theorem isLowercase_or_isNumeric_of_isUpper (h : c.isUpper = true) :
    (isLowercase c || isNumeric c) = false := by
  rw [isLowercase_or_isNumeric (isAlphanum_of_isUpper h), isLowerOrDigit_of_isUpper h]

theorem isLowercase_of_isUpper (h : c.isUpper = true) : isLowercase c = false :=
  (Bool.or_eq_false_iff.mp (isLowercase_or_isNumeric_of_isUpper h)).1

theorem isLowercase_of_isDigit (h : c.isDigit = true) : isLowercase c = false := by
  rw [isLowercase_of_isAscii (Source.isAscii_of_isAlphanum (Source.isAlphanum_iff.mpr (.inr h)))]
  exact Bool.eq_false_iff.mpr (not_isLower_of_isDigit h)

end Ascii

/-! ## Gathering a word -/

section Gathering

variable {c : Char} {word rest : List Char}

theorem lowerComesNext_append {cs : List Char} (h : ∀ c ∈ cs, isLowercase c = false)
    (hrest : lowerComesNext rest = false) : lowerComesNext (cs ++ rest) = false := by
  cases cs with
  | nil => exact hrest
  | cons c cs => exact h c List.mem_cons_self

theorem wordsFrom_gather (hc : c.isAlphanum = true) (hbegins : beginsWord word c rest = false) :
    wordsFrom word (c :: rest) = wordsFrom (c :: word) rest := by
  simp [wordsFrom, isAlphanumeric_of_isAlphanum hc, hbegins]

/-- Only a capital begins a word. -/
theorem beginsWord_of_isLowerOrDigit (h : Style.isLowerOrDigit c = true) :
    beginsWord word c rest = false := by
  cases word with
  | nil => rfl
  | cons p word => simp [beginsWord, isUppercase_of_isLowerOrDigit h]

/-- A capital behind capitals begins no word unless a small letter comes next. -/
theorem beginsWord_of_isUpper (hword : ∀ p ∈ word.head?, p.isUpper = true)
    (hnext : lowerComesNext rest = false) : beginsWord word c rest = false := by
  cases word with
  | nil => rfl
  | cons p word =>
      rw [beginsWord, isLowercase_or_isNumeric_of_isUpper (hword p rfl), hnext]
      simp

theorem wordsFrom_small_append {small : List Char} (h : ∀ c ∈ small, Style.isLowerOrDigit c = true) :
    wordsFrom word (small ++ rest) = wordsFrom (small.reverse ++ word) rest := by
  induction small generalizing word with
  | nil => rfl
  | cons c small ih =>
      obtain ⟨hc, hsmall⟩ := List.forall_mem_cons.mp h
      rw [List.cons_append, wordsFrom_gather (isAlphanum_of_isLowerOrDigit hc)
        (beginsWord_of_isLowerOrDigit hc), ih hsmall, List.reverse_cons, List.append_assoc]
      rfl

theorem wordsFrom_upper_append {upper : List Char} (h : ∀ c ∈ upper, c.isUpper = true)
    (hword : ∀ p ∈ word.head?, p.isUpper = true) (hnext : lowerComesNext rest = false) :
    wordsFrom word (upper ++ rest) = wordsFrom (upper.reverse ++ word) rest := by
  induction upper generalizing word with
  | nil => rfl
  | cons c upper ih =>
      obtain ⟨hc, hupper⟩ := List.forall_mem_cons.mp h
      -- Behind `c` comes another capital, or the end of the capitals.
      have hnext' : lowerComesNext (upper ++ rest) = false :=
        lowerComesNext_append (fun d hd => isLowercase_of_isUpper (hupper d hd)) hnext
      rw [List.cons_append, wordsFrom_gather (isAlphanum_of_isUpper hc)
        (beginsWord_of_isUpper hword hnext'), ih hupper (by simpa using hc), List.reverse_cons,
        List.append_assoc]
      rfl

/-- A word that is gathered whole from its beginning, unless a small letter comes next. -/
def Gathered (word : List Char) : Prop :=
  ∀ rest, lowerComesNext rest = false → wordsFrom [] (word ++ rest) = wordsFrom word.reverse rest

theorem gathered_small (h : ∀ c ∈ word, Style.isLowerOrDigit c = true) : Gathered word := by
  intro rest _
  rw [wordsFrom_small_append h, List.append_nil]

theorem gathered_upper_cons (hc : c.isUpper = true) (h : ∀ c ∈ word, Style.isLowerOrDigit c = true) :
    Gathered (c :: word) := by
  intro rest _
  rw [List.cons_append, wordsFrom_gather (isAlphanum_of_isUpper hc) rfl, wordsFrom_small_append h,
    List.reverse_cons]

theorem gathered_upper_append {upper digits : List Char} (hupper : ∀ c ∈ upper, c.isUpper = true)
    (hdigits : ∀ c ∈ digits, c.isDigit = true) : Gathered (upper ++ digits) := by
  intro rest hnext
  have hsmall : ∀ c ∈ digits, Style.isLowerOrDigit c = true := fun c hc =>
    isLowerOrDigit_of_isDigit (hdigits c hc)
  have hnext' : lowerComesNext (digits ++ rest) = false :=
    lowerComesNext_append (fun c hc => isLowercase_of_isDigit (hdigits c hc)) hnext
  rw [List.append_assoc, wordsFrom_upper_append hupper (by simp) hnext', wordsFrom_small_append hsmall,
    List.append_nil, List.reverse_append]

end Gathering

/-! ## Parting two words -/

/-- Two words that are read as two where `separator` stands between them. -/
def Parted (separator first second : List Char) : Prop :=
  ∀ rest, lowerComesNext (separator ++ (second ++ rest)) = false ∧
    wordsFrom first.reverse (separator ++ (second ++ rest)) = first :: wordsFrom [] (second ++ rest)

theorem finishedWord_reverse {word : List Char} (h : word ≠ []) : finishedWord word.reverse = [word] := by
  simp [finishedWord, h]

/-- A character that is neither letter nor digit parts any two words. -/
theorem parted_separator {c : Char} (hascii : isAscii c = true) (hc : c.isAlphanum = false)
    {first : List Char} (hfirst : first ≠ []) (second : List Char) : Parted [c] first second := by
  intro rest
  have halphanumeric : isAlphanumeric c = false := by rw [isAlphanumeric_of_isAscii hascii, hc]
  have hlower : c.isLower = false := by
    rw [Bool.eq_false_iff]
    intro hlower
    rw [Source.isAlphanum_iff.mpr (.inl (Source.isAlpha_iff.mpr (.inr hlower)))] at hc
    cases hc
  constructor
  · exact (isLowercase_of_isAscii hascii).trans hlower
  · simp [wordsFrom, halphanumeric, finishedWord_reverse hfirst]

theorem isChain_parted_separator {c : Char} (hascii : isAscii c = true) (hc : c.isAlphanum = false)
    {words : List (List Char)} (hne : ∀ word ∈ words, word ≠ []) : words.IsChain (Parted [c]) :=
  (List.pairwise_of_forall_mem_list fun first hfirst second _ =>
    parted_separator hascii hc (hne first hfirst) second).isChain

/-- A capital parts from the small letter or the digit before it. -/
theorem parted_upper {p c : Char} (hp : Style.isLowerOrDigit p = true) (hc : c.isUpper = true)
    (first second : List Char) : Parted [] (first ++ [p]) (c :: second) := by
  intro rest
  have halphanumeric : isAlphanumeric c = true := isAlphanumeric_of_isAlphanum (isAlphanum_of_isUpper hc)
  have hbegins : beginsWord (first ++ [p]).reverse c (second ++ rest) = true := by
    have heither : (isLowercase p || isNumeric p) = true := by
      rw [isLowercase_or_isNumeric (isAlphanum_of_isLowerOrDigit hp), hp]
    rw [List.reverse_append, List.reverse_singleton, List.singleton_append, beginsWord,
      isUppercase_of_isUpper hc, heither]
    rfl
  have hfinished : finishedWord (first ++ [p]).reverse = [first ++ [p]] :=
    finishedWord_reverse (List.append_ne_nil_of_right_ne_nil _ (List.cons_ne_nil p []))
  have hwhole : wordsFrom [] (c :: (second ++ rest)) = wordsFrom [c] (second ++ rest) :=
    wordsFrom_gather (isAlphanum_of_isUpper hc) rfl
  constructor
  · exact isLowercase_of_isUpper hc
  · rw [List.nil_append, List.cons_append, hwhole, wordsFrom, halphanumeric,
      hbegins, hfinished]
    rfl

theorem exists_intercalate_cons (separator word : List Char) (words : List (List Char)) :
    ∃ rest, separator.intercalate (word :: words) = word ++ rest := by
  cases words with
  | nil => exact ⟨[], by simp⟩
  | cons second words => exact ⟨_, by rw [List.intercalate_cons_cons, List.append_assoc]⟩

/-- Splitting undoes joining, for words that are gathered whole and are parted each from the next. -/
theorem splitWords_intercalate {separator : List Char} {words : List (List Char)}
    (hne : ∀ word ∈ words, word ≠ []) (hgathered : ∀ word ∈ words, Gathered word)
    (hparted : words.IsChain (Parted separator)) : splitWords (separator.intercalate words) = words := by
  unfold splitWords
  induction words with
  | nil => rfl
  | cons first words ih =>
      obtain ⟨hfirst, hne⟩ := List.forall_mem_cons.mp hne
      obtain ⟨hgather, hgathered⟩ := List.forall_mem_cons.mp hgathered
      cases words with
      | nil =>
          have hwhole := hgather [] rfl
          rw [List.append_nil, wordsFrom, finishedWord_reverse hfirst] at hwhole
          rw [List.intercalate_singleton, hwhole]
      | cons second words =>
          obtain ⟨hpart, hparted⟩ := List.isChain_cons_cons.mp hparted
          have hrest := ih hne hgathered hparted
          -- The words can be gathered and parted only in front of what follows the second one.
          obtain ⟨rest, hjoined⟩ := exists_intercalate_cons separator second words
          rw [hjoined] at hrest
          rw [List.intercalate_cons_cons, hjoined, List.append_assoc, hgather _ (hpart rest).1,
            (hpart rest).2, hrest]

end NameLint.Naming

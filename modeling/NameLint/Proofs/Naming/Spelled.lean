import Mathlib
import NameLint.Proofs.Naming.Splitting

/-!
# Spelling words

A style gives the words their case and stands a separator between them. Words of ASCII characters are joined to the
spelling of the same words in lower case, and the style accepts it where letters stand where it wants them.
-/

namespace NameLint.Naming

open NameLint.Unicode

/-! ## Spelling words -/

/-- A word with its first letter in upper case. -/
def capitalized : List Char → List Char
  | [] => []
  | c :: rest => c.toUpper :: rest

namespace Style

/-- What stands between two words of a name that is spelled in the style. -/
def separator : Style → List Char
  | .camel | .pascal | .flat => []
  | .snake | .screamingSnake => ['_']
  | .kebab | .train => ['-']

/-- The words in the case that the style gives them. -/
def recased : Style → List (List Char) → List (List Char)
  | .camel, [] => []
  | .camel, first :: words => first :: words.map capitalized
  | .pascal, words | .train, words => words.map capitalized
  | .screamingSnake, words => words.map (·.map Char.toUpper)
  | .snake, words | .kebab, words | .flat, words => words

/-- The words as a name that is spelled in the style. -/
def spelled (style : Style) (words : List (List Char)) : List Char :=
  style.separator.intercalate (style.recased words)

theorem forall_mem_recased (style : Style) {p : List Char → Prop} {words : List (List Char)}
    (h : ∀ word ∈ words, p word ∧ p (capitalized word) ∧ p (word.map Char.toUpper)) :
    ∀ word ∈ style.recased words, p word := by
  have hsame : ∀ word ∈ words, p word := fun word hword => (h word hword).1
  have hcapitalized : ∀ word ∈ words.map capitalized, p word :=
    List.forall_mem_map.mpr fun word hword => (h word hword).2.1
  cases style with
  | snake | kebab | flat => exact hsame
  | pascal | train => exact hcapitalized
  | screamingSnake => exact List.forall_mem_map.mpr fun word hword => (h word hword).2.2
  | camel =>
      cases words with
      | nil => exact hsame
      | cons first words =>
          exact List.forall_mem_cons.mpr ⟨hsame first List.mem_cons_self,
            fun word hword => hcapitalized word (List.mem_cons_of_mem _ hword)⟩

theorem recased_ne_nil (style : Style) {words : List (List Char)} (h : words ≠ []) : style.recased words ≠ [] := by
  cases words with
  | nil => exact absurd rfl h
  | cons first words => cases style <;> simp [recased]

end Style

/-! ## What is made of joined words -/

section Intercalate

variable {separator : List Char} {words : List (List Char)}

theorem nil_intercalate (words : List (List Char)) : [].intercalate words = words.flatten := by
  induction words with
  | nil => rfl
  | cons word words ih => cases words <;> simp_all [List.intercalate_cons_cons]

theorem map_intercalate (f : Char → Char) (separator : List Char) (words : List (List Char)) :
    (separator.intercalate words).map f = (separator.map f).intercalate (words.map (·.map f)) := by
  induction words with
  | nil => rfl
  | cons word words ih => cases words <;> simp_all [List.intercalate_cons_cons]

theorem forall_mem_intercalate {p : Char → Prop} (hseparator : ∀ c ∈ separator, p c)
    (hwords : ∀ word ∈ words, ∀ c ∈ word, p c) : ∀ c ∈ separator.intercalate words, p c := by
  induction words with
  | nil => simp
  | cons word words ih =>
      obtain ⟨hword, hwords⟩ := List.forall_mem_cons.mp hwords
      cases words with
      | nil => simpa using hword
      | cons second words =>
          rw [List.intercalate_cons_cons]
          exact List.forall_mem_append.mpr ⟨List.forall_mem_append.mpr ⟨hword, hseparator⟩, ih hwords⟩

theorem intercalate_cons_word (separator : List Char) (c : Char) (word : List Char) (words : List (List Char)) :
    separator.intercalate ((c :: word) :: words) = c :: separator.intercalate (word :: words) := by
  cases words <;> simp [List.intercalate_cons_cons]

end Intercalate

/-! ## Joining words of ASCII characters -/

section Join

variable {word : List Char} {words : List (List Char)}

theorem toLowerText_of_ascii (h : ∀ c ∈ word, isAscii c = true) : toLowerText word = word.map Char.toLower := by
  unfold toLowerText
  generalize [] = before
  induction word generalizing before with
  | nil => rfl
  | cons c word ih =>
      obtain ⟨hc, hword⟩ := List.forall_mem_cons.mp h
      have hsigma : c ≠ 'Σ' := by
        rintro rfl
        cases hc
      have himage : toLowerChars c = [c.toLower] := if_pos hc
      simp [toLowerFrom, hsigma, himage, ih hword]

theorem toUpperText_of_ascii (h : ∀ c ∈ word, isAscii c = true) : toUpperText word = word.map Char.toUpper := by
  have himage : ∀ c ∈ word, toUpperChars c = [c.toUpper] := fun c hc => if_pos (h c hc)
  rw [toUpperText, List.flatMap_congr himage, List.map_eq_flatMap]

theorem capitalize_of_ascii (h : ∀ c ∈ word, isAscii c = true) :
    capitalize word = capitalized (word.map Char.toLower) := by
  cases word with
  | nil => rfl
  | cons c rest =>
      obtain ⟨hc, hrest⟩ := List.forall_mem_cons.mp h
      have hfirst : toUpperChars c = [c.toUpper] := if_pos hc
      have himage : ∀ c ∈ rest, toLowerChars c = [c.toLower] := fun c hc => if_pos (hrest c hc)
      rw [capitalize, hfirst, List.flatMap_congr himage, ← List.map_eq_flatMap, List.map_cons, capitalized,
        Char.toUpper_toLower_eq_toUpper]
      rfl

theorem isAscii_toLower {c : Char} (h : isAscii c = true) : isAscii c.toLower = true := by
  by_cases hupper : c.isUpper = true
  · refine Source.isAscii_of_isAlphanum (Source.isAlphanum_iff.mpr (.inl ?_))
    rw [Char.isAlpha_toLower_eq_isAlpha, Source.isAlpha_iff]
    exact .inl hupper
  · rwa [Char.toLower_eq_of_not_isUpper hupper]

/-- What the words are joined to is the spelling of the same words in lower case. -/
theorem Style.join_of_ascii (style : Style) (h : ∀ word ∈ words, ∀ c ∈ word, isAscii c = true) :
    style.join words = style.spelled (words.map (·.map Char.toLower)) := by
  have hlower : words.map toLowerText = words.map (·.map Char.toLower) :=
    List.map_congr_left fun word hword => toLowerText_of_ascii (h word hword)
  have hcapital : words.map capitalize = (words.map (·.map Char.toLower)).map capitalized := by
    rw [List.map_map]
    exact List.map_congr_left fun word hword => capitalize_of_ascii (h word hword)
  cases style with
  | snake | kebab => exact congrArg (List.intercalate _) hlower
  | train => exact congrArg (List.intercalate _) hcapital
  | flat => exact (congrArg List.flatten hlower).trans (nil_intercalate _).symm
  | pascal => exact (congrArg List.flatten hcapital).trans (nil_intercalate _).symm
  | camel =>
      cases words with
      | nil => rfl
      | cons first words =>
          simp only [join, spelled, separator, nil_intercalate]
          rw [List.map_cons, List.map_cons, List.cons.injEq] at hlower
          rw [List.map_cons, List.map_cons, List.map_cons, List.cons.injEq] at hcapital
          simp [recased, hlower.1, hcapital.2]
  | screamingSnake =>
      have hascii : ∀ word ∈ words.map (·.map Char.toLower), ∀ c ∈ word, isAscii c = true := by
        simp only [List.forall_mem_map]
        exact fun word hword c hc => isAscii_toLower (h word hword c hc)
      have hjoined : ∀ c ∈ ['_'].intercalate (words.map (·.map Char.toLower)), isAscii c = true :=
        forall_mem_intercalate (List.forall_mem_singleton.mpr rfl) hascii
      have hupper := toUpperText_of_ascii hjoined
      rw [map_intercalate] at hupper
      rw [join, hlower]
      exact hupper

end Join

/-! ## Which spellings are accepted -/

/-- A word of small letters and digits. -/
def IsSmall (word : List Char) : Prop :=
  word ≠ [] ∧ ∀ c ∈ word, Style.isLowerOrDigit c = true

/-- A word that begins with a small letter. -/
def BeginsSmall (word : List Char) : Prop :=
  ∃ c ∈ word.head?, c.isLower = true

theorem beginsSmall_cons {c : Char} {word : List Char} : BeginsSmall (c :: word) ↔ c.isLower = true := by
  simp [BeginsSmall]

theorem isUpper_toUpper_iff {c : Char} (h : Style.isLowerOrDigit c = true) :
    c.toUpper.isUpper = true ↔ c.isLower = true := by
  rw [Char.isUpper_toUpper_eq_isAlpha, Source.isAlpha_iff, or_iff_right (not_isUpper_of_isLowerOrDigit h)]

theorem toUpper_of_isDigit {c : Char} (h : c.isDigit = true) : c.toUpper = c :=
  Char.toUpper_eq_of_not_isLower (not_isLower_of_isDigit h)

theorem isUpperOrDigit_toUpper {c : Char} (h : Style.isLowerOrDigit c = true) :
    Style.isUpperOrDigit c.toUpper = true := by
  rcases Bool.or_eq_true_iff.mp h with hlower | hdigit
  · exact Bool.or_eq_true_iff.mpr (.inl ((isUpper_toUpper_iff h).mpr hlower))
  · rw [toUpper_of_isDigit hdigit]
    exact Bool.or_eq_true_iff.mpr (.inr hdigit)

theorem isAlphanum_toUpper {c : Char} (h : Style.isLowerOrDigit c = true) : c.toUpper.isAlphanum = true := by
  rcases Bool.or_eq_true_iff.mp (isUpperOrDigit_toUpper h) with hupper | hdigit
  · exact isAlphanum_of_isUpper hupper
  · exact Source.isAlphanum_iff.mpr (.inr hdigit)

/-- Small letters and digits stay letters and digits in any case. -/
theorem isAlphanum_of_mem_recased (style : Style) {words : List (List Char)}
    (h : ∀ word ∈ words, ∀ c ∈ word, Style.isLowerOrDigit c = true) :
    ∀ word ∈ style.recased words, ∀ c ∈ word, c.isAlphanum = true := by
  refine style.forall_mem_recased fun word hword => ?_
  have hsame : ∀ c ∈ word, c.isAlphanum = true := fun c hc => isAlphanum_of_isLowerOrDigit (h word hword c hc)
  have hupper : ∀ c ∈ word, c.toUpper.isAlphanum = true := fun c hc => isAlphanum_toUpper (h word hword c hc)
  refine ⟨hsame, ?_, List.forall_mem_map.mpr hupper⟩
  cases word with
  | nil => exact hsame
  | cons c rest =>
      exact List.forall_mem_cons.mpr ⟨hupper c List.mem_cons_self,
        fun d hd => hsame d (List.mem_cons_of_mem c hd)⟩

namespace Style

theorem acceptsTrainTail_small_append {small : List Char} (rest : List Char)
    (h : ∀ c ∈ small, isLowerOrDigit c = true) :
    acceptsTrainTail (small ++ rest) = acceptsTrainTail rest := by
  induction small with
  | nil => rfl
  | cons c small ih =>
      obtain ⟨hc, hsmall⟩ := List.forall_mem_cons.mp h
      have hhyphen : c ≠ '-' := by
        rintro rfl
        cases hc
      rw [List.cons_append, acceptsTrainTail, hc, ih hsmall, Bool.true_and]
      exact fun _ _ hc => (hhyphen hc).elim

/-- Behind its first word a name in train case is accepted where every other word begins with a letter. -/
theorem acceptsTrainTail_intercalate {word : List Char} {words : List (List Char)}
    (hword : ∀ c ∈ word, isLowerOrDigit c = true) (hwords : ∀ word ∈ words, IsSmall word) :
    acceptsTrainTail (['-'].intercalate (word :: words.map capitalized)) = true ↔
      ∀ word ∈ words, BeginsSmall word := by
  induction words generalizing word with
  | nil =>
      have hall := acceptsTrainTail_small_append [] hword
      rw [List.append_nil] at hall
      simp [hall, acceptsTrainTail]
  | cons second words ih =>
      obtain ⟨⟨hne, hsecond⟩, hothers⟩ := List.forall_mem_cons.mp hwords
      cases second with
      | nil => exact absurd rfl hne
      | cons c second =>
          obtain ⟨hc, hsecond⟩ := List.forall_mem_cons.mp hsecond
          rw [List.map_cons, List.intercalate_cons_cons, capitalized, intercalate_cons_word, List.append_assoc,
            acceptsTrainTail_small_append _ hword, List.singleton_append, acceptsTrainTail, Bool.and_eq_true,
            ih hsecond hothers, List.forall_mem_cons, isUpper_toUpper_iff hc, beginsSmall_cons]

/-- Train case apart, a style takes every character of a spelling. -/
theorem acceptsTail_spelled {style : Style} {words : List (List Char)} (hstyle : style ≠ .train)
    (hwords : ∀ word ∈ words, ∀ c ∈ word, isLowerOrDigit c = true) :
    style.acceptsTail (style.spelled words) = true := by
  cases style with
  | train => exact absurd rfl hstyle
  | flat => exact List.all_eq_true.mpr (forall_mem_intercalate (by simp [separator]) hwords)
  | snake | kebab =>
      refine List.all_eq_true.mpr (forall_mem_intercalate (by simp [separator]) fun word hword c hc => ?_)
      exact Bool.or_eq_true_iff.mpr (.inr (hwords word hword c hc))
  | screamingSnake =>
      refine List.all_eq_true.mpr (forall_mem_intercalate (by simp [separator]) ?_)
      simp only [recased, List.forall_mem_map]
      exact fun word hword c hc => Bool.or_eq_true_iff.mpr (.inr (isUpperOrDigit_toUpper (hwords word hword c hc)))
  | camel | pascal =>
      exact List.all_eq_true.mpr (forall_mem_intercalate (by simp [separator]) (isAlphanum_of_mem_recased _ hwords))

/-- The first character of a spelling leads where the first word begins with a letter. -/
theorem exists_spelled_cons {style : Style} {leads : Char → Bool} {c : Char}
    (hleads : style.leading? = some leads) (hc : isLowerOrDigit c = true) (first : List Char)
    (words : List (List Char)) : ∃ d rest, style.spelled ((c :: first) :: words) = d :: rest ∧
      (leads d = true ↔ c.isLower = true) := by
  cases style <;> cases hleads
  case camel | snake | kebab => exact ⟨c, _, intercalate_cons_word .., Iff.rfl⟩
  case pascal | screamingSnake | train =>
    exact ⟨c.toUpper, _, intercalate_cons_word .., isUpper_toUpper_iff hc⟩

theorem acceptsTail_of_cons {style : Style} {c : Char} {rest : List Char} (hstyle : style ≠ .train)
    (h : style.acceptsTail (c :: rest) = true) : style.acceptsTail rest = true := by
  cases style with
  | train => exact absurd rfl hstyle
  | camel | pascal | snake | screamingSnake | kebab | flat => exact (Bool.and_eq_true_iff.mp h).2

theorem accepts_spelled_cons_iff {style : Style} {leads : Char → Bool} {c : Char} {first : List Char}
    {words : List (List Char)} (hleads : style.leading? = some leads) (hstyle : style ≠ .train)
    (hwords : ∀ word ∈ (c :: first) :: words, ∀ d ∈ word, isLowerOrDigit d = true) :
    style.accepts (style.spelled ((c :: first) :: words)) = true ↔ c.isLower = true := by
  have hc : isLowerOrDigit c = true := hwords _ List.mem_cons_self c List.mem_cons_self
  obtain ⟨d, rest, hspelled, hd⟩ := exists_spelled_cons hleads hc first words
  have htail := acceptsTail_spelled hstyle hwords
  rw [hspelled] at htail
  rw [hspelled, ← hd]
  simp [accepts, hleads, acceptsTail_of_cons hstyle htail]

/-- A style that fixes the case of the first letter wants a letter there, train case in every word. -/
theorem accepts_spelled_iff (style : Style) {words : List (List Char)} (hne : words ≠ [])
    (hwords : ∀ word ∈ words, IsSmall word) : style.accepts (style.spelled words) = true ↔
      match style with
      | .flat => True
      | .train => ∀ word ∈ words, BeginsSmall word
      | _ => ∀ word ∈ words.head?, BeginsSmall word := by
  have hsmall : ∀ word ∈ words, ∀ c ∈ word, isLowerOrDigit c = true := fun word hword => (hwords word hword).2
  obtain ⟨first, words, rfl⟩ := List.exists_cons_of_ne_nil hne
  obtain ⟨⟨hfirst, hletters⟩, hothers⟩ := List.forall_mem_cons.mp hwords
  obtain ⟨c, first, rfl⟩ := List.exists_cons_of_ne_nil hfirst
  have hhead : (∀ word ∈ ((c :: first) :: words).head?, BeginsSmall word) ↔ c.isLower = true := by
    simp [beginsSmall_cons]
  cases style with
  | flat =>
      have htail : acceptsTail .flat (spelled .flat ((c :: first) :: words)) = true :=
        acceptsTail_spelled (by decide) hsmall
      exact iff_of_true htail trivial
  | train =>
      obtain ⟨hc, hrest⟩ := List.forall_mem_cons.mp hletters
      simp only [spelled, recased, separator, List.map_cons, capitalized, intercalate_cons_word, accepts,
        leading?, acceptsTail, Bool.and_eq_true, acceptsTrainTail_intercalate hrest hothers,
        List.forall_mem_cons, isUpper_toUpper_iff hc, beginsSmall_cons]
  | camel | pascal | snake | screamingSnake | kebab =>
      exact (accepts_spelled_cons_iff rfl (by simp) hsmall).trans hhead.symm

end Style

/-! ## Spellings in lower case -/

section Lower

theorem map_eq_self {α : Type} {f : α → α} {xs : List α} (h : ∀ x ∈ xs, f x = x) : xs.map f = xs := by
  rw [List.map_congr_left h, List.map_id']

variable {word : List Char} {words : List (List Char)}

theorem toLower_of_isLowerOrDigit {c : Char} (h : Style.isLowerOrDigit c = true) : c.toLower = c :=
  Char.toLower_eq_of_not_isUpper (not_isUpper_of_isLowerOrDigit h)

theorem map_toLower_small (h : ∀ c ∈ word, Style.isLowerOrDigit c = true) : word.map Char.toLower = word :=
  map_eq_self fun c hc => toLower_of_isLowerOrDigit (h c hc)

theorem map_toLower_upper (h : ∀ c ∈ word, Style.isLowerOrDigit c = true) :
    (word.map Char.toUpper).map Char.toLower = word := by
  rw [List.map_map]
  refine map_eq_self fun c hc => ?_
  rw [Function.comp_apply, Char.toLower_toUpper_eq_toLower, toLower_of_isLowerOrDigit (h c hc)]

theorem map_toLower_capitalized (h : ∀ c ∈ word, Style.isLowerOrDigit c = true) :
    (capitalized word).map Char.toLower = word := by
  cases word with
  | nil => rfl
  | cons c rest =>
      obtain ⟨hc, hrest⟩ := List.forall_mem_cons.mp h
      rw [capitalized, List.map_cons, Char.toLower_toUpper_eq_toLower, toLower_of_isLowerOrDigit hc,
        map_toLower_small hrest]

/-- In lower case the words are the same in every style. -/
theorem Style.map_toLower_recased (style : Style)
    (h : ∀ word ∈ words, ∀ c ∈ word, Style.isLowerOrDigit c = true) :
    (style.recased words).map (·.map Char.toLower) = words := by
  have hsame : words.map (·.map Char.toLower) = words :=
    map_eq_self fun word hword => map_toLower_small (h word hword)
  have hcapitalized : (words.map capitalized).map (·.map Char.toLower) = words := by
    rw [List.map_map]
    exact map_eq_self fun word hword => map_toLower_capitalized (h word hword)
  cases style with
  | snake | kebab | flat => exact hsame
  | pascal | train => exact hcapitalized
  | screamingSnake =>
      rw [recased, List.map_map]
      exact map_eq_self fun word hword => map_toLower_upper (h word hword)
  | camel =>
      cases words with
      | nil => rfl
      | cons first words =>
          rw [List.map_cons, List.cons.injEq] at hsame
          rw [List.map_cons, List.map_cons, List.cons.injEq] at hcapitalized
          rw [recased, List.map_cons, hsame.1, hcapitalized.2]

end Lower

end NameLint.Naming

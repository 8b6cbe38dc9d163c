import NameLint.Proofs.Naming.Spelled

/-!
# Respelling a name

A name that spells words in a style is split into the words it was made of, in every style but flat case, and so it
is respelled in another style as that style spells the same words.
-/

namespace NameLint.Naming

open NameLint.Unicode

/-! ## Plain words -/

/-- A word of two or more small letters, with any number of digits behind them. -/
structure PlainWord where
  /-- The letters. -/
  letters : List Char
  /-- The digits. -/
  digits : List Char
  two_le_length : 2 ≤ letters.length
  isLower_of_mem : ∀ c ∈ letters, c.isLower = true
  isDigit_of_mem : ∀ c ∈ digits, c.isDigit = true

namespace PlainWord

/-- The word as it stands. -/
def chars (word : PlainWord) : List Char :=
  word.letters ++ word.digits

theorem isLowerOrDigit_of_mem (word : PlainWord) : ∀ c ∈ word.chars, Style.isLowerOrDigit c = true := by
  intro c hc
  rcases List.mem_append.mp hc with hletter | hdigit
  · exact isLowerOrDigit_of_isLower (word.isLower_of_mem c hletter)
  · exact isLowerOrDigit_of_isDigit (word.isDigit_of_mem c hdigit)

/-- A letter stands first, and another character last. -/
theorem exists_chars_eq (word : PlainWord) :
    ∃ c middle p, word.chars = c :: (middle ++ [p]) ∧ c.isLower = true := by
  match hletters : word.letters, word.two_le_length with
  | c :: d :: letters, _ =>
      obtain ⟨middle, p, hlast⟩ := (List.eq_nil_or_concat' (d :: letters ++ word.digits)).resolve_left (by simp)
      refine ⟨c, middle, p, ?_, word.isLower_of_mem c (hletters ▸ List.mem_cons_self)⟩
      rw [chars, hletters, List.cons_append, hlast]

theorem isSmall (word : PlainWord) : IsSmall word.chars := by
  obtain ⟨c, middle, p, hchars, -⟩ := word.exists_chars_eq
  exact ⟨hchars ▸ List.cons_ne_nil _ _, word.isLowerOrDigit_of_mem⟩

theorem beginsSmall (word : PlainWord) : BeginsSmall word.chars := by
  obtain ⟨c, middle, p, hchars, hc⟩ := word.exists_chars_eq
  rw [hchars, beginsSmall_cons]
  exact hc

/-- A plain word with its first letter in upper case is parted from the plain word before. -/
theorem parted_capitalized (first second : PlainWord) :
    Parted [] first.chars (capitalized second.chars) ∧
      Parted [] (capitalized first.chars) (capitalized second.chars) := by
  obtain ⟨c, middle, p, hfirst, -⟩ := first.exists_chars_eq
  obtain ⟨d, middle', p', hsecond, hd⟩ := second.exists_chars_eq
  have hp : Style.isLowerOrDigit p = true := first.isLowerOrDigit_of_mem p (by simp [hfirst])
  have hupper : d.toUpper.isUpper = true :=
    (isUpper_toUpper_iff (second.isLowerOrDigit_of_mem d (by simp [hsecond]))).mpr hd
  rw [hfirst, hsecond]
  exact ⟨parted_upper hp hupper (c :: middle) _, parted_upper hp hupper (c.toUpper :: middle) _⟩

theorem gathered_recased (style : Style) (words : List PlainWord) :
    ∀ word ∈ style.recased (words.map chars), Gathered word := by
  refine style.forall_mem_recased (List.forall_mem_map.mpr fun word _ => ⟨?_, ?_, ?_⟩)
  · exact gathered_small word.isLowerOrDigit_of_mem
  · obtain ⟨c, middle, p, hchars, hc⟩ := word.exists_chars_eq
    have hsmall := word.isLowerOrDigit_of_mem
    rw [hchars] at hsmall ⊢
    obtain ⟨hsmallC, hrest⟩ := List.forall_mem_cons.mp hsmall
    exact gathered_upper_cons ((isUpper_toUpper_iff hsmallC).mpr hc) hrest
  · have hletters : ∀ c ∈ word.letters.map Char.toUpper, c.isUpper = true :=
      List.forall_mem_map.mpr fun c hc => by
        have hlower := word.isLower_of_mem c hc
        exact (isUpper_toUpper_iff (isLowerOrDigit_of_isLower hlower)).mpr hlower
    have hdigits : word.digits.map Char.toUpper = word.digits :=
      map_eq_self fun c hc => toUpper_of_isDigit (word.isDigit_of_mem c hc)
    rw [chars, List.map_append, hdigits]
    exact gathered_upper_append hletters word.isDigit_of_mem

end PlainWord

namespace Style

/-! ## The words of a spelling -/

theorem recased_forall_ne_nil (style : Style) (words : List PlainWord) :
    ∀ word ∈ style.recased (words.map PlainWord.chars), word ≠ [] := by
  refine style.forall_mem_recased (List.forall_mem_map.mpr fun word _ => ?_)
  obtain ⟨c, middle, p, hchars, -⟩ := word.exists_chars_eq
  simp [hchars, capitalized]

theorem parted_recased {style : Style} (hstyle : style ≠ .flat) (words : List PlainWord) :
    (style.recased (words.map PlainWord.chars)).IsChain (Parted style.separator) := by
  have hne := style.recased_forall_ne_nil words
  cases style with
  | flat => exact absurd rfl hstyle
  | snake | screamingSnake | kebab | train => exact isChain_parted_separator (by decide) (by decide) hne
  | pascal =>
      refine (List.pairwise_map.mpr (List.pairwise_map.mpr ?_)).isChain
      exact List.pairwise_of_forall fun first second => (first.parted_capitalized second).2
  | camel =>
      cases words with
      | nil => exact .nil
      | cons first words =>
          refine (List.pairwise_cons.mpr ⟨?_, List.pairwise_map.mpr (List.pairwise_map.mpr ?_)⟩).isChain
          · simp only [List.forall_mem_map]
            exact fun second _ => (first.parted_capitalized second).1
          · exact List.pairwise_of_forall fun first second => (first.parted_capitalized second).2

/-- The words of a spelling are the words it was made of, in the case that the style gives them. -/
theorem splitWords_spelled {style : Style} (hstyle : style ≠ .flat) (words : List PlainWord) :
    splitWords (style.spelled (words.map PlainWord.chars)) = style.recased (words.map PlainWord.chars) :=
  splitWords_intercalate (recased_forall_ne_nil style words) (PlainWord.gathered_recased style words)
    (parted_recased hstyle words)

/-! ## Respelling -/

/-- The name that spells plain words in the style. -/
def spelling (style : Style) (words : List PlainWord) : String :=
  String.ofList (style.spelled (words.map PlainWord.chars))

theorem join_recased (source target : Style) (words : List PlainWord) :
    target.join (source.recased (words.map PlainWord.chars)) = target.spelled (words.map PlainWord.chars) := by
  have hsmall : ∀ word ∈ words.map PlainWord.chars, ∀ c ∈ word, isLowerOrDigit c = true :=
    List.forall_mem_map.mpr fun word _ => word.isLowerOrDigit_of_mem
  have hascii : ∀ word ∈ source.recased (words.map PlainWord.chars), ∀ c ∈ word, isAscii c = true :=
    fun word hword c hc => Source.isAscii_of_isAlphanum (isAlphanum_of_mem_recased source hsmall word hword c hc)
  rw [target.join_of_ascii hascii, source.map_toLower_recased hsmall]

theorem accepts_spelled_plain (style : Style) {words : List PlainWord} (hwords : words ≠ []) :
    style.accepts (style.spelled (words.map PlainWord.chars)) = true := by
  have hletters : ∀ word ∈ words.map PlainWord.chars, BeginsSmall word :=
    List.forall_mem_map.mpr fun word _ => word.beginsSmall
  have hfirst : ∀ word ∈ (words.map PlainWord.chars).head?, BeginsSmall word := fun word hword =>
    hletters word (List.mem_of_mem_head? hword)
  refine (style.accepts_spelled_iff (by simpa using hwords)
    (List.forall_mem_map.mpr fun word _ => word.isSmall)).mpr ?_
  cases style with
  | flat => trivial
  | train => exact hletters
  | camel | pascal | snake | screamingSnake | kebab => exact hfirst

/-- A name that spells plain words is respelled as the name that spells them in the other style, if that is
another name. -/
theorem convert_spelling {words : List PlainWord} (hwords : words ≠ []) {source : Style} (hsource : source ≠ .flat)
    (target : Style) : target.convert (source.spelling words) =
      if target.spelling words = source.spelling words then none else some (target.spelling words) := by
  have hsplit : (source.recased (words.map PlainWord.chars)).isEmpty = false := by
    rw [List.isEmpty_eq_false_iff]
    exact source.recased_ne_nil (by simpa using hwords)
  rw [convert, spelling, spelling, String.toList_ofList, splitWords_spelled hsource, join_recased, hsplit,
    accepts_spelled_plain target hwords]
  by_cases hsame : target.spelled (words.map PlainWord.chars) = source.spelled (words.map PlainWord.chars) <;>
    simp [hsame, String.ofList_inj]

theorem convert_spelling_http2_server :
    Style.camel ≠ .flat ∧ Style.snake.convert "http2Server" = some "http2_server" := by
  let http2 : PlainWord :=
    ⟨['h', 't', 't', 'p'], ['2'], by decide, List.all_eq_true.mp rfl, List.all_eq_true.mp rfl⟩
  let server : PlainWord :=
    ⟨['s', 'e', 'r', 'v', 'e', 'r'], [], by decide, List.all_eq_true.mp rfl, List.all_eq_true.mp rfl⟩
  have hwords : [http2, server] ≠ [] := List.cons_ne_nil _ _
  refine ⟨by decide, ?_⟩
  exact (convert_spelling hwords (by decide : Style.camel ≠ .flat) .snake).trans (by decide)

end Style

end NameLint.Naming

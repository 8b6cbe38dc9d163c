import NameLint.Proofs.Naming.Spelled
import NameLint.Proofs.Naming.Words

/-!
# When a respelling is offered

A name of ASCII characters is respelled as the style spells its words in lower case, wherever that is another name
and no digit stands where the style wants a letter. Letters and digits change in case only, so that nothing is lost
on the way through snake case.
-/

namespace NameLint.Naming

open NameLint.Unicode

/-- A name of ASCII characters. -/
def IsAsciiName (name : String) : Prop :=
  ∀ c ∈ name.toList, isAscii c = true

/-- The words of a name in lower case. -/
def lowerWords (name : String) : List (List Char) :=
  (splitWords name.toList).map (·.map Char.toLower)

/-- The letters and digits of a name, in lower case and in order. -/
def lettersAndDigits (name : String) : List Char :=
  (name.toList.filter Char.isAlphanum).map Char.toLower

/-- The spelling in a style of the words of a name. -/
def Style.respelled (style : Style) (name : String) : String :=
  String.ofList (style.spelled (lowerWords name))

/-! ## Words in lower case -/

section Lower

variable {c : Char} {word : List Char} {name : String}

theorem isLower_toLower_iff (h : c.isAlphanum = true) : c.toLower.isLower = true ↔ ¬ c.isDigit = true := by
  rw [Char.isLower_toLower_eq_isAlpha]
  refine ⟨fun halpha hdigit => ?_, (Source.isAlphanum_iff.mp h).resolve_right⟩
  rcases Source.isAlpha_iff.mp halpha with hupper | hlower
  · exact not_isUpper_of_isLowerOrDigit (isLowerOrDigit_of_isDigit hdigit) hupper
  · exact not_isLower_of_isDigit hdigit hlower

theorem isLowerOrDigit_toLower (h : c.isAlphanum = true) : Style.isLowerOrDigit c.toLower = true := by
  by_cases hdigit : c.isDigit = true
  · have hsmall := isLowerOrDigit_of_isDigit hdigit
    rwa [toLower_of_isLowerOrDigit hsmall]
  · exact isLowerOrDigit_of_isLower ((isLower_toLower_iff h).mpr hdigit)

theorem beginsSmall_toLower_iff (hne : word ≠ []) (h : ∀ c ∈ word, c.isAlphanum = true) :
    BeginsSmall (word.map Char.toLower) ↔ ¬ BeginsDigit word := by
  obtain ⟨c, word, rfl⟩ := List.exists_cons_of_ne_nil hne
  rw [List.map_cons, beginsSmall_cons, beginsDigit_cons, isLower_toLower_iff (h c List.mem_cons_self)]

theorem lowerWords_eq_nil_iff : lowerWords name = [] ↔ splitWords name.toList = [] :=
  List.map_eq_nil_iff

theorem isSmall_of_mem_lowerWords (h : IsAsciiName name) : ∀ word ∈ lowerWords name, IsSmall word := by
  refine List.forall_mem_map.mpr fun word hword => ⟨?_, List.forall_mem_map.mpr fun c hc => ?_⟩
  · exact fun hnil => ne_nil_of_mem_splitWords hword (List.map_eq_nil_iff.mp hnil)
  · exact isLowerOrDigit_toLower (isAlphanum_of_mem_splitWords h word hword c hc)

theorem isLowerOrDigit_of_mem_lowerWords (h : IsAsciiName name) :
    ∀ word ∈ lowerWords name, ∀ c ∈ word, Style.isLowerOrDigit c = true :=
  fun word hword => (isSmall_of_mem_lowerWords h word hword).2

theorem flatten_lowerWords (h : IsAsciiName name) : (lowerWords name).flatten = lettersAndDigits name := by
  rw [lowerWords, ← List.map_flatten, flatten_splitWords_of_ascii h, lettersAndDigits]

/-- A letter begins every word just where no run of letters and digits begins with a digit. -/
theorem forall_beginsSmall_lowerWords_iff (h : IsAsciiName name) :
    (∀ word ∈ lowerWords name, BeginsSmall word) ↔ ¬ DigitBeginsRun name.toList := by
  rw [← exists_beginsDigit_splitWords h, lowerWords, List.forall_mem_map]
  push Not
  exact forall₂_congr fun word hword =>
    beginsSmall_toLower_iff (ne_nil_of_mem_splitWords hword) (isAlphanum_of_mem_splitWords h word hword)

theorem head_beginsSmall_lowerWords_iff (h : IsAsciiName name) :
    (∀ word ∈ (lowerWords name).head?, BeginsSmall word) ↔ ¬ DigitComesFirst name.toList := by
  rw [← beginsDigit_head?_splitWords h, lowerWords, List.head?_map]
  cases hwords : splitWords name.toList with
  | nil => simp
  | cons word words =>
      have hword : word ∈ splitWords name.toList := hwords ▸ List.mem_cons_self
      simpa using beginsSmall_toLower_iff (ne_nil_of_mem_splitWords hword)
        (isAlphanum_of_mem_splitWords h word hword)

end Lower

/-! ## Letters and digits of a spelling -/

theorem filter_intercalate {p : Char → Bool} {separator : List Char} {words : List (List Char)}
    (hseparator : ∀ c ∈ separator, p c = false) (hwords : ∀ word ∈ words, ∀ c ∈ word, p c = true) :
    (separator.intercalate words).filter p = words.flatten := by
  have hnone : separator.filter p = [] := List.filter_eq_nil_iff.mpr (by simpa using hseparator)
  induction words with
  | nil => rfl
  | cons word words ih =>
      obtain ⟨hword, hwords⟩ := List.forall_mem_cons.mp hwords
      have hall : word.filter p = word := List.filter_eq_self.mpr hword
      cases words with
      | nil => simp [hall]
      | cons second words =>
          rw [List.intercalate_cons_cons, List.filter_append, List.filter_append, hall, hnone, ih hwords,
            List.append_nil]
          rfl

namespace Style

variable {style : Style} {name t : String}

theorem lettersAndDigits_respelled (style : Style) (h : IsAsciiName name) :
    lettersAndDigits (style.respelled name) = lettersAndDigits name := by
  have hsmall := isLowerOrDigit_of_mem_lowerWords h
  have hseparator : ∀ c ∈ style.separator, c.isAlphanum = false := by
    cases style <;> simp [separator]
  rw [← flatten_lowerWords h, lettersAndDigits, respelled, String.toList_ofList, spelled,
    filter_intercalate hseparator (isAlphanum_of_mem_recased style hsmall), List.map_flatten,
    style.map_toLower_recased hsmall]

/-! ## When a respelling is offered -/

/-- A spelling of the words of a name has letters where the style wants them, unless a digit comes first or, in
train case, begins a run. -/
theorem fits_respelled_iff (style : Style) (h : IsAsciiName name) (hwords : splitWords name.toList ≠ []) :
    style.fits (style.respelled name) = true ↔
      ¬ (style ≠ .flat ∧ DigitComesFirst name.toList) ∧
        ¬ (style = .train ∧ DigitBeginsRun name.toList) := by
  have haccepts := style.accepts_spelled_iff (lowerWords_eq_nil_iff.not.mpr hwords) (isSmall_of_mem_lowerWords h)
  rw [fits, respelled, String.toList_ofList, haccepts]
  cases style with
  | flat => simp
  | train =>
      rw [forall_beginsSmall_lowerWords_iff h]
      simp only [ne_eq, reduceCtorEq, not_false_eq_true, true_and, iff_and_self]
      -- The first letter or digit of the name begins the first word.
      rw [← forall_beginsSmall_lowerWords_iff h, ← head_beginsSmall_lowerWords_iff h]
      exact fun hletters word hword => hletters word (List.mem_of_mem_head? hword)
  | camel | pascal | snake | screamingSnake | kebab =>
      refine (head_beginsSmall_lowerWords_iff h).trans ?_
      simp

theorem convert_of_ascii (style : Style) (h : IsAsciiName name) :
    style.convert name =
      if splitWords name.toList ≠ [] ∧ style.fits (style.respelled name) = true ∧ style.respelled name ≠ name
      then some (style.respelled name) else none := by
  have hascii : ∀ word ∈ splitWords name.toList, ∀ c ∈ word, isAscii c = true := fun word hword c hc =>
    Source.isAscii_of_isAlphanum (isAlphanum_of_mem_splitWords h word hword c hc)
  have hjoin : style.join (splitWords name.toList) = (style.respelled name).toList := by
    rw [style.join_of_ascii hascii, respelled, String.toList_ofList, lowerWords]
  have haccepts : style.accepts (style.respelled name).toList = style.fits (style.respelled name) := rfl
  simp only [convert, hjoin, haccepts, String.ofList_toList, List.isEmpty_iff, Bool.and_eq_true, bne_iff_ne, ne_eq,
    String.toList_inj]
  by_cases hwords : splitWords name.toList = []
  · simp [hwords]
  · simp [hwords, and_comm]

theorem convert_eq_some_iff (h : IsAsciiName name) : style.convert name = some t ↔
    splitWords name.toList ≠ [] ∧ style.fits t = true ∧ t ≠ name ∧ style.respelled name = t := by
  rw [style.convert_of_ascii h]
  constructor
  · intro hsome
    split at hsome
    next hoffered => cases hsome; exact ⟨hoffered.1, hoffered.2.1, hoffered.2.2, rfl⟩
    next => cases hsome
  · rintro ⟨hwords, hfits, hne, rfl⟩
    exact if_pos ⟨hwords, hfits, hne⟩

/-- No respelling of a name of ASCII characters is offered just where the name has no letter or digit, where a digit
stands in the place of a letter, and where the name is spelled so already. What is offered is another name in the
style, with the same letters and digits but for their case. -/
theorem convert_eq_none_iff_and_keeps (style : Style) (h : IsAsciiName name) :
    (style.convert name = none ↔
      (∀ c ∈ name.toList, c.isAlphanum = false) ∨
      (style ≠ .flat ∧ DigitComesFirst name.toList) ∨
      (style = .train ∧ DigitBeginsRun name.toList) ∨
      style.respelled name = name) ∧
    ∀ t, style.convert name = some t →
      t ≠ name ∧ style.fits t = true ∧ lettersAndDigits t = lettersAndDigits name := by
  constructor
  · rw [style.convert_of_ascii h, ← splitWords_eq_nil_iff h]
    by_cases hwords : splitWords name.toList = []
    · simp [hwords]
    · have hfits := style.fits_respelled_iff h hwords
      simp only [ite_eq_right_iff, reduceCtorEq, imp_false, hfits, ne_eq, hwords]
      tauto
  · intro t ht
    obtain ⟨-, hfits, hne, rfl⟩ := (convert_eq_some_iff h).mp ht
    exact ⟨hne, hfits, style.lettersAndDigits_respelled h⟩

theorem convert_eq_none_iff_and_keeps_digits :
    IsAsciiName "get_2nd_Item" ∧ train.convert "get_2nd_Item" = none ∧
      snake.convert "get_2nd_Item" = some "get_2nd_item" ∧
      lettersAndDigits "get_2nd_item" = lettersAndDigits "get_2nd_Item" := by
  have hascii : IsAsciiName "get_2nd_Item" := List.all_eq_true.mp rfl
  have hsnake : snake.convert "get_2nd_Item" = some "get_2nd_item" := by decide
  have hrun : DigitBeginsRun "get_2nd_Item".toList := ⟨['2', 'n', 'd'], by decide, '2', rfl, rfl⟩
  refine ⟨hascii, ?_, hsnake, ?_⟩
  · exact (train.convert_eq_none_iff_and_keeps hascii).1.mpr (.inr (.inr (.inl ⟨rfl, hrun⟩)))
  · exact ((snake.convert_eq_none_iff_and_keeps hascii).2 _ hsnake).2.2

/-! ## By way of snake case -/

theorem isAsciiName_respelled (style : Style) (h : IsAsciiName name) : IsAsciiName (style.respelled name) := by
  have hletters := isAlphanum_of_mem_recased style (isLowerOrDigit_of_mem_lowerWords h)
  have hseparator : ∀ c ∈ style.separator, isAscii c = true := by
    cases style <;> simp [separator] <;> decide
  rw [IsAsciiName, respelled, String.toList_ofList]
  exact forall_mem_intercalate hseparator fun word hword c hc =>
    Source.isAscii_of_isAlphanum (hletters word hword c hc)

/-- The words of a name are found again in its spelling in snake case. -/
theorem lowerWords_respelled_snake (h : IsAsciiName name) :
    lowerWords (snake.respelled name) = lowerWords name := by
  have hsmall := isSmall_of_mem_lowerWords h
  have hne : ∀ word ∈ lowerWords name, word ≠ [] := fun word hword => (hsmall word hword).1
  have hsplit : splitWords (snake.respelled name).toList = lowerWords name := by
    rw [respelled, String.toList_ofList]
    exact splitWords_intercalate hne (fun word hword => gathered_small (hsmall word hword).2)
      (isChain_parted_separator (by decide) (by decide) hne)
  rw [lowerWords, hsplit]
  exact map_eq_self fun word hword => map_toLower_small (hsmall word hword).2

theorem respelled_respelled_snake (style : Style) (h : IsAsciiName name) :
    style.respelled (snake.respelled name) = style.respelled name := by
  rw [respelled, lowerWords_respelled_snake h, respelled]

/-- A name and its respelling in snake case are respelled alike in every style, but for a respelling that is the one
or the other; and in snake case the respelling stays as it is. -/
theorem convert_convert_snake {s : String} (h : IsAsciiName name) (hs : snake.convert name = some s) :
    (∀ (style : Style) t, style.convert name = some t → t ≠ s → style.convert s = some t) ∧
    (∀ (style : Style) t, style.convert s = some t → t ≠ name → style.convert name = some t) ∧
    snake.convert s = none := by
  obtain ⟨hwords, -, -, rfl⟩ := (convert_eq_some_iff h).mp hs
  have hsnake := snake.isAsciiName_respelled h
  have hwords' : splitWords (snake.respelled name).toList ≠ [] := by
    rwa [ne_eq, ← lowerWords_eq_nil_iff, lowerWords_respelled_snake h, lowerWords_eq_nil_iff]
  refine ⟨fun style t ht hne => ?_, fun style t ht hne => ?_, ?_⟩
  · obtain ⟨-, hfits, -, rfl⟩ := (convert_eq_some_iff h).mp ht
    exact (convert_eq_some_iff hsnake).mpr ⟨hwords', hfits, hne, style.respelled_respelled_snake h⟩
  · obtain ⟨-, hfits, -, rfl⟩ := (convert_eq_some_iff hsnake).mp ht
    rw [style.respelled_respelled_snake h] at hfits hne ⊢
    exact (convert_eq_some_iff h).mpr ⟨hwords, hfits, hne, rfl⟩
  · rw [snake.convert_of_ascii hsnake, if_neg]
    exact fun hoffered => hoffered.2.2 (snake.respelled_respelled_snake h)

theorem convert_convert_snake_http_header :
    IsAsciiName "parseHTTPHeader" ∧ snake.convert "parseHTTPHeader" = some "parse_http_header" ∧
      camel.convert "parse_http_header" = some "parseHttpHeader" ∧
      screamingSnake.convert "parseHTTPHeader" = some "PARSE_HTTP_HEADER" ∧
      snake.convert "parse_http_header" = none := by
  have hascii : IsAsciiName "parseHTTPHeader" := List.all_eq_true.mp rfl
  have hsnake : snake.convert "parseHTTPHeader" = some "parse_http_header" := by decide
  obtain ⟨hforth, hback, hstays⟩ := convert_convert_snake hascii hsnake
  refine ⟨hascii, hsnake, ?_, ?_, hstays⟩
  · exact hforth .camel _ (by decide) (by decide)
  · exact hback .screamingSnake _ (by decide) (by decide)

end Style

end NameLint.Naming

import NameLint.Proofs.Source.Between
import NameLint.Proofs.Source.Place

/-!
# Literals in quotes

The words that make one literal with a quote, what the literal takes behind the quote, and how a text in quotes
is split.
-/

namespace NameLint.Source

open NameLint.Unicode

/-- The words that begin a raw string with a double quote right after them. -/
def rawPrefixes : List String := ["R", "LR", "uR", "UR", "u8R"]

/-- What begins a literal: a quote, or a word that makes one literal with the quote right after it. -/
inductive OpensLiteral : List Char → Char → Prop
  | bare {quote : Char} (isQuote : isQuote quote = true) : OpensLiteral [] quote
  | string {word : List Char} (mem : String.ofList word ∈ stringPrefixes) : OpensLiteral word '"'
  | char {word : List Char} (mem : String.ofList word ∈ charPrefixes) : OpensLiteral word '\''

/-- Splits off the rest of the literal that a word and a quote begin. -/
def splitInside (word : List Char) (quote : Char) (inside : List Char) : List Char × List Char :=
  if String.ofList word ∈ rawPrefixes then splitRaw inside else splitQuoted quote inside

theorem splitInside_append (word : List Char) (quote : Char) (inside : List Char) :
    (splitInside word quote inside).1 ++ (splitInside word quote inside).2 = inside := by
  unfold splitInside
  split
  · exact splitRaw_append inside
  · exact splitQuoted_append quote inside

/-! ## Texts in quotes -/

namespace QuotedText

variable {quote : Char} {inner : List Char}

theorem splitQuoted_append (h : QuotedText quote inner) (rest : List Char) :
    splitQuoted quote (inner ++ rest) = (inner ++ (splitQuoted quote rest).1, (splitQuoted quote rest).2) := by
  induction h with
  | nil => rfl
  | plain feed back other _ ih => rw [List.cons_append, splitQuoted_cons _ feed back other, ih]; rfl
  | escaped d _ ih => rw [List.cons_append, List.cons_append, splitQuoted_backslash, ih]; rfl

/-- A literal ends with the first quote that no backslash takes. -/
theorem splitQuoted_closed (h : QuotedText quote inner) (hquote : isQuote quote = true) (rest : List Char) :
    splitQuoted quote (inner ++ quote :: rest) = (inner ++ [quote], rest) := by
  obtain ⟨hfeed, -, hback⟩ := ne_of_isQuote hquote
  rw [h.splitQuoted_append, splitQuoted_quote _ hfeed hback]

/-- A text in quotes does not go on with the quote. -/
theorem not_concat (h : QuotedText quote inner) (hquote : isQuote quote = true) :
    ¬ QuotedText quote (inner ++ [quote]) := by
  intro hmore
  have hblank : splitQuoted quote [' '] = ([' '], []) := by
    refine splitQuoted_cons [] (by decide) (by decide) ?_
    rintro rfl
    cases hquote
  have hclosed := h.splitQuoted_closed hquote [' ']
  have hopen := hmore.splitQuoted_append [' ']
  rw [hblank, List.append_assoc, List.singleton_append, hclosed] at hopen
  cases (Prod.mk.inj hopen).2

end QuotedText

/-- A literal is closed with its quote, or runs to the end of its line or of the text. -/
theorem splitQuoted_cases (quote : Char) (cs : List Char) :
    ∃ inner, QuotedText quote inner ∧
      ((splitQuoted quote cs).1 = inner ++ [quote] ∨ (splitQuoted quote cs).1 = inner ∨
        (splitQuoted quote cs).1 = inner ++ ['\\'] ∧ (splitQuoted quote cs).2 = []) := by
  fun_induction splitQuoted quote cs with
  | case1 => exact ⟨[], .nil, .inr (.inl rfl)⟩
  | case2 => exact ⟨[], .nil, .inr (.inl rfl)⟩
  | case3 => exact ⟨[], .nil, .inr (.inr ⟨rfl, rfl⟩)⟩
  | case4 d rest inner left hsplit _ ih =>
      rw [hsplit] at ih
      obtain ⟨inner, hinner, ih⟩ := ih
      exact ⟨'\\' :: d :: inner, .escaped d hinner, by simpa using ih⟩
  | case5 => exact ⟨[], .nil, .inl rfl⟩
  | case6 d rest feed back other inner left hsplit ih =>
      rw [hsplit] at ih
      obtain ⟨inner, hinner, ih⟩ := ih
      exact ⟨d :: inner, .plain feed back other hinner, by simpa using ih⟩

/-! ## Words and quotes -/

theorem isIdentContinue_of_isQuote {quote : Char} (h : isQuote quote = true) :
    isIdentContinue quote = false := by
  simp only [isQuote, Bool.or_eq_true, decide_eq_true_eq] at h
  rcases h with rfl | rfl <;> decide

theorem mem_rawPrefixes_iff {text : String} (h : text ∈ stringPrefixes) :
    text ∈ rawPrefixes ↔ text.toList.getLast? = some 'R' := by
  have hall : ∀ text ∈ stringPrefixes, text ∈ rawPrefixes ↔ text.toList.getLast? = some 'R' := by decide
  exact hall text h

theorem mem_stringPrefixes_of_raw {text : String} (h : text ∈ rawPrefixes) : text ∈ stringPrefixes := by
  have hall : ∀ text ∈ rawPrefixes, text ∈ stringPrefixes := by decide
  exact hall text h

theorem not_mem_rawPrefixes_of_char {text : String} (h : text ∈ charPrefixes) : text ∉ rawPrefixes := by
  have hall : ∀ text ∈ charPrefixes, text ∉ rawPrefixes := by decide
  exact hall text h

/-- A word in front of a quote begins like a word, and all of it is a word. -/
theorem word_of_mem_prefixes {word : List Char}
    (h : String.ofList word ∈ stringPrefixes ∨ String.ofList word ∈ charPrefixes) :
    (∀ c ∈ word, isIdentContinue c = true) ∧
      ∃ c tail, word = c :: tail ∧ isIdentStart c = true ∧ isBlank c = false := by
  have hall : ∀ text ∈ stringPrefixes ++ charPrefixes,
      text.toList.all isIdentContinue = true ∧
        text.toList.head?.any (fun c => isIdentStart c && !isBlank c) = true := by decide
  obtain ⟨hcontinues, hfirst⟩ := hall _ (List.mem_append.mpr h)
  rw [String.toList_ofList] at hcontinues hfirst
  refine ⟨List.all_eq_true.mp hcontinues, ?_⟩
  cases word with
  | nil => cases hfirst
  | cons c tail => exact ⟨c, tail, rfl, by simpa using hfirst⟩

namespace OpensLiteral

variable {word inside : List Char} {quote : Char}

theorem raw (h : String.ofList word ∈ rawPrefixes) : OpensLiteral word '"' :=
  .string (mem_stringPrefixes_of_raw h)

theorem isQuote_quote (h : OpensLiteral word quote) : isQuote quote = true := by
  cases h with
  | bare isQuote => exact isQuote
  | string | char => rfl

theorem continues (h : OpensLiteral word quote) : ∀ c ∈ word, isIdentContinue c = true := by
  cases h with
  | bare => simp
  | string mem => exact (word_of_mem_prefixes (.inl mem)).1
  | char mem => exact (word_of_mem_prefixes (.inr mem)).1

theorem takeWhile_word (h : OpensLiteral word quote) (inside : List Char) :
    (word ++ quote :: inside).takeWhile isIdentContinue = word := by
  rw [List.takeWhile_append_of_pos h.continues,
    List.takeWhile_cons_of_neg (by simp [isIdentContinue_of_isQuote h.isQuote_quote]), List.append_nil]

theorem dropWhile_word (h : OpensLiteral word quote) (inside : List Char) :
    (word ++ quote :: inside).dropWhile isIdentContinue = quote :: inside := by
  rw [List.dropWhile_append_of_pos h.continues,
    List.dropWhile_cons_of_neg (by simp [isIdentContinue_of_isQuote h.isQuote_quote])]

/-- A word or none and a quote neither begin with a blank nor make a comment or a directive. -/
theorem exists_cons (h : OpensLiteral word quote) (inside : List Char) :
    ∃ c rest, c :: rest = word ++ quote :: inside ∧ isBlank c = false ∧ c ≠ '/' ∧ c ≠ '#' := by
  have hstart : (∃ c tail, word = c :: tail ∧ isIdentStart c = true ∧ isBlank c = false) →
      ∃ c rest, c :: rest = word ++ quote :: inside ∧ isBlank c = false ∧ c ≠ '/' ∧ c ≠ '#' := by
    rintro ⟨c, tail, rfl, hc, hblank⟩
    have hne : ∀ d, isIdentStart d = false → c ≠ d := fun d hd hcd => by simp [← hcd, hc] at hd
    exact ⟨c, _, rfl, hblank, hne '/' (by decide), hne '#' (by decide)⟩
  cases h with
  | bare hquote =>
      refine ⟨quote, inside, rfl, ?_⟩
      simp only [isQuote, Bool.or_eq_true, decide_eq_true_eq] at hquote
      rcases hquote with rfl | rfl <;> decide
  | string hword => exact hstart (word_of_mem_prefixes (.inl hword)).2
  | char hword => exact hstart (word_of_mem_prefixes (.inr hword)).2

/-- A text has at most one word and quote in front. -/
theorem inj {word' inside' : List Char} {quote' : Char} (h : OpensLiteral word quote)
    (h' : OpensLiteral word' quote') (heq : word ++ quote :: inside = word' ++ quote' :: inside') :
    word = word' ∧ quote = quote' ∧ inside = inside' := by
  have hword := congrArg (List.takeWhile isIdentContinue) heq
  rw [h.takeWhile_word, h'.takeWhile_word] at hword
  subst hword
  exact ⟨rfl, List.cons.inj (List.append_cancel_left heq)⟩

/-- A word and a quote begin a literal. -/
theorem splitToken_eq (h : OpensLiteral word quote) {c : Char} {rest : List Char}
    (hcs : c :: rest = word ++ quote :: inside) :
    splitToken c rest = (.literal, word ++ quote :: (splitInside word quote inside).1,
      (splitInside word quote inside).2) := by
  have htake := h.takeWhile_word inside
  have hdrop := h.dropWhile_word inside
  have hstart : (∃ c tail, word = c :: tail ∧ isIdentStart c = true ∧ isBlank c = false) →
      splitToken c rest = splitWord (word ++ quote :: inside) := by
    rintro ⟨d, tail, rfl, hd, -⟩
    obtain ⟨rfl, rfl⟩ := List.cons.inj hcs
    exact if_pos hd
  cases h with
  | bare hquote =>
      obtain ⟨rfl, rfl⟩ := List.cons.inj hcs
      have hplain : isIdentStart c = false ∧ (c.isDigit || (c = '.' && digitComesNext rest)) = false := by
        simp only [isQuote, Bool.or_eq_true, decide_eq_true_eq] at hquote
        rcases hquote with rfl | rfl <;> exact ⟨by decide, by simp⟩
      have hraw : splitInside [] c rest = splitQuoted c rest := if_neg (by decide)
      rw [hraw, splitToken, if_neg (by simp [hplain.1]), if_neg (by rw [hplain.2]; decide), if_pos hquote]
      rfl
  | string hword =>
      rw [hstart (word_of_mem_prefixes (.inl hword)).2, splitWord_doubleQuote hdrop, htake,
        if_pos (List.contains_iff_mem.mpr hword), splitInside]
      simp only [mem_rawPrefixes_iff hword, String.toList_ofList]
  | char hword =>
      have hraw : splitInside word '\'' inside = splitQuoted '\'' inside :=
        if_neg (not_mem_rawPrefixes_of_char hword)
      rw [hstart (word_of_mem_prefixes (.inr hword)).2, splitWord_singleQuote hdrop, htake,
        if_pos (List.contains_iff_mem.mpr hword), hraw]

end OpensLiteral

/-- A literal is a number, or a word or none and a quote begin it. -/
theorem opensLiteral_of_literal {c : Char} {rest : List Char} (h : (splitToken c rest).1 = .literal) :
    (c.isDigit || c = '.') = true ∨
      ∃ word quote inside, OpensLiteral word quote ∧ c :: rest = word ++ quote :: inside := by
  have hword := (c :: rest).takeWhile_append_dropWhile (p := isIdentContinue)
  unfold splitToken at h
  split at h
  · rcases splitWord_cases (c :: rest) with ⟨inside, hrest⟩ | ⟨inside, hrest⟩ | hquote
    · rw [splitWord_doubleQuote hrest] at h
      split at h
      · rename_i hpre
        rw [hrest] at hword
        exact .inr ⟨_, _, inside, .string (List.contains_iff_mem.mp hpre), hword.symm⟩
      · cases h
    · rw [splitWord_singleQuote hrest] at h
      split at h
      · rename_i hpre
        rw [hrest] at hword
        exact .inr ⟨_, _, inside, .char (List.contains_iff_mem.mp hpre), hword.symm⟩
      · cases h
    · rw [splitWord_of_not_isQuote hquote] at h
      cases h
  · split at h
    · rename_i hnumber
      left
      simp only [Bool.or_eq_true, Bool.and_eq_true] at hnumber ⊢
      exact hnumber.imp id And.left
    · split at h
      · rename_i hquote
        exact .inr ⟨[], c, rest, .bare hquote, rfl⟩
      · cases h

end NameLint.Source

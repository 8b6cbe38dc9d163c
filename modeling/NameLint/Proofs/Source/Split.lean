import Mathlib.Data.List.TakeWhile
import NameLint.Source.Lexer

/-!
# What each split takes

The splits of the lexer by the character they come to: what a literal in quotes, the end of a raw string and
a word make of it.
-/

namespace NameLint.Source

open NameLint.Unicode

/-! ## Literals in quotes -/

theorem ne_of_isQuote {quote : Char} (h : isQuote quote = true) :
    quote ≠ '\n' ∧ quote ≠ '\r' ∧ quote ≠ '\\' := by
  simp only [isQuote, Bool.or_eq_true, decide_eq_true_eq] at h
  rcases h with rfl | rfl <;> decide

section

variable {quote c : Char} (rest : List Char)

theorem splitQuoted_lineFeed : splitQuoted quote ('\n' :: rest) = ([], '\n' :: rest) := by
  rw [splitQuoted.eq_def]
  rfl

theorem splitQuoted_backslash (d : Char) :
    splitQuoted quote ('\\' :: d :: rest) =
      ('\\' :: d :: (splitQuoted quote rest).1, (splitQuoted quote rest).2) := by
  rw [splitQuoted.eq_def]
  rfl

theorem splitQuoted_quote (hfeed : quote ≠ '\n') (hback : quote ≠ '\\') :
    splitQuoted quote (quote :: rest) = ([quote], rest) := by
  rw [splitQuoted.eq_def]
  simp [hfeed, hback]

theorem splitQuoted_cons (hfeed : c ≠ '\n') (hback : c ≠ '\\') (hquote : c ≠ quote) :
    splitQuoted quote (c :: rest) =
      (c :: (splitQuoted quote rest).1, (splitQuoted quote rest).2) := by
  rw [splitQuoted.eq_def]
  simp [hfeed, hback, hquote]

end

/-! ## Raw strings -/

theorem rawDelimiter?_eq_some {cs delimiter : List Char} (h : rawDelimiter? cs = some delimiter) :
    '\n' ∉ delimiter ∧ ∃ body, cs = delimiter ++ '(' :: body := by
  simp only [rawDelimiter?] at h
  split at h
  · rename_i hok
    obtain ⟨hlength, -, hall⟩ := hok
    obtain rfl := Option.some.inj h
    refine ⟨fun hmem => absurd (List.all_eq_true.mp hall _ hmem) (by decide), ?_⟩
    have hcs := cs.takeWhile_append_dropWhile (p := (· != '('))
    cases hrest : cs.dropWhile (· != '(') with
    | nil =>
        rw [hrest, List.append_nil] at hcs
        exact absurd hlength (by rw [hcs]; exact Nat.lt_irrefl _)
    | cons c body =>
        have hc : c = '(' := by
          have hhead := List.head?_dropWhile_not (· != '(') cs
          simpa [hrest] using hhead
        rw [hrest, hc] at hcs
        exact ⟨body, hcs.symm⟩
  · cases h

theorem splitThrough_of_isPrefixOf {mark cs : List Char} (hmark : mark ≠ [])
    (h : mark.isPrefixOf cs = true) : splitThrough mark cs = cs.splitAt mark.length := by
  cases cs with
  | nil => exact absurd (List.prefix_nil.mp (List.isPrefixOf_iff_prefix.mp h)) hmark
  | cons c cs => rw [splitThrough, if_pos h]

theorem splitThrough_cons {mark : List Char} {c : Char} {cs : List Char}
    (h : mark.isPrefixOf (c :: cs) = false) :
    splitThrough mark (c :: cs) = (c :: (splitThrough mark cs).1, (splitThrough mark cs).2) := by
  rw [splitThrough, if_neg (by simp [h])]

theorem splitRaw_of_delimiter {delimiter body : List Char}
    (h : rawDelimiter? (delimiter ++ '(' :: body) = some delimiter) :
    splitRaw (delimiter ++ '(' :: body) =
      (delimiter ++ '(' :: (splitThrough (')' :: delimiter ++ ['"']) body).1,
        (splitThrough (')' :: delimiter ++ ['"']) body).2) := by
  have hsplit : (delimiter ++ '(' :: body).splitAt (delimiter.length + 1) =
      (delimiter ++ ['('], body) := by
    simp [List.take_append, List.take_of_length_le (Nat.le_succ delimiter.length)]
  simp only [splitRaw, h, hsplit, List.append_assoc, List.singleton_append]

theorem splitRaw_of_none {c : Char} {rest : List Char} (h : rawDelimiter? (c :: rest) = none) :
    splitRaw (c :: rest) = (c :: (splitQuoted '"' rest).1, (splitQuoted '"' rest).2) := by
  simp only [splitRaw, h]

/-! ## Text between tokens -/

namespace TriviaMode

variable {mode next : TriviaMode} {c : Char} {cs rest : List Char} {more : Nat}

/-- Only between comments and directives can a token begin. -/
theorem eq_between_of_step?_eq_none (h : mode.step? c rest = none) :
    ∃ lineStart, mode = .between lineStart := by
  cases mode with
  | between lineStart => exact ⟨lineStart, rfl⟩
  | _ =>
      simp only [step?] at h
      repeat' split at h
      all_goals cases h

/-- Where a token begins: not at a blank, nor with what opens a comment or, at the beginning of a line, a
directive. -/
theorem step?_between_eq_none_iff {lineStart : Bool} :
    (TriviaMode.between lineStart).step? c rest = none ↔
      isBlank c = false ∧ ¬ (c = '#' ∧ lineStart = true) ∧
        ¬ (c = '/' ∧ (rest.head? = some '/' ∨ rest.head? = some '*')) := by
  simp only [step?]
  grind

/-- Whether a token that comes next has nothing but text between tokens before it on its line. -/
def atLineStart : TriviaMode → Bool
  | .between lineStart | .blockComment lineStart => lineStart
  | .lineComment | .directive | .directiveComment | .directiveLiteral _ => true

theorem atLineStart_of_step? (h : mode.step? c rest = some (more, next))
    (hmode : mode.atLineStart = true) : next.atLineStart = true := by
  cases mode <;> simp only [step?, atLineStart] at h hmode <;> grind [atLineStart]

/-- What the text between tokens leaves begins with a token. -/
theorem step?_eq_none_of_splitTrivia (h : (splitTrivia mode cs).2 = c :: rest) :
    ∃ lineStart, (mode.atLineStart = true → lineStart = true) ∧
      (TriviaMode.between lineStart).step? c rest = none := by
  fun_induction splitTrivia mode cs with
  | case1 => cases h
  | case2 mode d tail hnone =>
      cases h
      obtain ⟨lineStart, rfl⟩ := eq_between_of_step?_eq_none hnone
      exact ⟨lineStart, id, hnone⟩
  | case3 mode d tail count next hstep skipped left hsplit ih =>
      rw [hsplit] at ih
      obtain ⟨lineStart, hstart, hnone⟩ := ih h
      exact ⟨lineStart, fun hmode => hstart (atLineStart_of_step? hstep hmode), hnone⟩

end TriviaMode

/-! ## Words and marks -/

/-- After a word stands a double quote, a single quote or no quote. -/
theorem splitWord_cases (cs : List Char) :
    (∃ inside, cs.dropWhile isIdentContinue = '"' :: inside) ∨
      (∃ inside, cs.dropWhile isIdentContinue = '\'' :: inside) ∨
      ∀ c, (cs.dropWhile isIdentContinue).head? = some c → isQuote c = false := by
  by_cases hquote : ∀ c, (cs.dropWhile isIdentContinue).head? = some c → isQuote c = false
  · exact .inr (.inr hquote)
  simp only [not_forall, Bool.not_eq_false] at hquote
  obtain ⟨quote, hhead, hquote⟩ := hquote
  obtain ⟨inside, hrest⟩ := List.head?_eq_some_iff.mp hhead
  simp only [isQuote, Bool.or_eq_true, decide_eq_true_eq] at hquote
  rcases hquote with rfl | rfl
  · exact .inl ⟨inside, hrest⟩
  · exact .inr (.inl ⟨inside, hrest⟩)

section

variable {cs inside : List Char}

theorem splitWord_doubleQuote (h : cs.dropWhile isIdentContinue = '"' :: inside) :
    splitWord cs =
      if stringPrefixes.contains (String.ofList (cs.takeWhile isIdentContinue)) then
        let split := if (cs.takeWhile isIdentContinue).getLast? = some 'R' then splitRaw inside
          else splitQuoted '"' inside
        (.literal, cs.takeWhile isIdentContinue ++ '"' :: split.1, split.2)
      else (.word, cs.takeWhile isIdentContinue, '"' :: inside) := by
  simp only [splitWord, h]

theorem splitWord_singleQuote (h : cs.dropWhile isIdentContinue = '\'' :: inside) :
    splitWord cs =
      if charPrefixes.contains (String.ofList (cs.takeWhile isIdentContinue)) then
        (.literal, cs.takeWhile isIdentContinue ++ '\'' :: (splitQuoted '\'' inside).1,
          (splitQuoted '\'' inside).2)
      else (.word, cs.takeWhile isIdentContinue, '\'' :: inside) := by
  simp only [splitWord, h]

theorem splitWord_of_not_isQuote
    (h : ∀ c, (cs.dropWhile isIdentContinue).head? = some c → isQuote c = false) :
    splitWord cs = (.word, cs.takeWhile isIdentContinue, cs.dropWhile isIdentContinue) := by
  simp only [splitWord]
  split
  · rename_i inside hrest
    exact absurd (h '"' (by rw [hrest]; rfl)) (by decide)
  · rename_i inside hrest
    exact absurd (h '\'' (by rw [hrest]; rfl)) (by decide)
  · rfl

end

theorem splitWord_kind (cs : List Char) : (splitWord cs).1 = .word ∨ (splitWord cs).1 = .literal := by
  rcases splitWord_cases cs with ⟨inside, hrest⟩ | ⟨inside, hrest⟩ | hquote
  · rw [splitWord_doubleQuote hrest]
    split
    · exact .inr rfl
    · exact .inl rfl
  · rw [splitWord_singleQuote hrest]
    split
    · exact .inr rfl
    · exact .inl rfl
  · rw [splitWord_of_not_isQuote hquote]
    exact .inl rfl

/-- A word takes what continues it. -/
theorem splitWord_text {cs : List Char} (h : (splitWord cs).1 = .word) :
    (splitWord cs).2.1 = cs.takeWhile isIdentContinue := by
  rcases splitWord_cases cs with ⟨inside, hrest⟩ | ⟨inside, hrest⟩ | hquote
  · rw [splitWord_doubleQuote hrest] at h ⊢
    split at h
    · cases h
    · rename_i hliteral
      rw [if_neg hliteral]
  · rw [splitWord_singleQuote hrest] at h ⊢
    split at h
    · cases h
    · rename_i hliteral
      rw [if_neg hliteral]
  · rw [splitWord_of_not_isQuote hquote]

/-- A word ends where its text does if what follows neither continues it nor makes a literal with it. -/
theorem splitWord_of_continues {word rest : List Char} (hword : ∀ c ∈ word, isIdentContinue c = true)
    (hrest : ∀ c ∈ rest.head?, isIdentContinue c = false ∧ isQuote c = false) :
    splitWord (word ++ rest) = (.word, word, rest) := by
  have htake : (word ++ rest).takeWhile isIdentContinue = word := by
    rw [List.takeWhile_append_of_pos hword]
    cases rest <;> simp_all
  have hdrop : (word ++ rest).dropWhile isIdentContinue = rest := by
    rw [List.dropWhile_append_of_pos hword]
    cases rest <;> simp_all
  rw [splitWord_of_not_isQuote (fun c hc => (hrest c (hdrop ▸ hc)).2), htake, hdrop]

theorem splitMark_single {c d : Char} {rest : List Char} (hcolons : ¬ (c = ':' ∧ d = ':'))
    (harrow : ¬ (c = '-' ∧ d = '>')) : splitMark c (d :: rest) = ([c], d :: rest) := by
  unfold splitMark
  split
  · rename_i heq
    exact absurd ⟨rfl, (List.cons.inj heq).1⟩ hcolons
  · rename_i heq
    exact absurd ⟨rfl, (List.cons.inj heq).1⟩ harrow
  · rfl

end NameLint.Source

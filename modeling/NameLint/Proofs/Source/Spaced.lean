import NameLint.Proofs.Source.Closed
import NameLint.Proofs.Source.Lines

/-!
# Tokens with spaces between them

The texts of tokens with a space between each two. They are read as the tokens that they are, but for literals
in front of others that have no end: comments, directives and layout tell nothing that the tokens do not.
-/

namespace NameLint.Source

open NameLint.Unicode

/-- The texts of tokens with spaces between them. -/
def spaced (ts : List Token) : String := " ".intercalate (ts.map (·.text))

/-- What a token is and says, wherever it stands. -/
def Token.content (t : Token) : TokenKind × String := (t.kind, t.text)

/-- Whether a token is a literal in quotes: a string, a character or a raw string. -/
def Token.isQuotation (t : Token) : Bool :=
  t.kind == .literal && !t.text.toList.head?.any fun c => c.isDigit || c = '.'

theorem toList_spaced_cons_cons (t u : Token) (ts : List Token) :
    (spaced (t :: u :: ts)).toList = t.text.toList ++ ' ' :: (spaced (u :: ts)).toList := by
  simp [spaced]

variable {c previous : Char} {cs rest tail sep : List Char}

/-! ## Tokens in front of a space -/

theorem digitComesNext_splitNumber (h : digitComesNext rest = true) (previous : Char) :
    digitComesNext ((splitNumber previous rest).1 ++ sep) = true := by
  cases rest with
  | nil => cases h
  | cons d rest =>
      have hd : d.isDigit = true := h
      rw [splitNumber, if_pos (by simp [isAlphanum_iff.mpr (.inr hd)])]
      exact hd

section

variable (hsep : ∀ d ∈ sep.head?, d = ' ')

include hsep

theorem splitNumber_spaced (previous : Char) (cs : List Char) :
    splitNumber previous ((splitNumber previous cs).1 ++ sep) = ((splitNumber previous cs).1, sep) := by
  have hstop : ∀ previous, splitNumber previous sep = ([], sep) := fun previous => by
    cases sep with
    | nil => rfl
    | cons d sep =>
        obtain rfl := hsep d rfl
        have hspace : ' '.isAlphanum = false := by decide
        simp [splitNumber, hspace]
  fun_induction splitNumber previous cs with
  | case1 => exact hstop _
  | case2 previous c rest hc digits left hsplit ih =>
      rw [hsplit] at ih
      rw [List.cons_append, splitNumber, if_pos hc, ih]
  | case3 => exact hstop _

theorem splitWord_spaced (hword : (splitWord cs).1 = .word) :
    splitWord ((splitWord cs).2.1 ++ sep) = (.word, (splitWord cs).2.1, sep) := by
  rw [splitWord_text hword]
  refine splitWord_of_continues (fun d hd => List.mem_takeWhile_imp hd) fun d hd => ?_
  rw [hsep d hd]
  decide

theorem splitMark_spaced (htail : (splitMark c rest).1 = c :: tail) :
    splitMark c (tail ++ sep) = (c :: tail, sep) := by
  unfold splitMark at htail
  split at htail
  · cases htail
    rfl
  · cases htail
    rfl
  · obtain rfl := (List.cons.inj htail).2
    cases sep with
    | nil => 
        unfold splitMark
        split <;> simp_all
    | cons d sep =>
        obtain rfl := hsep d rfl
        exact splitMark_single (by simp) (by simp)

/-- A token that is no literal in quotes is the same in front of a space. -/
theorem splitToken_spaced (htail : (splitToken c rest).2.1 = c :: tail)
    (hplain : (splitToken c rest).1 = .literal → (c.isDigit || c = '.') = true) :
    splitToken c (tail ++ sep) = ((splitToken c rest).1, c :: tail, sep) := by
  have hblank : digitComesNext sep = false := by
    cases sep with
    | nil => rfl
    | cons d sep => rw [hsep d rfl]; rfl
  unfold splitToken at htail hplain ⊢
  by_cases hstart : isIdentStart c = true
  · simp only [if_pos hstart] at htail hplain ⊢
    have hword : (splitWord (c :: rest)).1 = .word := by
      rcases splitWord_kind (c :: rest) with hword | hliteral
      · exact hword
      · have hfirst := hplain hliteral
        rw [Bool.or_eq_true, decide_eq_true_eq] at hfirst
        rcases hfirst with hdigit | rfl
        · rw [isIdentStart_of_isDigit hdigit] at hstart
          cases hstart
        · exact absurd hstart (by decide)
    rw [← List.cons_append, ← htail, splitWord_spaced hsep hword, hword]
  simp only [if_neg hstart] at htail hplain ⊢
  by_cases hnumber : (c.isDigit || (c = '.' && digitComesNext rest)) = true
  · simp only [if_pos hnumber] at htail hplain ⊢
    obtain rfl : (splitNumber c rest).1 = tail := (List.cons.inj htail).2
    rw [if_pos, splitNumber_spaced hsep]
    rw [Bool.or_eq_true, Bool.and_eq_true] at hnumber ⊢
    exact hnumber.imp id fun hpoint => ⟨hpoint.1, digitComesNext_splitNumber hpoint.2 c⟩
  · simp only [if_neg hnumber] at htail hplain ⊢
    by_cases hquote : isQuote c = true
    · -- It would be a literal in quotes.
      have hfirst := hplain (by rw [if_pos hquote])
      simp only [isQuote, Bool.or_eq_true, decide_eq_true_eq] at hquote
      rcases hquote with rfl | rfl <;> cases hfirst
    simp only [if_neg hquote] at htail ⊢
    rw [if_neg, splitMark_spaced hsep htail]
    intro hmore
    by_cases hpoint : c = '.'
    · subst hpoint
      obtain rfl : [] = tail := (List.cons.inj htail).2
      rw [List.nil_append, hblank] at hmore
      cases hmore
    · have hdigit : c.isDigit = false := by simpa [hpoint] using hnumber
      simp [hpoint, hdigit] at hmore

end

theorem splitToken_eq_of_text {kind : TokenKind} {left : List Char}
    (hkind : (splitToken c (tail ++ left)).1 = kind)
    (htext : (splitToken c (tail ++ left)).2.1 = c :: tail) :
    splitToken c (tail ++ left) = (kind, c :: tail, left) := by
  have htoken := splitToken_append c (tail ++ left)
  rw [htext, ← List.cons_append] at htoken
  exact Prod.ext hkind (Prod.ext htext (List.append_cancel_left htoken))

/-! ## Literals in quotes in front of a space -/

/-- A literal in quotes is what its word or none and its quote take, in front of whatever it stands. -/
theorem exists_opensLiteral (hliteral : (splitToken c rest).1 = .literal)
    (hfirst : (c.isDigit || c = '.') = false) (htail : (splitToken c rest).2.1 = c :: tail) :
    ∃ word quote inside, OpensLiteral word quote ∧
      c :: tail = word ++ quote :: (splitInside word quote inside).1 ∧
      (splitToken c rest).2.2 = (splitInside word quote inside).2 ∧
      ∀ sep, splitToken c (tail ++ sep) =
        (.literal, word ++ quote :: (splitInside word quote ((splitInside word quote inside).1 ++ sep)).1,
          (splitInside word quote ((splitInside word quote inside).1 ++ sep)).2) := by
  rcases opensLiteral_of_literal hliteral with hnumber | ⟨word, quote, inside, opens, hcs⟩
  · rw [hfirst] at hnumber
    cases hnumber
  · have htoken := opens.splitToken_eq hcs
    have htext : c :: tail = word ++ quote :: (splitInside word quote inside).1 := by rw [← htail, htoken]
    refine ⟨word, quote, inside, opens, htext, by rw [htoken], fun sep => opens.splitToken_eq ?_⟩
    rw [← List.cons_append, htext, List.append_assoc, List.cons_append]

/-- A token that stands alone is the same. -/
theorem splitToken_alone (htail : (splitToken c rest).2.1 = c :: tail) :
    splitToken c tail = ((splitToken c rest).1, c :: tail, []) := by
  by_cases hquotation : (splitToken c rest).1 = .literal ∧ (c.isDigit || c = '.') = false
  · obtain ⟨hliteral, hfirst⟩ := hquotation
    obtain ⟨word, quote, inside, opens, htext, -, hmore⟩ := exists_opensLiteral hliteral hfirst htail
    have halone := hmore []
    rw [List.append_nil, List.append_nil, splitInside_alone opens, ← htext] at halone
    rw [halone, hliteral]
  · rw [not_and, Bool.not_eq_false] at hquotation
    have halone : splitToken c (tail ++ []) = _ := splitToken_spaced (by simp) htail hquotation
    rwa [List.append_nil] at halone

/-- A token in front of others is the same in front of a space exactly when it is no literal in quotes, or one
with an end. -/
theorem splitToken_space_iff (htail : (splitToken c rest).2.1 = c :: tail)
    (hleft : (splitToken c rest).2.2 ≠ []) (more : List Char) :
    splitToken c (tail ++ ' ' :: more) = ((splitToken c rest).1, c :: tail, ' ' :: more) ↔
      ((splitToken c rest).1 = .literal → (c.isDigit || c = '.') = false → EndedLiteral (c :: tail)) := by
  by_cases hquotation : (splitToken c rest).1 = .literal ∧ (c.isDigit || c = '.') = false
  · obtain ⟨hliteral, hfirst⟩ := hquotation
    obtain ⟨word, quote, inside, opens, htext, hrest, hmore⟩ := exists_opensLiteral hliteral hfirst htail
    rw [hrest] at hleft
    rw [hmore, htext, ← splitInside_blank_iff opens hleft more]
    simp [hliteral, hfirst, Prod.ext_iff]
  · rw [not_and, Bool.not_eq_false] at hquotation
    refine iff_of_true (splitToken_spaced (by simp) htail hquotation) fun hliteral hfirst => ?_
    exact absurd (hquotation hliteral) (by simp [hfirst])

/-! ## The tokens of a text with spaces between them -/

/-- A token of a text stands at the beginning of what follows there, as far as it reaches. -/
theorem step?_of_token {lineStart lineStart' : Bool}
    (hnone : (TriviaMode.between lineStart).step? c rest = none)
    (hline : lineStart' = true → lineStart = true)
    (hrest : tail <+: rest) (hsep : ∀ d ∈ sep.head?, d = ' ') :
    (TriviaMode.between lineStart').step? c (tail ++ sep) = none := by
  obtain ⟨left, rfl⟩ := hrest
  rw [TriviaMode.step?_between_eq_none_iff] at hnone ⊢
  obtain ⟨hblank, hhash, hslash⟩ := hnone
  refine ⟨hblank, fun h => hhash ⟨h.1, hline h.2⟩, fun h => hslash ⟨h.1, ?_⟩⟩
  cases tail with
  | nil =>
      cases sep with
      | nil => simp at h
      | cons d sep =>
          obtain rfl := hsep d rfl
          simp at h
  | cons d tail => exact h.2

theorem isQuotation_eq_true_iff {kind : TokenKind} {place : Position} :
    (⟨kind, String.ofList (c :: tail), place⟩ : Token).isQuotation = true ↔
      kind = .literal ∧ (c.isDigit || c = '.') = false := by
  simp [Token.isQuotation]

/-- One token in front of a space: it is read as itself if it is no literal in quotes, or one with an end, and
then the reading goes on behind the space. -/
theorem tokensFrom_space_iff {lineStart : Bool} {place : Position} {more : List Char}
    {contents : List (TokenKind × String)} (htail : (splitToken c rest).2.1 = c :: tail)
    (hleft : (splitToken c rest).2.2 ≠ [])
    (hnone : (TriviaMode.between lineStart).step? c (tail ++ ' ' :: more) = none) :
    (tokensFrom lineStart place (c :: tail ++ ' ' :: more)).map Token.content =
        ((splitToken c rest).1, String.ofList (c :: tail)) :: contents ↔
      ((splitToken c rest).1 = .literal → (c.isDigit || c = '.') = false → EndedLiteral (c :: tail)) ∧
        (tokensFrom ((c :: tail).contains '\n') ((place.after (c :: tail)).advance ' ') more).map
          Token.content = contents := by
  rw [List.cons_append, tokensFrom_of_step?_eq_none hnone, ← splitToken_space_iff htail hleft more]
  by_cases hsame : splitToken c (tail ++ ' ' :: more) = ((splitToken c rest).1, c :: tail, ' ' :: more)
  · rw [hsame, tokensFrom_blank (by decide)]
    simp [Token.content]
  · refine iff_of_false (fun hmap => hsame ?_) fun hall => hsame hall.1
    obtain ⟨hkind, htext⟩ := Prod.mk.inj (List.cons.inj hmap).1
    exact splitToken_eq_of_text hkind (String.ofList_injective htext)

/-- The tokens of a text, with spaces between them, are read as themselves exactly when all literals in quotes
have an end, but for the last token. -/
theorem tokensFrom_spaced_iff (lineStart : Bool) (place : Position) (cs : List Char) (lineStart' : Bool)
    (place' : Position) (hline : lineStart' = true → lineStart = true) :
    (tokensFrom lineStart' place' (spaced (tokensFrom lineStart place cs)).toList).map Token.content =
        (tokensFrom lineStart place cs).map Token.content ↔
      ∀ t ∈ (tokensFrom lineStart place cs).dropLast, t.isQuotation = true →
        EndedLiteral t.text.toList := by
  induction lineStart, place, cs using tokensFrom_induction generalizing lineStart' place' with
  | none lineStart place cs h =>
      rw [tokensFrom_eq_nil h]
      simp [spaced, tokensFrom_nil]
  | token lineStart place cs c rest h ih =>
      obtain ⟨start, hstart, hbegins⟩ := TriviaMode.step?_eq_none_of_splitTrivia h
      obtain ⟨tail, htail⟩ := splitToken_first c rest
      have htoken := splitToken_append c rest
      rw [htail] at htoken ih
      -- The token begins there too, since no directive may begin where none could in the text.
      have hnone : ∀ sep, (∀ d ∈ sep.head?, d = ' ') →
          (TriviaMode.between lineStart').step? c (tail ++ sep) = none := fun sep hsep =>
        step?_of_token hbegins (fun h => hstart (hline h)) ⟨_, (List.cons.inj htoken).2⟩ hsep
      rw [tokensFrom_eq_cons h, htail]
      generalize (place.after (splitTrivia (.between lineStart) cs).1).after (c :: tail) = next at ih ⊢
      cases hts : tokensFrom ((c :: tail).contains '\n') next (splitToken c rest).2.2 with
      | nil =>
          have halone := hnone [] (by simp)
          rw [List.append_nil] at halone
          simp [spaced, tokensFrom_of_step?_eq_none halone, splitToken_alone htail, tokensFrom_nil,
            Token.content]
      | cons u us =>
          have hleft : (splitToken c rest).2.2 ≠ [] := fun hnil => by
            rw [hnil, tokensFrom_nil] at hts
            cases hts
          rw [hts] at ih
          rw [toList_spaced_cons_cons, String.toList_ofList, List.map_cons, Token.content,
            tokensFrom_space_iff htail hleft (hnone _ (by simp)), ih _ _ (by simp),
            List.dropLast_cons_cons, List.forall_mem_cons, isQuotation_eq_true_iff, String.toList_ofList,
            and_imp]

/-- Every literal in quotes among the tokens is one that a word or none and a quote open, whole. -/
theorem exists_opensLiteral_of_mem (lineStart : Bool) (place : Position) (cs : List Char) {t : Token}
    (ht : t ∈ tokensFrom lineStart place cs) (hquotation : t.isQuotation = true) :
    ∃ word quote token, OpensLiteral word quote ∧ t.text.toList = word ++ quote :: token ∧
      splitInside word quote token = (token, []) := by
  induction lineStart, place, cs using tokensFrom_induction with
  | none lineStart place cs h => simp [tokensFrom_eq_nil h] at ht
  | token lineStart place cs c rest h ih =>
      rw [tokensFrom_eq_cons h] at ht
      rcases List.mem_cons.mp ht with rfl | ht
      · obtain ⟨tail, htail⟩ := splitToken_first c rest
        rw [htail, isQuotation_eq_true_iff] at hquotation
        obtain ⟨word, quote, inside, opens, htext, -, -⟩ :=
          exists_opensLiteral hquotation.1 hquotation.2 htail
        exact ⟨word, quote, _, opens, by rw [← htext, String.toList_ofList, htail],
          splitInside_alone opens inside⟩
      · exact ih ht

/-- The tokens of a text whose literals in quotes are all closed, with spaces between them, are read as
themselves exactly when none of them but the last is a word for raw strings and quotes with nothing, or nothing
but escaped backslashes, in them. -/
theorem tokens_spaced_iff (text : String)
    (hclosed : ∀ t ∈ tokens text, t.isQuotation = true → ClosedLiteral t.text.toList) :
    (tokens (spaced (tokens text))).map Token.content = (tokens text).map Token.content ↔
      ∀ t ∈ (tokens text).dropLast, t.isQuotation = true → ¬ ReadsOn t.text.toList := by
  refine (tokensFrom_spaced_iff true .start text.toList true .start id).trans ?_
  refine forall₃_congr fun t ht hquotation => ?_
  have ht : t ∈ tokens text := List.dropLast_subset _ ht
  obtain ⟨word, quote, token, opens, htext, halone⟩ :=
    exists_opensLiteral_of_mem true .start text.toList ht hquotation
  have hclosed := hclosed t ht hquotation
  rw [htext] at hclosed ⊢
  exact hclosed.ended_iff opens halone

/-- A directive, a comment and layout are left out, and there are raw strings and a number with a sign. -/
theorem tokens_spaced_directive :
    (∀ t ∈ tokens "#if 0 // c\nx->y R\"b\" R\"d(\")d\"1e+3", t.isQuotation = true →
        ClosedLiteral t.text.toList) ∧
      (∀ t ∈ (tokens "#if 0 // c\nx->y R\"b\" R\"d(\")d\"1e+3").dropLast, t.isQuotation = true →
        ¬ ReadsOn t.text.toList) ∧
      (tokens (spaced (tokens "#if 0 // c\nx->y R\"b\" R\"d(\")d\"1e+3"))).map Token.content =
        (tokens "#if 0 // c\nx->y R\"b\" R\"d(\")d\"1e+3").map Token.content := by
  have hquotations : (tokens "#if 0 // c\nx->y R\"b\" R\"d(\")d\"1e+3").filter (·.isQuotation) =
      [⟨.literal, "R\"b\"", ⟨2, 6⟩⟩, ⟨.literal, "R\"d(\")d\"", ⟨2, 11⟩⟩] := by decide +kernel
  have hmem : ∀ t ∈ tokens "#if 0 // c\nx->y R\"b\" R\"d(\")d\"1e+3", t.isQuotation = true →
      t.text = "R\"b\"" ∨ t.text = "R\"d(\")d\"" := fun t ht hquotation => by
    have hfilter := List.mem_filter.mpr ⟨ht, hquotation⟩
    rw [hquotations, List.mem_cons, List.mem_singleton] at hfilter
    exact hfilter.imp (congrArg Token.text) (congrArg Token.text)
  have hplain : QuotedText '"' ['b'] := .plain (by decide) (by decide) (by decide) .nil
  have hdelimited : DelimitedText "d(\")d\"".toList :=
    @DelimitedText.intro ['d'] ['"'] (by decide) (by decide)
  have hclosed : ∀ t ∈ tokens "#if 0 // c\nx->y R\"b\" R\"d(\")d\"1e+3", t.isQuotation = true →
      ClosedLiteral t.text.toList := fun t ht hquotation => by
    rcases hmem t ht hquotation with htext | htext
    · rw [htext]
      exact @ClosedLiteral.quoted ['R'] ['b'] '"' (.raw (by decide)) hplain (fun _ => by decide)
    · rw [htext]
      exact @ClosedLiteral.raw ['R'] _ (by decide) hdelimited
  have hreads : ∀ t ∈ (tokens "#if 0 // c\nx->y R\"b\" R\"d(\")d\"1e+3").dropLast,
      t.isQuotation = true → ¬ ReadsOn t.text.toList := fun t ht hquotation => by
    rcases hmem t (List.dropLast_subset _ ht) hquotation with htext | htext
    · rw [htext]
      exact (@EndedLiteral.undelimited ['R'] [] 'b' (by decide) (by decide) .nil).not_readsOn
    · rw [htext]
      exact (@EndedLiteral.delimited ['R'] _ (by decide) hdelimited).not_readsOn
  exact ⟨hclosed, hreads, (tokens_spaced_iff _ hclosed).mpr hreads⟩

/-- A word for raw strings with empty quotes ends with its line, but not in front of a space. -/
theorem tokens_spaced_empty_quotes :
    (∀ t ∈ tokens "R\"\"\nint x;", t.isQuotation = true → ClosedLiteral t.text.toList) ∧
      (tokens "R\"\"\nint x;").map Token.content =
        [(.literal, "R\"\""), (.word, "int"), (.word, "x"), (.mark, ";")] ∧
      (tokens (spaced (tokens "R\"\"\nint x;"))).map Token.content =
        [(.literal, "R\"\" int x ;")] := by
  refine ⟨fun t ht hquotation => ?_, by decide +kernel, by decide +kernel⟩
  have hquotations : (tokens "R\"\"\nint x;").filter (·.isQuotation) =
      [⟨.literal, "R\"\"", ⟨1, 1⟩⟩] := by decide +kernel
  have hfilter := List.mem_filter.mpr ⟨ht, hquotation⟩
  rw [hquotations, List.mem_singleton] at hfilter
  rw [hfilter]
  exact @ClosedLiteral.quoted ['R'] [] '"' (.raw (by decide)) .nil (fun _ => by decide)

end NameLint.Source

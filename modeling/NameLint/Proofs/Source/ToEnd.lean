import NameLint.Proofs.Source.Cut

/-!
# Splits that run to the end of a text

A split that leaves nothing of a text takes all of it also when the text goes on, and perhaps more. So
behind the last token of a text that goes on come only tokens of what has been put behind it.
-/

namespace NameLint.Source

open NameLint.Unicode

variable {c quote previous : Char} {cs rest mark : List Char}

/-! ## Literals -/

theorem splitQuoted_suffix (quote : Char) (cs : List Char) : (splitQuoted quote cs).2 <:+ cs :=
  ⟨_, splitQuoted_append quote cs⟩

theorem splitQuoted_toEnd (h : (splitQuoted quote cs).2 = []) (more : List Char) :
    (splitQuoted quote (cs ++ more)).2 <:+ more := by
  fun_induction splitQuoted quote cs with
  | case1 => exact splitQuoted_suffix quote more
  | case2 => cases h
  | case3 =>
      cases more with
      | nil => simp [splitQuoted]
      | cons d more =>
          rw [List.singleton_append, splitQuoted_backslash]
          exact (splitQuoted_suffix quote more).trans (List.suffix_cons d more)
  | case4 d rest inner left hsplit _ ih =>
      rw [hsplit] at ih
      rw [List.cons_append, List.cons_append, splitQuoted_backslash]
      exact ih h
  | case5 rest hfeed hback =>
      obtain rfl : rest = [] := h
      rewrite [List.singleton_append, splitQuoted_quote _ hfeed hback]
      exact List.suffix_rfl
  | case6 d rest hfeed hback hd inner left hsplit ih =>
      rw [hsplit] at ih
      rw [List.cons_append, splitQuoted_cons _ hfeed hback hd]
      exact ih h

theorem splitThrough_suffix (mark cs : List Char) : (splitThrough mark cs).2 <:+ cs :=
  ⟨_, splitThrough_append mark cs⟩

theorem splitThrough_toEnd (hmark : mark ≠ []) (h : (splitThrough mark cs).2 = [])
    (more : List Char) : (splitThrough mark (cs ++ more)).2 <:+ more := by
  fun_induction splitThrough mark cs with
  | case1 => exact splitThrough_suffix mark more
  | case2 c rest hstart =>
      have hlength := (List.isPrefixOf_iff_prefix.mp hstart).length_le
      have hend : (c :: rest).length ≤ mark.length := by simpa using h
      rw [splitThrough_of_isPrefixOf hmark
        ((isPrefixOf_append_of_length_le hlength more).trans hstart)]
      rw [List.splitAt_eq, List.drop_append, List.drop_of_length_le hend,
        Nat.sub_eq_zero_of_le hlength]
      exact List.suffix_rfl
  | case3 c rest hstart before left hsplit ih =>
      rw [hsplit] at ih
      cases hmore : mark.isPrefixOf (c :: rest ++ more) with
      | false =>
          rw [List.cons_append] at hmore ⊢
          rw [splitThrough_cons hmore]
          exact ih h
      | true =>
          -- The mark begins in the text and ends behind it.
          have hlt : (c :: rest).length ≤ mark.length := by
            by_contra hle
            rw [isPrefixOf_append_of_length_le (by omega)] at hmore
            exact hstart hmore
          rw [splitThrough_of_isPrefixOf hmark hmore, List.splitAt_eq, List.drop_append,
            List.drop_of_length_le hlt, List.nil_append]
          exact List.drop_suffix _ _

theorem splitRaw_suffix (cs : List Char) : (splitRaw cs).2 <:+ cs := ⟨_, splitRaw_append cs⟩

theorem splitRaw_toEnd (h : (splitRaw cs).2 = []) (more : List Char) :
    (splitRaw (cs ++ more)).2 <:+ more := by
  cases hraw : rawDelimiter? cs with
  | some delimiter =>
      obtain ⟨-, body, rfl⟩ := rawDelimiter?_eq_some hraw
      have hmore : rawDelimiter? (delimiter ++ '(' :: body ++ more) = _ := rawDelimiter?_more (by simp) more
      rw [hraw] at hmore
      rw [splitRaw_of_delimiter hraw] at h
      rw [List.append_assoc, List.cons_append] at hmore ⊢
      rw [splitRaw_of_delimiter hmore]
      exact splitThrough_toEnd (by simp) h more
  | none =>
      cases hmore : rawDelimiter? (cs ++ more) with
      | some delimiter =>
          -- Its parenthesis stands behind the text.
          have hparen : '(' ∉ cs := fun hmem => by
            rw [rawDelimiter?_more hmem, hraw] at hmore
            cases hmore
          obtain ⟨-, body, hbody⟩ := rawDelimiter?_eq_some hmore
          have hlength : cs.length ≤ delimiter.length := by
            by_contra hlt
            have happend : (cs ++ more)[delimiter.length]? = cs[delimiter.length]? :=
              List.getElem?_append_left (by omega)
            rw [hbody, List.getElem?_append_right (Nat.le_refl _), Nat.sub_self] at happend
            exact hparen (List.mem_of_getElem? happend.symm)
          have hall := congrArg List.length hbody
          simp only [List.length_append, List.length_cons] at hall
          have hbodySuffix : body <:+ cs ++ more := ⟨delimiter ++ ['('], by rw [hbody]; simp⟩
          have hsuffix : body <:+ more :=
            List.suffix_of_suffix_length_le hbodySuffix (List.suffix_append cs more) (by omega)
          rw [hbody] at hmore ⊢
          rw [splitRaw_of_delimiter hmore]
          exact (splitThrough_suffix _ body).trans hsuffix
      | none =>
          cases cs with
          | nil => exact splitRaw_suffix more
          | cons c rest =>
              simp only [splitRaw, hraw] at h
              rw [List.cons_append] at hmore ⊢
              simp only [splitRaw, hmore]
              exact splitQuoted_toEnd h more

theorem splitNumber_toEnd (h : (splitNumber previous cs).2 = []) (more : List Char) :
    (splitNumber previous (cs ++ more)).2 <:+ more := by
  fun_induction splitNumber previous cs with
  | case1 previous => exact ⟨_, splitNumber_append previous more⟩
  | case2 previous c rest hc digits left hsplit ih =>
      rw [hsplit] at ih
      rw [List.cons_append, splitNumber, if_pos hc]
      exact ih h
  | case3 => cases h

/-! ## Tokens -/

/-- What a word leaves begins behind its last character. -/
theorem splitWord_suffix (cs : List Char) : (splitWord cs).2.2 <:+ cs.dropWhile isIdentContinue := by
  rcases splitWord_cases cs with ⟨inside, hrest⟩ | ⟨inside, hrest⟩ | hquote
  · rw [splitWord_doubleQuote hrest, hrest]
    split
    · split
      · exact (splitRaw_suffix inside).trans (List.suffix_cons _ _)
      · exact (splitQuoted_suffix _ inside).trans (List.suffix_cons _ _)
    · exact List.suffix_rfl
  · rw [splitWord_singleQuote hrest, hrest]
    split
    · exact (splitQuoted_suffix _ inside).trans (List.suffix_cons _ _)
    · exact List.suffix_rfl
  · rewrite [splitWord_of_not_isQuote hquote]
    exact List.suffix_rfl

theorem splitWord_toEnd (h : (splitWord cs).2.2 = []) (more : List Char) :
    (splitWord (cs ++ more)).2.2 <:+ more := by
  cases hleft : cs.dropWhile isIdentContinue with
  | nil =>
      have hdrop : (cs ++ more).dropWhile isIdentContinue = more.dropWhile isIdentContinue := by
        simp [List.dropWhile_append, hleft]
      exact (hdrop ▸ splitWord_suffix (cs ++ more)).trans (List.dropWhile_suffix _)
  | cons d inside =>
      -- The word is settled, so a literal begins behind it and runs to the end.
      have hword : ∀ c ∈ cs.takeWhile isIdentContinue, isIdentContinue c = true := fun c hc =>
        List.mem_takeWhile_imp hc
      have hd : isIdentContinue d = false := by
        simpa [hleft] using List.head?_dropWhile_not isIdentContinue cs
      have hcs : cs ++ more = cs.takeWhile isIdentContinue ++ d :: (inside ++ more) := by
        conv => lhs; rw [← cs.takeWhile_append_dropWhile (p := isIdentContinue), hleft]
        simp
      have htake : (cs ++ more).takeWhile isIdentContinue = cs.takeWhile isIdentContinue := by
        rw [hcs, List.takeWhile_append_of_pos hword]
        simp [hd]
      have hdrop : (cs ++ more).dropWhile isIdentContinue = d :: (inside ++ more) := by
        rw [hcs, List.dropWhile_append_of_pos hword]
        simp [hd]
      rcases splitWord_cases cs with ⟨inside', hrest⟩ | ⟨inside', hrest⟩ | hquote
      · obtain ⟨rfl, rfl⟩ := List.cons.inj (hleft.symm.trans hrest)
        rw [splitWord_doubleQuote hleft] at h
        rw [splitWord_doubleQuote hdrop, htake]
        split at h
        · rename_i hliteral
          rw [if_pos hliteral]
          split at h
          · rename_i hlast
            simp only [hlast, if_true]
            exact splitRaw_toEnd h more
          · rename_i hlast
            simp only [hlast, if_false]
            exact splitQuoted_toEnd h more
        · cases h
      · obtain ⟨rfl, rfl⟩ := List.cons.inj (hleft.symm.trans hrest)
        rw [splitWord_singleQuote hleft] at h
        rw [splitWord_singleQuote hdrop, htake]
        split at h
        · rename_i hliteral
          rw [if_pos hliteral]
          exact splitQuoted_toEnd h more
        · cases h
      · rw [splitWord_of_not_isQuote hquote, hleft] at h
        cases h

theorem splitMark_toEnd (h : (splitMark c rest).2 = []) (more : List Char) :
    (splitMark c (rest ++ more)).2 <:+ more := by
  have hsuffix : ∀ ds, (splitMark c ds).2 <:+ ds := fun ds => by
    unfold splitMark
    split
    · exact List.suffix_cons _ _
    · exact List.suffix_cons _ _
    · exact List.suffix_rfl
  cases rest with
  | nil => exact hsuffix more
  | cons d rest =>
      by_cases hcolons : c = ':' ∧ d = ':'
      · obtain ⟨rfl, rfl⟩ := hcolons
        obtain rfl : rest = [] := h
        exact List.suffix_rfl
      by_cases harrow : c = '-' ∧ d = '>'
      · obtain ⟨rfl, rfl⟩ := harrow
        obtain rfl : rest = [] := h
        exact List.suffix_rfl
      rw [splitMark_single hcolons harrow] at h
      cases h

theorem splitToken_toEnd (h : (splitToken c rest).2.2 = []) (more : List Char) :
    (splitToken c (rest ++ more)).2.2 <:+ more := by
  unfold splitToken at h ⊢
  split at h
  · rename_i hstart
    rw [if_pos hstart, ← List.cons_append]
    exact splitWord_toEnd h more
  rename_i hstart
  rw [if_neg hstart]
  split at h
  · rename_i hnumber
    have hmore : (c.isDigit || (c = '.' && digitComesNext (rest ++ more))) = true := by
      cases rest with
      | nil =>
          simp only [digitComesNext, Bool.and_false, Bool.or_false] at hnumber
          simp [hnumber]
      | cons d rest => exact hnumber
    rw [if_pos hmore]
    exact splitNumber_toEnd h more
  rename_i hnumber
  split at h
  · rename_i hquote
    have hpoint : c ≠ '.' := fun hc => by simp [hc, isQuote] at hquote
    have hdigit : ¬ (c.isDigit || (c = '.' && digitComesNext (rest ++ more))) = true := by
      simpa [hpoint] using hnumber
    rw [if_neg hdigit, if_pos hquote]
    exact splitQuoted_toEnd h more
  · rename_i hquote
    split
    · -- A point at the end of the text that the digits behind it make a number.
      cases rest with
      | nil => exact ⟨_, splitNumber_append c more⟩
      | cons d rest => exact absurd ‹_› hnumber
    · exact splitMark_toEnd h more

/-! ## Text between tokens -/

theorem splitTrivia_suffix (mode : TriviaMode) (cs : List Char) : (splitTrivia mode cs).2 <:+ cs :=
  ⟨_, splitTrivia_append mode cs⟩

/-- Where the text between tokens goes on it does so whatever stands behind. -/
theorem TriviaMode.step?_isSome_more {mode next : TriviaMode} {count : Nat}
    (h : mode.step? c rest = some (count, next)) (more : List Char) :
    (mode.step? c (rest ++ more)).isSome = true := by
  cases hmore : mode.step? c (rest ++ more) with
  | some _ => rfl
  | none =>
      obtain ⟨lineStart, rfl⟩ := eq_between_of_step?_eq_none hmore
      have hnone : (TriviaMode.between lineStart).step? c rest = none := by
        rw [step?_between_eq_none_iff] at hmore ⊢
        refine ⟨hmore.1, hmore.2.1, fun hopens => hmore.2.2 ?_⟩
        cases rest with
        | nil => simp at hopens
        | cons d rest => exact hopens
      rw [hnone] at h
      cases h

theorem splitTrivia_toEnd {mode : TriviaMode} (h : (splitTrivia mode cs).2 = [])
    (more : List Char) : (splitTrivia mode (cs ++ more)).2 <:+ more := by
  fun_induction splitTrivia mode cs with
  | case1 mode => exact splitTrivia_suffix mode more
  | case2 => cases h
  | case3 mode c rest count next hstep skipped left hsplit ih =>
      rw [hsplit] at ih
      obtain ⟨⟨count', next'⟩, hmore⟩ :=
        Option.isSome_iff_exists.mp (TriviaMode.step?_isSome_more hstep more)
      rw [List.cons_append, splitTrivia, hmore]
      by_cases hbeyond : rest.length ≤ count'
      · -- The step looks or goes beyond the text.
        refine (splitTrivia_suffix next' _).trans ?_
        rw [List.drop_append, List.drop_of_length_le hbeyond, List.nil_append]
        exact List.drop_suffix _ _
      have hsame : mode.step? c (rest ++ more) = mode.step? c rest := by
        by_cases hreturn : mode = .directive ∧ c = '\\' ∧ rest = ['\r']
        · obtain ⟨rfl, rfl, rfl⟩ := hreturn
          obtain rfl : count' = 0 := by simpa using hbeyond
          cases more with
          | nil => rfl
          | cons d more =>
              by_cases hd : d = '\n'
              · subst hd
                cases (rfl : _ = some (2, TriviaMode.directive)).symm.trans hmore
              · simp [TriviaMode.step?, List.isPrefixOf, Ne.symm hd, isQuote]
        · refine TriviaMode.step?_more mode (fun hnil => hbeyond (by simp [hnil])) ?_ more
          exact fun hmode hc hrest => hreturn ⟨hmode, hc, hrest⟩
      obtain ⟨rfl, rfl⟩ : count = count' ∧ next = next' := by
        simpa [hstep] using hsame.symm.trans hmore
      have hdrop : (rest ++ more).drop count = rest.drop count ++ more :=
        List.drop_append_of_le_length (by omega)
      simp only [hdrop]
      exact ih h

/-- What the text between tokens leaves does not go on as such. -/
theorem splitTrivia_between_of_eq_cons {mode : TriviaMode}
    (h : (splitTrivia mode cs).2 = c :: rest) :
    ∃ lineStart, splitTrivia (.between lineStart) (c :: rest) = ([], c :: rest) := by
  obtain ⟨lineStart, -, hnone⟩ := TriviaMode.step?_eq_none_of_splitTrivia h
  exact ⟨lineStart, by rw [splitTrivia, hnone]⟩

/-! ## The tokens behind a text -/

theorem tokensFrom_nil (lineStart : Bool) (place : Position) : tokensFrom lineStart place [] = [] :=
  tokensFrom_eq_nil (by rw [splitTrivia])

/-- The tokens of a text are those of what the text between tokens leaves of it. -/
theorem tokensFrom_eq_of_splitTrivia (lineStart : Bool) (place : Position) (cs : List Char) :
    ∃ lineStart' place', tokensFrom lineStart place cs =
      tokensFrom lineStart' place' (splitTrivia (.between lineStart) cs).2 := by
  cases hsplit : (splitTrivia (.between lineStart) cs).2 with
  | nil => exact ⟨lineStart, place, by rw [tokensFrom_eq_nil hsplit, tokensFrom_nil]⟩
  | cons c rest =>
      obtain ⟨lineStart', hstay⟩ := splitTrivia_between_of_eq_cons hsplit
      have hnext : (splitTrivia (.between lineStart') (c :: rest)).2 = c :: rest := by rw [hstay]
      refine ⟨lineStart', place.after (splitTrivia (.between lineStart) cs).1, ?_⟩
      rw [tokensFrom_eq_cons hsplit, tokensFrom_eq_cons hnext, hstay]
      rfl

/-- When a text goes on in a new line, its last token may change, without becoming a brace or a semicolon,
and all tokens behind it are tokens of an end of what has been put there. -/
theorem tokensFrom_newLine (more : List Char) (lineStart : Bool) (place : Position)
    (cs : List Char) :
    ∃ before last last' lineStart' place' rest,
      tokensFrom lineStart place cs = before ++ last ∧
      tokensFrom lineStart place (cs ++ '\n' :: more) =
        before ++ last' ++ tokensFrom lineStart' place' rest ∧
      rest <:+ '\n' :: more ∧ last.all (·.isQuiet) = true ∧ last'.all (·.isQuiet) = true := by
  induction lineStart, place, cs using tokensFrom_induction with
  | none lineStart place cs h =>
      obtain ⟨lineStart', place', hmore⟩ :=
        tokensFrom_eq_of_splitTrivia lineStart place (cs ++ '\n' :: more)
      exact ⟨[], [], [], lineStart', place', _, tokensFrom_eq_nil h, hmore,
        splitTrivia_toEnd h ('\n' :: more), rfl, rfl⟩
  | token lineStart place cs c rest h ih =>
      by_cases hleft : (splitToken c rest).2.2 = []
      · have htrivia : splitTrivia (.between lineStart) (cs ++ '\n' :: more) = (_, c :: rest ++ '\n' :: more) :=
          splitTrivia_more h fun _ => .inr rfl
        have hmore : (splitTrivia (.between lineStart) (cs ++ '\n' :: more)).2 =
            c :: (rest ++ '\n' :: more) := by rw [htrivia, List.cons_append]
        have hsuffix := splitToken_toEnd hleft ('\n' :: more)
        rw [tokensFrom_eq_cons h, tokensFrom_eq_cons hmore, hleft, tokensFrom_nil, htrivia]
        by_cases hmark : c ∈ [';', '\x7b', '\x7d']
        · simp only [splitToken_of_mem hmark] at hsuffix ⊢
          exact ⟨[_], [], [], _, _, _, rfl, rfl, hsuffix, rfl, rfl⟩
        · obtain ⟨tail, htail⟩ := splitToken_first c rest
          obtain ⟨tail', htail'⟩ := splitToken_first c (rest ++ '\n' :: more)
          refine ⟨[], [_], [_], _, _, _, rfl, rfl, hsuffix, ?_, ?_⟩
          · rw [htail]
            simpa using isQuiet_of_first hmark
          · rw [htail']
            simpa using isQuiet_of_first hmark
      · obtain ⟨before, last, last', lineStart', place', rest', hts, hmore, hrest⟩ := ih
        rw [tokensFrom_eq_cons h, tokensFrom_cons_more h hleft, hts, hmore]
        exact ⟨_ :: before, last, last', lineStart', place', rest', rfl, rfl, hrest⟩

end NameLint.Source

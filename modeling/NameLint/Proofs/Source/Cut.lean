import NameLint.Proofs.Source.Place
import NameLint.Proofs.Source.Split

/-!
# Texts that are cut

What a split takes is settled as soon as it leaves something: then more text behind changes nothing. So in a
text that goes on behind a cut all tokens in front of it stay as they are but for the last, and that one is
then neither a brace nor a semicolon.
-/

namespace NameLint.Source

open NameLint.Unicode

variable {c quote previous : Char} {cs rest mark : List Char}

/-! ## Literals -/

theorem splitQuoted_more (h : (splitQuoted quote cs).2 ≠ []) (more : List Char) :
    splitQuoted quote (cs ++ more) = ((splitQuoted quote cs).1, (splitQuoted quote cs).2 ++ more) := by
  fun_induction splitQuoted quote cs with
  | case1 => exact absurd rfl h
  | case2 rest => rw [List.cons_append, splitQuoted_lineFeed]
  | case3 => exact absurd rfl h
  | case4 d rest inner left hsplit _ ih =>
      rw [hsplit] at ih
      rw [List.cons_append, List.cons_append, splitQuoted_backslash, ih h]
  | case5 rest hfeed hback => rw [List.cons_append, splitQuoted_quote _ hfeed hback]
  | case6 d rest hfeed hback hd inner left hsplit ih =>
      rw [hsplit] at ih
      rw [List.cons_append, splitQuoted_cons _ hfeed hback hd, ih h]

/-- Without a quote and a line end a literal runs to the end of the text. -/
theorem splitQuoted_of_not_mem (hfeed : '\n' ∉ cs) (hquote : quote ∉ cs) :
    (splitQuoted quote cs).2 = [] := by
  fun_induction splitQuoted quote cs with
  | case1 => rfl
  | case2 => simp at hfeed
  | case3 => rfl
  | case4 d rest inner left hsplit _ ih =>
      simp only [List.mem_cons, not_or] at hfeed hquote
      simpa [hsplit] using ih hfeed.2.2 hquote.2.2
  | case5 => simp at hquote
  | case6 d rest _ _ _ inner left hsplit ih =>
      simp only [List.mem_cons, not_or] at hfeed hquote
      simpa [hsplit] using ih hfeed.2 hquote.2

theorem length_lt_of_splitThrough (h : (splitThrough mark cs).2 ≠ []) : mark.length < cs.length := by
  fun_induction splitThrough mark cs with
  | case1 => exact absurd rfl h
  | case2 c rest _ => simpa using h
  | case3 c rest _ before left hsplit ih =>
      rw [hsplit] at ih
      exact Nat.lt_succ_of_lt (ih h)

theorem isPrefixOf_append_of_length_le (h : mark.length ≤ cs.length) (more : List Char) :
    mark.isPrefixOf (cs ++ more) = mark.isPrefixOf cs := by
  rw [Bool.eq_iff_iff, List.isPrefixOf_iff_prefix, List.isPrefixOf_iff_prefix]
  exact ⟨fun hpre => List.prefix_of_prefix_length_le hpre (List.prefix_append cs more) h,
    fun hpre => hpre.trans (List.prefix_append cs more)⟩

theorem splitThrough_more (hmark : mark ≠ []) (h : (splitThrough mark cs).2 ≠ [])
    (more : List Char) :
    splitThrough mark (cs ++ more) =
      ((splitThrough mark cs).1, (splitThrough mark cs).2 ++ more) := by
  fun_induction splitThrough mark cs with
  | case1 => exact absurd rfl h
  | case2 c rest hstart =>
      have hle : mark.length ≤ (c :: rest).length :=
        (List.isPrefixOf_iff_prefix.mp hstart).length_le
      rw [splitThrough_of_isPrefixOf hmark
        ((isPrefixOf_append_of_length_le hle more).trans hstart)]
      simp only [List.splitAt_eq, List.take_append_of_le_length hle,
        List.drop_append_of_le_length hle]
  | case3 c rest hstart before left hsplit ih =>
      rw [hsplit] at ih
      have hlt : mark.length < rest.length := length_lt_of_splitThrough (by rw [hsplit]; exact h)
      have hno : mark.isPrefixOf (c :: rest ++ more) = false := by
        rw [isPrefixOf_append_of_length_le (Nat.le_succ_of_le (Nat.le_of_lt hlt))]
        exact Bool.not_eq_true _ ▸ hstart
      rw [List.cons_append] at hno ⊢
      rw [splitThrough_cons hno, ih h]

/-- The delimiter of a raw string is settled as soon as its parenthesis is there. -/
theorem rawDelimiter?_more (h : '(' ∈ cs) (more : List Char) :
    rawDelimiter? (cs ++ more) = rawDelimiter? cs := by
  obtain ⟨before, after, rfl, hbefore⟩ := List.eq_append_cons_of_mem h
  have hall : ∀ c ∈ before, (c != '(') = true := fun c hc =>
    bne_iff_ne.mpr (ne_of_mem_of_not_mem hc hbefore)
  have htake : ∀ after, (before ++ '(' :: after).takeWhile (· != '(') = before := fun after => by
    simp [List.takeWhile_append_of_pos hall]
  simp only [rawDelimiter?, List.append_assoc, List.cons_append, htake]
  simp

/-- A text without a parenthesis that more text makes the beginning of a raw string has neither a quote nor
a blank in it. -/
theorem plain_of_rawDelimiter? {more delimiter : List Char} (hparen : '(' ∉ cs)
    (h : rawDelimiter? (cs ++ more) = some delimiter) : ∀ c ∈ cs, isBlank c = false ∧ c ≠ '"' := by
  have hall : ∀ c ∈ cs, (c != '(') = true := fun c hc =>
    bne_iff_ne.mpr (ne_of_mem_of_not_mem hc hparen)
  simp only [rawDelimiter?, List.takeWhile_append_of_pos hall, List.all_append,
    Bool.and_eq_true] at h
  split at h
  · rename_i hok
    simpa using hok.2.2.1
  · cases h

/-- What begins no raw string behind a quote or a blank begins none whatever follows. -/
theorem rawDelimiter?_none_more (h : rawDelimiter? cs = none) (hstop : ∃ c ∈ cs, isBlank c = true ∨ c = '"')
    (more : List Char) : rawDelimiter? (cs ++ more) = none := by
  by_cases hparen : '(' ∈ cs
  · rw [rawDelimiter?_more hparen, h]
  cases hsome : rawDelimiter? (cs ++ more) with
  | none => rfl
  | some delimiter =>
      obtain ⟨c, hc, hstop⟩ := hstop
      obtain ⟨hplain, hquote⟩ := plain_of_rawDelimiter? hparen hsome c hc
      rcases hstop with hblank | hstop
      · exact absurd (hblank.symm.trans hplain) (by decide)
      · exact absurd hstop hquote

theorem splitRaw_more (h : (splitRaw cs).2 ≠ []) (more : List Char) :
    splitRaw (cs ++ more) = ((splitRaw cs).1, (splitRaw cs).2 ++ more) := by
  cases hraw : rawDelimiter? cs with
  | some delimiter =>
      obtain ⟨-, body, rfl⟩ := rawDelimiter?_eq_some hraw
      have hmore : rawDelimiter? (delimiter ++ '(' :: body ++ more) = _ := rawDelimiter?_more (by simp) more
      rw [hraw, List.append_assoc, List.cons_append] at hmore
      rw [splitRaw_of_delimiter hraw] at h ⊢
      rw [List.append_assoc, List.cons_append, splitRaw_of_delimiter hmore,
        splitThrough_more (by simp) h more]
  | none =>
      cases cs with
      | nil => simp [splitRaw, hraw] at h
      | cons c rest =>
          rw [splitRaw_of_none hraw] at h ⊢
          have hstop : ∃ d ∈ c :: rest, isBlank d = true ∨ d = '"' := by
            -- Otherwise the literal would run to the end of the text in front of the cut.
            by_contra hplain
            simp only [not_exists, not_and, not_or] at hplain
            exact h (splitQuoted_of_not_mem (fun hfeed => (hplain _ (List.mem_cons_of_mem c hfeed)).1 rfl)
              fun hquote => (hplain _ (List.mem_cons_of_mem c hquote)).2 rfl)
          have hmore := rawDelimiter?_none_more hraw hstop more
          rw [List.cons_append] at hmore ⊢
          rw [splitRaw_of_none hmore, splitQuoted_more h]

theorem splitNumber_more (h : (splitNumber previous cs).2 ≠ []) (more : List Char) :
    splitNumber previous (cs ++ more) =
      ((splitNumber previous cs).1, (splitNumber previous cs).2 ++ more) := by
  fun_induction splitNumber previous cs with
  | case1 => exact absurd rfl h
  | case2 previous c rest hc digits left hsplit ih =>
      rw [hsplit] at ih
      rw [List.cons_append, splitNumber, if_pos hc, ih h]
  | case3 previous c rest hc => rw [List.cons_append, splitNumber, if_neg hc]

/-! ## Tokens -/

theorem splitWord_more (h : (splitWord cs).2.2 ≠ []) (more : List Char) :
    splitWord (cs ++ more) = ((splitWord cs).1, (splitWord cs).2.1, (splitWord cs).2.2 ++ more) := by
  have hleft : cs.dropWhile isIdentContinue ≠ [] := by
    intro hnil
    have hnone : ∀ c, (cs.dropWhile isIdentContinue).head? = some c → isQuote c = false := by
      simp [hnil]
    rw [splitWord_of_not_isQuote hnone] at h
    exact h hnil
  have htake : (cs ++ more).takeWhile isIdentContinue = cs.takeWhile isIdentContinue := by
    rw [List.takeWhile_append, if_neg]
    intro hlength
    have hcs := congrArg List.length (cs.takeWhile_append_dropWhile (p := isIdentContinue))
    rw [List.length_append, hlength] at hcs
    exact hleft (List.length_eq_zero_iff.mp (by omega))
  have hdrop : (cs ++ more).dropWhile isIdentContinue = cs.dropWhile isIdentContinue ++ more := by
    rw [List.dropWhile_append, if_neg (by simpa using hleft)]
  rcases splitWord_cases cs with ⟨inside, hrest⟩ | ⟨inside, hrest⟩ | hquote
  · have hrest' : (cs ++ more).dropWhile isIdentContinue = '"' :: (inside ++ more) := by
      rw [hdrop, hrest, List.cons_append]
    rw [splitWord_doubleQuote hrest] at h ⊢
    rw [splitWord_doubleQuote hrest', htake]
    split
    · rename_i hliteral
      rw [if_pos hliteral] at h
      split
      · rename_i hlast
        simp only [hlast, if_true] at h
        simp only [splitRaw_more h]
      · rename_i hlast
        simp only [hlast, if_false] at h
        simp only [splitQuoted_more h]
    · rfl
  · have hrest' : (cs ++ more).dropWhile isIdentContinue = '\'' :: (inside ++ more) := by
      rw [hdrop, hrest, List.cons_append]
    rw [splitWord_singleQuote hrest] at h ⊢
    rw [splitWord_singleQuote hrest', htake]
    split
    · rename_i hliteral
      rw [if_pos hliteral] at h
      simp only [splitQuoted_more h]
    · rfl
  · rw [splitWord_of_not_isQuote hquote, splitWord_of_not_isQuote, htake, hdrop]
    intro c hc
    obtain ⟨d, tail, hd⟩ := List.exists_cons_of_ne_nil hleft
    rw [hdrop, hd] at hc
    exact hquote c (hd ▸ hc)

theorem splitMark_more (h : (splitMark c rest).2 ≠ []) (more : List Char) :
    splitMark c (rest ++ more) = ((splitMark c rest).1, (splitMark c rest).2 ++ more) := by
  cases rest with
  | nil =>
      have hnil : (splitMark c []).2 = [] := by
        unfold splitMark
        split <;> simp_all
      exact absurd hnil h
  | cons d rest =>
      rw [List.cons_append]
      by_cases hcolons : c = ':' ∧ d = ':'
      · obtain ⟨rfl, rfl⟩ := hcolons
        rfl
      by_cases harrow : c = '-' ∧ d = '>'
      · obtain ⟨rfl, rfl⟩ := harrow
        rfl
      rw [splitMark_single hcolons harrow, splitMark_single hcolons harrow, List.cons_append]

theorem splitToken_more (h : (splitToken c rest).2.2 ≠ []) (more : List Char) :
    splitToken c (rest ++ more) =
      ((splitToken c rest).1, (splitToken c rest).2.1, (splitToken c rest).2.2 ++ more) := by
  have hdigit : (c.isDigit || (c = '.' && digitComesNext (rest ++ more))) =
      (c.isDigit || (c = '.' && digitComesNext rest)) := by
    cases rest with
    | cons d rest => rfl
    | nil =>
        by_cases hpoint : c = '.'
        · subst hpoint
          exact absurd (by decide) h
        · simp [hpoint]
  unfold splitToken at h ⊢
  rw [hdigit]
  split at h
  · rename_i hstart
    rw [if_pos hstart, if_pos hstart, ← List.cons_append]
    exact splitWord_more h more
  rename_i hstart
  rw [if_neg hstart, if_neg hstart]
  split at h
  · rename_i hnumber
    rw [if_pos hnumber, if_pos hnumber]
    simp only [splitNumber_more h]
  rename_i hnumber
  rw [if_neg hnumber, if_neg hnumber]
  split at h
  · rename_i hquote
    rw [if_pos hquote, if_pos hquote]
    simp only [splitQuoted_more h]
  · rename_i hquote
    rw [if_neg hquote, if_neg hquote]
    simp only [splitMark_more h]

/-! ## Text between tokens -/

/-- A step looks ahead to the next character, and behind a backslash in a directive to the one after it
too. -/
theorem TriviaMode.step?_more (mode : TriviaMode) (hrest : rest ≠ [])
    (hreturn : mode = .directive → c = '\\' → rest ≠ ['\r']) (more : List Char) :
    mode.step? c (rest ++ more) = mode.step? c rest := by
  obtain ⟨d, tail, rfl⟩ := List.exists_cons_of_ne_nil hrest
  have hhead : (d :: tail ++ more).head? = (d :: tail).head? := rfl
  cases mode with
  | directive =>
      have hprefix : (c = '\\' ∧ ['\r', '\n'].isPrefixOf (d :: tail ++ more)) ↔
          (c = '\\' ∧ ['\r', '\n'].isPrefixOf (d :: tail)) := by
        refine and_congr_right fun hback => ?_
        cases tail with
        | nil =>
            have hd : d ≠ '\r' := fun hd => hreturn rfl hback (by rw [hd])
            simp [List.isPrefixOf, beq_false_of_ne hd.symm]
        | cons e tail => simp [List.isPrefixOf]
      simp only [step?, hhead, hprefix]
  | _ => simp only [step?, hhead]

theorem TriviaMode.step?_none_more {mode : TriviaMode} {more : List Char}
    (h : mode.step? c rest = none) (hslash : c = '/' → rest ≠ [] ∨ more.head? = some '\n') :
    mode.step? c (rest ++ more) = none := by
  obtain ⟨lineStart, rfl⟩ := eq_between_of_step?_eq_none h
  rw [step?_between_eq_none_iff] at h ⊢
  refine ⟨h.1, h.2.1, fun hopens => ?_⟩
  cases rest with
  | nil =>
      have hfeed : more.head? = some '\n' := (hslash hopens.1).resolve_left (by simp)
      simp [hfeed] at hopens
  | cons d rest => exact h.2.2 hopens

/-- The text before a token is settled, but for a slash at the end, which could begin a comment. -/
theorem splitTrivia_more {mode : TriviaMode} {more : List Char}
    (h : (splitTrivia mode cs).2 = c :: rest)
    (hslash : c = '/' → rest ≠ [] ∨ more.head? = some '\n') :
    splitTrivia mode (cs ++ more) = ((splitTrivia mode cs).1, c :: rest ++ more) := by
  fun_induction splitTrivia mode cs with
  | case1 => cases h
  | case2 mode d tail hnone =>
      cases h
      rw [List.cons_append, splitTrivia, TriviaMode.step?_none_more hnone hslash]
  | case3 mode d tail count next hstep skipped left hsplit ih =>
      rw [hsplit] at ih
      have hcount : count < tail.length := by
        by_contra hle
        rw [List.drop_of_length_le (by omega), splitTrivia] at hsplit
        cases hsplit
        cases h
      have hreturn : mode = .directive → d = '\\' → tail ≠ ['\r'] := by
        rintro rfl rfl rfl
        cases hstep.symm.trans (rfl : _ = some (0, TriviaMode.directive))
        simp [splitTrivia, TriviaMode.step?, isQuote] at hsplit
        simp [hsplit.2] at h
      have hmore := TriviaMode.step?_more mode (List.ne_nil_of_length_pos (by omega)) hreturn more
      rw [List.cons_append, splitTrivia, hmore, hstep]
      simp only [List.drop_append_of_le_length (Nat.le_of_lt hcount),
        List.take_append_of_le_length (Nat.le_of_lt hcount), ih h]

/-! ## The tokens of a text that is cut -/

/-- Whether a token neither opens nor closes a brace nor ends a statement. -/
def Token.isQuiet (t : Token) : Bool := !t.opensBrace && !t.closesBrace && !t.isMark ";"

theorem splitToken_first (c : Char) (rest : List Char) :
    ∃ tail, (splitToken c rest).2.1 = c :: tail := by
  obtain ⟨d, tail, hd⟩ := List.exists_cons_of_ne_nil (splitToken_ne_nil c rest)
  have happ := splitToken_append c rest
  rw [hd, List.cons_append] at happ
  exact ⟨tail, by rw [hd, (List.cons.inj happ).1]⟩

theorem isQuiet_of_first {kind : TokenKind} {tail : List Char} {place : Position}
    (h : c ∉ [';', '\x7b', '\x7d']) :
    Token.isQuiet ⟨kind, String.ofList (c :: tail), place⟩ = true := by
  have hne : ∀ d ∈ [';', '\x7b', '\x7d'], String.ofList (c :: tail) ≠ String.ofList [d] := by
    intro d hd heq
    have hlist := congrArg String.toList heq
    simp only [String.toList_ofList, List.cons.injEq] at hlist
    exact h (hlist.1 ▸ hd)
  have hsemicolon : String.ofList (c :: tail) ≠ ";" := hne ';' (by simp)
  have hopen : String.ofList (c :: tail) ≠ "\x7b" := hne '\x7b' (by simp)
  have hclose : String.ofList (c :: tail) ≠ "\x7d" := hne '\x7d' (by simp)
  simp only [Token.isQuiet, Token.opensBrace, Token.closesBrace, Token.isMark,
    beq_false_of_ne hsemicolon, beq_false_of_ne hopen, beq_false_of_ne hclose, Bool.and_false,
    Bool.not_false, Bool.and_self]

/-- A brace or a semicolon is a token by itself. -/
theorem splitToken_of_mem (h : c ∈ [';', '\x7b', '\x7d']) (rest : List Char) :
    splitToken c rest = (.mark, [c], rest) := by
  simp only [List.mem_cons, List.not_mem_nil, or_false] at h
  rcases h with rfl | rfl | rfl
  all_goals
    rw [splitToken, if_neg (by decide), if_neg (by simp), if_neg (by decide)]
    rfl

/-- Two lists of tokens agree up to a cut, where the first has at most one more token, and that is quiet. -/
def AgreeUpToCut (ts us : List Token) : Prop :=
  ∃ before last later, ts = before ++ last ∧ us = before ++ later ∧ last.all (·.isQuiet) = true

theorem AgreeUpToCut.cons {ts us : List Token} (h : AgreeUpToCut ts us) (t : Token) :
    AgreeUpToCut (t :: ts) (t :: us) := by
  obtain ⟨before, last, later, rfl, rfl, hquiet⟩ := h
  exact ⟨t :: before, last, later, rfl, rfl, hquiet⟩

theorem AgreeUpToCut.of_quiet {t : Token} (h : t.isQuiet = true) (us : List Token) :
    AgreeUpToCut [t] us :=
  ⟨[], [t], us, rfl, rfl, by simpa using h⟩

theorem AgreeUpToCut.nil (us : List Token) : AgreeUpToCut [] us := ⟨[], [], us, rfl, rfl, rfl⟩

/-- A token that leaves something of a text is the same when more stands behind the text. -/
theorem tokensFrom_cons_more {lineStart : Bool} {place : Position}
    (h : (splitTrivia (.between lineStart) cs).2 = c :: rest)
    (hleft : (splitToken c rest).2.2 ≠ []) (more : List Char) :
    tokensFrom lineStart place (cs ++ more) =
      ⟨(splitToken c rest).1, String.ofList (splitToken c rest).2.1,
          place.after (splitTrivia (.between lineStart) cs).1⟩ ::
        tokensFrom ((splitToken c rest).2.1.contains '\n')
          ((place.after (splitTrivia (.between lineStart) cs).1).after (splitToken c rest).2.1)
          ((splitToken c rest).2.2 ++ more) := by
  have hslash : c = '/' → rest ≠ [] ∨ more.head? = some '\n' := by
    rintro rfl
    refine .inl ?_
    rintro rfl
    exact hleft (by decide)
  have htrivia := splitTrivia_more h hslash
  have hmore : (splitTrivia (.between lineStart) (cs ++ more)).2 = c :: (rest ++ more) := by
    rw [htrivia, List.cons_append]
  rw [tokensFrom_eq_cons hmore, htrivia, splitToken_more hleft]

/-- The tokens of a text and those of the text with more behind it agree up to the cut. -/
theorem tokensFrom_more (more : List Char) (lineStart : Bool) (place : Position) (cs : List Char) :
    AgreeUpToCut (tokensFrom lineStart place cs) (tokensFrom lineStart place (cs ++ more)) := by
  induction lineStart, place, cs using tokensFrom_induction with
  | none lineStart place cs h =>
      rw [tokensFrom_eq_nil h]
      exact .nil _
  | token lineStart place cs c rest h ih =>
      obtain ⟨tail, htail⟩ := splitToken_first c rest
      rw [tokensFrom_eq_cons h]
      by_cases hleft : (splitToken c rest).2.2 = []
      · -- The last token in front of the cut.
        have hnil : ∀ lineStart place, tokensFrom lineStart place [] = [] := fun _ _ =>
          tokensFrom_eq_nil (by rw [splitTrivia])
        rw [hleft, hnil]
        by_cases hmark : c ∈ [';', '\x7b', '\x7d']
        · have htrivia : splitTrivia (.between lineStart) (cs ++ more) = (_, c :: rest ++ more) :=
            splitTrivia_more h (by rintro rfl; simp at hmark)
          have hmore : (splitTrivia (.between lineStart) (cs ++ more)).2 = c :: (rest ++ more) := by
            rw [htrivia, List.cons_append]
          rw [tokensFrom_eq_cons hmore, htrivia]
          simp only [splitToken_of_mem hmark]
          exact (AgreeUpToCut.nil _).cons _
        · rw [htail]
          exact .of_quiet (isQuiet_of_first hmark) _
      · rw [tokensFrom_cons_more h hleft]
        exact ih.cons _

theorem tokens_more (text more : String) : AgreeUpToCut (tokens text) (tokens (text ++ more)) := by
  rw [tokens, tokens, String.toList_append]
  exact tokensFrom_more more.toList true .start text.toList

end NameLint.Source

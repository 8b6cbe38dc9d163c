import NameLint.Proofs.Source.Place
import NameLint.Proofs.Source.Split

/-!
# Literals that end with their line

A backslash takes the line end after it into a literal in quotes, and so does the quote after a raw
prefix that begins no raw string. `inLineTokens` reads a text as if a literal in quotes always ended with
the line it begins on. It is the same reading where nothing stands at the end of a line that could take the
line end into a literal.
-/

namespace NameLint.Source

open NameLint.Unicode

/-! ## Text between tokens -/

/-- As `step?`, but no literal in a directive takes a line end. -/
def TriviaMode.stepInLine? (mode : TriviaMode) (c : Char) (rest : List Char) :
    Option (Nat × TriviaMode) :=
  match mode with
  | .directiveLiteral quote =>
    if c = '\\' ∧ rest.head? = some '\n' then some (0, .directiveLiteral quote)
    else TriviaMode.step? (.directiveLiteral quote) c rest
  | mode => mode.step? c rest

/-- As `splitTrivia`, but no literal in a directive goes on after its line. -/
def splitTriviaInLine (mode : TriviaMode) (cs : List Char) : List Char × List Char :=
  match cs with
  | [] => ([], [])
  | c :: rest =>
    match mode.stepInLine? c rest with
    | none => ([], c :: rest)
    | some (more, mode) =>
      let (skipped, after) := splitTriviaInLine mode (rest.drop more)
      (c :: rest.take more ++ skipped, after)
termination_by cs.length
decreasing_by
  simp only [List.length_drop, List.length_cons]
  omega

theorem splitTriviaInLine_append (mode : TriviaMode) (cs : List Char) :
    (splitTriviaInLine mode cs).1 ++ (splitTriviaInLine mode cs).2 = cs := by
  fun_induction splitTriviaInLine mode cs with
  | case1 => rfl
  | case2 => rfl
  | case3 mode c rest more next _ skipped after heq ih =>
      rw [heq] at ih
      simp [ih]

theorem TriviaMode.stepInLine?_eq_none {mode : TriviaMode} {c : Char} {rest : List Char}
    (h : mode.stepInLine? c rest = none) :
    (∃ lineStart, mode = .between lineStart) ∧ isBlank c = false := by
  cases mode with
  | between lineStart => exact ⟨⟨lineStart, rfl⟩, (step?_between_eq_none_iff.mp h).1⟩
  | _ =>
      simp only [stepInLine?, step?] at h
      repeat' split at h
      all_goals cases h

theorem not_isBlank_of_splitTriviaInLine {mode : TriviaMode} {cs rest : List Char} {c : Char}
    (h : (splitTriviaInLine mode cs).2 = c :: rest) : isBlank c = false := by
  fun_induction splitTriviaInLine mode cs with
  | case1 => cases h
  | case2 mode c' rest' hstep =>
      cases h
      exact (TriviaMode.stepInLine?_eq_none hstep).2
  | case3 mode c' rest' more next hstep skipped after heq ih =>
      rw [heq] at ih
      exact ih h

theorem ne_lineEnd_of_not_isBlank {c : Char} (h : isBlank c = false) : c ≠ '\n' := by
  rintro rfl
  exact absurd h (by decide)

/-! ## Tokens -/

/-- Whether a text begins with a raw string. -/
def beginsRawString (cs : List Char) : Bool :=
  let word := cs.takeWhile isIdentContinue
  match cs.dropWhile isIdentContinue with
  | '"' :: inside =>
    stringPrefixes.contains (String.ofList word) && word.getLast? = some 'R'
      && (rawDelimiter? inside).isSome
  | _ => false

section

variable {cs inside : List Char}

theorem beginsRawString_doubleQuote (h : cs.dropWhile isIdentContinue = '"' :: inside) :
    beginsRawString cs =
      (stringPrefixes.contains (String.ofList (cs.takeWhile isIdentContinue))
        && (cs.takeWhile isIdentContinue).getLast? = some 'R' && (rawDelimiter? inside).isSome) := by
  simp only [beginsRawString, h]

theorem beginsRawString_singleQuote (h : cs.dropWhile isIdentContinue = '\'' :: inside) :
    beginsRawString cs = false := by
  simp only [beginsRawString, h]
  rfl

end

theorem beginsRawString_of_isQuote {quote : Char} (h : isQuote quote = true) (rest : List Char) :
    beginsRawString (quote :: rest) = false := by
  have hquote : isIdentContinue quote = false := by
    simp only [isQuote, Bool.or_eq_true, decide_eq_true_eq] at h
    rcases h with rfl | rfl <;> decide
  simp only [beginsRawString, List.takeWhile_cons, List.dropWhile_cons, hquote, Bool.false_eq_true,
    if_false]
  split <;> simp

/-- A part of a text and the rest of it, with the part cut before its first line end. -/
def cutAtLineEnd (split : List Char × List Char) : List Char × List Char :=
  (split.1.takeWhile (· != '\n'), split.1.dropWhile (· != '\n') ++ split.2)

/-- As `splitToken`, but only a raw string goes on after its line. -/
def splitTokenInLine (c : Char) (rest : List Char) : TokenKind × List Char × List Char :=
  if beginsRawString (c :: rest) then splitToken c rest
  else ((splitToken c rest).1, cutAtLineEnd (splitToken c rest).2)

theorem cutAtLineEnd_append (split : List Char × List Char) :
    (cutAtLineEnd split).1 ++ (cutAtLineEnd split).2 = split.1 ++ split.2 := by
  rw [cutAtLineEnd, ← List.append_assoc, List.takeWhile_append_dropWhile]

theorem splitTokenInLine_append (c : Char) (rest : List Char) :
    (splitTokenInLine c rest).2.1 ++ (splitTokenInLine c rest).2.2 = c :: rest := by
  unfold splitTokenInLine
  split
  · exact splitToken_append c rest
  · rw [cutAtLineEnd_append, splitToken_append]

theorem splitTokenInLine_ne_nil {c : Char} (rest : List Char) (h : c ≠ '\n') :
    (splitTokenInLine c rest).2.1 ≠ [] := by
  unfold splitTokenInLine
  split
  · exact splitToken_ne_nil c rest
  · have happ := splitToken_append c rest
    cases htoken : (splitToken c rest).2.1 with
    | nil => exact absurd htoken (splitToken_ne_nil c rest)
    | cons d token =>
        rw [htoken] at happ
        obtain ⟨rfl, -⟩ := List.cons.inj happ
        simp [cutAtLineEnd, htoken, h]

theorem splitTokenInLine_length_lt {mode : TriviaMode} {cs rest : List Char} {c : Char}
    (h : (splitTriviaInLine mode cs).2 = c :: rest) :
    (splitTokenInLine c rest).2.2.length < cs.length := by
  have hc := ne_lineEnd_of_not_isBlank (not_isBlank_of_splitTriviaInLine h)
  have hcs := congrArg List.length (splitTriviaInLine_append mode cs)
  have htoken := congrArg List.length (splitTokenInLine_append c rest)
  have hpos := List.length_pos_iff.mpr (splitTokenInLine_ne_nil rest hc)
  rw [h] at hcs
  simp only [List.length_append, List.length_cons] at hcs htoken
  omega

/-- As `tokensFrom`, but literals in quotes end with their line. -/
def inLineTokensFrom (lineStart : Bool) (place : Position) (cs : List Char) : List Token :=
  let split := splitTriviaInLine (.between lineStart) cs
  match _h : split.2 with
  | [] => []
  | c :: rest =>
    let place := place.after split.1
    let token := splitTokenInLine c rest
    ⟨token.1, String.ofList token.2.1, place⟩
      :: inLineTokensFrom (token.2.1.contains '\n') (place.after token.2.1) token.2.2
termination_by cs.length
decreasing_by exact splitTokenInLine_length_lt _h

/-- The tokens of a text if literals in quotes end with their line. -/
def inLineTokens (text : String) : List Token :=
  inLineTokensFrom true .start text.toList

section

variable {lineStart : Bool} {place : Position} {cs rest : List Char} {c : Char}

theorem inLineTokensFrom_eq_nil (h : (splitTriviaInLine (.between lineStart) cs).2 = []) :
    inLineTokensFrom lineStart place cs = [] := by
  rw [inLineTokensFrom]
  split
  · rfl
  · rename_i heq
    exact absurd (h.symm.trans heq) (by simp)

theorem inLineTokensFrom_eq_cons (h : (splitTriviaInLine (.between lineStart) cs).2 = c :: rest) :
    inLineTokensFrom lineStart place cs =
      ⟨(splitTokenInLine c rest).1, String.ofList (splitTokenInLine c rest).2.1,
          place.after (splitTriviaInLine (.between lineStart) cs).1⟩ ::
        inLineTokensFrom ((splitTokenInLine c rest).2.1.contains '\n')
          ((place.after (splitTriviaInLine (.between lineStart) cs).1).after
            (splitTokenInLine c rest).2.1)
          (splitTokenInLine c rest).2.2 := by
  rw [inLineTokensFrom]
  split
  · rename_i heq
    exact absurd (heq.symm.trans h) (by simp)
  · rename_i c' rest' heq
    obtain ⟨rfl, rfl⟩ := List.cons.inj (heq.symm.trans h)
    rfl

theorem inLineTokensFrom_induction {motive : Bool → Position → List Char → Prop}
    (none : ∀ lineStart place cs, (splitTriviaInLine (.between lineStart) cs).2 = [] →
      motive lineStart place cs)
    (token : ∀ lineStart place cs c rest, (splitTriviaInLine (.between lineStart) cs).2 = c :: rest →
      motive ((splitTokenInLine c rest).2.1.contains '\n')
        ((place.after (splitTriviaInLine (.between lineStart) cs).1).after
          (splitTokenInLine c rest).2.1)
        (splitTokenInLine c rest).2.2 →
      motive lineStart place cs)
    (lineStart : Bool) (place : Position) (cs : List Char) : motive lineStart place cs :=
  tokenwise_induction (fun _ _ _ _ h => splitTokenInLine_length_lt h) none token lineStart place cs

end

/-! ## Texts in which no literal takes a line end -/

/-- Nothing stands at the end of a line that could take the line end into a literal: neither a backslash
nor the quote after a raw prefix. -/
def LinesUnspliced (cs : List Char) : Prop :=
  ¬ ['\\', '\n'] <:+: cs ∧ ¬ ['R', '"', '\n'] <:+: cs

theorem LinesUnspliced.mono {cs ds : List Char} (h : LinesUnspliced cs) (hds : ds <:+: cs) :
    LinesUnspliced ds :=
  ⟨fun hin => h.1 (hin.trans hds), fun hin => h.2 (hin.trans hds)⟩

theorem stepInLine?_of_unspliced {mode : TriviaMode} {c : Char} {rest : List Char}
    (h : LinesUnspliced (c :: rest)) : mode.stepInLine? c rest = mode.step? c rest := by
  cases mode <;> try rfl
  case directiveLiteral quote =>
    refine if_neg ?_
    rintro ⟨rfl, hhead⟩
    obtain ⟨tail, rfl⟩ := List.head?_eq_some_iff.mp hhead
    exact h.1 (List.prefix_append ['\\', '\n'] tail).isInfix

theorem splitTriviaInLine_of_unspliced {mode : TriviaMode} {cs : List Char} (h : LinesUnspliced cs) :
    splitTriviaInLine mode cs = splitTrivia mode cs := by
  fun_induction splitTriviaInLine mode cs with
  | case1 => rw [splitTrivia]
  | case2 mode c rest hstep => rw [splitTrivia, ← stepInLine?_of_unspliced h, hstep]
  | case3 mode c rest more next hstep skipped after heq ih =>
      have hdrop : rest.drop more <:+: c :: rest :=
        ((List.drop_suffix more rest).trans (List.suffix_cons c rest)).isInfix
      rw [splitTrivia, ← stepInLine?_of_unspliced h, hstep]
      simp only [← ih (h.mono hdrop), heq]

theorem lineEnd_not_mem_splitQuoted {quote : Char} {cs : List Char} (hquote : quote ≠ '\n')
    (h : ¬ ['\\', '\n'] <:+: cs) : '\n' ∉ (splitQuoted quote cs).1 := by
  fun_induction splitQuoted quote cs with
  | case1 => simp
  | case2 => simp
  | case3 => simp
  | case4 d rest inner left hleft _ ih =>
      have hd : d ≠ '\n' := by
        rintro rfl
        exact h (List.prefix_append ['\\', '\n'] rest).isInfix
      have hinner := ih fun hin => h (hin.trans (List.suffix_append ['\\', d] rest).isInfix)
      rw [hleft] at hinner
      simpa [hd.symm] using hinner
  | case5 => simpa using hquote.symm
  | case6 d rest hd _ _ inner left hleft ih =>
      have hinner := ih fun hin => h (hin.trans (List.suffix_cons d rest).isInfix)
      rw [hleft] at hinner
      simpa [Ne.symm hd] using hinner

theorem lineEnd_not_mem_word (cs : List Char) : '\n' ∉ cs.takeWhile isIdentContinue :=
  fun hmem => absurd (List.mem_takeWhile_imp hmem) (by decide)

theorem lineEnd_not_mem_splitNumber (previous : Char) (cs : List Char) :
    '\n' ∉ (splitNumber previous cs).1 := by
  fun_induction splitNumber previous cs with
  | case1 => simp
  | case2 previous c rest hc digits left hleft ih =>
      have hne : c ≠ '\n' := by
        rintro rfl
        exact absurd hc (by simp)
      rw [hleft] at ih
      simpa [hne.symm] using ih
  | case3 => simp

theorem lineEnd_not_mem_splitMark {c : Char} (rest : List Char) (hc : c ≠ '\n') :
    '\n' ∉ (splitMark c rest).1 := by
  unfold splitMark
  split <;> simp [hc.symm]

/-- The quote after a raw prefix that begins no raw string takes the character after it. -/
theorem lineEnd_not_mem_splitRaw {inside : List Char} (hraw : rawDelimiter? inside = none)
    (hfirst : inside.head? ≠ some '\n') (h : ¬ ['\\', '\n'] <:+: inside) :
    '\n' ∉ (splitRaw inside).1 := by
  cases inside with
  | nil => simp [splitRaw, hraw]
  | cons c rest =>
      have hinner : '\n' ∉ (splitQuoted '"' rest).1 := lineEnd_not_mem_splitQuoted (by decide)
        fun hin => h (hin.trans (List.suffix_cons c rest).isInfix)
      simp only [splitRaw, hraw, List.mem_cons, not_or]
      exact ⟨fun hc => hfirst (by simp [← hc]), hinner⟩

theorem lineEnd_not_mem_splitWord {cs : List Char} (hraw : beginsRawString cs = false)
    (h : LinesUnspliced cs) : '\n' ∉ (splitWord cs).2.1 := by
  have hword := lineEnd_not_mem_word cs
  have hcs := cs.takeWhile_append_dropWhile (p := isIdentContinue)
  have hinside : ∀ quote inside, cs.dropWhile isIdentContinue = quote :: inside →
      ¬ ['\\', '\n'] <:+: inside := fun quote inside hrest hin =>
    h.1 (hin.trans ((List.suffix_cons quote inside).trans ⟨_, hrest ▸ hcs⟩).isInfix)
  rcases splitWord_cases cs with ⟨inside, hrest⟩ | ⟨inside, hrest⟩ | hquote
  · rw [beginsRawString_doubleQuote hrest] at hraw
    rw [splitWord_doubleQuote hrest]
    split
    · rename_i hliteral
      simp only [List.mem_append, List.mem_cons, not_or]
      refine ⟨hword, by decide, ?_⟩
      split
      · rename_i hlast
        simp only [hliteral, hlast, decide_true, Bool.and_true, Bool.true_and] at hraw
        refine lineEnd_not_mem_splitRaw (by simpa using hraw) (fun hfirst => h.2 ?_)
          (hinside _ _ hrest)
        obtain ⟨tail, rfl⟩ := List.head?_eq_some_iff.mp hfirst
        obtain ⟨front, hfront⟩ := List.getLast?_eq_some_iff.mp hlast
        exact ⟨front, tail, by rw [← hcs, hrest, hfront]; simp⟩
      · exact lineEnd_not_mem_splitQuoted (by decide) (hinside _ _ hrest)
    · exact hword
  · rw [splitWord_singleQuote hrest]
    split
    · simp only [List.mem_append, List.mem_cons, not_or]
      exact ⟨hword, by decide, lineEnd_not_mem_splitQuoted (by decide) (hinside _ _ hrest)⟩
    · exact hword
  · rw [splitWord_of_not_isQuote hquote]
    exact hword

theorem lineEnd_not_mem_splitToken {c : Char} {rest : List Char} (hc : c ≠ '\n')
    (hraw : beginsRawString (c :: rest) = false) (h : LinesUnspliced (c :: rest)) :
    '\n' ∉ (splitToken c rest).2.1 := by
  unfold splitToken
  split
  · exact lineEnd_not_mem_splitWord hraw h
  split
  · simpa [hc.symm] using lineEnd_not_mem_splitNumber c rest
  split
  · have hinner := lineEnd_not_mem_splitQuoted hc (h.mono (List.suffix_cons c rest).isInfix).1
    simpa [hc.symm] using hinner
  · exact lineEnd_not_mem_splitMark rest hc

theorem cutAtLineEnd_append_left {cs : List Char} (hcs : '\n' ∉ cs) (token left : List Char) :
    cutAtLineEnd (cs ++ token, left) =
      (cs ++ (cutAtLineEnd (token, left)).1, (cutAtLineEnd (token, left)).2) := by
  have hall : ∀ c ∈ cs, (c != '\n') = true := by
    intro c hmem
    simp only [bne_iff_ne]
    rintro rfl
    exact hcs hmem
  simp [cutAtLineEnd, List.takeWhile_append_of_pos hall, List.dropWhile_append_of_pos hall]

theorem cutAtLineEnd_of_not_mem {split : List Char × List Char} (h : '\n' ∉ split.1) :
    cutAtLineEnd split = split := by
  have hcut := cutAtLineEnd_append_left h [] split.2
  rw [List.append_nil] at hcut
  exact hcut.trans (by simp [cutAtLineEnd])

theorem splitTokenInLine_of_unspliced {c : Char} {rest : List Char} (hc : c ≠ '\n')
    (h : LinesUnspliced (c :: rest)) : splitTokenInLine c rest = splitToken c rest := by
  unfold splitTokenInLine
  split
  · rfl
  · rename_i hraw
    rw [cutAtLineEnd_of_not_mem (lineEnd_not_mem_splitToken hc (by simpa using hraw) h)]

/-- Where no literal takes a line end, reading literals within their lines changes nothing. -/
theorem inLineTokensFrom_of_unspliced (lineStart : Bool) (place : Position) {cs : List Char}
    (h : LinesUnspliced cs) : inLineTokensFrom lineStart place cs = tokensFrom lineStart place cs := by
  induction lineStart, place, cs using inLineTokensFrom_induction with
  | none lineStart place cs hsplit =>
      rw [inLineTokensFrom_eq_nil hsplit,
        tokensFrom_eq_nil (splitTriviaInLine_of_unspliced h ▸ hsplit)]
  | token lineStart place cs c rest hsplit ih =>
      have hc := ne_lineEnd_of_not_isBlank (not_isBlank_of_splitTriviaInLine hsplit)
      have hsuffix : c :: rest <:+ cs :=
        ⟨_, hsplit ▸ splitTriviaInLine_append (.between lineStart) cs⟩
      have htoken := splitTokenInLine_of_unspliced hc (h.mono hsuffix.isInfix)
      have hleft : (splitTokenInLine c rest).2.2 <:+ cs :=
        (show _ <:+ c :: rest from ⟨_, splitTokenInLine_append c rest⟩).trans hsuffix
      have hsplit' : (splitTrivia (.between lineStart) cs).2 = c :: rest :=
        splitTriviaInLine_of_unspliced h ▸ hsplit
      rw [inLineTokensFrom_eq_cons hsplit, tokensFrom_eq_cons hsplit', ih (h.mono hleft.isInfix),
        htoken, splitTriviaInLine_of_unspliced h]

end NameLint.Source

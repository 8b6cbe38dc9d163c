import NameLint.Proofs.Source.Split

/-!
# Text between tokens

What may stand between the tokens of a text: blanks, comments and directives. `Trivia` says it as a grammar,
which does not know the machine that passes over the text. What the machine passes over is such text; and it
passes over a whole directive whatever stands behind it.
-/

namespace NameLint.Source

open NameLint.Unicode

/-! ## The grammar -/

/-- The inside of a literal in quotes: a backslash stands together with the character after it, a line end
too, and otherwise there are neither quotes nor line ends. -/
inductive QuotedText (quote : Char) : List Char → Prop
  | nil : QuotedText quote []
  | plain {c : Char} {inner : List Char} (feed : c ≠ '\n') (back : c ≠ '\\') (other : c ≠ quote)
      (next : QuotedText quote inner) : QuotedText quote (c :: inner)
  | escaped (d : Char) {inner : List Char} (next : QuotedText quote inner) :
      QuotedText quote ('\\' :: d :: inner)

/-- The inside of a bracketed comment. -/
def CommentText (body : List Char) : Prop := ¬ ['*', '/'] <:+: body

/-- The line ends that a backslash in a directive takes. -/
def lineEnds : List (List Char) := [['\n'], ['\r', '\n']]

/-- What follows the `#` of a directive, up to the line end that ends it and with it. Where the text between
tokens runs `toEnd` of the whole text, the directive may end there. -/
inductive DirectiveText (toEnd : Bool) : List Char → Prop
  | lineEnd : DirectiveText toEnd ['\n']
  | textEnd (last : toEnd = true) : DirectiveText toEnd []
  | plain {c : Char} {line : List Char} (feed : c ≠ '\n') (noQuote : isQuote c = false)
      (noComment : ¬ ['/', '*'] <+: c :: line)
      (noLineEnd : ∀ lineEnd ∈ lineEnds, ¬ '\\' :: lineEnd <+: c :: line)
      (next : DirectiveText toEnd line) : DirectiveText toEnd (c :: line)
  | continued {lineEnd line : List Char} (mem : lineEnd ∈ lineEnds) (next : DirectiveText toEnd line) :
      DirectiveText toEnd ('\\' :: lineEnd ++ line)
  | comment {body line : List Char} (inside : CommentText body) (next : DirectiveText toEnd line) :
      DirectiveText toEnd ('/' :: '*' :: body ++ '*' :: '/' :: line)
  | lastComment {body : List Char} (last : toEnd = true) (inside : CommentText body) :
      DirectiveText toEnd ('/' :: '*' :: body)
  | literal {quote : Char} {inner line : List Char} (isQuote : isQuote quote = true)
      (inside : QuotedText quote inner) (next : DirectiveText toEnd line) :
      DirectiveText toEnd (quote :: inner ++ quote :: line)
  | openLiteral {quote : Char} {inner : List Char} (isQuote : isQuote quote = true)
      (inside : QuotedText quote inner) : DirectiveText toEnd (quote :: inner ++ ['\n'])
  | lastLiteral {quote : Char} {inner tail : List Char} (last : toEnd = true)
      (isQuote : isQuote quote = true) (inside : QuotedText quote inner)
      (backslash : tail = [] ∨ tail = ['\\']) : DirectiveText toEnd (quote :: inner ++ tail)

/-- Blanks, comments and directives. A directive begins where it may, as `lineStart` says: not behind a token,
until the line ends. Where the text runs `toEnd` of the whole text, the last comment or directive may be
unfinished. -/
inductive Trivia (toEnd : Bool) : Bool → List Char → Prop
  | nil {lineStart : Bool} : Trivia toEnd lineStart []
  | blank {lineStart : Bool} {c : Char} {rest : List Char} (isBlank : isBlank c = true)
      (next : Trivia toEnd (lineStart || c = '\n') rest) : Trivia toEnd lineStart (c :: rest)
  | lineComment {lineStart : Bool} {body rest : List Char} (oneLine : '\n' ∉ body)
      (next : Trivia toEnd true rest) : Trivia toEnd lineStart ('/' :: '/' :: body ++ '\n' :: rest)
  | lastLineComment {lineStart : Bool} {body : List Char} (last : toEnd = true)
      (oneLine : '\n' ∉ body) : Trivia toEnd lineStart ('/' :: '/' :: body)
  | blockComment {lineStart : Bool} {body rest : List Char} (inside : CommentText body)
      (next : Trivia toEnd (lineStart || body.contains '\n') rest) :
      Trivia toEnd lineStart ('/' :: '*' :: body ++ '*' :: '/' :: rest)
  | lastBlockComment {lineStart : Bool} {body : List Char} (last : toEnd = true)
      (inside : CommentText body) : Trivia toEnd lineStart ('/' :: '*' :: body)
  | directive {line rest : List Char} (inside : DirectiveText false line)
      (next : Trivia toEnd true rest) : Trivia toEnd true ('#' :: line ++ rest)
  | lastDirective {line : List Char} (last : toEnd = true) (inside : DirectiveText true line) :
      Trivia toEnd true ('#' :: line)

/-! ## What is passed over is text between tokens -/

theorem CommentText.nil : CommentText [] := by simp [CommentText]

theorem CommentText.cons {c : Char} {body rest : List Char}
    (h : ¬ (c = '*' ∧ (body ++ rest).head? = some '/')) (hbody : CommentText body) :
    CommentText (c :: body) := by
  intro hin
  rcases List.infix_cons_iff.mp hin with hpre | hin
  · obtain ⟨hc, tail, hbody⟩ : c = '*' ∧ ['/'] <+: body := by
      simpa [eq_comm] using List.cons_prefix_cons.mp hpre
    exact h ⟨hc, by simp [← hbody]⟩
  · exact hbody hin

/-- What is passed over inside of a directive. -/
def PassesDirective (toEnd : Bool) (cs : List Char) : Prop :=
  (∃ line rest, cs = line ++ rest ∧ DirectiveText false line ∧ Trivia toEnd true rest) ∨
    toEnd = true ∧ DirectiveText true cs

/-- What is passed over, by what it is inside of where it begins. -/
def TriviaMode.Passes (toEnd : Bool) : TriviaMode → List Char → Prop
  | .between lineStart, cs => Trivia toEnd lineStart cs
  | .lineComment, cs =>
    (∃ body rest, cs = body ++ '\n' :: rest ∧ '\n' ∉ body ∧ Trivia toEnd true rest) ∨
      toEnd = true ∧ '\n' ∉ cs
  | .blockComment lineStart, cs =>
    (∃ body rest, cs = body ++ '*' :: '/' :: rest ∧ CommentText body ∧
        Trivia toEnd (lineStart || body.contains '\n') rest) ∨
      toEnd = true ∧ CommentText cs
  | .directive, cs => PassesDirective toEnd cs
  | .directiveComment, cs =>
    (∃ body rest, cs = body ++ '*' :: '/' :: rest ∧ CommentText body ∧ PassesDirective toEnd rest) ∨
      toEnd = true ∧ CommentText cs
  | .directiveLiteral quote, cs =>
    ∃ inner rest, QuotedText quote inner ∧ cs = inner ++ rest ∧
      ((∃ line, rest = quote :: line ∧ PassesDirective toEnd line) ∨
        (∃ after, rest = '\n' :: after ∧ Trivia toEnd true after) ∨
        toEnd = true ∧ (rest = [] ∨ rest = ['\\']))

/-- A piece of a directive in front of what is passed over. -/
theorem PassesDirective.append_left {toEnd : Bool} {cs : List Char} (piece : List Char)
    (hpiece : ∀ {toEnd : Bool} {line : List Char}, line <+: cs → DirectiveText toEnd line →
      DirectiveText toEnd (piece ++ line))
    (h : PassesDirective toEnd cs) : PassesDirective toEnd (piece ++ cs) := by
  rcases h with ⟨line, rest, rfl, hline, hrest⟩ | ⟨hlast, hline⟩
  · exact .inl ⟨piece ++ line, rest, by simp, hpiece (List.prefix_append line rest) hline, hrest⟩
  · exact .inr ⟨hlast, hpiece List.prefix_rfl hline⟩

namespace TriviaMode

variable {toEnd lineStart : Bool} {quote c : Char} {rest skipped left : List Char}
  {next : TriviaMode} {more : Nat}

/-- What is passed over with nothing left ends with the text. -/
theorem passes_nil (mode : TriviaMode) : mode.Passes true [] := by
  cases mode with
  | between lineStart => exact .nil
  | lineComment => exact .inr ⟨rfl, by simp⟩
  | blockComment lineStart => exact .inr ⟨rfl, .nil⟩
  | directive => exact .inr ⟨rfl, .textEnd rfl⟩
  | directiveComment => exact .inr ⟨rfl, .nil⟩
  | directiveLiteral quote => exact ⟨[], [], .nil, rfl, .inr (.inr ⟨rfl, .inl rfl⟩)⟩

theorem Passes.between (hstep : (TriviaMode.between lineStart).step? c rest = some (more, next))
    (h : next.Passes toEnd skipped) : Trivia toEnd lineStart (c :: rest.take more ++ skipped) := by
  simp only [step?] at hstep
  split at hstep
  · rename_i hblank
    cases hstep
    exact .blank hblank h
  split at hstep
  · rename_i hhash
    obtain ⟨rfl, rfl⟩ := hhash
    cases hstep
    rcases h with ⟨line, after, rfl, hline, hafter⟩ | ⟨hlast, hline⟩
    · change Trivia toEnd true ('#' :: line ++ after)
      exact .directive hline hafter
    · exact .lastDirective hlast hline
  split at hstep
  · rename_i hslash
    obtain ⟨rfl, hhead⟩ := hslash
    obtain ⟨tail, rfl⟩ := List.head?_eq_some_iff.mp hhead
    cases hstep
    rcases h with ⟨body, after, rfl, hbody, hafter⟩ | ⟨hlast, hbody⟩
    · exact .lineComment hbody hafter
    · exact .lastLineComment hlast hbody
  split at hstep
  · rename_i hstar
    obtain ⟨rfl, hhead⟩ := hstar
    obtain ⟨tail, rfl⟩ := List.head?_eq_some_iff.mp hhead
    cases hstep
    rcases h with ⟨body, after, rfl, hbody, hafter⟩ | ⟨hlast, hbody⟩
    · exact .blockComment hbody hafter
    · exact .lastBlockComment hlast hbody
  · cases hstep

theorem Passes.lineComment (hstep : TriviaMode.lineComment.step? c rest = some (more, next))
    (h : next.Passes toEnd skipped) :
    TriviaMode.lineComment.Passes toEnd (c :: rest.take more ++ skipped) := by
  simp only [step?] at hstep
  cases hstep
  by_cases hc : c = '\n'
  · subst hc
    exact .inl ⟨[], skipped, rfl, by simp, h⟩
  · rw [if_neg hc] at h
    rcases h with ⟨body, after, rfl, hbody, hafter⟩ | ⟨hlast, hbody⟩
    · exact .inl ⟨c :: body, after, rfl, by simp [hbody, Ne.symm hc], hafter⟩
    · exact .inr ⟨hlast, by simp [hbody, Ne.symm hc]⟩

/-- The text up to the end of a bracketed comment, one character further in front. -/
theorem commentText_cons {body after : List Char} (hc : ¬ (c = '*' ∧ rest.head? = some '/'))
    (hrest : rest = body ++ after) (hbody : CommentText body) : CommentText (c :: body) :=
  .cons (hrest ▸ hc) hbody

theorem Passes.blockComment
    (hstep : (TriviaMode.blockComment lineStart).step? c rest = some (more, next))
    (hrest : rest.drop more = skipped ++ left) (h : next.Passes toEnd skipped) :
    (TriviaMode.blockComment lineStart).Passes toEnd (c :: rest.take more ++ skipped) := by
  simp only [step?] at hstep
  split at hstep
  · rename_i hstar
    obtain ⟨rfl, hhead⟩ := hstar
    obtain ⟨tail, rfl⟩ := List.head?_eq_some_iff.mp hhead
    cases hstep
    exact .inl ⟨[], skipped, rfl, .nil, by simpa [Passes] using h⟩
  · rename_i hstar
    cases hstep
    rcases h with ⟨body, after, rfl, hbody, hafter⟩ | ⟨hlast, hbody⟩
    · refine .inl ⟨c :: body, after, rfl, commentText_cons hstar (by simpa using hrest) hbody, ?_⟩
      simpa [Bool.or_assoc, Bool.beq_eq_decide_eq, eq_comm] using hafter
    · exact .inr ⟨hlast, commentText_cons hstar hrest hbody⟩

theorem Passes.directiveComment
    (hstep : TriviaMode.directiveComment.step? c rest = some (more, next))
    (hrest : rest.drop more = skipped ++ left) (h : next.Passes toEnd skipped) :
    TriviaMode.directiveComment.Passes toEnd (c :: rest.take more ++ skipped) := by
  simp only [step?] at hstep
  split at hstep
  · rename_i hstar
    obtain ⟨rfl, hhead⟩ := hstar
    obtain ⟨tail, rfl⟩ := List.head?_eq_some_iff.mp hhead
    cases hstep
    exact .inl ⟨[], skipped, rfl, .nil, h⟩
  · rename_i hstar
    cases hstep
    rcases h with ⟨body, after, rfl, hbody, hafter⟩ | ⟨hlast, hbody⟩
    · exact .inl ⟨c :: body, after, rfl, commentText_cons hstar (by simpa using hrest) hbody, hafter⟩
    · exact .inr ⟨hlast, commentText_cons hstar hrest hbody⟩

theorem Passes.directiveLiteral
    (hstep : (TriviaMode.directiveLiteral quote).step? c rest = some (more, next))
    (hrest : rest.drop more = skipped ++ left) (h : next.Passes toEnd skipped) :
    (TriviaMode.directiveLiteral quote).Passes toEnd (c :: rest.take more ++ skipped) := by
  simp only [step?] at hstep
  split at hstep
  · rename_i hfeed
    cases hstep
    exact ⟨[], c :: skipped, .nil, rfl, .inr (.inl ⟨skipped, by rw [hfeed], h⟩)⟩
  rename_i hfeed
  split at hstep
  · rename_i hquote
    cases hstep
    exact ⟨[], c :: skipped, .nil, rfl, .inl ⟨skipped, by rw [hquote], h⟩⟩
  rename_i hquote
  split at hstep
  · rename_i hback
    cases hstep
    subst hback
    obtain ⟨inner, after, hinner, rfl, hafter⟩ := h
    cases rest with
    | nil =>
        -- The text ends with the backslash.
        obtain ⟨rfl, rfl, -⟩ : inner = [] ∧ after = [] ∧ left = [] := by simpa using hrest
        refine ⟨[], ['\\'], .nil, rfl, .inr (.inr ?_)⟩
        simpa using hafter
    | cons d tail => exact ⟨'\\' :: d :: inner, after, .escaped d hinner, rfl, hafter⟩
  · rename_i hback
    cases hstep
    obtain ⟨inner, after, hinner, rfl, hafter⟩ := h
    exact ⟨c :: inner, after, .plain hfeed hback hquote hinner, rfl, hafter⟩

theorem Passes.directive (hstep : TriviaMode.directive.step? c rest = some (more, next))
    (hrest : rest.drop more = skipped ++ left) (h : next.Passes toEnd skipped) :
    PassesDirective toEnd (c :: rest.take more ++ skipped) := by
  simp only [step?] at hstep
  split at hstep
  · rename_i hfeed
    cases hstep
    exact .inl ⟨['\n'], skipped, by rw [hfeed]; rfl, .lineEnd, h⟩
  rename_i hfeed
  split at hstep
  · rename_i hstar
    obtain ⟨rfl, hhead⟩ := hstar
    obtain ⟨tail, rfl⟩ := List.head?_eq_some_iff.mp hhead
    cases hstep
    rcases h with ⟨body, after, rfl, hbody, hafter⟩ | ⟨hlast, hbody⟩
    · have hpiece := hafter.append_left ('/' :: '*' :: body ++ ['*', '/'])
        fun _ hline => by simpa using DirectiveText.comment hbody hline
      simpa using hpiece
    · exact .inr ⟨hlast, .lastComment rfl hbody⟩
  rename_i hstar
  split at hstep
  · rename_i hback
    obtain ⟨rfl, hhead⟩ := hback
    obtain ⟨tail, rfl⟩ := List.head?_eq_some_iff.mp hhead
    cases hstep
    exact h.append_left ['\\', '\n'] fun _ hline => .continued (by simp [lineEnds]) hline
  rename_i hback
  split at hstep
  · rename_i hreturn
    obtain ⟨rfl, hpre⟩ := hreturn
    obtain ⟨tail, rfl⟩ := List.isPrefixOf_iff_prefix.mp hpre
    cases hstep
    exact h.append_left ['\\', '\r', '\n'] fun _ hline =>
      .continued (by simp [lineEnds]) hline
  rename_i hreturn
  split at hstep
  · rename_i hquote
    cases hstep
    obtain ⟨inner, after, hinner, rfl, hafter⟩ := h
    rcases hafter with ⟨line, rfl, hline⟩ | ⟨after, rfl, hafter⟩ | ⟨hlast, hafter⟩
    · have hpiece := hline.append_left (c :: inner ++ [c])
        fun _ hline => by simpa using DirectiveText.literal hquote hinner hline
      simpa using hpiece
    · exact .inl ⟨c :: inner ++ ['\n'], after, by simp, .openLiteral hquote hinner, hafter⟩
    · have hliteral : DirectiveText true (c :: inner ++ after) := .lastLiteral rfl hquote hinner hafter
      exact .inr ⟨hlast, hliteral⟩
  · rename_i hquote
    cases hstep
    have hrest : rest = skipped ++ left := hrest
    refine h.append_left [c] fun {_ line} hpre hline =>
      .plain hfeed (by simpa using hquote) (fun hcomment => hstar ?_) (fun lineEnd hmem hend => ?_) hline
    all_goals have hline : line <+: rest := hpre.trans (hrest ▸ List.prefix_append skipped left)
    · obtain ⟨hc, tail, htail⟩ : c = '/' ∧ ['*'] <+: line := by
        simpa [eq_comm] using List.cons_prefix_cons.mp hcomment
      obtain ⟨after, rfl⟩ := hline
      exact ⟨hc, by simp [← htail]⟩
    · obtain ⟨hc, hend⟩ := List.cons_prefix_cons.mp hend
      have hend := hend.trans hline
      simp only [lineEnds, List.mem_cons, List.not_mem_nil, or_false] at hmem
      rcases hmem with rfl | rfl
      · obtain ⟨tail, rfl⟩ := hend
        exact hback ⟨hc.symm, rfl⟩
      · exact hreturn ⟨hc.symm, List.isPrefixOf_iff_prefix.mpr hend⟩

/-- A step takes its characters to what is passed over after it. -/
theorem Passes.step {mode : TriviaMode} (hstep : mode.step? c rest = some (more, next))
    (hrest : rest.drop more = skipped ++ left) (h : next.Passes toEnd skipped) :
    mode.Passes toEnd (c :: rest.take more ++ skipped) := by
  cases mode with
  | between lineStart => exact h.between hstep
  | lineComment => exact h.lineComment hstep
  | blockComment lineStart => exact h.blockComment hstep hrest
  | directive => exact h.directive hstep hrest
  | directiveComment => exact h.directiveComment hstep hrest
  | directiveLiteral quote => exact h.directiveLiteral hstep hrest

end TriviaMode

theorem splitTrivia_passes (mode : TriviaMode) (cs : List Char) :
    mode.Passes (splitTrivia mode cs).2.isEmpty (splitTrivia mode cs).1 := by
  fun_induction splitTrivia mode cs with
  | case1 mode => exact mode.passes_nil
  | case2 mode c rest hstep =>
      obtain ⟨lineStart, rfl⟩ := TriviaMode.eq_between_of_step?_eq_none hstep
      exact .nil
  | case3 mode c rest more next hstep skipped left hsplit ih =>
      have hrest := splitTrivia_append next (rest.drop more)
      rw [hsplit] at ih hrest
      exact ih.step hstep hrest.symm

/-- What is passed over in front of a token, or of the end of the text, is blanks, comments and directives. -/
theorem splitTrivia_trivia (lineStart : Bool) (cs : List Char) :
    Trivia (splitTrivia (.between lineStart) cs).2.isEmpty lineStart
      (splitTrivia (.between lineStart) cs).1 :=
  splitTrivia_passes (.between lineStart) cs

end NameLint.Source

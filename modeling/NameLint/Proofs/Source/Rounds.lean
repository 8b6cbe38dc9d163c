import NameLint.Proofs.Source.Directive
import NameLint.Proofs.Source.Loops

/-!
# The loops over text between tokens

The loops over blanks, comments and directives hand over to other loops, which may come back without having taken
anything. Each round nevertheless leads further, so both loops end, and they pass over what the machine for text
between tokens passes over.
-/

namespace NameLint.Source

open NameLint.Unicode

/-! ## Text between tokens, piece by piece -/

/-- Text between tokens goes over a piece of text with `left` behind it, from what it is inside of before the piece
to what it is inside of behind it. -/
def TriviaMode.GoesOver (mode : TriviaMode) (piece left : List Char) (next : TriviaMode) : Prop :=
  splitTrivia mode (piece ++ left) = (piece ++ (splitTrivia next left).1, (splitTrivia next left).2)

namespace TriviaMode.GoesOver

variable {mode next last : TriviaMode} {c : Char} {piece left cs : List Char}

theorem nil (mode : TriviaMode) (left : List Char) : mode.GoesOver [] left mode := rfl

/-- At the end of the text it does not matter what it is inside of. -/
theorem atEnd (mode next : TriviaMode) : mode.GoesOver [] [] next := by simp [GoesOver, splitTrivia]

theorem step (taken : List Char) (hstep : mode.step? c (taken ++ (piece ++ left)) = some (taken.length, next))
    (h : next.GoesOver piece left last) : mode.GoesOver (c :: taken ++ piece) left last := by
  have happ : c :: taken ++ piece ++ left = c :: (taken ++ (piece ++ left)) := by simp
  rw [GoesOver] at h
  rw [GoesOver, happ, splitTrivia, hstep]
  simp [h]

/-- A bracketed comment, in a directive or not: `inside` and `behind` say what it is inside of in the comment and
behind it, once a line end may have stood in it. -/
theorem comment (inside behind : Bool → TriviaMode)
    (hclosed : ∀ lineStart rest, (inside lineStart).step? '*' ('/' :: rest) = some (1, behind lineStart))
    (hopen : ∀ lineStart c rest, ¬ (c = '*' ∧ List.head? rest = some '/') →
      (inside lineStart).step? c rest = some (0, inside (lineStart || c = '\n')))
    (lineStart : Bool) (cs : List Char) :
    (inside lineStart).GoesOver (splitThrough ['*', '/'] cs).1 (splitThrough ['*', '/'] cs).2
      (behind (lineStart || (splitThrough ['*', '/'] cs).1.contains '\n')) := by
  induction cs generalizing lineStart with
  | nil => exact atEnd _ _
  | cons c cs ih =>
      cases hmark : ['*', '/'].isPrefixOf (c :: cs) with
      | true =>
          obtain ⟨rest, hrest⟩ := List.isPrefixOf_iff_prefix.mp hmark
          obtain ⟨rfl, rfl⟩ := List.cons.inj hrest
          have hclose : (inside lineStart).GoesOver ['*', '/'] rest (behind lineStart) :=
            step ['/'] (hclosed lineStart rest) (nil _ _)
          rw [splitThrough_of_isPrefixOf (by simp) hmark]
          simpa using hclose
      | false =>
          have hc : ¬ (c = '*' ∧ cs.head? = some '/') := by
            rintro ⟨rfl, hhead⟩
            obtain ⟨rest, rfl⟩ := List.head?_eq_some_iff.mp hhead
            cases hmark
          have hnext := ih (lineStart || c = '\n')
          have hline : (lineStart || (c :: (splitThrough ['*', '/'] cs).1).contains '\n') =
              (lineStart || decide (c = '\n') || (splitThrough ['*', '/'] cs).1.contains '\n') := by
            simp [Bool.or_assoc, @eq_comm _ '\n']
          rw [splitThrough_cons hmark, hline]
          exact step [] (by rw [List.nil_append, splitThrough_append]; exact hopen lineStart c cs hc) hnext

theorem literal {quote : Char} (hquote : isQuote quote = true) (cs : List Char) :
    (directiveLiteral quote).GoesOver (splitQuoted quote cs).1 (splitQuoted quote cs).2 .directive := by
  obtain ⟨hfeed, -, hback⟩ := ne_of_isQuote hquote
  fun_induction splitQuoted quote cs with
  | case1 => exact atEnd _ _
  | case2 rest => simp [GoesOver, splitTrivia, step?]
  | case3 => simp [GoesOver, splitTrivia, step?, hback.symm]
  | case4 d rest inner left hsplit _ ih =>
      rw [hsplit] at ih
      exact step [d] (by simp [step?, hback.symm]) ih
  | case5 rest => exact step [] (by simp [step?, hfeed]) (nil _ _)
  | case6 c rest hfeed hback hquote inner left hsplit ih =>
      rw [hsplit] at ih
      exact step [] (by simp [step?, hfeed, hback, hquote]) ih

/-- A line comment leaves its line end, which is a blank. -/
theorem lineComment (lineStart : Bool) (cs : List Char) :
    TriviaMode.lineComment.GoesOver (cs.takeWhile (· != '\n')) (cs.dropWhile (· != '\n')) (.between lineStart) := by
  induction cs with
  | nil => exact atEnd _ _
  | cons c cs ih =>
      by_cases hc : c = '\n'
      · simp [hc, GoesOver, splitTrivia, step?, isBlank]
      · rw [List.takeWhile_cons_of_pos (by simpa using hc), List.dropWhile_cons_of_pos (by simpa using hc)]
        exact step [] (by simp [step?, hc]) ih

theorem trans {piece' : List Char} (h : mode.GoesOver piece (piece' ++ left) next)
    (h' : next.GoesOver piece' left last) : mode.GoesOver (piece ++ piece') left last := by
  rw [GoesOver] at h h'
  rw [GoesOver, List.append_assoc, h, h', List.append_assoc]

end TriviaMode.GoesOver

namespace Lexer

variable {s : Lexer} {c : Char} {cs rest taken left : List Char}

/-! ## Rounds of a loop -/

/-- A loop over text between tokens comes round again behind a piece of it, where `mode` says what the text is inside
of. -/
def ComesRound (loop : Lexer → Option Lexer) (mode : Lexer → TriviaMode) (s : Lexer) (cs : List Char) : Prop :=
  ∃ piece left, piece ≠ [] ∧ cs = piece ++ left ∧ loop s = loop (s.behind piece) ∧
    (mode s).GoesOver piece left (mode (s.behind piece))

/-- A loop ends if each round leads further, whatever it hands over to. -/
theorem Leaves.exists_behind_of_rounds {loop : Lexer → Option Lexer} {mode : Lexer → TriviaMode}
    {Stops : Lexer → List Char → Prop}
    (hround : ∀ {s cs}, s.Leaves cs → loop s = some s ∧ Stops s cs ∨ ComesRound loop mode s cs)
    (h : s.Leaves cs) :
    ∃ taken left, cs = taken ++ left ∧ loop s = some (s.behind taken) ∧
      (mode s).GoesOver taken left (mode (s.behind taken)) ∧ Stops (s.behind taken) left := by
  -- What is left of the text is shorter with each round.
  induction hlength : cs.length using Nat.strong_induction_on generalizing s cs with
  | _ n ih =>
    rcases hround h with ⟨hend, hstops⟩ | ⟨piece, left, hpiece, rfl, hloop, hover⟩
    · exact ⟨[], cs, rfl, hend, .nil _ _, hstops⟩
    · have hshorter : left.length < n := by
        have := List.length_pos_iff.mpr hpiece
        rw [← hlength, List.length_append]
        omega
      obtain ⟨taken, rest, rfl, hend, hover', hstops⟩ := ih _ hshorter h.behind rfl
      rw [behind_behind] at hend hover' hstops
      exact ⟨piece ++ taken, rest, (List.append_assoc ..).symm, hloop.trans hend, hover.trans hover', hstops⟩

/-! ## Directives -/

/-- Behind the opening of a bracketed comment. -/
theorem Leaves.comment?_behind (h : s.Leaves ('/' :: '*' :: rest)) :
    (s.behind ['/', '*']).comment? = some (s.behind ('/' :: '*' :: (splitThrough ['*', '/'] rest).1)) :=
  h.past.past.comment?_eq

theorem Leaves.directive?_round (h : s.Leaves cs) :
    s.directive? = some s ∧ (∀ c ∈ cs.head?, c = '\n') ∨ ComesRound directive? (fun _ => .directive) s cs := by
  rw [ComesRound, directive?]
  simp only [h.peek?_eq, h.bumps?_eq, h.literal?_eq, Option.bind_eq_bind, Option.bind_some]
  cases cs with
  | nil => exact .inl ⟨rfl, by simp⟩
  | cons c cs =>
  simp only [List.getElem?_cons_zero, List.getElem?_cons_succ, ← isPrefixOf_pair_iff]
  split
  · rename_i hfeed
    exact .inl ⟨rfl, by simpa using hfeed⟩
  rename_i hfeed
  refine .inr ?_
  split
  · rename_i hcomment
    obtain ⟨rest, rfl, rfl⟩ := exists_cons_of_pair hcomment
    refine ⟨'/' :: '*' :: (splitThrough ['*', '/'] rest).1, (splitThrough ['*', '/'] rest).2, by simp,
      by simp [splitThrough_append], congrArg (·.bind directive?) h.comment?_behind, ?_⟩
    exact .step ['*'] rfl (.comment (fun _ => .directiveComment) (fun _ => .directive)
      (fun _ _ => rfl) (fun _ _ _ hopen => if_neg hopen) false rest)
  rename_i hcomment
  split
  · -- The literal may end right away, in front of the line end, but it has taken its opening quote.
    rename_i hquote
    refine ⟨c :: (splitQuoted c cs).1, (splitQuoted c cs).2, by simp, by simp [splitQuoted_append], rfl, ?_⟩
    exact .step [] (step?_directive_of_isQuote hquote _) (.literal hquote cs)
  rename_i hquote
  split
  · rename_i hspliced
    obtain ⟨rest, rfl, rfl⟩ := exists_cons_of_pair hspliced
    exact ⟨['\\', '\n'], rest, by simp, rfl, rfl, .step ['\n'] rfl (.nil _ _)⟩
  rename_i hspliced
  split
  · rename_i hreturn
    obtain ⟨rfl, hreturn⟩ := hreturn
    obtain ⟨rest, rfl⟩ := List.isPrefixOf_iff_prefix.mp hreturn
    exact ⟨['\\', '\r', '\n'], rest, by simp, rfl, rfl, .step ['\r', '\n'] rfl (.nil _ _)⟩
  · rename_i hreturn
    rw [← List.head?_eq_getElem?] at hcomment hspliced
    refine ⟨[c], cs, by simp, rfl, rfl, .step [] ?_ (.nil _ _)⟩
    exact (if_neg hfeed).trans <| (if_neg hcomment).trans <| (if_neg hspliced).trans <|
      (if_neg hreturn).trans (if_neg hquote)

/-- A directive ends with its line, or with the text. -/
theorem Leaves.directive?_eq (h : s.Leaves cs) :
    ∃ taken left, cs = taken ++ left ∧ s.directive? = some (s.behind taken) ∧
      TriviaMode.directive.GoesOver taken left (.between true) ∧ ∀ c ∈ left.head?, c = '\n' := by
  obtain ⟨taken, left, rfl, hend, hover, hstops⟩ := h.exists_behind_of_rounds Leaves.directive?_round
  refine ⟨taken, left, rfl, hend, ?_, hstops⟩
  have hlast : TriviaMode.directive.GoesOver [] left (.between true) := by
    cases left with
    | nil => exact .atEnd _ _
    | cons c left =>
        obtain rfl : c = '\n' := hstops c rfl
        simp [TriviaMode.GoesOver, splitTrivia, TriviaMode.step?, isBlank]
  simpa using hover.trans hlast

/-! ## Text between tokens -/

/-- What text between tokens is inside of where the lexer stands. -/
def mode (s : Lexer) : TriviaMode := .between s.lineStart

theorem mode_behind (s : Lexer) (cs : List Char) : (s.behind cs).mode = .between (s.lineStart || cs.contains '\n') := by
  rw [mode, lineStart_behind]

theorem Leaves.trivia?_round (h : s.Leaves cs) :
    s.trivia? = some s ∧ splitTrivia s.mode cs = ([], cs) ∨ ComesRound trivia? mode s cs := by
  rw [ComesRound, trivia?]
  simp only [h.peek?_eq, h.bumps?_eq, h.bumpWhile?_eq, Option.bind_eq_bind, Option.bind_some]
  cases cs with
  | nil => exact .inl ⟨rfl, by rw [splitTrivia]⟩
  | cons c cs =>
  simp only [List.getElem?_cons_zero, List.getElem?_cons_succ]
  split
  · rename_i hblank
    refine .inr ⟨[c], cs, by simp, rfl, rfl, .step [] ?_ (.nil _ _)⟩
    rw [mode_behind, mode]
    simp [TriviaMode.step?, hblank, @eq_comm _ '\n']
  rename_i hblank
  split
  · rename_i hcomment
    obtain ⟨rest, rfl, rfl⟩ := exists_cons_of_pair hcomment
    refine .inr ⟨'/' :: '/' :: rest.takeWhile (· != '\n'), rest.dropWhile (· != '\n'), by simp, by simp, rfl, ?_⟩
    have hline : ('/' :: '/' :: rest.takeWhile (· != '\n')).contains '\n' = false := by
      simpa using fun hmem => by simpa using List.mem_takeWhile_imp hmem
    rw [mode_behind, hline, Bool.or_false]
    exact .step ['/'] rfl (.lineComment s.lineStart rest)
  rename_i hcomment
  split
  · rename_i hbracketed
    obtain ⟨rest, rfl, rfl⟩ := exists_cons_of_pair hbracketed
    refine .inr ⟨'/' :: '*' :: (splitThrough ['*', '/'] rest).1, (splitThrough ['*', '/'] rest).2, by simp,
      by simp [splitThrough_append], congrArg (·.bind trivia?) h.comment?_behind, ?_⟩
    rw [mode_behind]
    exact .step ['*'] rfl (.comment .blockComment .between (fun _ _ => rfl) (fun _ _ _ hopen => if_neg hopen)
      s.lineStart rest)
  rename_i hbracketed
  split
  · -- A directive ends in front of a line end, so it has taken its number sign.
    rename_i hhash
    obtain ⟨rfl, hstart⟩ := hhash
    obtain ⟨taken, left, hcs, hend, hover, hline⟩ := h.directive?_eq
    refine .inr ⟨taken, left, ?_, hcs, by rw [hend]; rfl, ?_⟩
    · rintro rfl
      obtain rfl : left = '#' :: cs := hcs.symm
      exact absurd (hline '#' rfl) (by decide)
    · have hbegins : splitTrivia (.between true) ('#' :: cs) = splitTrivia .directive ('#' :: cs) := by
        simp [splitTrivia, TriviaMode.step?, isBlank, isQuote]
      rw [mode_behind, mode, hstart, Bool.true_or, TriviaMode.GoesOver, ← hcs, hbegins, hcs]
      exact hover
  · rename_i hhash
    refine .inl ⟨rfl, ?_⟩
    have hnone : s.mode.step? c cs = none := by
      rw [mode, TriviaMode.step?_between_eq_none_iff]
      simp only [List.head?_eq_getElem?]
      grind
    rw [splitTrivia, hnone]

/-- Text between tokens is passed over up to where it ends. -/
theorem Leaves.trivia?_eq (h : s.Leaves cs) : s.trivia? = some (s.behind (splitTrivia s.mode cs).1) := by
  obtain ⟨taken, left, rfl, hend, hover, hstops⟩ := h.exists_behind_of_rounds Leaves.trivia?_round
  rw [TriviaMode.GoesOver, hstops, List.append_nil] at hover
  rw [hend, hover]

end Lexer

end NameLint.Source

import NameLint.Proofs.Source.InLine

/-!
# Carriage returns before line feeds

A text with a carriage return before each line feed. The characters in it stand at the same places, and what
stands between its tokens is what stands between those of the text without, if literals in directives are
taken to end with their line.
-/

namespace NameLint.Source

open NameLint.Unicode

/-- A carriage return before each line feed. -/
def crlf (cs : List Char) : List Char :=
  cs.flatMap fun c => if c = '\n' then ['\r', '\n'] else [c]

/-- A text with a carriage return before each line feed. -/
def withCarriageReturns (text : String) : String := String.ofList (crlf text.toList)

@[simp] theorem crlf_nil : crlf [] = [] := rfl

@[simp] theorem crlf_lineFeed (cs : List Char) : crlf ('\n' :: cs) = '\r' :: '\n' :: crlf cs := rfl

theorem crlf_cons {c : Char} (h : c ≠ '\n') (cs : List Char) : crlf (c :: cs) = c :: crlf cs := by
  simp [crlf, h]

theorem crlf_append (cs ds : List Char) : crlf (cs ++ ds) = crlf cs ++ crlf ds := List.flatMap_append

@[elab_as_elim]
theorem lineFeed_induction {motive : List Char → Prop} (cs : List Char) (nil : motive [])
    (lineFeed : ∀ cs, motive cs → motive ('\n' :: cs))
    (other : ∀ c cs, c ≠ '\n' → motive cs → motive (c :: cs)) : motive cs := by
  induction cs with
  | nil => exact nil
  | cons c cs ih =>
      by_cases hc : c = '\n'
      · exact hc ▸ lineFeed cs ih
      · exact other c cs hc ih

theorem crlf_of_not_mem {cs : List Char} (h : '\n' ∉ cs) : crlf cs = cs := by
  induction cs with
  | nil => rfl
  | cons c cs ih =>
      simp only [List.mem_cons, not_or] at h
      rw [crlf_cons (Ne.symm h.1), ih h.2]

theorem crlf_eq_nil {cs : List Char} : crlf cs = [] ↔ cs = [] := by
  induction cs using lineFeed_induction with
  | nil => simp
  | lineFeed cs _ => simp
  | other c cs hc _ => simp [crlf_cons hc]

theorem lineFeed_mem_crlf {cs : List Char} : '\n' ∈ crlf cs ↔ '\n' ∈ cs := by
  induction cs using lineFeed_induction with
  | nil => simp
  | lineFeed cs _ => simp
  | other c cs hc ih => simp [crlf_cons hc, ih]

theorem Position.after_crlf (p : Position) (cs : List Char) : p.after (crlf cs) = p.after cs := by
  induction cs using lineFeed_induction generalizing p with
  | nil => rfl
  | lineFeed cs ih =>
      simp only [crlf_lineFeed, after_cons, ih]
      -- The line feed goes to the next line, however far the carriage return has gone on this one.
      rfl
  | other c cs hc ih => simp only [crlf_cons hc, after_cons, ih]

section

variable {p : Char → Bool} (hp : p '\r' = p '\n') (cs : List Char)

include hp

theorem takeWhile_crlf : (crlf cs).takeWhile p = crlf (cs.takeWhile p) := by
  induction cs using lineFeed_induction with
  | nil => rfl
  | lineFeed cs ih =>
      simp only [crlf_lineFeed, List.takeWhile_cons, hp, ih]
      split <;> rfl
  | other c cs hc ih =>
      simp only [crlf_cons hc, List.takeWhile_cons, ih]
      split
      · rw [crlf_cons hc]
      · rfl

theorem dropWhile_crlf : (crlf cs).dropWhile p = crlf (cs.dropWhile p) := by
  induction cs using lineFeed_induction with
  | nil => rfl
  | lineFeed cs ih =>
      simp only [crlf_lineFeed, List.dropWhile_cons, hp, ih]
      split <;> rfl
  | other c cs hc ih =>
      simp only [crlf_cons hc, List.dropWhile_cons, ih]
      split
      · rfl
      · rw [crlf_cons hc]

end

/-! ## Text between tokens -/

/-- A literal in a directive is inside quotes. -/
def TriviaMode.InQuotes : TriviaMode → Prop
  | .directiveLiteral quote => isQuote quote = true
  | _ => True

theorem TriviaMode.InQuotes.step {mode next : TriviaMode} {c : Char} {rest : List Char} {more : Nat}
    (h : mode.InQuotes) (hstep : mode.stepInLine? c rest = some (more, next)) : next.InQuotes := by
  cases mode <;> simp only [stepInLine?, step?] at hstep
  all_goals
    repeat' split at hstep
    all_goals cases hstep <;> trivial

theorem TriviaMode.step?_carriageReturn {mode : TriviaMode} (h : mode.InQuotes) (rest : List Char) :
    mode.step? '\r' rest = some (0, mode) := by
  cases mode with
  | directiveLiteral quote => simp [step?, (ne_of_isQuote h).2.1.symm]
  | between lineStart => simp [step?, isBlank]
  | directive => simp [step?, isQuote]
  | _ => simp [step?]

theorem splitTrivia_carriageReturn {mode : TriviaMode} (h : mode.InQuotes) (cs : List Char) :
    splitTrivia mode ('\r' :: cs) =
      ('\r' :: (splitTrivia mode cs).1, (splitTrivia mode cs).2) := by
  rw [splitTrivia, TriviaMode.step?_carriageReturn h]
  rfl

theorem TriviaMode.stepInLine?_lineFeed (mode : TriviaMode) (rest : List Char) :
    ∃ next, mode.stepInLine? '\n' rest = some (0, next) ∧
      ∀ rest', mode.step? '\n' rest' = some (0, next) := by
  cases mode with
  | between lineStart =>
      exact ⟨.between true, by simp [stepInLine?, step?, isBlank], by simp [step?, isBlank]⟩
  | lineComment => exact ⟨.between true, rfl, fun _ => rfl⟩
  | blockComment lineStart =>
      exact ⟨.blockComment true, by simp [stepInLine?, step?], by simp [step?]⟩
  | directive => exact ⟨.between true, rfl, fun _ => rfl⟩
  | directiveComment => exact ⟨.directiveComment, by simp [stepInLine?, step?], by simp [step?]⟩
  | directiveLiteral quote => exact ⟨.between true, by simp [stepInLine?, step?], by simp [step?]⟩

theorem TriviaMode.step?_crlf {mode : TriviaMode} {c : Char} {rest : List Char} (hrest : '\r' ∉ rest)
    (hc : ¬ (c = '\\' ∧ rest.head? = some '\n')) : mode.step? c (crlf rest) = mode.step? c rest := by
  induction rest using lineFeed_induction with
  | nil => rfl
  | lineFeed rest _ =>
      have hc : c ≠ '\\' := fun heq => hc ⟨heq, rfl⟩
      cases mode <;> simp [step?, hc]
  | other d rest hd _ =>
      simp only [List.mem_cons, not_or] at hrest
      cases mode <;> simp [step?, crlf_cons hd, hrest.1]

/-- A step takes one character more at most, and none at the end of a line, except for a backslash. -/
theorem TriviaMode.more_le {mode next : TriviaMode} {c : Char} {rest : List Char} {more : Nat}
    (hrest : '\r' ∉ rest) (hc : ¬ (c = '\\' ∧ rest.head? = some '\n'))
    (hstep : mode.step? c rest = some (more, next)) :
    more = 0 ∨ more = 1 ∧ rest.head? ≠ some '\n' := by
  have hstart : ¬ ['\r', '\n'].isPrefixOf rest = true := by
    cases rest with
    | nil => simp
    | cons d rest =>
        simp only [List.mem_cons, not_or] at hrest
        simp [hrest.1]
  cases mode <;> simp only [step?] at hstep <;> grind

/-- What a step takes without carriage returns it takes with them: a backslash in a directive takes the
line end after it either way, one in a literal of a directive only the carriage return. -/
theorem splitTrivia_crlf_step {mode next : TriviaMode} {c : Char} {rest : List Char} {more : Nat}
    (h : mode.InQuotes) (hrest : '\r' ∉ rest)
    (hstep : mode.stepInLine? c rest = some (more, next)) :
    splitTrivia mode (c :: crlf rest) =
      (c :: crlf (rest.take more) ++ (splitTrivia next (crlf (rest.drop more))).1,
        (splitTrivia next (crlf (rest.drop more))).2) := by
  by_cases hc : c = '\\' ∧ rest.head? = some '\n'
  · obtain ⟨rfl, hhead⟩ := hc
    obtain ⟨tail, rfl⟩ := List.head?_eq_some_iff.mp hhead
    cases mode with
    | directive =>
        obtain ⟨rfl, rfl⟩ : more = 1 ∧ next = .directive := by
          simpa [TriviaMode.stepInLine?, TriviaMode.step?, eq_comm] using hstep
        rw [splitTrivia]
        simp [TriviaMode.step?]
    | directiveLiteral quote =>
        -- The backslash has taken the carriage return, which the literal passes over anyway.
        obtain ⟨rfl, rfl⟩ : more = 0 ∧ next = .directiveLiteral quote := by
          simpa [TriviaMode.stepInLine?, eq_comm] using hstep
        have htaken : TriviaMode.step? (.directiveLiteral quote) '\\' (crlf ('\n' :: tail)) =
            some (1, .directiveLiteral quote) := by
          simp [TriviaMode.step?, (ne_of_isQuote h).2.2.symm]
        rw [splitTrivia, htaken, List.take_zero, List.drop_zero, crlf_nil, crlf_lineFeed,
          splitTrivia_carriageReturn h]
        rfl
    | between lineStart => simp [TriviaMode.stepInLine?, TriviaMode.step?, isBlank] at hstep
    | _ =>
        obtain ⟨rfl, rfl⟩ : more = 0 ∧ next = _ := by
          simpa [TriviaMode.stepInLine?, TriviaMode.step?, eq_comm] using hstep
        rw [splitTrivia]
        simp [TriviaMode.step?]
  · have hstep : mode.step? c rest = some (more, next) := by
      cases mode <;> simpa [TriviaMode.stepInLine?, hc] using hstep
    rw [splitTrivia, TriviaMode.step?_crlf hrest hc, hstep]
    rcases TriviaMode.more_le hrest hc hstep with rfl | ⟨rfl, hhead⟩
    · rfl
    · cases rest with
      | nil => rfl
      | cons d rest =>
          have hd : d ≠ '\n' := fun heq => hhead (congrArg some heq)
          simp [crlf_cons hd]

theorem splitTrivia_crlf {mode : TriviaMode} {cs : List Char} (h : mode.InQuotes) (hcs : '\r' ∉ cs) :
    splitTrivia mode (crlf cs) =
      (crlf (splitTriviaInLine mode cs).1, crlf (splitTriviaInLine mode cs).2) := by
  fun_induction splitTriviaInLine mode cs with
  | case1 => rw [crlf_nil, splitTrivia]
  | case2 mode c rest hstep =>
      simp only [List.mem_cons, not_or] at hcs
      obtain ⟨⟨lineStart, rfl⟩, hblank⟩ := TriviaMode.stepInLine?_eq_none hstep
      have hstep' : TriviaMode.step? (.between lineStart) c (crlf rest) = none := by
        by_cases hc : c = '\\'
        · subst hc
          simp [TriviaMode.step?, isBlank]
        · rw [TriviaMode.step?_crlf hcs.2 fun heq => hc heq.1]
          exact hstep
      rw [crlf_cons (ne_lineEnd_of_not_isBlank hblank), splitTrivia, hstep']
      rfl
  | case3 mode c rest more next hstep skipped after heq ih =>
      simp only [List.mem_cons, not_or] at hcs
      have hdrop : '\r' ∉ rest.drop more := fun hmem => hcs.2 (List.mem_of_mem_drop hmem)
      have hnext := ih (h.step hstep) hdrop
      rw [heq] at hnext
      by_cases hc : c = '\n'
      · subst hc
        obtain ⟨next', hfeed, hstep'⟩ := TriviaMode.stepInLine?_lineFeed mode rest
        obtain ⟨rfl, rfl⟩ : more = 0 ∧ next = next' := by simpa using hstep.symm.trans hfeed
        rw [crlf_lineFeed, splitTrivia_carriageReturn h, splitTrivia, hstep']
        simp only [List.drop_zero] at hnext
        simp [hnext]
      · rw [crlf_cons hc, splitTrivia_crlf_step h hcs.2 hstep, hnext]
        simp [crlf_cons hc, crlf_append]

end NameLint.Source

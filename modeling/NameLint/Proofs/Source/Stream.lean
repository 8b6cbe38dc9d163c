import NameLint.Proofs.Source.Rounds

/-!
# The stream of tokens

Each call of the lexer gives the next token of the text and leads further, until the end of the text. What it gives
one after the other are the tokens that are split off the text.
-/

namespace NameLint.Source

open NameLint.Unicode

namespace Lexer

variable {s : Lexer} {c : Char} {cs rest taken left : List Char}

/-! ## Tokens -/

theorem Leaves.word?_eq (h : s.Leaves cs) : s.word? = some ((splitWord cs).1, s.behind (splitWord cs).2.1) := by
  have hword : s.Leaves (cs.takeWhile isIdentContinue ++ cs.dropWhile isIdentContinue) := by
    rwa [List.takeWhile_append_dropWhile]
  have hbetween := Leaves.textBetween?_eq hword
  rw [word?, h.bumpWhile?_eq]
  simp only [Option.bind_eq_bind, Option.bind_some, offset_behind, hbetween, hword.behind.peek?_eq,
    hword.behind.literal?_eq, hword.behind.rawString?_eq, behind_behind, String.toList_ofList]
  rcases splitWord_cases cs with ⟨inside, hrest⟩ | ⟨inside, hrest⟩ | hquote
  · rw [splitWord_doubleQuote hrest, hrest]
    simp only [List.getElem?_cons_zero]
    split
    · split <;> rfl
    · rfl
  · rw [splitWord_singleQuote hrest, hrest]
    simp only [List.getElem?_cons_zero]
    split <;> rfl
  · rw [splitWord_of_not_isQuote hquote]
    simp only [← List.head?_eq_getElem?]
    split
    · exact absurd (hquote _ ‹_›) (by decide)
    · exact absurd (hquote _ ‹_›) (by decide)
    · rfl

theorem Leaves.mark?_eq (h : s.Leaves (c :: rest)) : s.mark? c = some (s.behind (splitMark c rest).1) := by
  rw [mark?, h.bumps?_one]
  simp only [Option.bind_eq_bind, Option.bind_some, h.past.peek?_eq, h.past.bumps?_eq]
  unfold splitMark
  split
  · rename_i hnext
    obtain ⟨rest, rfl⟩ := exists_cons_of_getElem?_zero hnext
    rfl
  · rename_i hnext
    obtain ⟨rest, rfl⟩ := exists_cons_of_getElem?_zero hnext
    rfl
  · rename_i hcolons harrow
    split
    · exact absurd rfl (hcolons rfl)
    · exact absurd rfl (harrow rfl)
    · rfl

theorem Leaves.token?_eq (h : s.Leaves (c :: rest)) :
    s.token? c = some ((splitToken c rest).1, s.behind (splitToken c rest).2.1) := by
  have hdigit : digitComesNext rest = rest[0]?.any Char.isDigit := by cases rest <;> rfl
  rw [token?, splitToken, h.word?_eq, h.peek?_eq, h.bumps?_one, h.literal?_eq, h.mark?_eq]
  simp only [Option.bind_eq_bind, Option.bind_some, List.getElem?_cons_succ, hdigit, h.past.number?_eq]
  split
  · rfl
  split
  · rfl
  split
  · rfl
  · rfl

/-! ## One call after the other -/

@[simp] theorem offset_beginToken (s : Lexer) : s.beginToken.offset = s.offset := rfl

@[simp] theorem place_beginToken (s : Lexer) : s.beginToken.place = s.place := rfl

@[simp] theorem lineStart_beginToken (s : Lexer) : s.beginToken.lineStart = false := rfl

/-- Where nothing but text between tokens is left, there is no token, and the lexer stands at the end. -/
theorem Leaves.next?_of_nil (h : s.Leaves cs) (hleft : (splitTrivia s.mode cs).2 = []) :
    s.next? = some (none, s.behind cs) := by
  have hcs := splitTrivia_append s.mode cs
  rw [hleft, List.append_nil] at hcs
  have hend : (s.behind cs).Leaves [] := Leaves.behind (by rwa [List.append_nil])
  rw [next?, h.trivia?_eq, hcs]
  simp [hend.peek?_eq]

theorem Leaves.beginToken_behind (h : s.Leaves cs) (hleft : (splitTrivia s.mode cs).2 = c :: rest) :
    (s.behind (splitTrivia s.mode cs).1).beginToken.Leaves (c :: rest) := by
  have hcs := splitTrivia_append s.mode cs
  rw [hleft] at hcs
  exact Leaves.behind (by rwa [hcs])

/-- Behind the text between tokens and the token that begins with `c`. -/
def behindToken (s : Lexer) (gap : List Char) (c : Char) (rest : List Char) : Lexer :=
  (s.behind gap).beginToken.behind (splitToken c rest).2.1

theorem Leaves.behindToken (h : s.Leaves cs) (hleft : (splitTrivia s.mode cs).2 = c :: rest) :
    (s.behindToken (splitTrivia s.mode cs).1 c rest).Leaves (splitToken c rest).2.2 :=
  Leaves.behind (by rw [splitToken_append]; exact h.beginToken_behind hleft)

theorem Leaves.next?_of_cons (h : s.Leaves cs) (hleft : (splitTrivia s.mode cs).2 = c :: rest) :
    s.next? = some (some ⟨(splitToken c rest).1, String.ofList (splitToken c rest).2.1,
      s.place.after (splitTrivia s.mode cs).1⟩, s.behindToken (splitTrivia s.mode cs).1 c rest) := by
  have hbegins := h.beginToken_behind hleft
  have htext := Leaves.textBetween?_eq ((splitToken_append c rest).symm ▸ hbegins)
  have hpeek : (s.behind (splitTrivia s.mode cs).1).peek? 0 = some (some c) := hbegins.peek?_eq 0
  rw [offset_beginToken, offset_behind] at htext
  rw [next?, h.trivia?_eq]
  simp only [Option.bind_eq_bind, Option.bind_some, hpeek, hbegins.token?_eq, text_behind, offset_behind, place_behind,
    offset_beginToken, htext]
  rfl

/-- The stream of tokens is finite: it is the tokens of the rest of the text. -/
theorem Leaves.stream?_eq (h : s.Leaves cs) : s.stream? = some (tokensFrom s.lineStart s.place cs) := by
  generalize hstart : s.lineStart = lineStart
  generalize hplace : s.place = place
  induction lineStart, place, cs using tokensFrom_induction generalizing s with
  | none lineStart place cs hleft =>
      subst hstart
      rw [stream?, h.next?_of_nil hleft, tokensFrom_eq_nil hleft]
      rfl
  | token lineStart place cs c rest hleft ih =>
      subst hstart hplace
      have hnext := ih (h.behindToken hleft) (by simp [Lexer.behindToken]) (by simp [Lexer.behindToken, mode])
      have hmode : TriviaMode.between s.lineStart = s.mode := rfl
      rw [hmode] at hnext
      rw [stream?, h.next?_of_cons hleft, tokensFrom_eq_cons hleft, hmode]
      simp only [hnext, Option.bind_eq_bind, Option.bind_some, Option.pure_def]

/-- Each token takes a byte at least. -/
theorem length_tokensFrom_le (lineStart : Bool) (place : Position) (cs : List Char) :
    (tokensFrom lineStart place cs).length ≤ utf8Size cs := by
  induction lineStart, place, cs using tokensFrom_induction with
  | none lineStart place cs hleft => simp [tokensFrom_eq_nil hleft]
  | token lineStart place cs c rest hleft ih =>
      have hcs := congrArg utf8Size (splitTrivia_append (.between lineStart) cs)
      have htoken := congrArg utf8Size (splitToken_append c rest)
      have hpos := utf8Size_pos (splitToken_ne_nil c rest)
      rw [hleft] at hcs
      rw [utf8Size_append] at hcs htoken
      rw [tokensFrom_eq_cons hleft, List.length_cons]
      omega

/-! ## States that the lexer comes to -/

/-- The states that the lexer comes to in a text: it stands at the beginning of it at first, and whatever loop it is
in, it goes on by taking the next character or by beginning a token. -/
inductive Reachable (text : String) : Lexer → Prop
  | start : Reachable text (ofText text)
  | bump {s t : Lexer} {next : Option Char} (reached : Reachable text s) (step : s.bump? = some (next, t)) :
      Reachable text t
  | token {s : Lexer} (reached : Reachable text s) : Reachable text s.beginToken

theorem leaves_ofText (text : String) : (ofText text).Leaves text.toList :=
  ⟨[], by simp [ofText], rfl⟩

/-- The offset never cuts a character, whatever has been taken. -/
theorem Reachable.exists_leaves {text : String} (h : Reachable text s) : s.text = text ∧ ∃ cs, s.Leaves cs := by
  induction h with
  | start => exact ⟨rfl, _, leaves_ofText text⟩
  | bump _ step ih =>
      obtain ⟨htext, cs, hcs⟩ := ih
      cases cs with
      | nil =>
          cases hcs.bump?_nil.symm.trans step
          exact ⟨htext, [], hcs⟩
      | cons c cs =>
          cases hcs.bump?_cons.symm.trans step
          exact ⟨htext, cs, hcs.past⟩
  | token _ ih => exact ih

theorem Reachable.behind {text : String} (h : Reachable text s) (hs : s.Leaves cs) (htaken : taken <+: cs) :
    Reachable text (s.behind taken) := by
  obtain ⟨left, rfl⟩ := htaken
  induction taken generalizing s with
  | nil => exact h
  | cons c taken ih => exact ih (h.bump (Leaves.bump?_cons hs)) hs.past

theorem Reachable.behindToken {text : String} (h : Reachable text s) (hs : s.Leaves cs)
    (hleft : (splitTrivia s.mode cs).2 = c :: rest) :
    Reachable text (s.behindToken (splitTrivia s.mode cs).1 c rest) :=
  (h.behind hs ⟨_, splitTrivia_append s.mode cs⟩).token.behind (hs.beginToken_behind hleft)
    ⟨_, splitToken_append c rest⟩

/-- The loops of the lexer. -/
inductive IsLoop : (Lexer → Option Lexer) → Prop
  | identifier : IsLoop (bumpWhile? isIdentContinue)
  | number (previous : Char) : IsLoop (number? previous)
  | quoted (quote : Char) : IsLoop (quoted? quote)
  | literal (quote : Char) : IsLoop (literal? quote)
  | rawString : IsLoop rawString?
  | lineComment : IsLoop (bumpWhile? (· != '\n'))
  | comment : IsLoop comment?
  | directive : IsLoop directive?
  | trivia : IsLoop trivia?

theorem Leaves.exists_of_isLoop {loop : Lexer → Option Lexer} (h : s.Leaves cs) (hloop : IsLoop loop) :
    ∃ taken, taken <+: cs ∧ loop s = some (s.behind taken) := by
  have hopened {split : List Char → List Char × List Char} (happend : ∀ cs, (split cs).1 ++ (split cs).2 = cs) :
      cs.take 1 ++ (split (cs.drop 1)).1 <+: cs :=
    ⟨(split (cs.drop 1)).2, by rw [List.append_assoc, happend, List.take_append_drop]⟩
  cases hloop with
  | identifier => exact ⟨_, List.takeWhile_prefix _, h.bumpWhile?_eq _⟩
  | number previous => exact ⟨_, ⟨_, splitNumber_append previous cs⟩, h.number?_eq previous⟩
  | quoted quote => exact ⟨_, ⟨_, splitQuoted_append quote cs⟩, h.quoted?_eq quote⟩
  | literal quote => exact ⟨_, hopened (splitQuoted_append quote), h.literal?_eq quote⟩
  | rawString => exact ⟨_, hopened splitRaw_append, h.rawString?_eq⟩
  | lineComment => exact ⟨_, List.takeWhile_prefix _, h.bumpWhile?_eq _⟩
  | comment => exact ⟨_, ⟨_, splitThrough_append _ cs⟩, h.comment?_eq⟩
  | directive =>
      obtain ⟨taken, left, rfl, hend, -⟩ := h.directive?_eq
      exact ⟨taken, List.prefix_append taken left, hend⟩
  | trivia => exact ⟨_, ⟨_, splitTrivia_append s.mode cs⟩, h.trivia?_eq⟩

/-- In every state that the lexer comes to, its offset cuts no character and lies within the text; each of its loops
ends; and the next call gives a token and leads further, or stands at the end of the text and gives nothing from then
on. So the stream of tokens is finite, and it is the tokens of the text. -/
theorem advances_or_ends {text : String} {s : Lexer} (h : Reachable text s) :
    String.Pos.Raw.IsValid text ⟨s.offset⟩ ∧
      (∀ loop, IsLoop loop → ∃ t, loop s = some t ∧ Reachable text t ∧ s.offset ≤ t.offset) ∧
      ((∃ token t, s.next? = some (some token, t) ∧ Reachable text t ∧ s.offset < t.offset) ∨
        ∃ t, s.next? = some (none, t) ∧ Reachable text t ∧ t.offset = text.utf8ByteSize ∧
          t.next? = some (none, t)) ∧
      (∃ ts, s.stream? = some ts ∧ s.offset + ts.length ≤ text.utf8ByteSize) ∧
      (ofText text).stream? = some (tokens text) := by
  obtain ⟨rfl, cs, hs⟩ := h.exists_leaves
  refine ⟨hs.isValid, fun loop hloop => ?_, ?_, ⟨_, hs.stream?_eq, ?_⟩, (leaves_ofText s.text).stream?_eq⟩
  · obtain ⟨taken, htaken, hend⟩ := hs.exists_of_isLoop hloop
    exact ⟨_, hend, h.behind hs htaken, by simp⟩
  · cases hleft : (splitTrivia s.mode cs).2 with
    | nil =>
        have hend : (s.behind cs).Leaves [] := Leaves.behind (by rwa [List.append_nil])
        refine .inr ⟨_, hs.next?_of_nil hleft, h.behind hs List.prefix_rfl, ?_, ?_⟩
        · rw [offset_behind, hs.utf8ByteSize_eq]
        · exact hend.next?_of_nil (by rw [splitTrivia])
    | cons c rest =>
        refine .inl ⟨_, _, hs.next?_of_cons hleft, h.behindToken hs hleft, ?_⟩
        have hpos := utf8Size_pos (splitToken_ne_nil c rest)
        rw [Lexer.behindToken, offset_behind, offset_beginToken, offset_behind]
        omega
  · rw [hs.utf8ByteSize_eq]
    have := length_tokensFrom_le s.lineStart s.place cs
    omega

/-- In the middle of a raw string that is not closed, behind a character of two bytes. -/
theorem advances_or_ends_in_raw_string :
    Reachable "R\"é(x" ⟨"R\"é(x", 4, ⟨1, 4⟩, true⟩ ∧
      String.Pos.Raw.IsValid "R\"é(x" ⟨4⟩ ∧ ¬ String.Pos.Raw.IsValid "R\"é(x" ⟨3⟩ ∧
      (∀ loop, IsLoop loop →
        ∃ t, loop ⟨"R\"é(x", 4, ⟨1, 4⟩, true⟩ = some t ∧ Reachable "R\"é(x" t ∧ 4 ≤ t.offset) ∧
      (ofText "R\"é(x").stream? = some [⟨.literal, "R\"é(x", ⟨1, 1⟩⟩] := by
  have hbehind : (ofText "R\"é(x").behind ['R', '"', 'é'] = ⟨"R\"é(x", 4, ⟨1, 4⟩, true⟩ := rfl
  have hreached : Reachable "R\"é(x" ⟨"R\"é(x", 4, ⟨1, 4⟩, true⟩ :=
    hbehind ▸ Reachable.start.behind (leaves_ofText _) ⟨['(', 'x'], rfl⟩
  obtain ⟨hvalid, hloops, -, -, hstream⟩ := advances_or_ends hreached
  refine ⟨hreached, hvalid, by decide +kernel, hloops, ?_⟩
  rw [hstream]
  decide +kernel

end Lexer

end NameLint.Source

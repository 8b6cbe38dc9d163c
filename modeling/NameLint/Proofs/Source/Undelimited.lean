import NameLint.Proofs.Source.Closed

/-!
# Words for raw strings that begin none

Behind a word for raw strings and a quote, a text without a delimiter is read as a string, but with its first
character taken unseen. Mostly this is the string that the quote alone begins. It is another one where that
character ends the string, or a backslash too many or too few lies before the character that does.
-/

namespace NameLint.Source

open NameLint.Unicode

/-! ## Texts without a delimiter -/

/-- A text that begins no raw string behind its opening quote: it has no parenthesis, or what stands before the
first is longer than sixteen bytes or has a blank or a quote in it. -/
def BeginsNoRawString (t : String) : Prop :=
  '(' ∉ t.toList ∨ ∃ before after, t = before ++ "(" ++ after ∧ '(' ∉ before.toList ∧
    (16 < before.utf8ByteSize ∨ ∃ c ∈ before.toList, isBlank c = true ∨ c = '"')

theorem BeginsNoRawString.rawDelimiter?_eq_none {t : String} (h : BeginsNoRawString t) :
    rawDelimiter? t.toList = none := by
  rcases h with hparen | ⟨before, after, rfl, hparen, hbad⟩
  · exact rawDelimiter?_of_not_mem hparen
  · have htake : (before ++ "(" ++ after).toList.takeWhile (· != '(') = before.toList := by
      rw [String.toList_append, String.toList_append, List.append_assoc,
        List.takeWhile_append_of_pos fun c hc => bne_iff_ne.mpr (ne_of_mem_of_not_mem hc hparen)]
      simp
    unfold rawDelimiter?
    rw [htake, if_neg]
    rintro ⟨-, hsize, hplain⟩
    rcases hbad with hlong | ⟨c, hc, hstop⟩
    · rw [utf8Size_eq, String.ofList_toList] at hsize
      omega
    · have hc := List.all_eq_true.mp hplain c hc
      rcases hstop with hblank | rfl
      · simp [hblank] at hc
      · simp at hc

/-! ## The first character taken unseen -/

/-- What a string takes behind its opening quote if it takes the first character unseen. -/
def takenUnseen : List Char → List Char
  | [] => []
  | c :: rest => c :: (splitQuoted '"' rest).1

theorem splitRaw_fst_of_none {cs : List Char} (h : rawDelimiter? cs = none) :
    (splitRaw cs).1 = takenUnseen cs := by
  cases cs with
  | nil => simp [splitRaw, h, takenUnseen]
  | cons c rest => rw [splitRaw_of_none h, takenUnseen]

/-- A backslash takes the character behind it unseen. -/
theorem splitQuoted_backslash_fst (rest : List Char) :
    (splitQuoted '"' ('\\' :: rest)).1 = '\\' :: takenUnseen rest := by
  cases rest with
  | nil => rfl
  | cons d rest => rw [splitQuoted_backslash, takenUnseen]

/-- Behind backslashes comes the end of the line, or a quote with more behind it on the line. -/
def HidesEnd (cs : List Char) : Prop :=
  ∃ n rest, cs = List.replicate n '\\' ++ rest ∧
    (rest.head? = some '\n' ∨ rest.head? = some '"' ∧ ∃ c ∈ rest.tail.head?, c ≠ '\n')

theorem hidesEnd_backslash (rest : List Char) : HidesEnd ('\\' :: rest) ↔ HidesEnd rest := by
  constructor
  · rintro ⟨n, behind, hcs, hend⟩
    cases n with
    | zero =>
        obtain rfl : '\\' :: rest = behind := hcs
        simp at hend
    | succ n => exact ⟨n, behind, (List.cons.inj hcs).2, hend⟩
  · rintro ⟨n, behind, rfl, hend⟩
    exact ⟨n + 1, behind, rfl, hend⟩

theorem hidesEnd_cons {c : Char} {rest : List Char} (h : c ≠ '\\') :
    HidesEnd (c :: rest) ↔ c = '\n' ∨ c = '"' ∧ ∃ d ∈ rest.head?, d ≠ '\n' := by
  constructor
  · rintro ⟨n, behind, hcs, hend⟩
    cases n with
    | zero =>
        obtain rfl : c :: rest = behind := hcs
        simpa using hend
    | succ n => exact absurd (List.cons.inj hcs).1 h
  · intro hend
    exact ⟨0, c :: rest, rfl, by simpa using hend⟩

/-- A string takes nothing just if the line is over. -/
theorem splitQuoted_fst_eq_nil_iff (cs : List Char) :
    (splitQuoted '"' cs).1 = [] ↔ ∀ d ∈ cs.head?, d = '\n' := by
  cases cs with
  | nil => simp [splitQuoted]
  | cons d rest =>
      by_cases hfeed : d = '\n'
      · subst hfeed
        simp [splitQuoted_lineFeed]
      by_cases hback : d = '\\'
      · subst hback
        simp [splitQuoted_backslash_fst]
      by_cases hquote : d = '"'
      · subst hquote
        simp [splitQuoted_quote]
      · simp [splitQuoted_cons, hfeed, hback, hquote]

/-- Backslashes change nothing in what is at stake: each turns a character that is seen into one that is not, and
the other way round. -/
theorem takenUnseen_eq_iff (cs : List Char) :
    takenUnseen cs = (splitQuoted '"' cs).1 ↔ ¬ HidesEnd cs := by
  induction cs with
  | nil =>
      refine iff_of_true rfl ?_
      rintro ⟨n, rest, hcs, hend⟩
      obtain ⟨-, rfl⟩ := List.append_eq_nil_iff.mp hcs.symm
      simp at hend
  | cons c rest ih =>
      by_cases hback : c = '\\'
      · subst hback
        rw [hidesEnd_backslash, ← ih, splitQuoted_backslash_fst, takenUnseen, List.cons.injEq]
        simp [eq_comm]
      rw [hidesEnd_cons hback, takenUnseen]
      by_cases hfeed : c = '\n'
      · subst hfeed
        simp [splitQuoted_lineFeed]
      by_cases hquote : c = '"'
      · subst hquote
        rw [splitQuoted_quote _ (by decide) (by decide), List.cons.injEq, splitQuoted_fst_eq_nil_iff]
        simp
      · rw [splitQuoted_cons _ hfeed hback hquote]
        simp [hfeed, hquote]

/-! ## Literals -/

/-- Where a word for raw strings begins none, the literal that it and a quote begin is the word and the literal
that the quote alone begins, unless behind backslashes comes the end of the line or a quote that is not the last
character of the line. -/
theorem tokens_undelimited_iff (word t : String) (hword : word ∈ rawPrefixes) (ht : BeginsNoRawString t) :
    (∃ token plain, (tokens (word ++ "\"" ++ t)).head? = some token ∧
        (tokens ("\"" ++ t)).head? = some plain ∧ token.kind = .literal ∧
        token.text = word ++ plain.text) ↔
      ¬ HidesEnd t.toList := by
  have hword : String.ofList word.toList ∈ rawPrefixes := by rwa [String.ofList_toList]
  have hraw : ∀ inside, splitInside word.toList '"' inside = splitRaw inside := fun _ => if_pos hword
  have hbare : ∀ inside, splitInside [] '"' inside = splitQuoted '"' inside := fun _ =>
    if_neg (by decide)
  have hfirst : (tokens (word ++ "\"" ++ t)).head? = some
      ⟨.literal, word ++ String.ofList ('"' :: takenUnseen t.toList), .start⟩ := by
    have htext : (word ++ "\"" ++ t).toList = word.toList ++ '"' :: t.toList := by simp
    rw [tokens, htext, (OpensLiteral.raw hword).tokensFrom, hraw, List.head?_cons,
      splitRaw_fst_of_none ht.rawDelimiter?_eq_none, String.ofList_append, String.ofList_toList]
  have hplain : (tokens ("\"" ++ t)).head? = some
      ⟨.literal, String.ofList ('"' :: (splitQuoted '"' t.toList).1), .start⟩ := by
    have htext : ("\"" ++ t).toList = [] ++ '"' :: t.toList := by simp
    rw [tokens, htext, (OpensLiteral.bare rfl).tokensFrom, hbare, List.head?_cons, List.nil_append]
  rw [hfirst, hplain, ← takenUnseen_eq_iff]
  constructor
  · rintro ⟨token, plain, htoken, hplain, -, htext⟩
    obtain rfl := Option.some.inj htoken
    obtain rfl := Option.some.inj hplain
    simpa using congrArg String.toList htext
  · intro htaken
    exact ⟨_, _, rfl, rfl, rfl, by rw [htaken]⟩

/-- A blank in front of the parenthesis, and backslashes behind the quote, the first of them taken unseen. -/
theorem tokens_undelimited_backslashes :
    "u8R" ∈ rawPrefixes ∧ BeginsNoRawString "\\\\a b(\"; x" ∧
      ∃ token plain, (tokens ("u8R" ++ "\"" ++ "\\\\a b(\"; x")).head? = some token ∧
        (tokens ("\"" ++ "\\\\a b(\"; x")).head? = some plain ∧ token.kind = .literal ∧
        token.text = "u8R" ++ plain.text := by
  have hword : "u8R" ∈ rawPrefixes := by decide
  have hraw : BeginsNoRawString "\\\\a b(\"; x" :=
    .inr ⟨"\\\\a b", "\"; x", rfl, by decide, .inr ⟨' ', by decide, .inl (by decide)⟩⟩
  refine ⟨hword, hraw, (tokens_undelimited_iff _ _ hword hraw).mpr ?_⟩
  simp [hidesEnd_backslash, hidesEnd_cons]

/-- Behind an empty string with a word for raw strings, the rest of the line belongs to it. -/
theorem tokens_undelimited_ne_empty :
    "R" ∈ rawPrefixes ∧ BeginsNoRawString "\" x" ∧
      ¬ ∃ token plain, (tokens ("R" ++ "\"" ++ "\" x")).head? = some token ∧
        (tokens ("\"" ++ "\" x")).head? = some plain ∧ token.kind = .literal ∧
        token.text = "R" ++ plain.text := by
  refine ⟨by decide, .inl (by decide), ?_⟩
  rintro ⟨token, plain, htoken, hplain, -, htext⟩
  have hlong : (tokens ("R" ++ "\"" ++ "\" x")).head?.map (·.text) = some "R\"\" x" := by decide +kernel
  have hshort : (tokens ("\"" ++ "\" x")).head?.map (·.text) = some "\"\"" := by decide +kernel
  rw [htoken, Option.map_some, Option.some.injEq] at hlong
  rw [hplain, Option.map_some, Option.some.injEq] at hshort
  rw [hlong, hshort] at htext
  exact absurd htext (by decide)

end NameLint.Source

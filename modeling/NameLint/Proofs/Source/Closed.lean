import NameLint.Proofs.Source.RawString

/-!
# Where literals end

A literal in quotes ends where it is closed, and then it ends there whatever stands behind it; without an end it
runs on over a blank. The one thing it does not end at is a quote right behind the opening quote of a word for
raw strings that begins no raw string, or one behind backslashes there: the first character is taken unseen.
-/

namespace NameLint.Source

open NameLint.Unicode

/-! ## The ends of literals -/

/-- What a raw string has behind its opening quote, up to the first place where its end stands. -/
inductive DelimitedText : List Char → Prop
  | intro {delimiter body : List Char} (delimits : rawDelimiter? (delimiter ++ ['(']) = some delimiter)
      (first : ¬ ')' :: (delimiter ++ ['"']) <:+: body ++ ')' :: delimiter) :
      DelimitedText (delimiter ++ '(' :: body ++ ')' :: delimiter ++ ['"'])

/-- The text of a string or character literal that is closed: as a raw string if it begins one, and otherwise by
the first quote that no backslash takes. -/
inductive ClosedLiteral : List Char → Prop
  | quoted {word inner : List Char} {quote : Char} (opens : OpensLiteral word quote)
      (inside : QuotedText quote inner)
      (noDelimiter : String.ofList word ∈ rawPrefixes → rawDelimiter? (inner ++ [quote]) = none) :
      ClosedLiteral (word ++ quote :: (inner ++ [quote]))
  | raw {word token : List Char} (isRaw : String.ofList word ∈ rawPrefixes)
      (inside : DelimitedText token) : ClosedLiteral (word ++ '"' :: token)

/-- The text of a string or character literal with the end that the lexer looks for. Where a word for raw
strings begins none, that is a quote behind the first character. -/
inductive EndedLiteral : List Char → Prop
  | quoted {word inner : List Char} {quote : Char} (opens : OpensLiteral word quote)
      (notRaw : String.ofList word ∉ rawPrefixes) (inside : QuotedText quote inner) :
      EndedLiteral (word ++ quote :: (inner ++ [quote]))
  | delimited {word token : List Char} (isRaw : String.ofList word ∈ rawPrefixes)
      (inside : DelimitedText token) : EndedLiteral (word ++ '"' :: token)
  | undelimited {word inner : List Char} {c : Char} (isRaw : String.ofList word ∈ rawPrefixes)
      (noDelimiter : rawDelimiter? (c :: (inner ++ ['"'])) = none) (inside : QuotedText '"' inner) :
      EndedLiteral (word ++ '"' :: c :: (inner ++ ['"']))

/-- A word for raw strings and, in quotes, nothing or nothing but escaped backslashes. -/
def ReadsOn (text : List Char) : Prop :=
  ∃ word n, String.ofList word ∈ rawPrefixes ∧
    text = word ++ '"' :: (List.replicate (2 * n) '\\' ++ ['"'])

/-! ## Delimiters and what stands behind -/

section

variable {cs more : List Char}

theorem rawDelimiter?_of_not_mem (h : '(' ∉ cs) : rawDelimiter? cs = none := by
  have htake : cs.takeWhile (· != '(') = cs :=
    List.takeWhile_eq_self_iff.mpr fun c hc => bne_iff_ne.mpr (ne_of_mem_of_not_mem hc h)
  simp [rawDelimiter?, htake]

theorem rawDelimiter?_none_of_append (h : rawDelimiter? (cs ++ more) = none) :
    rawDelimiter? cs = none := by
  by_cases hparen : '(' ∈ cs
  · rw [← rawDelimiter?_more hparen, h]
  · exact rawDelimiter?_of_not_mem hparen

theorem rawDelimiter?_none_blank {c : Char} (h : rawDelimiter? cs = none) (hc : isBlank c = true)
    (more : List Char) : rawDelimiter? (cs ++ c :: more) = none := by
  have hcs : rawDelimiter? (cs ++ [c]) = none := by
    by_cases hparen : '(' ∈ cs
    · rw [rawDelimiter?_more hparen, h]
    · refine rawDelimiter?_of_not_mem ?_
      rw [List.mem_append, List.mem_singleton, not_or]
      exact ⟨hparen, by rintro rfl; cases hc⟩
  have hmore := rawDelimiter?_none_more hcs ⟨c, by simp, .inl hc⟩ more
  rwa [List.append_assoc, List.singleton_append] at hmore

end

/-! ## Literals with an end -/

theorem DelimitedText.splitRaw_append {token : List Char} (h : DelimitedText token) (rest : List Char) :
    splitRaw (token ++ rest) = (token, rest) := by
  obtain @⟨delimiter, body, delimits, first⟩ := h
  have hdelimiter : ∀ rest, rawDelimiter? (delimiter ++ '(' :: rest) = some delimiter := fun rest => by
    have hmore : rawDelimiter? (delimiter ++ ['('] ++ rest) = _ := rawDelimiter?_more (by simp) rest
    rwa [delimits, List.append_assoc, List.singleton_append] at hmore
  have hclosed := splitRaw_of_closed rest hdelimiter first
  simpa using hclosed

theorem splitRaw_of_undelimited {inner : List Char} {c : Char}
    (hnone : rawDelimiter? (c :: (inner ++ ['"'])) = none) (hinner : QuotedText '"' inner)
    (rest : List Char) : splitRaw (c :: (inner ++ ['"']) ++ rest) = (c :: (inner ++ ['"']), rest) := by
  have hmore : rawDelimiter? (c :: (inner ++ ['"']) ++ rest) = none :=
    rawDelimiter?_none_more hnone ⟨'"', by simp, .inr rfl⟩ rest
  rw [List.cons_append] at hmore ⊢
  rw [splitRaw_of_none hmore, List.append_assoc, List.singleton_append, hinner.splitQuoted_closed rfl]

variable {word token : List Char} {quote : Char}

/-- A word for raw strings goes with a double quote. -/
theorem OpensLiteral.quote_of_raw (h : OpensLiteral word quote) (hraw : String.ofList word ∈ rawPrefixes) :
    quote = '"' := by
  cases h with
  | bare => exact absurd hraw (by decide)
  | string => rfl
  | char mem => exact absurd hraw (not_mem_rawPrefixes_of_char mem)

/-- A literal with an end is split off there, whatever stands behind it. -/
theorem EndedLiteral.splitInside_append (h : EndedLiteral (word ++ quote :: token))
    (opens : OpensLiteral word quote) (rest : List Char) :
    splitInside word quote (token ++ rest) = (token, rest) := by
  generalize htext : word ++ quote :: token = text at h
  cases h with
  | quoted opens' notRaw inside =>
      obtain ⟨rfl, rfl, rfl⟩ := opens.inj opens' htext
      rw [splitInside, if_neg notRaw, List.append_assoc, List.singleton_append,
        inside.splitQuoted_closed opens.isQuote_quote]
  | delimited isRaw inside =>
      obtain ⟨rfl, rfl, rfl⟩ := opens.inj (.raw isRaw) htext
      rw [splitInside, if_pos isRaw, inside.splitRaw_append]
  | undelimited isRaw noDelimiter inside =>
      obtain ⟨rfl, rfl, rfl⟩ := opens.inj (.raw isRaw) htext
      rw [splitInside, if_pos isRaw, splitRaw_of_undelimited noDelimiter inside]

/-! ## Literals without an end -/

/-- A text is split where a mark stands for the first time, or at its end. -/
theorem splitThrough_cases {mark : List Char} (hmark : mark ≠ []) (cs : List Char) :
    (splitThrough mark cs).2 = [] ∨ ∃ body, (splitThrough mark cs).1 = body ++ mark ∧
      ¬ mark <:+: body ++ mark.dropLast := by
  fun_induction splitThrough mark cs with
  | case1 => exact .inl rfl
  | case2 c rest hstart =>
      obtain ⟨after, hafter⟩ := List.isPrefixOf_iff_prefix.mp hstart
      refine .inr ⟨[], by simp [← hafter], fun hin => ?_⟩
      have hlength := hin.length_le
      have hpos := List.length_pos_iff.mpr hmark
      rw [List.nil_append, List.length_dropLast] at hlength
      omega
  | case3 c rest hstart before left hsplit ih =>
      have happ := splitThrough_append mark rest
      rw [hsplit] at ih happ
      refine ih.imp id ?_
      rintro ⟨body, rfl, hbody⟩
      refine ⟨c :: body, rfl, fun hin => ?_⟩
      rcases List.infix_cons_iff.mp hin with hpre | hin
      · refine hstart (List.isPrefixOf_iff_prefix.mpr (hpre.trans ?_))
        have hdrop : mark.dropLast <+: mark ++ left :=
          (List.dropLast_prefix mark).trans (List.prefix_append mark left)
        rw [← happ]
        simpa using hdrop
      · exact hbody hin

/-- What a word for raw strings and a quote take has an end, or runs to the end of the text, or would go on in
front of a blank. -/
theorem splitRaw_cases (hraw : String.ofList word ∈ rawPrefixes) (inside : List Char) :
    EndedLiteral (word ++ '"' :: (splitRaw inside).1) ∨ (splitRaw inside).2 = [] ∨
      ∀ sep, (∀ d ∈ sep.head?, d = ' ') → splitRaw ((splitRaw inside).1 ++ sep) =
        ((splitRaw inside).1 ++ (splitQuoted '"' sep).1, (splitQuoted '"' sep).2) := by
  cases hdelimiter : rawDelimiter? inside with
  | some delimiter =>
      obtain ⟨-, body, rfl⟩ := rawDelimiter?_eq_some hdelimiter
      rw [splitRaw_of_delimiter hdelimiter]
      have hmark : ')' :: delimiter ++ ['"'] ≠ [] := by simp
      rcases splitThrough_cases hmark body with hend | ⟨body', hbody, hfirst⟩
      · exact .inr (.inl hend)
      · left
        have hdelimits : rawDelimiter? (delimiter ++ ['(']) = some delimiter := by
          rw [← hdelimiter, ← rawDelimiter?_more (by simp) body, List.append_assoc, List.singleton_append]
        rw [List.dropLast_concat] at hfirst
        rw [hbody]
        simpa using EndedLiteral.delimited hraw (.intro hdelimits hfirst)
  | none =>
      cases inside with
      | nil => exact .inr (.inl (by simp [splitRaw, hdelimiter]))
      | cons c rest =>
          have happ := splitQuoted_append '"' rest
          obtain ⟨inner, hinner, hend⟩ := splitQuoted_cases '"' rest
          rw [splitRaw_of_none hdelimiter]
          rw [← happ] at hdelimiter
          rcases hend with hend | hend | ⟨-, hend⟩
          · left
            rw [hend] at hdelimiter ⊢
            exact .undelimited hraw (rawDelimiter?_none_of_append hdelimiter) hinner
          · right; right
            intro sep hsep
            rw [hend] at hdelimiter ⊢
            rw [← List.cons_append] at hdelimiter
            have htaken := rawDelimiter?_none_of_append hdelimiter
            have hmore : rawDelimiter? (c :: inner ++ sep) = none := by
              cases sep with
              | nil => rwa [List.append_nil]
              | cons d sep => exact rawDelimiter?_none_blank htaken (by rw [hsep d rfl]; rfl) sep
            rw [List.cons_append] at hmore ⊢
            rw [splitRaw_of_none hmore, hinner.splitQuoted_append, List.cons_append]
          · exact .inr (.inl hend)

theorem splitInside_cases (opens : OpensLiteral word quote) (inside : List Char) :
    EndedLiteral (word ++ quote :: (splitInside word quote inside).1) ∨
      (splitInside word quote inside).2 = [] ∨
      ∀ sep, (∀ d ∈ sep.head?, d = ' ') →
        splitInside word quote ((splitInside word quote inside).1 ++ sep) =
          ((splitInside word quote inside).1 ++ (splitQuoted quote sep).1, (splitQuoted quote sep).2) := by
  by_cases hraw : String.ofList word ∈ rawPrefixes
  · obtain rfl := opens.quote_of_raw hraw
    simpa only [splitInside, if_pos hraw] using splitRaw_cases hraw inside
  · simp only [splitInside, if_neg hraw]
    obtain ⟨inner, hinner, hend⟩ := splitQuoted_cases quote inside
    rcases hend with hend | hend | ⟨-, hend⟩
    · left
      rw [hend]
      exact .quoted opens hraw hinner
    · right; right
      intro sep _
      rw [hend]
      exact hinner.splitQuoted_append sep
    · exact .inr (.inl hend)

/-- What a literal takes, it takes if nothing stands behind. -/
theorem splitInside_alone (opens : OpensLiteral word quote) (inside : List Char) :
    splitInside word quote (splitInside word quote inside).1 = ((splitInside word quote inside).1, []) := by
  rcases splitInside_cases opens inside with hended | hleft | hopen
  · simpa using hended.splitInside_append opens []
  · have happ := splitInside_append word quote inside
    rw [hleft, List.append_nil] at happ
    rw [happ]
    exact Prod.ext happ hleft
  · simpa [splitQuoted] using hopen [] (by simp)

/-- What a literal takes in front of something else, it takes in front of a blank exactly if it has an end. -/
theorem splitInside_blank_iff (opens : OpensLiteral word quote) {inside : List Char}
    (hleft : (splitInside word quote inside).2 ≠ []) (more : List Char) :
    splitInside word quote ((splitInside word quote inside).1 ++ ' ' :: more) =
        ((splitInside word quote inside).1, ' ' :: more) ↔
      EndedLiteral (word ++ quote :: (splitInside word quote inside).1) := by
  refine ⟨fun hsame => ?_, fun hended => hended.splitInside_append opens _⟩
  rcases splitInside_cases opens inside with hended | hend | hopen
  · exact hended
  · exact absurd hend hleft
  · have hquote : ' ' ≠ quote := by
      rintro rfl
      exact absurd opens.isQuote_quote (by decide)
    have hmore := hopen (' ' :: more) (by simp)
    rw [splitQuoted_cons more (by decide) (by decide) hquote, hsame] at hmore
    have htaken := congrArg List.length (Prod.mk.inj hmore).1
    simp at htaken

/-! ## Closed literals without an end -/

/-- Escaped backslashes are misread as a whole: the first is taken unseen, and the last takes the quote. -/
theorem quotedText_replicate (n : Nat) :
    QuotedText '"' (List.replicate (2 * n + 1) '\\' ++ ['"']) := by
  induction n with
  | zero => exact .escaped '"' .nil
  | succ n ih => exact .escaped '\\' ih

/-- If the text in quotes is still in quotes with its first character left out and the closing quote behind it,
it is escaped backslashes. -/
theorem QuotedText.eq_replicate {inner : List Char} (h : QuotedText '"' inner)
    (hshift : QuotedText '"' (inner.tail ++ ['"'])) : ∃ n, inner = List.replicate (2 * n) '\\' := by
  induction h with
  | nil => exact ⟨0, rfl⟩
  | plain _ _ _ next => exact absurd hshift (next.not_concat rfl)
  | @escaped d inner next ih =>
      have hshift : QuotedText '"' (d :: (inner ++ ['"'])) := hshift
      generalize hcs : d :: (inner ++ ['"']) = cs at hshift
      cases hshift with
      | nil => cases hcs
      | plain _ _ _ next' =>
          obtain ⟨rfl, rfl⟩ := List.cons.inj hcs
          exact absurd next' (next.not_concat rfl)
      | escaped e next' =>
          obtain ⟨rfl, htail⟩ := List.cons.inj hcs
          cases inner with
          | nil => exact ⟨1, rfl⟩
          | cons e inner =>
              obtain ⟨rfl, rfl⟩ := List.cons.inj htail
              obtain ⟨n, hn⟩ := ih next'
              exact ⟨n + 1, by rw [hn]; rfl⟩

theorem EndedLiteral.not_readsOn {text : List Char} (h : EndedLiteral text) : ¬ ReadsOn text := by
  rintro ⟨word, n, hraw, htext⟩
  cases h with
  | quoted opens notRaw =>
      obtain ⟨rfl, -, -⟩ := opens.inj (.raw hraw) htext
      exact notRaw hraw
  | delimited isRaw inside =>
      obtain ⟨-, -, rfl⟩ := (OpensLiteral.raw isRaw).inj (.raw hraw) htext
      generalize hcs : List.replicate (2 * n) '\\' ++ ['"'] = cs at inside
      obtain @⟨delimiter, body, -, -⟩ := inside
      have hparen : '(' ∈ List.replicate (2 * n) '\\' ++ ['"'] := hcs ▸ by simp
      simp at hparen
  | @undelimited _ inner c isRaw _ inside =>
      obtain ⟨-, -, hinner⟩ := (OpensLiteral.raw isRaw).inj (.raw hraw) htext
      cases n with
      | zero => simp at hinner
      | succ n =>
          obtain ⟨-, hinner⟩ := List.cons.inj hinner
          obtain rfl : inner = List.replicate (2 * n + 1) '\\' := List.append_cancel_right hinner
          exact inside.not_concat rfl (quotedText_replicate n)

/-- Where a word for raw strings begins none, the quote that closes the literal ends it, unless there is nothing
but escaped backslashes in front. -/
theorem QuotedText.ended_or_replicate {inner : List Char} (h : QuotedText '"' inner)
    (isRaw : String.ofList word ∈ rawPrefixes) (hnone : rawDelimiter? (inner ++ ['"']) = none)
    (halone : splitRaw (inner ++ ['"']) = (inner ++ ['"'], [])) :
    EndedLiteral (word ++ '"' :: (inner ++ ['"'])) ∨ ∃ n, inner = List.replicate (2 * n) '\\' := by
  cases h with
  | nil => exact .inr ⟨0, rfl⟩
  | plain _ _ _ next => exact .inl (.undelimited isRaw hnone next)
  | @escaped d inner next =>
      rw [List.cons_append] at hnone halone
      rw [splitRaw_of_none hnone] at halone
      have htaken : (splitQuoted '"' (d :: inner ++ ['"'])).1 = d :: inner ++ ['"'] :=
        (List.cons.inj (Prod.mk.inj halone).1).2
      obtain ⟨taken, hquoted, hend⟩ := splitQuoted_cases '"' (d :: inner ++ ['"'])
      rw [htaken] at hend
      rcases hend with hend | hend | ⟨hend, -⟩
      · -- The quote is found.
        obtain rfl : d :: inner = taken := List.append_cancel_right hend
        exact .inl (.undelimited isRaw hnone hquoted)
      · -- It is taken by a backslash.
        exact .inr (QuotedText.eq_replicate (.escaped d next) (hend ▸ hquoted))
      · have hlast := congrArg List.getLast? hend
        rw [List.getLast?_concat, List.getLast?_concat] at hlast
        cases hlast

/-- A closed literal, as it is split off, has an end unless there is nothing but escaped backslashes in its
quotes. -/
theorem ClosedLiteral.ended_iff (h : ClosedLiteral (word ++ quote :: token))
    (opens : OpensLiteral word quote) (halone : splitInside word quote token = (token, [])) :
    EndedLiteral (word ++ quote :: token) ↔ ¬ ReadsOn (word ++ quote :: token) := by
  refine ⟨EndedLiteral.not_readsOn, fun hreads => ?_⟩
  generalize htext : word ++ quote :: token = text at h hreads
  cases h with
  | @quoted word' inner quote' opens' inside noDelimiter =>
      obtain ⟨rfl, rfl, rfl⟩ := opens.inj opens' htext
      by_cases hraw : String.ofList word ∈ rawPrefixes
      · obtain rfl := opens.quote_of_raw hraw
        rw [splitInside, if_pos hraw] at halone
        rcases inside.ended_or_replicate hraw (noDelimiter hraw) halone with hended | ⟨n, rfl⟩
        · exact hended
        · exact absurd ⟨word, n, hraw, rfl⟩ hreads
      · exact .quoted opens hraw inside
  | raw isRaw inside => exact .delimited isRaw inside

end NameLint.Source

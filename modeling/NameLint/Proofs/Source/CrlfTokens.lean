import NameLint.Proofs.Source.Crlf
import NameLint.Proofs.Source.Relabel

/-!
# Tokens of a text with carriage returns

With a carriage return before each line feed a text has the tokens that it has if literals in quotes end with
their line: of the same kinds, at the same places and, literals apart, with the same texts.
-/

namespace NameLint.Source

open NameLint.Unicode

/-! ## Literals in quotes -/

/-- How a token without carriage returns, with what is left after it, corresponds to one with them: it has
no line end, or it is a raw string, or it is a literal that takes the carriage return before the line end
that stops it. -/
inductive TokenAlike :
    TokenKind × List Char × List Char → TokenKind × List Char × List Char → Prop
  | plain (kind : TokenKind) {token : List Char} (left : List Char) (oneLine : '\n' ∉ token) :
      TokenAlike (kind, token, left) (kind, token, crlf left)
  | raw (token left : List Char) :
      TokenAlike (.literal, token, left) (.literal, crlf token, crlf left)
  | stopped {token : List Char} (left : List Char) (oneLine : '\n' ∉ token) :
      TokenAlike (.literal, token, '\n' :: left) (.literal, token ++ ['\r'], '\n' :: crlf left)

theorem TokenAlike.append_left {kind kind' : TokenKind} {split split' : List Char × List Char}
    {cs : List Char} (hcs : '\n' ∉ cs) (h : TokenAlike (kind, split) (kind', split')) :
    TokenAlike (kind, cs ++ split.1, split.2) (kind', cs ++ split'.1, split'.2) := by
  have hmem : ∀ {ds : List Char}, '\n' ∉ ds → '\n' ∉ cs ++ ds := fun hds => by simp [hcs, hds]
  cases h with
  | plain kind left oneLine => exact .plain kind left (hmem oneLine)
  | raw token left =>
      have happ : cs ++ crlf token = crlf (cs ++ token) := by rw [crlf_append, crlf_of_not_mem hcs]
      simp only [happ]
      exact .raw (cs ++ token) left
  | stopped left oneLine =>
      simp only [← List.append_assoc]
      exact .stopped left (hmem oneLine)

/-- A literal in quotes stops at the same character with and without carriage returns. -/
theorem splitQuoted_crlf {quote : Char} {cs : List Char} (hquote : quote ≠ '\r') (hcs : '\r' ∉ cs) :
    TokenAlike (.literal, cutAtLineEnd (splitQuoted quote cs))
      (.literal, splitQuoted quote (crlf cs)) := by
  fun_induction splitQuoted quote cs with
  | case1 => exact .plain .literal [] (by simp)
  | case2 rest =>
      rw [crlf_lineFeed, splitQuoted_cons _ (by decide) (by decide) hquote.symm, splitQuoted_lineFeed]
      exact .stopped rest (by simp)
  | case3 => exact .plain .literal [] (by simp)
  | case4 d rest inner left hsplit _ ih =>
      simp only [List.mem_cons, not_or] at hcs
      rw [crlf_cons (by decide)]
      by_cases hd : d = '\n'
      · -- The backslash takes the line end without carriage returns, and only the return with them.
        subst hd
        have hrest : inner ++ left = rest := by simpa [hsplit] using splitQuoted_append quote rest
        have hcut : cutAtLineEnd ('\\' :: '\n' :: inner, left) = (['\\'], '\n' :: rest) := by
          simp [cutAtLineEnd, hrest]
        rw [hcut, crlf_lineFeed, splitQuoted_backslash, splitQuoted_lineFeed]
        exact .stopped rest (by simp)
      · have hpair : '\n' ∉ ['\\', d] := by simpa using Ne.symm hd
        have hcut : cutAtLineEnd ('\\' :: d :: inner, left) = _ :=
          cutAtLineEnd_append_left hpair inner left
        rw [hcut, crlf_cons hd, splitQuoted_backslash, ← hsplit]
        exact (ih hcs.2.2).append_left hpair
  | case5 rest hfeed hback =>
      have hone : '\n' ∉ [quote] := by simpa using Ne.symm hfeed
      rw [crlf_cons hfeed, splitQuoted_quote _ hfeed hback, cutAtLineEnd_of_not_mem hone]
      exact .plain .literal rest hone
  | case6 d rest hfeed hback hd inner left hsplit ih =>
      simp only [List.mem_cons, not_or] at hcs
      have hone : '\n' ∉ [d] := by simpa using Ne.symm hfeed
      have hcut : cutAtLineEnd (d :: inner, left) = _ := cutAtLineEnd_append_left hone inner left
      rw [hcut, crlf_cons hfeed, splitQuoted_cons _ hfeed hback hd, ← hsplit]
      exact (ih hcs.2).append_left hone

/-! ## Raw strings -/

theorem rawDelimiter?_crlf (cs : List Char) : rawDelimiter? (crlf cs) = rawDelimiter? cs := by
  have hcs := cs.takeWhile_append_dropWhile (p := (· != '('))
  simp only [rawDelimiter?, takeWhile_crlf (p := (· != '(')) (by decide)]
  generalize cs.takeWhile (· != '(') = delimiter at *
  by_cases hfeed : '\n' ∈ delimiter
  · have hno : ∀ ds : List Char, '\n' ∈ ds → ¬ ds.all (fun c => !isBlank c && c != '"') = true :=
      fun ds hmem hall => absurd (List.all_eq_true.mp hall _ hmem) (by decide)
    rw [if_neg fun h => hno _ (lineFeed_mem_crlf.mpr hfeed) h.2.2, if_neg fun h => hno _ hfeed h.2.2]
  · have hlength : delimiter.length < (crlf cs).length ↔ delimiter.length < cs.length := by
      rw [← hcs, crlf_append, crlf_of_not_mem hfeed]
      simp only [List.length_append, Nat.lt_add_right_iff_pos, List.length_pos_iff, ne_eq, crlf_eq_nil]
    simp only [crlf_of_not_mem hfeed, hlength]

theorem isPrefixOf_crlf {mark : List Char} (hfeed : '\n' ∉ mark) (hreturn : '\r' ∉ mark)
    (cs : List Char) : mark.isPrefixOf (crlf cs) = mark.isPrefixOf cs := by
  induction mark generalizing cs with
  | nil => simp
  | cons m mark ih =>
      simp only [List.mem_cons, not_or] at hfeed hreturn
      induction cs using lineFeed_induction with
      | nil => rfl
      | lineFeed cs _ =>
          simp [List.isPrefixOf, beq_false_of_ne (Ne.symm hfeed.1), beq_false_of_ne (Ne.symm hreturn.1)]
      | other c cs hc _ => simp only [crlf_cons hc, List.isPrefixOf, ih hfeed.2 hreturn.2]

theorem not_isPrefixOf_lineFeed {mark : List Char} (hmark : mark ≠ []) (hfeed : '\n' ∉ mark)
    (cs : List Char) : mark.isPrefixOf ('\n' :: cs) = false := by
  cases mark with
  | nil => exact absurd rfl hmark
  | cons m mark =>
      simp only [List.mem_cons, not_or] at hfeed
      simp [List.isPrefixOf, beq_false_of_ne (Ne.symm hfeed.1)]

theorem splitThrough_crlf {mark : List Char} (hmark : mark ≠ []) (hfeed : '\n' ∉ mark)
    (hreturn : '\r' ∉ mark) (cs : List Char) :
    splitThrough mark (crlf cs) = (crlf (splitThrough mark cs).1, crlf (splitThrough mark cs).2) := by
  fun_induction splitThrough mark cs with
  | case1 => rfl
  | case2 c rest hstart =>
      rw [splitThrough_of_isPrefixOf hmark (by rw [isPrefixOf_crlf hfeed hreturn, hstart])]
      obtain ⟨tail, htail⟩ := List.isPrefixOf_iff_prefix.mp hstart
      simp [← htail, crlf_append, crlf_of_not_mem hfeed]
  | case3 c rest hstart before left hsplit ih =>
      have hno := isPrefixOf_crlf hfeed hreturn (c :: rest)
      rw [Bool.not_eq_true] at hstart
      rw [hstart] at hno
      rw [hsplit] at ih
      by_cases hc : c = '\n'
      · subst hc
        have hno' := not_isPrefixOf_lineFeed hmark hfeed (crlf rest)
        rw [crlf_lineFeed] at hno
        rw [crlf_lineFeed, splitThrough_cons hno, splitThrough_cons hno', ih]
        rfl
      · rw [crlf_cons hc] at hno
        rw [crlf_cons hc, splitThrough_cons hno, ih, crlf_cons hc]

theorem splitRaw_crlf {cs delimiter : List Char} (h : rawDelimiter? cs = some delimiter)
    (hcs : '\r' ∉ cs) :
    TokenAlike (.literal, splitRaw cs) (.literal, splitRaw (crlf cs)) := by
  have hcrlf := rawDelimiter?_crlf cs
  obtain ⟨hfeed, body, rfl⟩ := rawDelimiter?_eq_some h
  have hdelimiter : '\r' ∉ delimiter := fun hmem => hcs (List.mem_append_left _ hmem)
  have hmark : splitThrough (')' :: delimiter ++ ['"']) (crlf body) = _ :=
    splitThrough_crlf (by simp) (by simpa using hfeed) (by simpa using hdelimiter) body
  have hparen : ∀ tail, crlf (delimiter ++ '(' :: tail) = delimiter ++ '(' :: crlf tail := by
    intro tail
    rw [crlf_append, crlf_of_not_mem hfeed, crlf_cons (by decide)]
  rw [h, hparen] at hcrlf
  rw [hparen, splitRaw_of_delimiter h, splitRaw_of_delimiter hcrlf, hmark, ← hparen]
  exact .raw _ _

theorem splitRaw_crlf_none {cs : List Char} (h : rawDelimiter? cs = none) (hcs : '\r' ∉ cs) :
    TokenAlike (.literal, cutAtLineEnd (splitRaw cs)) (.literal, splitRaw (crlf cs)) := by
  have h' := rawDelimiter?_crlf cs
  rw [h] at h'
  simp only [splitRaw, h, h']
  induction cs using lineFeed_induction with
  | nil => exact .plain .literal [] (by simp)
  | lineFeed rest _ =>
      have hrest := splitQuoted_append '"' rest
      have hcut : cutAtLineEnd ('\n' :: (splitQuoted '"' rest).1, (splitQuoted '"' rest).2) =
          ([], '\n' :: rest) := by simp [cutAtLineEnd, hrest]
      simp only [crlf_lineFeed, splitQuoted_lineFeed, hcut]
      exact .stopped rest (by simp)
  | other c rest hc _ =>
      simp only [List.mem_cons, not_or] at hcs
      have hone : '\n' ∉ [c] := by simpa using Ne.symm hc
      have hcut : cutAtLineEnd (c :: (splitQuoted '"' rest).1, (splitQuoted '"' rest).2) = _ :=
        cutAtLineEnd_append_left hone _ _
      simp only [crlf_cons hc, hcut]
      exact (splitQuoted_crlf (by decide) hcs.2).append_left hone

/-! ## Every token -/

theorem splitNumber_crlf (previous : Char) (cs : List Char) :
    splitNumber previous (crlf cs) = ((splitNumber previous cs).1, crlf (splitNumber previous cs).2) := by
  fun_induction splitNumber previous cs with
  | case1 => rfl
  | case2 previous c rest hc digits left hsplit ih =>
      have hne : c ≠ '\n' := by
        rintro rfl
        exact absurd hc (by simp)
      rw [hsplit] at ih
      rw [crlf_cons hne, splitNumber, if_pos hc, ih]
  | case3 previous c rest hc =>
      by_cases hne : c = '\n'
      · subst hne
        rw [crlf_lineFeed, splitNumber, if_neg (by simp)]
      · rw [crlf_cons hne, splitNumber, if_neg hc]

theorem digitComesNext_crlf (cs : List Char) : digitComesNext (crlf cs) = digitComesNext cs := by
  induction cs using lineFeed_induction with
  | nil => rfl
  | lineFeed cs _ => rfl
  | other c cs hc _ =>
      rw [crlf_cons hc]
      rfl

theorem splitMark_crlf (c : Char) (rest : List Char) :
    splitMark c (crlf rest) = ((splitMark c rest).1, crlf (splitMark c rest).2) := by
  induction rest using lineFeed_induction with
  | nil => simp [splitMark]
  | lineFeed rest _ => simp [splitMark]
  | other d rest hd _ =>
      rw [crlf_cons hd]
      by_cases hcolons : c = ':' ∧ d = ':'
      · obtain ⟨rfl, rfl⟩ := hcolons
        rfl
      by_cases harrow : c = '-' ∧ d = '>'
      · obtain ⟨rfl, rfl⟩ := harrow
        rfl
      rw [splitMark_single hcolons harrow, splitMark_single hcolons harrow, crlf_cons hd]

theorem TokenAlike.afterQuote {word : List Char} {quote : Char} {split split' : List Char × List Char}
    (hword : '\n' ∉ word) (hquote : quote ≠ '\n')
    (h : TokenAlike (.literal, cutAtLineEnd split) (.literal, split')) :
    TokenAlike (.literal, cutAtLineEnd (word ++ quote :: split.1, split.2))
      (.literal, word ++ quote :: split'.1, split'.2) := by
  have hopening : '\n' ∉ word ++ [quote] := by simpa [Ne.symm hquote] using hword
  have hcut := cutAtLineEnd_append_left hopening split.1 split.2
  have hboth := h.append_left hopening
  simp only [List.append_assoc, List.singleton_append] at hcut hboth
  rw [hcut]
  exact hboth

section

variable {cs inside : List Char}

theorem takeWhile_word_crlf (cs : List Char) :
    (crlf cs).takeWhile isIdentContinue = cs.takeWhile isIdentContinue := by
  rw [takeWhile_crlf (by decide), crlf_of_not_mem (lineEnd_not_mem_word cs)]

theorem dropWhile_word_crlf (cs : List Char) :
    (crlf cs).dropWhile isIdentContinue = crlf (cs.dropWhile isIdentContinue) :=
  dropWhile_crlf (by decide) cs

theorem not_isQuote_head_crlf (h : ∀ c, cs.head? = some c → isQuote c = false) :
    ∀ c, (crlf cs).head? = some c → isQuote c = false := by
  induction cs using lineFeed_induction with
  | nil => simp
  | lineFeed cs _ => simp [isQuote]
  | other c cs hc _ =>
      rw [crlf_cons hc]
      exact h

theorem TokenAlike.word {word : List Char} {quote : Char} (inside : List Char) (hword : '\n' ∉ word)
    (hquote : quote ≠ '\n') :
    TokenAlike (.word, cutAtLineEnd (word, quote :: inside)) (.word, word, quote :: crlf inside) := by
  rw [cutAtLineEnd_of_not_mem hword, ← crlf_cons hquote]
  exact .plain .word _ hword

theorem splitWord_crlf_doubleQuote (hrest : cs.dropWhile isIdentContinue = '"' :: inside)
    (hreturn : '\r' ∉ inside) :
    TokenAlike (if beginsRawString cs then splitWord cs
      else ((splitWord cs).1, cutAtLineEnd (splitWord cs).2)) (splitWord (crlf cs)) := by
  have hword := lineEnd_not_mem_word cs
  have hrest' : (crlf cs).dropWhile isIdentContinue = '"' :: crlf inside := by
    rw [dropWhile_word_crlf, hrest, crlf_cons (by decide)]
  rw [splitWord_doubleQuote hrest', splitWord_doubleQuote hrest, beginsRawString_doubleQuote hrest,
    takeWhile_word_crlf]
  cases stringPrefixes.contains (String.ofList (cs.takeWhile isIdentContinue)) with
  | false => exact .word inside hword (by decide)
  | true =>
      by_cases hlast : (cs.takeWhile isIdentContinue).getLast? = some 'R'
      · cases hraw : rawDelimiter? inside with
        | some delimiter =>
            have hopening : '\n' ∉ cs.takeWhile isIdentContinue ++ ['"'] := by simpa using hword
            simpa [hlast] using (splitRaw_crlf hraw hreturn).append_left hopening
        | none => simpa [hlast] using (splitRaw_crlf_none hraw hreturn).afterQuote hword (by decide)
      · simpa [hlast] using (splitQuoted_crlf (by decide) hreturn).afterQuote hword (by decide)

theorem splitWord_crlf_singleQuote (hrest : cs.dropWhile isIdentContinue = '\'' :: inside)
    (hreturn : '\r' ∉ inside) :
    TokenAlike (if beginsRawString cs then splitWord cs
      else ((splitWord cs).1, cutAtLineEnd (splitWord cs).2)) (splitWord (crlf cs)) := by
  have hword := lineEnd_not_mem_word cs
  have hrest' : (crlf cs).dropWhile isIdentContinue = '\'' :: crlf inside := by
    rw [dropWhile_word_crlf, hrest, crlf_cons (by decide)]
  rw [splitWord_singleQuote hrest', splitWord_singleQuote hrest, beginsRawString_singleQuote hrest,
    takeWhile_word_crlf, if_neg (by decide)]
  split
  · exact (splitQuoted_crlf (by decide) hreturn).afterQuote hword (by decide)
  · exact .word inside hword (by decide)

theorem splitWord_crlf (hcs : '\r' ∉ cs) :
    TokenAlike (if beginsRawString cs then splitWord cs
      else ((splitWord cs).1, cutAtLineEnd (splitWord cs).2)) (splitWord (crlf cs)) := by
  have hreturn : '\r' ∉ cs.dropWhile isIdentContinue :=
    fun hmem => hcs ((List.dropWhile_suffix _).mem hmem)
  rcases splitWord_cases cs with ⟨inside, hrest⟩ | ⟨inside, hrest⟩ | hquote
  · rw [hrest, List.mem_cons, not_or] at hreturn
    exact splitWord_crlf_doubleQuote hrest hreturn.2
  · rw [hrest, List.mem_cons, not_or] at hreturn
    exact splitWord_crlf_singleQuote hrest hreturn.2
  · have hquote' := not_isQuote_head_crlf hquote
    rw [← dropWhile_word_crlf] at hquote'
    have hword := lineEnd_not_mem_word cs
    rw [splitWord_of_not_isQuote hquote, splitWord_of_not_isQuote hquote',
      cutAtLineEnd_of_not_mem hword, ite_self, takeWhile_word_crlf, dropWhile_word_crlf]
    exact .plain .word _ hword

end

theorem splitToken_crlf {c : Char} {rest : List Char} (hc : c ≠ '\n') (hrest : '\r' ∉ c :: rest) :
    TokenAlike (splitTokenInLine c rest) (splitToken c (crlf rest)) := by
  unfold splitTokenInLine splitToken
  by_cases hstart : isIdentStart c = true
  · have hword := splitWord_crlf hrest
    rw [crlf_cons hc] at hword
    simpa only [hstart, if_true] using hword
  simp only [List.mem_cons, not_or] at hrest
  rw [digitComesNext_crlf]
  by_cases hdigit : (c.isDigit || (c = '.' && digitComesNext rest)) = true
  · have hone : '\n' ∉ c :: (splitNumber c rest).1 := by
      simpa [Ne.symm hc] using lineEnd_not_mem_splitNumber c rest
    simp only [hstart, hdigit, if_true, splitNumber_crlf]
    rw [cutAtLineEnd_of_not_mem hone, ite_self]
    exact .plain .literal _ hone
  by_cases hquote : isQuote c = true
  · have hone : '\n' ∉ [c] := by simpa using Ne.symm hc
    have hliteral := (splitQuoted_crlf (ne_of_isQuote hquote).2.1 hrest.2).append_left hone
    rw [← cutAtLineEnd_append_left hone] at hliteral
    simpa only [hstart, hdigit, hquote, beginsRawString_of_isQuote hquote, if_false, if_true,
      Bool.false_eq_true, List.singleton_append] using hliteral
  · have hone := lineEnd_not_mem_splitMark rest hc
    simp only [hstart, hdigit, hquote, Bool.false_eq_true, if_false, splitMark_crlf]
    rw [cutAtLineEnd_of_not_mem hone, ite_self]
    exact .plain .mark _ hone

theorem tokensFrom_carriageReturn (lineStart : Bool) (place : Position) (cs : List Char) :
    tokensFrom lineStart place ('\r' :: cs) = tokensFrom lineStart (place.advance '\r') cs := by
  have hmode : (TriviaMode.between lineStart).InQuotes := trivial
  have htrivia := splitTrivia_carriageReturn hmode cs
  cases hsplit : (splitTrivia (.between lineStart) cs).2 with
  | nil => rw [tokensFrom_eq_nil hsplit, tokensFrom_eq_nil (by rw [htrivia, hsplit])]
  | cons c rest =>
      rw [tokensFrom_eq_cons hsplit, tokensFrom_eq_cons (by rw [htrivia, hsplit]), htrivia]
      rfl

/-- Everything but the texts of literals. -/
def literalsErased : Relabelling := { reword := fun _ => "" }

/-- With a carriage return before each line feed a text has the tokens that it has if literals in quotes end
with their line, but for the texts of literals. -/
theorem tokensFrom_crlf (lineStart : Bool) (place : Position) {cs : List Char} (h : '\r' ∉ cs) :
    (tokensFrom lineStart place (crlf cs)).map (·.relabel literalsErased) =
      (inLineTokensFrom lineStart place cs).map (·.relabel literalsErased) := by
  induction lineStart, place, cs using inLineTokensFrom_induction with
  | none lineStart place cs hsplit =>
      have hmode : (TriviaMode.between lineStart).InQuotes := trivial
      have htrivia := splitTrivia_crlf hmode h
      rw [inLineTokensFrom_eq_nil hsplit, tokensFrom_eq_nil (by rw [htrivia, hsplit]; rfl)]
  | token lineStart place cs c rest hsplit ih =>
      have hc := ne_lineEnd_of_not_isBlank (not_isBlank_of_splitTriviaInLine hsplit)
      have hrest : '\r' ∉ c :: rest := fun hmem =>
        h (splitTriviaInLine_append (.between lineStart) cs ▸ List.mem_append_right _ (hsplit ▸ hmem))
      have hleft : '\r' ∉ (splitTokenInLine c rest).2.2 := fun hmem =>
        hrest (splitTokenInLine_append c rest ▸ List.mem_append_right _ hmem)
      have hmode : (TriviaMode.between lineStart).InQuotes := trivial
      have htrivia := splitTrivia_crlf hmode h
      have hsplit' : (splitTrivia (.between lineStart) (crlf cs)).2 = c :: crlf rest := by
        rw [htrivia, hsplit, crlf_cons hc]
      have halike := splitToken_crlf hc hrest
      have hlater := ih hleft
      rw [inLineTokensFrom_eq_cons hsplit, tokensFrom_eq_cons hsplit', htrivia, Position.after_crlf]
      generalize place.after (splitTriviaInLine (.between lineStart) cs).1 = place at *
      generalize splitTokenInLine c rest = split at *
      generalize splitToken c (crlf rest) = split' at *
      cases halike with
      | plain kind left oneLine =>
          rw [List.map_cons, List.map_cons, hlater]
      | raw token left =>
          have hcontains : (crlf token).contains '\n' = token.contains '\n' := by
            rw [Bool.eq_iff_iff, List.contains_iff_mem, List.contains_iff_mem, lineFeed_mem_crlf]
          simp only [List.map_cons, hcontains, Position.after_crlf, hlater]
          rfl
      | @stopped token left oneLine =>
          -- The literal has the carriage return that otherwise stands before the next token.
          have hcontains : (token ++ ['\r']).contains '\n' = token.contains '\n' := by simp
          rw [crlf_lineFeed, tokensFrom_carriageReturn] at hlater
          simp only [List.map_cons, hcontains, Position.after_append, Position.after_cons,
            Position.after_nil, hlater]
          rfl

end NameLint.Source

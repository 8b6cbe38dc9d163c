import Mathlib.Data.List.Induction
import NameLint.Proofs.Source.Literal
import NameLint.Proofs.Source.Pieces

/-!
# Raw strings

A raw string ends where its closing parenthesis, delimiter and quote stand for the first time, whatever stands
before and behind them.
-/

namespace NameLint.Source

open NameLint.Unicode

/-! ## The end of a raw string -/

/-- A mark whose first character stands nowhere else in it has no part of itself in common with its own
beginning, so it stands in front of itself only where it stands in what comes before. -/
theorem not_infix_append_dropLast {c : Char} {mark body : List Char} (hmark : c ∉ mark)
    (h : ¬ c :: mark <:+: body) : ¬ c :: mark <:+: body ++ (c :: mark).dropLast := by
  have hshort : ¬ c :: mark <:+: (c :: mark).dropLast := fun hin => by
    have hlength := hin.length_le
    rw [List.length_dropLast, List.length_cons] at hlength
    omega
  rw [List.infix_append_iff]
  rintro (hbody | hshorter | ⟨front, back, hcut, hfront, hback⟩)
  · exact h hbody
  · exact hshort hshorter
  · cases front with
    | nil => exact hshort (hcut ▸ hback.isInfix)
    | cons d front =>
        obtain ⟨rfl, rfl⟩ := List.cons.inj hcut
        cases back with
        | nil => exact h (by simpa using hfront.isInfix)
        | cons e back =>
            -- What is in common begins with `c`, in the middle of the mark.
            obtain ⟨rfl, -⟩ := List.cons_prefix_cons.mp (hback.trans (List.dropLast_prefix _))
            exact hmark (by simp)

/-- A text is split after a mark that stands nowhere before. -/
theorem splitThrough_append_mark {mark body : List Char} (hmark : mark ≠ [])
    (h : ¬ mark <:+: body ++ mark.dropLast) (rest : List Char) :
    splitThrough mark (body ++ mark ++ rest) = (body ++ mark, rest) := by
  have hlength : mark.dropLast.length + 1 = mark.length := by
    have hpos := List.length_pos_iff.mpr hmark
    simp
    omega
  induction body with
  | nil =>
      rw [List.nil_append,
        splitThrough_of_isPrefixOf hmark (List.isPrefixOf_iff_prefix.mpr (List.prefix_append mark rest))]
      simp
  | cons c body ih =>
      have hno : mark.isPrefixOf (c :: (body ++ mark ++ rest)) = false := by
        rw [Bool.eq_false_iff, ne_eq, List.isPrefixOf_iff_prefix]
        intro hpre
        have hfront : c :: body ++ mark.dropLast <+: c :: (body ++ mark ++ rest) := by
          have hmore : mark.dropLast <+: mark ++ rest :=
            (List.dropLast_prefix mark).trans (List.prefix_append mark rest)
          simpa using hmore
        exact h (List.prefix_of_prefix_length_le hpre hfront (by simp; omega)).isInfix
      have hbody := ih fun hin => h (hin.trans (List.suffix_cons c _).isInfix)
      rw [List.cons_append, List.cons_append, splitThrough_cons hno, hbody]

/-! ## Raw strings in a text -/

theorem rawDelimiter?_append {delimiter : List Char} (hparen : '(' ∉ delimiter)
    (hsize : utf8Size delimiter ≤ 16) (hplain : ∀ c ∈ delimiter, isBlank c = false ∧ c ≠ '"')
    (rest : List Char) : rawDelimiter? (delimiter ++ '(' :: rest) = some delimiter := by
  have htake : (delimiter ++ '(' :: rest).takeWhile (· != '(') = delimiter := by
    rw [List.takeWhile_append_of_pos fun c hc => bne_iff_ne.mpr (ne_of_mem_of_not_mem hc hparen)]
    simp
  have hall : delimiter.all (fun c => !isBlank c && c != '"') = true := by
    rw [List.all_eq_true]
    intro c hc
    simp [hplain c hc]
  simp [rawDelimiter?, htake, hsize, hall]

theorem splitRaw_of_closed {delimiter body : List Char} (rest : List Char)
    (hdelimiter : ∀ rest, rawDelimiter? (delimiter ++ '(' :: rest) = some delimiter)
    (hbody : ¬ ')' :: (delimiter ++ ['"']) <:+: body ++ ')' :: delimiter) :
    splitRaw (delimiter ++ '(' :: body ++ ')' :: delimiter ++ '"' :: rest) =
      (delimiter ++ '(' :: body ++ ')' :: delimiter ++ ['"'], rest) := by
  have hthrough : splitThrough (')' :: delimiter ++ ['"'])
      (body ++ (')' :: delimiter ++ ['"']) ++ rest) = (body ++ (')' :: delimiter ++ ['"']), rest) :=
    splitThrough_append_mark (by simp) (by rwa [List.dropLast_concat]) rest
  have htext : delimiter ++ '(' :: body ++ ')' :: delimiter ++ '"' :: rest =
      delimiter ++ '(' :: (body ++ (')' :: delimiter ++ ['"']) ++ rest) := by simp
  rw [htext, splitRaw_of_delimiter (hdelimiter _), hthrough]
  simp

theorem utf8Size_eq (cs : List Char) : utf8Size cs = (String.ofList cs).utf8ByteSize := by
  induction cs using List.reverseRecOn with
  | nil => rfl
  | append_singleton cs c ih =>
      rw [String.ofList_append, String.utf8ByteSize_append, ← ih, utf8Size, List.foldl_append]
      simp [utf8Size]

/-- The text of a raw string. -/
def rawString (word delimiter body : String) : String :=
  word ++ "\"" ++ delimiter ++ "(" ++ body ++ ")" ++ delimiter ++ "\""

/-- A text that begins with a word or none and a quote begins with the literal that they make. -/
theorem OpensLiteral.tokensFrom {lineStart : Bool} {place : Position} {word inside : List Char}
    {quote : Char} (h : OpensLiteral word quote) :
    tokensFrom lineStart place (word ++ quote :: inside) =
      ⟨.literal, String.ofList (word ++ quote :: (splitInside word quote inside).1), place⟩ ::
        tokensFrom ((word ++ quote :: (splitInside word quote inside).1).contains '\n')
          (place.after (word ++ quote :: (splitInside word quote inside).1))
          (splitInside word quote inside).2 := by
  obtain ⟨c, rest, hcs, hblank, hslash, hhash⟩ := h.exists_cons inside
  rw [← hcs, tokensFrom_token hblank hslash hhash, h.splitToken_eq hcs]

/-- A raw string is one token of the text that begins with it, up to the first place where its closing
parenthesis, delimiter and quote stand. -/
theorem tokens_rawString (word delimiter body rest : String) (hword : word ∈ rawPrefixes)
    (hsize : delimiter.utf8ByteSize ≤ 16)
    (hplain : ∀ c ∈ delimiter.toList, isBlank c = false ∧ c ∉ ['"', '(', ')'])
    (hbody : ¬ (")" ++ delimiter ++ "\"").toList <:+: body.toList) :
    tokens (rawString word delimiter body ++ rest) =
      ⟨.literal, rawString word delimiter body, .start⟩ ::
        tokensFrom ((rawString word delimiter body).toList.contains '\n')
          (Position.start.after (rawString word delimiter body).toList) rest.toList := by
  have hdelimiter : ∀ rest, rawDelimiter? (delimiter.toList ++ '(' :: rest) = some delimiter.toList := by
    refine rawDelimiter?_append ?_ ?_ ?_
    · exact fun hmem => (hplain _ hmem).2 (by simp)
    · rwa [utf8Size_eq, String.ofList_toList]
    · exact fun c hc => ⟨(hplain c hc).1, fun hquote => (hplain c hc).2 (by simp [hquote])⟩
  have hparen : ')' ∉ delimiter.toList ++ ['"'] := by
    rw [List.mem_append, not_or]
    exact ⟨fun hmem => (hplain _ hmem).2 (by simp), by decide⟩
  have hend : ¬ ')' :: (delimiter.toList ++ ['"']) <:+: body.toList ++ ')' :: delimiter.toList := by
    have hfirst := not_infix_append_dropLast hparen (by simpa using hbody)
    rwa [← List.cons_append, List.dropLast_concat] at hfirst
  have hraw := splitRaw_of_closed rest.toList hdelimiter hend
  have hliteral : (rawString word delimiter body).toList = word.toList ++ '"' :: (delimiter.toList ++
      '(' :: body.toList ++ ')' :: delimiter.toList ++ ['"']) := by simp [rawString]
  have htext : (rawString word delimiter body ++ rest).toList = word.toList ++ '"' ::
      (delimiter.toList ++ '(' :: body.toList ++ ')' :: delimiter.toList ++ '"' :: rest.toList) := by
    simp [rawString]
  have hword : String.ofList word.toList ∈ rawPrefixes := by rwa [String.ofList_toList]
  have hinside : ∀ inside, splitInside word.toList '"' inside = splitRaw inside := fun _ =>
    if_pos hword
  rw [tokens, htext, (OpensLiteral.raw hword).tokensFrom, hinside, hraw, ← hliteral, String.ofList_toList]

/-- The body ends like the end of the literal begins, holds a line end, a comment marker and a backslash, and the
text behind the literal has another end of it. -/
theorem tokens_rawString_near_end :
    "u8R" ∈ rawPrefixes ∧ "ab".utf8ByteSize ≤ 16 ∧
      (∀ c ∈ "ab".toList, isBlank c = false ∧ c ∉ ['"', '(', ')']) ∧
      ¬ (")" ++ "ab" ++ "\"").toList <:+: "\x7b \"\n//\\)ab)a".toList ∧
      (tokens (rawString "u8R" "ab" "\x7b \"\n//\\)ab)a" ++ ")ab\"")).head? =
        some ⟨.literal, rawString "u8R" "ab" "\x7b \"\n//\\)ab)a", .start⟩ := by
  have hword : "u8R" ∈ rawPrefixes := by decide
  have hsize : "ab".utf8ByteSize ≤ 16 := by decide
  have hplain : ∀ c ∈ "ab".toList, isBlank c = false ∧ c ∉ ['"', '(', ')'] := by simp [isBlank]
  have hbody : ¬ (")" ++ "ab" ++ "\"").toList <:+: "\x7b \"\n//\\)ab)a".toList := by decide +kernel
  refine ⟨hword, hsize, hplain, hbody, ?_⟩
  rw [tokens_rawString _ _ _ ")ab\"" hword hsize hplain hbody, List.head?_cons]

end NameLint.Source

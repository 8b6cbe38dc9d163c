import NameLint.Proofs.Source.OffsetLexer
import NameLint.Proofs.Source.Undelimited

/-!
# The loops of the lexer

Each loop over words, numbers, literals and comments ends, and takes what the split of the same name takes.
-/

namespace NameLint.Source

open NameLint.Unicode

namespace Lexer

/-! ## Where the lexer stands -/

/-- `cs` is what is left of the text. -/
def Leaves (s : Lexer) (cs : List Char) : Prop :=
  ∃ before, s.text = String.ofList (before ++ cs) ∧ s.offset = utf8Size before

/-- Behind some characters. -/
def behind (s : Lexer) (cs : List Char) : Lexer := cs.foldl past s

variable {s : Lexer} {c : Char} {cs taken left : List Char} {n : Nat}

@[simp] theorem behind_nil (s : Lexer) : s.behind [] = s := rfl

theorem behind_cons (s : Lexer) (c : Char) (cs : List Char) : s.behind (c :: cs) = (s.past c).behind cs := rfl

theorem behind_behind (s : Lexer) (cs ds : List Char) : (s.behind cs).behind ds = s.behind (cs ++ ds) :=
  List.foldl_append.symm

@[simp] theorem text_behind (s : Lexer) (cs : List Char) : (s.behind cs).text = s.text := by
  induction cs generalizing s with
  | nil => rfl
  | cons c cs ih => exact ih (s.past c)

@[simp] theorem offset_behind (s : Lexer) (cs : List Char) : (s.behind cs).offset = s.offset + utf8Size cs := by
  induction cs generalizing s with
  | nil => rfl
  | cons c cs ih => rw [behind_cons, ih, utf8Size_cons, past, Nat.add_assoc]

@[simp] theorem place_behind (s : Lexer) (cs : List Char) : (s.behind cs).place = s.place.after cs := by
  induction cs generalizing s with
  | nil => rfl
  | cons c cs ih => exact ih (s.past c)

@[simp] theorem lineStart_behind (s : Lexer) (cs : List Char) :
    (s.behind cs).lineStart = (s.lineStart || cs.contains '\n') := by
  induction cs generalizing s with
  | nil => simp
  | cons c cs ih => simp [behind_cons, ih, past, Bool.or_assoc, eq_comm]

theorem Leaves.past (h : s.Leaves (c :: cs)) : (s.past c).Leaves cs := by
  obtain ⟨before, htext, hoffset⟩ := h
  refine ⟨before ++ [c], by simpa [Lexer.past] using htext, ?_⟩
  rw [Lexer.past, hoffset, utf8Size_append, utf8Size_cons]
  rfl

theorem Leaves.behind (h : s.Leaves (taken ++ left)) : (s.behind taken).Leaves left := by
  induction taken generalizing s with
  | nil => exact h
  | cons c taken ih => exact ih h.past

theorem Leaves.isValid (h : s.Leaves cs) : String.Pos.Raw.IsValid s.text ⟨s.offset⟩ := by
  obtain ⟨before, htext, hoffset⟩ := h
  rw [htext, hoffset, utf8Size_eq, String.ofList_append]
  exact isValid_append _ _

theorem Leaves.rest?_eq (h : s.Leaves cs) : s.rest? = some cs := by
  obtain ⟨before, htext, hoffset⟩ := h
  rw [rest?, htext, hoffset, utf8Size_eq, String.ofList_append, textFrom?_append]
  simp

theorem Leaves.peek?_eq (h : s.Leaves cs) (n : Nat) : s.peek? n = some cs[n]? := by
  rw [peek?, h.rest?_eq, Option.map_some]

theorem Leaves.bump?_nil (h : s.Leaves []) : s.bump? = some (none, s) := by
  simp [bump?, h.peek?_eq]

theorem Leaves.bump?_cons (h : s.Leaves (c :: cs)) : s.bump? = some (some c, s.past c) := by
  simp [bump?, h.peek?_eq]

/-- At the end of the text the lexer stays where it is. -/
theorem Leaves.bumps?_eq (h : s.Leaves cs) (n : Nat) : s.bumps? n = some (s.behind (cs.take n)) := by
  induction n generalizing s cs with
  | zero => rfl
  | succ n ih =>
      cases cs with
      | nil => simp [bumps?, h.bump?_nil, ih h]
      | cons c cs => simp [bumps?, h.bump?_cons, ih h.past, behind_cons]

theorem Leaves.bumps?_one (h : s.Leaves (c :: cs)) : s.bumps? 1 = some (s.past c) := h.bumps?_eq 1

/-! ## Each loop ends -/

theorem exists_cons_of_getElem?_zero (h : cs[0]? = some c) : ∃ rest, cs = c :: rest :=
  List.head?_eq_some_iff.mp (List.head?_eq_getElem? ▸ h)

theorem exists_cons_of_pair {c d e : Char} (h : c = d ∧ cs[0]? = some e) : ∃ rest, c = d ∧ cs = e :: rest :=
  (exists_cons_of_getElem?_zero h.2).imp fun _ hrest => ⟨h.1, hrest⟩

theorem isPrefixOf_pair_iff {c d : Char} :
    [c, d].isPrefixOf cs = true ↔ cs[0]? = some c ∧ cs[1]? = some d := by
  rw [List.isPrefixOf_iff_prefix]
  rcases cs with _ | ⟨c', _ | ⟨d', cs⟩⟩ <;> simp [List.cons_prefix_cons, @eq_comm _ c, @eq_comm _ d]

theorem Leaves.bumpWhile?_eq (h : s.Leaves cs) (p : Char → Bool) :
    s.bumpWhile? p = some (s.behind (cs.takeWhile p)) := by
  induction cs generalizing s with
  | nil =>
      rw [bumpWhile?, h.peek?_eq]
      rfl
  | cons c cs ih =>
      rw [bumpWhile?, h.peek?_eq]
      cases hc : p c with
      | true => simp [hc, h.bumps?_one, ih h.past, behind_cons]
      | false => simp [hc]

theorem Leaves.bumpTo?_eq (h : s.Leaves (taken ++ left)) :
    s.bumpTo? (s.offset + utf8Size taken) = some (s.behind taken) := by
  induction taken generalizing s with
  | nil =>
      rw [bumpTo?]
      exact if_neg (Nat.lt_irrefl _)
  | cons c taken ih =>
      have hlt := utf8Size_pos (List.cons_ne_nil c taken)
      have hstop : s.offset + utf8Size (c :: taken) = (s.past c).offset + utf8Size taken := by
        rw [utf8Size_cons, Lexer.past, Nat.add_assoc]
      rw [bumpTo?, if_pos (by omega), Leaves.bumps?_one h, hstop]
      exact ih h.past

theorem Leaves.comment?_eq (h : s.Leaves cs) :
    s.comment? = some (s.behind (splitThrough ['*', '/'] cs).1) := by
  induction cs generalizing s with
  | nil =>
      rw [comment?, h.bump?_nil]
      rfl
  | cons c cs ih =>
      have hmark : ['*', '/'].isPrefixOf (c :: cs) = true ↔ c = '*' ∧ cs[0]? = some '/' := by
        rw [isPrefixOf_pair_iff]
        simp
      rw [comment?, h.bump?_cons]
      simp only [Option.bind_eq_bind, Option.bind_some, h.past.peek?_eq, ← hmark]
      split
      · rename_i hclosed
        obtain ⟨tail, rfl, rfl⟩ := exists_cons_of_pair (hmark.mp hclosed)
        rw [splitThrough_of_isPrefixOf (by simp) hclosed, h.past.bumps?_one,
          List.splitAt_eq]
        rfl
      · rename_i hopen
        rw [splitThrough_cons (Bool.eq_false_iff.mpr hopen), ih h.past]
        rfl

theorem Leaves.quoted?_nil (h : s.Leaves []) (quote : Char) : s.quoted? quote = some s := by
  rw [quoted?, h.peek?_eq]
  rfl

theorem Leaves.quoted?_eq (h : s.Leaves cs) (quote : Char) :
    s.quoted? quote = some (s.behind (splitQuoted quote cs).1) := by
  fun_induction splitQuoted quote cs generalizing s with
  | case1 => exact h.quoted?_nil quote
  | case2 rest =>
      rw [quoted?, h.peek?_eq]
      rfl
  | case3 =>
      rw [quoted?, h.peek?_eq]
      simp [h.bumps?_eq, h.past.quoted?_nil, behind_cons]
  | case4 d rest inner left hsplit _ ih =>
      rw [hsplit] at ih
      rw [quoted?, h.peek?_eq]
      simp [h.bumps?_eq, ih h.past.past, behind_cons]
  | case5 rest hfeed hback =>
      rw [quoted?, h.peek?_eq]
      simp [hfeed, hback, h.bumps?_one, behind_cons]
  | case6 c rest hfeed hback hquote inner left hsplit ih =>
      rw [hsplit] at ih
      rw [quoted?, h.peek?_eq]
      simp [hfeed, hback, hquote, h.bumps?_one, ih h.past, behind_cons]

/-- The first character is taken unseen. -/
theorem Leaves.literal?_eq (h : s.Leaves cs) (quote : Char) :
    s.literal? quote = some (s.behind (cs.take 1 ++ (splitQuoted quote (cs.drop 1)).1)) := by
  have hrest : (s.behind (cs.take 1)).Leaves (cs.drop 1) := Leaves.behind (by rwa [List.take_append_drop])
  rw [literal?, h.bumps?_eq, ← behind_behind]
  exact hrest.quoted?_eq quote

theorem Leaves.number?_eq (h : s.Leaves cs) (previous : Char) :
    s.number? previous = some (s.behind (splitNumber previous cs).1) := by
  fun_induction splitNumber previous cs generalizing s with
  | case1 =>
      rw [number?, h.peek?_eq]
      rfl
  | case2 previous c rest hc digits left hsplit ih =>
      rw [hsplit] at ih
      rw [number?, h.peek?_eq]
      simp only [Option.bind_eq_bind, Option.bind_some, List.getElem?_cons_zero, if_pos hc, h.bumps?_one,
        ih h.past, behind_cons]
  | case3 previous c rest hc =>
      rw [number?, h.peek?_eq]
      simp only [Option.bind_eq_bind, Option.bind_some, List.getElem?_cons_zero, if_neg hc, Option.pure_def, behind_nil]

/-! ## Raw strings -/

theorem Leaves.textBetween?_eq (h : s.Leaves (taken ++ left)) :
    textBetween? s.text s.offset (s.offset + utf8Size taken) = some (String.ofList taken) := by
  obtain ⟨before, htext, hoffset⟩ := h
  rw [htext, hoffset, ← utf8Size_append, utf8Size_eq, utf8Size_eq, ← List.append_assoc, String.ofList_append,
    String.ofList_append, textBetween?_append]

theorem Leaves.textFrom?_eq (h : s.Leaves (taken ++ left)) :
    textFrom? s.text (s.offset + utf8Size taken) = some (String.ofList left) := by
  obtain ⟨before, htext, hoffset⟩ := h
  rw [htext, hoffset, ← utf8Size_append, utf8Size_eq, ← List.append_assoc, String.ofList_append, textFrom?_append]

theorem Leaves.utf8ByteSize_eq (h : s.Leaves cs) : s.text.utf8ByteSize = s.offset + utf8Size cs := by
  obtain ⟨before, htext, hoffset⟩ := h
  rw [htext, hoffset, ← utf8Size_append, utf8Size_eq]

theorem takenUnseen_eq (cs : List Char) :
    takenUnseen cs = cs.take 1 ++ (splitQuoted '"' (cs.drop 1)).1 := by
  cases cs <;> rfl

/-- The search for the end of a raw string leads to the offset at which the text is split. -/
theorem Leaves.rawInside?_eq (h : s.Leaves cs) : s.rawInside? = some (s.behind (splitRaw cs).1) := by
  rcases offsetOf?_parenthesis cs with ⟨hnone, hmem⟩ | ⟨delimiter, body, hsome, hmem, rfl⟩
  · -- Without a parenthesis it is a literal like any other, and so it is with what is no delimiter.
    rw [rawInside?, h.rest?_eq, Option.bind_eq_bind, Option.bind_some, hnone,
      splitRaw_fst_of_none (rawDelimiter?_of_not_mem hmem), takenUnseen_eq]
    exact h.literal?_eq '"'
  have hraw := rawDelimiter?_eq_ite hmem body
  rw [rawInside?, h.rest?_eq, Option.bind_eq_bind, Option.bind_some, hsome]
  simp only [Leaves.textBetween?_eq h, Option.bind_eq_bind, Option.bind_some, String.toList_ofList]
  split at hraw
  · rename_i hno
    rw [if_pos hno, splitRaw_fst_of_none hraw, takenUnseen_eq]
    exact h.literal?_eq '"'
  rename_i hdelimiter
  have hstart : (delimiter ++ '(' :: body) = (delimiter ++ ['(']) ++ body := by simp
  have hsize : utf8Size (delimiter ++ ['(']) = utf8Size delimiter + 1 := utf8Size_append delimiter ['(']
  have hbody := Leaves.textFrom?_eq (hstart ▸ h)
  rw [hsize, ← Nat.add_assoc] at hbody
  rw [if_neg hdelimiter, splitRaw_of_delimiter hraw, hbody, Option.bind_some, String.toList_ofList]
  rcases offsetOf?_cases (by simp : ')' :: delimiter ++ ['"'] ≠ []) body with
    ⟨hnone, hsplit⟩ | ⟨front, back, hsome, hback, hsplit⟩
  · -- The string is not closed: the offset is that of the end of the text.
    rw [hnone, hsplit, h.utf8ByteSize_eq]
    have hend : s.Leaves (delimiter ++ '(' :: body ++ []) := by rwa [List.append_nil]
    exact hend.bumpTo?_eq
  · have hleaves : s.Leaves (delimiter ++ '(' :: (front ++ (')' :: delimiter ++ ['"'])) ++ back) := by
      simpa [hback] using h
    have hstop := hleaves.bumpTo?_eq
    rw [utf8Size_append, utf8Size_cons, utf8Size_append, show '('.utf8Size = 1 from rfl] at hstop
    rw [hsome, hsplit, ← hstop]
    simp only [Nat.add_assoc]

theorem Leaves.rawString?_eq (h : s.Leaves cs) :
    s.rawString? = some (s.behind (cs.take 1 ++ (splitRaw (cs.drop 1)).1)) := by
  have hrest : (s.behind (cs.take 1)).Leaves (cs.drop 1) := Leaves.behind (by rwa [List.take_append_drop])
  rw [rawString?, h.bumps?_eq, ← behind_behind]
  exact hrest.rawInside?_eq

end Lexer

end NameLint.Source

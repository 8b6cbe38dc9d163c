import NameLint.Proofs.Source.RawString

/-!
# Texts by byte offset

A text is cut at offsets that count the bytes of its UTF-8. Every cut is checked here: an offset within a
character or past the end cuts nothing, and the access has no result.
-/

namespace NameLint.Source

open NameLint.Unicode

/-! ## Sizes -/

theorem utf8Size_append (cs ds : List Char) : utf8Size (cs ++ ds) = utf8Size cs + utf8Size ds := by
  simp only [utf8Size_eq, String.ofList_append, String.utf8ByteSize_append]

theorem utf8Size_cons (c : Char) (cs : List Char) : utf8Size (c :: cs) = c.utf8Size + utf8Size cs := by
  have hone : utf8Size [c] = c.utf8Size := Nat.zero_add _
  rw [← hone, ← utf8Size_append, List.singleton_append]

theorem utf8Size_pos {cs : List Char} (h : cs ≠ []) : 0 < utf8Size cs := by
  obtain ⟨c, tail, rfl⟩ := List.exists_cons_of_ne_nil h
  have := c.utf8Size_pos
  rw [utf8Size_cons]
  omega

/-! ## Cuts -/

/-- The text from an offset on, if the offset cuts no character. -/
def textFrom? (text : String) (offset : Nat) : Option String :=
  if h : String.Pos.Raw.IsValid text ⟨offset⟩ then some (text.sliceFrom ⟨⟨offset⟩, h⟩).copy else none

/-- The text in front of an offset, if the offset cuts no character. -/
def textUpTo? (text : String) (offset : Nat) : Option String :=
  if h : String.Pos.Raw.IsValid text ⟨offset⟩ then some (text.sliceTo ⟨⟨offset⟩, h⟩).copy else none

/-- The text between two offsets, if they are in order and cut no character. -/
def textBetween? (text : String) (start stop : Nat) : Option String := do
  textFrom? (← textUpTo? text stop) start

theorem isValid_append (front back : String) :
    String.Pos.Raw.IsValid (front ++ back) ⟨front.utf8ByteSize⟩ :=
  String.Pos.Raw.isValid_iff_exists_append.mpr ⟨front, back, rfl, rfl⟩

theorem textFrom?_append (front back : String) :
    textFrom? (front ++ back) front.utf8ByteSize = some back := by
  have hsplits : String.Pos.Splits ⟨_, isValid_append front back⟩ front back := ⟨rfl, rfl⟩
  rw [textFrom?, dif_pos (isValid_append front back), hsplits.copy_sliceFrom_eq]

theorem textUpTo?_append (front back : String) :
    textUpTo? (front ++ back) front.utf8ByteSize = some front := by
  have hsplits : String.Pos.Splits ⟨_, isValid_append front back⟩ front back := ⟨rfl, rfl⟩
  rw [textUpTo?, dif_pos (isValid_append front back), hsplits.copy_sliceTo_eq]

theorem textBetween?_append (front part back : String) :
    textBetween? (front ++ part ++ back) front.utf8ByteSize (front ++ part).utf8ByteSize = some part := by
  rw [textBetween?, textUpTo?_append, Option.bind_eq_bind, Option.bind_some, textFrom?_append]

/-! ## Where a mark stands -/

/-- The offset at which a mark stands for the first time. -/
def offsetOf? (mark : List Char) : List Char → Option Nat
  | [] => if mark.isEmpty then some 0 else none
  | c :: cs => if mark.isPrefixOf (c :: cs) then some 0 else (offsetOf? mark cs).map (c.utf8Size + ·)

/-- A text is split behind the mark that the offset leads to, or at its end if there is none. -/
theorem offsetOf?_cases {mark : List Char} (hmark : mark ≠ []) (cs : List Char) :
    offsetOf? mark cs = none ∧ splitThrough mark cs = (cs, []) ∨
      ∃ front back, offsetOf? mark cs = some (utf8Size front) ∧ cs = front ++ (mark ++ back) ∧
        splitThrough mark cs = (front ++ mark, back) := by
  induction cs with
  | nil => exact .inl ⟨by simp [offsetOf?, hmark], rfl⟩
  | cons c cs ih =>
      cases hstands : mark.isPrefixOf (c :: cs) with
      | true =>
          obtain ⟨back, hback⟩ := List.isPrefixOf_iff_prefix.mp hstands
          refine .inr ⟨[], back, by rw [offsetOf?, if_pos hstands]; rfl, hback.symm, ?_⟩
          rw [splitThrough_of_isPrefixOf hmark hstands, ← hback]
          simp
      | false =>
          rw [offsetOf?, if_neg (by simp [hstands]), splitThrough_cons hstands]
          rcases ih with ⟨hnone, hsplit⟩ | ⟨front, back, hsome, rfl, hsplit⟩
          · exact .inl ⟨by rw [hnone]; rfl, by rw [hsplit]⟩
          · refine .inr ⟨c :: front, back, ?_, rfl, by rw [hsplit]; rfl⟩
            rw [hsome, utf8Size_cons]
            rfl

/-- What may be the delimiter of a raw string stands in front of the first parenthesis. -/
theorem offsetOf?_parenthesis (cs : List Char) :
    offsetOf? ['('] cs = none ∧ '(' ∉ cs ∨
      ∃ delimiter body, offsetOf? ['('] cs = some (utf8Size delimiter) ∧ '(' ∉ delimiter ∧
        cs = delimiter ++ '(' :: body := by
  induction cs with
  | nil => exact .inl ⟨rfl, by simp⟩
  | cons c cs ih =>
      by_cases hc : c = '('
      · exact .inr ⟨[], cs, by simp [offsetOf?, hc, utf8Size], by simp, by rw [hc]; rfl⟩
      · have hstands : ['('].isPrefixOf (c :: cs) = false := by simp [List.isPrefixOf, Ne.symm hc]
        rw [offsetOf?, if_neg (by simp [hstands])]
        rcases ih with ⟨hnone, hmem⟩ | ⟨delimiter, body, hsome, hmem, rfl⟩
        · exact .inl ⟨by rw [hnone]; rfl, by simp [hmem, Ne.symm hc]⟩
        · refine .inr ⟨c :: delimiter, body, ?_, by simp [hmem, Ne.symm hc], rfl⟩
          rw [hsome, utf8Size_cons]
          rfl

/-- Whether the text in front of the first parenthesis is no delimiter: it is too long, or a blank or a quote
stands in it. -/
def isNoDelimiter (delimiter : List Char) : Bool :=
  16 < utf8Size delimiter || delimiter.any fun c => isBlank c || c = '"'

theorem rawDelimiter?_eq_ite {delimiter : List Char} (h : '(' ∉ delimiter) (body : List Char) :
    rawDelimiter? (delimiter ++ '(' :: body) = if isNoDelimiter delimiter then none else some delimiter := by
  have htake : (delimiter ++ '(' :: body).takeWhile (· != '(') = delimiter := by
    rw [List.takeWhile_append_of_pos fun c hc => bne_iff_ne.mpr (ne_of_mem_of_not_mem hc h)]
    simp
  have hplain : utf8Size delimiter ≤ 16 ∧ delimiter.all (fun c => !isBlank c && c != '"') = true ↔
      isNoDelimiter delimiter = false := by simp [isNoDelimiter]
  rw [rawDelimiter?, htake]
  simp only [hplain, List.length_append, List.length_cons, Nat.lt_add_right_iff_pos, Nat.zero_lt_succ, true_and]
  cases isNoDelimiter delimiter <;> rfl

end NameLint.Source

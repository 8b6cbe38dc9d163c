import NameLint.Proofs.Text.Utf8
import NameLint.Source.Decode

/-!
# The text of a source file

A file's content is read as the text that it is the UTF-8 of, without the one byte-order mark that may stand at its
start, and is refused at the end of its longest part that is UTF-8.
-/

namespace NameLint.Source

open NameLint.Declaration NameLint.Text

variable {bytes : List UInt8} {text t : String}

/-- Dropping the mark gives `t` from `t` without a mark, and from `t` with one more mark. -/
theorem dropByteOrderMark_eq_iff :
    dropByteOrderMark text = t ↔ text = t ∧ t.toList.head? ≠ some '\ufeff' ∨ text = "\ufeff" ++ t := by
  have hmark : ("\ufeff" ++ t).toList = '\ufeff' :: t.toList := by rw [String.toList_append]; rfl
  unfold dropByteOrderMark
  split
  next rest htext =>
    constructor
    · rintro rfl
      exact .inr (String.toList_injective (by rw [hmark, htext, String.toList_ofList]))
    · rintro (⟨rfl, hhead⟩ | rfl)
      · rw [htext] at hhead
        exact absurd rfl hhead
      · rw [hmark, List.cons.injEq, and_iff_right rfl] at htext
        rw [← htext, String.ofList_toList]
  next hplain =>
    constructor
    · rintro rfl
      refine .inl ⟨rfl, fun hhead => ?_⟩
      obtain ⟨rest, hrest⟩ := List.head?_eq_some_iff.mp hhead
      exact hplain rest hrest
    · rintro (⟨rfl, -⟩ | rfl)
      · rfl
      · exact absurd hmark (hplain t.toList)

/-- A content is read as a text just if it is the UTF-8 of the text and the text begins with no byte-order mark, or
it is the UTF-8 of the text behind such a mark. It is refused just if it is no UTF-8, with the length of its
longest part from the start on that is. -/
theorem decode_eq_iff (bytes : List UInt8) :
    (∀ text, decode bytes = .ok text ↔
      bytes.toByteArray = text.toUTF8 ∧ text.toList.head? ≠ some '\ufeff' ∨
        bytes.toByteArray = ("\ufeff" ++ text).toUTF8) ∧
    ∀ e, decode bytes = .error e ↔ ¬ bytes.toByteArray.IsValidUTF8 ∧ ∃ offset, e = .notUtf8 offset ∧
      IsGreatest {n | n ≤ bytes.length ∧ (bytes.take n).toByteArray.IsValidUTF8} offset := by
  constructor
  · intro text
    simp only [toByteArray_eq_toUTF8_iff, ← decodeUtf8_eq_ok_iff]
    unfold decode
    cases h : decodeUtf8 bytes with
    | error offset => simp
    | ok content =>
        simp only [Except.ok.injEq]
        exact dropByteOrderMark_eq_iff
  · intro e
    unfold decode
    cases h : decodeUtf8 bytes with
    | error offset =>
        obtain ⟨hinvalid, hgreatest⟩ := decodeUtf8_eq_error_iff.mp h
        simp only [Except.error.injEq]
        constructor
        · rintro rfl
          exact ⟨hinvalid, offset, rfl, hgreatest⟩
        · rintro ⟨-, offset', rfl, hgreatest'⟩
          rw [hgreatest.unique hgreatest']
    | ok content =>
        have hvalid : bytes.toByteArray.IsValidUTF8 := isValidUTF8_iff.mpr ⟨_, decodeUtf8_eq_ok_iff.mp h⟩
        simp [hvalid]

end NameLint.Source

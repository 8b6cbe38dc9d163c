import NameLint.Text.Hex

/-!
# Reading UTF-8

Bytes are read as text character by character. Only the shortest form of a character is one, and
surrogates are none. When the bytes are no text, the size of their longest part that is tells where.
-/

namespace NameLint.Text

/-- The six bits that a continuation byte carries. -/
def continuation? (b : UInt8) : Option Nat :=
  if 0x80 ≤ b.toNat ∧ b.toNat < 0xc0 then some (b.toNat - 0x80) else none

/-- The character with code `n`, if it needs a form as long as one for `least`. -/
def scalarFrom? (least n : Nat) : Option Char :=
  if least ≤ n then scalar? n else none

/-- The first character of some bytes, and the bytes after it. -/
def decodeChar? : List UInt8 → Option (Char × List UInt8)
  | [] => none
  | a :: rest =>
    let lead := a.toNat
    if lead < 0x80 then (scalar? lead).map (·, rest)
    else if lead < 0xc0 then none
    else if lead < 0xe0 then
      match rest with
      | b :: rest => do
        let n := (lead - 0xc0) * 64 + (← continuation? b)
        return (← scalarFrom? 0x80 n, rest)
      | _ => none
    else if lead < 0xf0 then
      match rest with
      | b :: c :: rest => do
        let n := ((lead - 0xe0) * 64 + (← continuation? b)) * 64 + (← continuation? c)
        return (← scalarFrom? 0x800 n, rest)
      | _ => none
    else if lead < 0xf8 then
      match rest with
      | b :: c :: d :: rest => do
        let n := (((lead - 0xf0) * 64 + (← continuation? b)) * 64 + (← continuation? c)) * 64
          + (← continuation? d)
        return (← scalarFrom? 0x10000 n, rest)
      | _ => none
    else none

/-- A character takes at least one byte. -/
theorem decodeChar?_length_lt {bytes rest : List UInt8} {c : Char}
    (h : decodeChar? bytes = some (c, rest)) : rest.length < bytes.length := by
  cases bytes with
  | nil => simp [decodeChar?] at h
  | cons a tail =>
    simp only [decodeChar?] at h
    split at h
    · simp only [Option.map_eq_some_iff, Prod.mk.injEq] at h
      obtain ⟨_, _, _, rfl⟩ := h
      simp
    · split at h
      · cases h
      · split at h
        · split at h
          · simp only [Option.bind_eq_bind, Option.bind_eq_some_iff, Option.pure_def,
              Option.some.injEq, Prod.mk.injEq] at h
            obtain ⟨_, _, _, _, _, rfl⟩ := h
            simp only [List.length_cons]
            omega
          · cases h
        · split at h
          · split at h
            · simp only [Option.bind_eq_bind, Option.bind_eq_some_iff, Option.pure_def,
                Option.some.injEq, Prod.mk.injEq] at h
              obtain ⟨_, _, _, _, _, _, _, rfl⟩ := h
              simp only [List.length_cons]
              omega
            · cases h
          · split at h
            · split at h
              · simp only [Option.bind_eq_bind, Option.bind_eq_some_iff, Option.pure_def,
                  Option.some.injEq, Prod.mk.injEq] at h
                obtain ⟨_, _, _, _, _, _, _, _, _, rfl⟩ := h
                simp only [List.length_cons]
                omega
              · cases h
            · cases h

/-- The characters of some bytes; or else the offset from which on they are no text, where the bytes
given lie `offset` bytes into the whole. -/
def decodeFrom (offset : Nat) (bytes : List UInt8) : Except Nat (List Char) :=
  if bytes.isEmpty then .ok []
  else
    match _h : decodeChar? bytes with
    | none => .error offset
    | some (c, rest) =>
      (decodeFrom (offset + c.utf8Size) rest).map (c :: ·)
termination_by bytes.length
decreasing_by exact decodeChar?_length_lt _h

/-- The text that some bytes are; or else the size of the longest part at their start that is text. -/
def decodeUtf8 (bytes : List UInt8) : Except Nat String :=
  (decodeFrom 0 bytes).map String.ofList

/-- A text without a byte-order mark at its start. -/
def dropByteOrderMark (text : String) : String :=
  match text.toList with
  | '\ufeff' :: rest => String.ofList rest
  | _ => text

end NameLint.Text

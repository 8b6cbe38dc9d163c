import Mathlib
import NameLint.Text.Utf8

/-!
# What is read as UTF-8

Reading undoes writing: a character is read from exactly the bytes that it is written as, and a text from exactly
the bytes of its characters. When bytes are no text, the offset that is told is the length of the longest text at
their start.
-/

namespace NameLint.Text

variable {a b : UInt8} {bytes tail rest : List UInt8} {c : Char} {cs : List Char} {n x y z w least offset : Nat}

/-! ## Codes and bytes -/

theorem scalar?_eq_some_iff : scalar? n = some c ↔ c.toNat = n := by
  unfold scalar?
  constructor
  · intro h
    split at h
    · cases h
      rfl
    · cases h
  · rintro rfl
    have hvalid : c.toNat.isValidChar := c.valid
    rw [dif_pos hvalid, Option.some_inj]
    exact Char.ext (UInt32.toNat_inj.mp rfl)

theorem scalarFrom?_eq_some_iff : scalarFrom? least n = some c ↔ least ≤ n ∧ c.toNat = n := by
  rw [scalarFrom?]
  split
  next h => rw [scalar?_eq_some_iff, and_iff_right h]
  next h => simp [h]

theorem continuation?_eq_some_iff : continuation? b = some n ↔ n < 0x40 ∧ b.toNat = 0x80 + n := by
  rw [continuation?]
  split
  · rw [Option.some_inj]
    omega
  · simp only [reduceCtorEq, false_iff]
    omega

theorem toNat_eq_iff (h : n < 0x100) : b.toNat = n ↔ b = UInt8.ofNat n := by
  rw [← UInt8.toNat_inj, UInt8.toNat_ofNat_of_lt' h]

/-- A byte that continues a character, and the six bits that it carries. -/
theorem continuation?_eq_some_iff_ofNat : continuation? b = some n ↔ n < 0x40 ∧ b = UInt8.ofNat (0x80 + n) := by
  rw [continuation?_eq_some_iff]
  exact and_congr_right fun hn => toNat_eq_iff (by omega)

/-! ## Characters by the number of their bytes -/

theorem decodeChar?_one_iff (ha : a.toNat < 0x80) :
    decodeChar? (a :: tail) = some (c, rest) ↔ c.toNat = a.toNat ∧ tail = rest := by
  simp only [decodeChar?, if_pos ha, Option.map_eq_some_iff, Prod.mk.injEq, scalar?_eq_some_iff]
  constructor
  · rintro ⟨_, hc, rfl, rfl⟩
    exact ⟨hc, rfl⟩
  · rintro ⟨hc, rfl⟩
    exact ⟨c, hc, rfl, rfl⟩

theorem decodeChar?_two_iff (hx : x < 0x20) :
    decodeChar? (UInt8.ofNat (0xc0 + x) :: tail) = some (c, rest) ↔
      ∃ y < 0x40, tail = UInt8.ofNat (0x80 + y) :: rest ∧ 0x80 ≤ c.toNat ∧ c.toNat = x * 0x40 + y := by
  have ha : (UInt8.ofNat (0xc0 + x)).toNat = 0xc0 + x := (toNat_eq_iff (by omega)).mpr rfl
  simp only [decodeChar?, ha, if_neg (show ¬ 0xc0 + x < 0x80 by omega),
    if_neg (show ¬ 0xc0 + x < 0xc0 by omega), if_pos (show 0xc0 + x < 0xe0 by omega), Nat.add_sub_cancel_left]
  cases tail with
  | nil => simp
  | cons b tail =>
      simp only [Option.bind_eq_bind, Option.bind_eq_some_iff, Option.pure_def, Option.some.injEq, Prod.mk.injEq,
        continuation?_eq_some_iff_ofNat, scalarFrom?_eq_some_iff, List.cons.injEq]
      constructor
      · rintro ⟨y, ⟨hy, rfl⟩, _, ⟨hleast, hc⟩, rfl, rfl⟩
        exact ⟨y, hy, ⟨rfl, rfl⟩, by omega, hc⟩
      · rintro ⟨y, hy, ⟨rfl, rfl⟩, hleast, hc⟩
        exact ⟨y, ⟨hy, rfl⟩, c, ⟨by omega, hc⟩, rfl, rfl⟩

theorem decodeChar?_three_iff (hx : x < 0x10) :
    decodeChar? (UInt8.ofNat (0xe0 + x) :: tail) = some (c, rest) ↔
      ∃ y < 0x40, ∃ z < 0x40, tail = UInt8.ofNat (0x80 + y) :: UInt8.ofNat (0x80 + z) :: rest ∧
        0x800 ≤ c.toNat ∧ c.toNat = (x * 0x40 + y) * 0x40 + z := by
  have ha : (UInt8.ofNat (0xe0 + x)).toNat = 0xe0 + x := (toNat_eq_iff (by omega)).mpr rfl
  simp only [decodeChar?, ha, if_neg (show ¬ 0xe0 + x < 0x80 by omega), if_neg (show ¬ 0xe0 + x < 0xc0 by omega),
    if_neg (show ¬ 0xe0 + x < 0xe0 by omega), if_pos (show 0xe0 + x < 0xf0 by omega), Nat.add_sub_cancel_left]
  cases tail with
  | nil => simp
  | cons b tail =>
  cases tail with
  | nil => simp
  | cons b' tail =>
      simp only [Option.bind_eq_bind, Option.bind_eq_some_iff, Option.pure_def, Option.some.injEq, Prod.mk.injEq,
        continuation?_eq_some_iff_ofNat, scalarFrom?_eq_some_iff, List.cons.injEq]
      constructor
      · rintro ⟨y, ⟨hy, rfl⟩, z, ⟨hz, rfl⟩, _, ⟨hleast, hc⟩, rfl, rfl⟩
        exact ⟨y, hy, z, hz, ⟨rfl, rfl, rfl⟩, by omega, hc⟩
      · rintro ⟨y, hy, z, hz, ⟨rfl, rfl, rfl⟩, hleast, hc⟩
        exact ⟨y, ⟨hy, rfl⟩, z, ⟨hz, rfl⟩, c, ⟨by omega, hc⟩, rfl, rfl⟩

theorem decodeChar?_four_iff (hx : x < 0x08) :
    decodeChar? (UInt8.ofNat (0xf0 + x) :: tail) = some (c, rest) ↔
      ∃ y < 0x40, ∃ z < 0x40, ∃ w < 0x40,
        tail = UInt8.ofNat (0x80 + y) :: UInt8.ofNat (0x80 + z) :: UInt8.ofNat (0x80 + w) :: rest ∧
          0x10000 ≤ c.toNat ∧ c.toNat = ((x * 0x40 + y) * 0x40 + z) * 0x40 + w := by
  have ha : (UInt8.ofNat (0xf0 + x)).toNat = 0xf0 + x := (toNat_eq_iff (by omega)).mpr rfl
  simp only [decodeChar?, ha, if_neg (show ¬ 0xf0 + x < 0x80 by omega), if_neg (show ¬ 0xf0 + x < 0xc0 by omega),
    if_neg (show ¬ 0xf0 + x < 0xe0 by omega), if_neg (show ¬ 0xf0 + x < 0xf0 by omega),
    if_pos (show 0xf0 + x < 0xf8 by omega), Nat.add_sub_cancel_left]
  cases tail with
  | nil => simp
  | cons b tail =>
  cases tail with
  | nil => simp
  | cons b' tail =>
  cases tail with
  | nil => simp
  | cons b'' tail =>
      simp only [Option.bind_eq_bind, Option.bind_eq_some_iff, Option.pure_def, Option.some.injEq, Prod.mk.injEq,
        continuation?_eq_some_iff_ofNat, scalarFrom?_eq_some_iff, List.cons.injEq]
      constructor
      · rintro ⟨y, ⟨hy, rfl⟩, z, ⟨hz, rfl⟩, w, ⟨hw, rfl⟩, _, ⟨hleast, hc⟩, rfl, rfl⟩
        exact ⟨y, hy, z, hz, w, hw, ⟨rfl, rfl, rfl, rfl⟩, by omega, hc⟩
      · rintro ⟨y, hy, z, hz, w, hw, ⟨rfl, rfl, rfl, rfl⟩, hleast, hc⟩
        exact ⟨y, ⟨hy, rfl⟩, z, ⟨hz, rfl⟩, w, ⟨hw, rfl⟩, c, ⟨by omega, hc⟩, rfl, rfl⟩

theorem decodeChar?_of_no_lead (ha : 0x80 ≤ a.toNat ∧ a.toNat < 0xc0 ∨ 0xf8 ≤ a.toNat) (tail : List UInt8) :
    decodeChar? (a :: tail) = none := by
  simp only [decodeChar?]
  rcases ha with hcontinues | hlarge
  · rw [if_neg (by omega), if_pos (by omega)]
  · rw [if_neg (by omega), if_neg (by omega), if_neg (by omega), if_neg (by omega), if_neg (by omega)]

theorem utf8EncodeChar_one (h : c.toNat < 0x80) : String.utf8EncodeChar c = [UInt8.ofNat c.toNat] := by
  rw [String.utf8EncodeChar, Char.toNat_val, if_pos (by omega)]

theorem utf8EncodeChar_two (h : 0x80 ≤ c.toNat) (hx : x < 0x20) (hy : y < 0x40) (hc : c.toNat = x * 0x40 + y) :
    String.utf8EncodeChar c = [UInt8.ofNat (0xc0 + x), UInt8.ofNat (0x80 + y)] := by
  rw [String.utf8EncodeChar, Char.toNat_val, if_neg (by omega), if_pos (by omega),
    show c.toNat / 64 % 0x20 + 0xc0 = 0xc0 + x by omega, show c.toNat % 0x40 + 0x80 = 0x80 + y by omega]

theorem utf8EncodeChar_three (h : 0x800 ≤ c.toNat) (hx : x < 0x10) (hy : y < 0x40) (hz : z < 0x40)
    (hc : c.toNat = (x * 0x40 + y) * 0x40 + z) :
    String.utf8EncodeChar c = [UInt8.ofNat (0xe0 + x), UInt8.ofNat (0x80 + y), UInt8.ofNat (0x80 + z)] := by
  rw [String.utf8EncodeChar, Char.toNat_val, if_neg (by omega), if_neg (by omega), if_pos (by omega),
    show c.toNat / 4096 % 0x10 + 0xe0 = 0xe0 + x by omega, show c.toNat / 64 % 0x40 + 0x80 = 0x80 + y by omega,
    show c.toNat % 0x40 + 0x80 = 0x80 + z by omega]

theorem utf8EncodeChar_four (h : 0x10000 ≤ c.toNat) (hx : x < 0x08) (hy : y < 0x40) (hz : z < 0x40)
    (hw : w < 0x40) (hc : c.toNat = ((x * 0x40 + y) * 0x40 + z) * 0x40 + w) :
    String.utf8EncodeChar c = [UInt8.ofNat (0xf0 + x), UInt8.ofNat (0x80 + y), UInt8.ofNat (0x80 + z),
      UInt8.ofNat (0x80 + w)] := by
  rw [String.utf8EncodeChar, Char.toNat_val, if_neg (by omega), if_neg (by omega), if_neg (by omega),
    show c.toNat / 262144 % 0x08 + 0xf0 = 0xf0 + x by omega, show c.toNat / 4096 % 0x40 + 0x80 = 0x80 + y by omega,
    show c.toNat / 64 % 0x40 + 0x80 = 0x80 + z by omega, show c.toNat % 0x40 + 0x80 = 0x80 + w by omega]

theorem toNat_lt (c : Char) : c.toNat < 0x110000 := by
  have hvalid : c.toNat.isValidChar := c.valid
  simp only [Nat.isValidChar] at hvalid
  omega

/-- A character is read from the bytes that it is written as. -/
theorem decodeChar?_utf8EncodeChar (c : Char) (rest : List UInt8) :
    decodeChar? (String.utf8EncodeChar c ++ rest) = some (c, rest) := by
  have hlt := toNat_lt c
  by_cases hone : c.toNat < 0x80
  · rw [utf8EncodeChar_one hone]
    exact (decodeChar?_one_iff (by simp; omega)).mpr ⟨by simp; omega, rfl⟩
  have hy : c.toNat % 0x40 < 0x40 := Nat.mod_lt _ (by decide)
  by_cases htwo : c.toNat < 0x800
  · have hx : c.toNat / 0x40 < 0x20 := by omega
    have hc : c.toNat = c.toNat / 0x40 * 0x40 + c.toNat % 0x40 := by omega
    rw [utf8EncodeChar_two (by omega) hx hy hc]
    exact (decodeChar?_two_iff hx).mpr ⟨_, hy, rfl, by omega, hc⟩
  have hz : c.toNat / 0x40 % 0x40 < 0x40 := Nat.mod_lt _ (by decide)
  by_cases hthree : c.toNat < 0x10000
  · have hx : c.toNat / 0x1000 < 0x10 := by omega
    have hc : c.toNat = (c.toNat / 0x1000 * 0x40 + c.toNat / 0x40 % 0x40) * 0x40 + c.toNat % 0x40 := by omega
    rw [utf8EncodeChar_three (by omega) hx hz hy hc]
    exact (decodeChar?_three_iff hx).mpr ⟨_, hz, _, hy, rfl, by omega, hc⟩
  have hw : c.toNat / 0x1000 % 0x40 < 0x40 := Nat.mod_lt _ (by decide)
  have hx : c.toNat / 0x40000 < 0x08 := by omega
  have hc : c.toNat = ((c.toNat / 0x40000 * 0x40 + c.toNat / 0x1000 % 0x40) * 0x40 + c.toNat / 0x40 % 0x40) * 0x40
      + c.toNat % 0x40 := by omega
  rw [utf8EncodeChar_four (by omega) hx hw hz hy hc]
  exact (decodeChar?_four_iff hx).mpr ⟨_, hw, _, hz, _, hy, rfl, by omega, hc⟩

/-- A byte that a character can begin with, by the number of bytes that it announces. -/
theorem lead_cases (a : UInt8) :
    a.toNat < 0x80 ∨ (∃ x < 0x20, a = UInt8.ofNat (0xc0 + x)) ∨ (∃ x < 0x10, a = UInt8.ofNat (0xe0 + x)) ∨
      (∃ x < 0x08, a = UInt8.ofNat (0xf0 + x)) ∨ ∀ tail, decodeChar? (a :: tail) = none := by
  have hbyte := a.toNat_lt
  have hlead : ∀ least, least ≤ a.toNat → a = UInt8.ofNat (least + (a.toNat - least)) := fun least h =>
    (toNat_eq_iff (by omega)).mp (by omega)
  by_cases hone : a.toNat < 0x80
  · exact .inl hone
  by_cases hcontinues : a.toNat < 0xc0
  · exact .inr (.inr (.inr (.inr (decodeChar?_of_no_lead (.inl ⟨by omega, hcontinues⟩)))))
  by_cases htwo : a.toNat < 0xe0
  · exact .inr (.inl ⟨_, by omega, hlead 0xc0 (by omega)⟩)
  by_cases hthree : a.toNat < 0xf0
  · exact .inr (.inr (.inl ⟨_, by omega, hlead 0xe0 (by omega)⟩))
  by_cases hfour : a.toNat < 0xf8
  · exact .inr (.inr (.inr (.inl ⟨_, by omega, hlead 0xf0 (by omega)⟩)))
  · exact .inr (.inr (.inr (.inr (decodeChar?_of_no_lead (.inr (by omega))))))

/-- What a character is read from are the bytes that it is written as. -/
theorem eq_of_decodeChar? (h : decodeChar? bytes = some (c, rest)) : bytes = String.utf8EncodeChar c ++ rest := by
  cases bytes with
  | nil => cases h
  | cons a tail =>
      rcases lead_cases a with ha | ⟨x, hx, rfl⟩ | ⟨x, hx, rfl⟩ | ⟨x, hx, rfl⟩ | hnone
      · obtain ⟨hc, rfl⟩ := (decodeChar?_one_iff ha).mp h
        rw [utf8EncodeChar_one (by omega), hc, UInt8.ofNat_toNat]
        rfl
      · obtain ⟨y, hy, rfl, hleast, hc⟩ := (decodeChar?_two_iff hx).mp h
        rw [utf8EncodeChar_two hleast hx hy hc]
        rfl
      · obtain ⟨y, hy, z, hz, rfl, hleast, hc⟩ := (decodeChar?_three_iff hx).mp h
        rw [utf8EncodeChar_three hleast hx hy hz hc]
        rfl
      · obtain ⟨y, hy, z, hz, w, hw, rfl, hleast, hc⟩ := (decodeChar?_four_iff hx).mp h
        rw [utf8EncodeChar_four hleast hx hy hz hw hc]
        rfl
      · rw [hnone] at h
        cases h

theorem decodeChar?_eq_some_iff :
    decodeChar? bytes = some (c, rest) ↔ bytes = String.utf8EncodeChar c ++ rest :=
  ⟨eq_of_decodeChar?, fun h => h ▸ decodeChar?_utf8EncodeChar c rest⟩

/-! ## Texts -/

/-- The bytes of characters in a row. -/
def encode (cs : List Char) : List UInt8 := cs.flatMap String.utf8EncodeChar

@[simp] theorem encode_nil : encode [] = [] := rfl

@[simp] theorem encode_cons (c : Char) (cs : List Char) :
    encode (c :: cs) = String.utf8EncodeChar c ++ encode cs := rfl

theorem toByteArray_eq_toUTF8_iff {text : String} :
    bytes.toByteArray = text.toUTF8 ↔ bytes = encode text.toList := by
  rw [String.toUTF8_eq_toByteArray, ← String.utf8Encode_toList, List.utf8Encode, List.toByteArray_inj, encode]

theorem isValidUTF8_iff : bytes.toByteArray.IsValidUTF8 ↔ ∃ cs, bytes = encode cs := by
  constructor
  · rintro ⟨cs, hcs⟩
    exact ⟨cs, List.toByteArray_inj.mp hcs⟩
  · rintro ⟨cs, rfl⟩
    exact ⟨cs, rfl⟩

theorem decodeFrom_cons_append (offset : Nat) (c : Char) (rest : List UInt8) :
    decodeFrom offset (String.utf8EncodeChar c ++ rest) =
      (decodeFrom (offset + c.utf8Size) rest).map (c :: ·) := by
  rw [decodeFrom, if_neg (by simp)]
  split
  next hnone => simp [decodeChar?_utf8EncodeChar] at hnone
  next c' rest' hsome =>
    rw [decodeChar?_utf8EncodeChar] at hsome
    cases hsome
    rfl

/-- What is at the start of some bytes: a text, and then the end or something that no character begins with. -/
theorem decodeFrom_cases (offset : Nat) (bytes : List UInt8) :
    (∃ cs, bytes = encode cs ∧ decodeFrom offset bytes = .ok cs) ∨
      ∃ cs rest, bytes = encode cs ++ rest ∧ rest ≠ [] ∧ decodeChar? rest = none ∧
        decodeFrom offset bytes = .error (offset + (encode cs).length) := by
  fun_induction decodeFrom offset bytes with
  | case1 offset bytes hempty => exact .inl ⟨[], List.isEmpty_iff.mp hempty, rfl⟩
  | case2 offset bytes hempty hnone =>
      exact .inr ⟨[], bytes, rfl, by simpa using hempty, hnone, rfl⟩
  | case3 offset bytes hempty c rest hsome ih =>
      obtain rfl := eq_of_decodeChar? hsome
      rcases ih with ⟨cs, rfl, hcs⟩ | ⟨cs, stuck, rfl, hne, hnone, herror⟩
      · exact .inl ⟨c :: cs, rfl, by rw [hcs]; rfl⟩
      · refine .inr ⟨c :: cs, stuck, (List.append_assoc ..).symm, hne, hnone, ?_⟩
        rw [herror, encode_cons, List.length_append, String.length_utf8EncodeChar, ← Nat.add_assoc]
        rfl

theorem decodeFrom_encode_append (offset : Nat) (cs : List Char) (rest : List UInt8) :
    decodeFrom offset (encode cs ++ rest) =
      (decodeFrom (offset + (encode cs).length) rest).map (cs ++ ·) := by
  induction cs generalizing offset with
  | nil => cases h : decodeFrom offset rest <;> simp [h, Except.map]
  | cons c cs ih =>
      rw [encode_cons, List.append_assoc, decodeFrom_cons_append, ih, List.length_append,
        String.length_utf8EncodeChar, Nat.add_assoc]
      cases decodeFrom (offset + (c.utf8Size + (encode cs).length)) rest <;> rfl

theorem decodeFrom_eq_ok_iff : decodeFrom offset bytes = .ok cs ↔ bytes = encode cs := by
  constructor
  · intro h
    rcases decodeFrom_cases offset bytes with ⟨cs', hbytes, hcs⟩ | ⟨_, _, _, _, _, herror⟩
    · rw [hcs] at h
      cases h
      exact hbytes
    · rw [herror] at h
      cases h
  · rintro rfl
    have h := decodeFrom_encode_append offset cs []
    rw [List.append_nil] at h
    rw [h]
    simp [decodeFrom, Except.map]

/-- Bytes are read as a text just if they are the bytes of that text. -/
theorem decodeUtf8_eq_ok_iff {text : String} : decodeUtf8 bytes = .ok text ↔ bytes = encode text.toList := by
  have hread (cs : List Char) : decodeFrom 0 bytes = .ok cs ↔ bytes = encode cs := decodeFrom_eq_ok_iff
  rw [← hread, decodeUtf8]
  cases decodeFrom 0 bytes with
  | error e => simp [Except.map]
  | ok cs =>
      simp only [Except.map, Except.ok.injEq]
      exact ⟨fun h => by rw [← h, String.toList_ofList], fun h => by rw [h, String.ofList_toList]⟩

/-- No text at the start of some bytes is longer than one behind which no character begins. -/
theorem le_length_of_take_eq_encode {cs' : List Char} (hnone : decodeChar? rest = none)
    (hn : n ≤ (encode cs ++ rest).length) (htake : (encode cs ++ rest).take n = encode cs') :
    n ≤ (encode cs).length := by
  refine Nat.le_of_not_lt fun hlong => ?_
  rw [List.take_append, List.take_of_length_le (Nat.le_of_lt hlong)] at htake
  -- What the longer text has beyond the shorter one is a text too, and begins with a character.
  have hread := decodeFrom_encode_append 0 cs (rest.take (n - (encode cs).length))
  rw [htake, decodeFrom_eq_ok_iff.mpr rfl] at hread
  rcases decodeFrom_cases (0 + (encode cs).length) (rest.take (n - (encode cs).length)) with
    ⟨more, hmore, -⟩ | ⟨_, _, _, _, _, herror⟩
  · cases more with
    | nil =>
        have hlength := congrArg List.length hmore
        rw [List.length_append] at hn
        rw [List.length_take, encode_nil, List.length_nil] at hlength
        omega
    | cons c more =>
        have hsome : decodeChar? rest = some (c, encode more ++ rest.drop (n - (encode cs).length)) := by
          rw [decodeChar?_eq_some_iff, ← List.append_assoc, ← encode_cons, ← hmore, List.take_append_drop]
        rw [hnone] at hsome
        cases hsome
  · rw [herror] at hread
    cases hread

/-- Bytes that are no text are told with the length of the longest text at their start. -/
theorem decodeUtf8_eq_error_iff :
    decodeUtf8 bytes = .error offset ↔ ¬ bytes.toByteArray.IsValidUTF8 ∧
      IsGreatest {n | n ≤ bytes.length ∧ (bytes.take n).toByteArray.IsValidUTF8} offset := by
  rw [isValidUTF8_iff]
  simp only [isValidUTF8_iff]
  rcases decodeFrom_cases 0 bytes with ⟨cs, rfl, hcs⟩ | ⟨cs, rest, rfl, hne, hnone, herror⟩
  · simp [decodeUtf8, hcs, Except.map]
  · have hlongest : ∀ n cs', n ≤ (encode cs ++ rest).length → (encode cs ++ rest).take n = encode cs' →
        n ≤ (encode cs).length := fun n cs' hn htake => le_length_of_take_eq_encode hnone hn htake
    have hrest : 0 < rest.length := List.length_pos_iff.mpr hne
    have hinvalid : ¬ ∃ cs', encode cs ++ rest = encode cs' := by
      rintro ⟨cs', hall⟩
      have hle := hlongest _ cs' (Nat.le_refl _) (by rw [List.take_length, hall])
      rw [List.length_append] at hle
      omega
    have hgreatest : IsGreatest {n | n ≤ (encode cs ++ rest).length ∧ ∃ cs', (encode cs ++ rest).take n = encode cs'}
        (encode cs).length := by
      refine ⟨⟨by simp, cs, List.take_left⟩, ?_⟩
      rintro n ⟨hn, cs', htake⟩
      exact hlongest n cs' hn htake
    rw [decodeUtf8, herror, Nat.zero_add, and_iff_right hinvalid]
    simp only [Except.map, Except.error.injEq]
    exact ⟨fun h => h ▸ hgreatest, fun h => hgreatest.unique h⟩

end NameLint.Text

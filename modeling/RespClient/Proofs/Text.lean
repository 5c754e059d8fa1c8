import RespClient.Bytes

set_option autoImplicit false

namespace RespClient.Utf8

theorem of_text_chars (text : String) :
    Bytes.ofText text = text.toList.flatMap String.utf8EncodeChar := by
  have bytes : text.toByteArray = (text.toList.flatMap String.utf8EncodeChar).toByteArray := by
    calc
      text.toByteArray = (String.ofList text.toList).toByteArray := by rw [String.ofList_toList]
      _ = text.toList.utf8Encode := String.toByteArray_ofList
      _ = (text.toList.flatMap String.utf8EncodeChar).toByteArray := rfl
  rw [Bytes.ofText, String.toUTF8_eq_toByteArray, bytes, List.data_toByteArray]

theorem char_range (c : Char) :
    c.toNat < 0xD800 ∨ 0xDFFF < c.toNat ∧ c.toNat < 0x110000 := by
  exact c.valid

theorem byte_value (n : Nat) (small : n < 256) : (UInt8.ofNat n).toNat = n := by
  exact UInt8.toNat_ofNat_of_lt' small

theorem not_below (byte bound : UInt8) (above : bound.toNat ≤ byte.toNat) : ¬ byte < bound := by
  rw [UInt8.lt_iff_toNat_lt]
  exact Nat.not_lt.mpr above

theorem lead_two (byte : UInt8) (low : 0xC2 ≤ byte.toNat) (high : byte.toNat < 0xE0) :
    lead byte = some (.inside 1 0x80 0xBF (byte.toNat - 0xC0)) := by
  have most : byte < 0xE0 := UInt8.lt_iff_toNat_lt.mpr high
  simp only [lead, if_neg (not_below byte 0xC2 low), if_pos most]

theorem lead_three (byte : UInt8) (low : 0xE0 ≤ byte.toNat) (high : byte.toNat < 0xF0) :
    lead byte = some (.inside 2 (if byte.toNat = 0xE0 then 0xA0 else 0x80)
      (if byte.toNat = 0xED then 0x9F else 0xBF) (byte.toNat - 0xE0)) := by
  by_cases least : byte = 0xE0
  · subst least
    rfl
  by_cases surrogate : byte = 0xED
  · subst surrogate
    rfl
  · have noLeast : byte.toNat ≠ 0xE0 := fun same => least (UInt8.toNat_inj.mp same)
    have noSurrogate : byte.toNat ≠ 0xED := fun same => surrogate (UInt8.toNat_inj.mp same)
    have noTrailing := not_below byte 0xC2 (Nat.le_trans (by decide) low)
    have three : byte < 0xF0 := UInt8.lt_iff_toNat_lt.mpr high
    simp only [lead, if_neg noTrailing, if_neg (not_below byte 0xE0 low), if_neg least,
      if_neg surrogate, if_pos three, if_neg noLeast, if_neg noSurrogate]

theorem lead_four (byte : UInt8) (low : 0xF0 ≤ byte.toNat) (high : byte.toNat ≤ 0xF4) :
    lead byte = some (.inside 3 (if byte.toNat = 0xF0 then 0x90 else 0x80)
      (if byte.toNat = 0xF4 then 0x8F else 0xBF) (byte.toNat - 0xF0)) := by
  by_cases least : byte = 0xF0
  · subst least
    rfl
  by_cases most : byte = 0xF4
  · subst most
    rfl
  · have noLeast : byte.toNat ≠ 0xF0 := fun same => least (UInt8.toNat_inj.mp same)
    have noMost : byte.toNat ≠ 0xF4 := fun same => most (UInt8.toNat_inj.mp same)
    have above : ∀ bound : UInt8, bound.toNat ≤ 0xF0 → ¬ byte < bound :=
      fun bound below => not_below byte bound (Nat.le_trans below low)
    have others : byte ≠ 0xE0 ∧ byte ≠ 0xED := by
      refine ⟨?_, ?_⟩ <;> rintro rfl <;> exact absurd low (by decide)
    have four : byte < 0xF4 := UInt8.lt_iff_toNat_lt.mpr (Nat.lt_of_le_of_ne high noMost)
    simp only [lead, if_neg (above 0xC2 (by decide)), if_neg (above 0xE0 (by decide)), if_neg others.1,
      if_neg others.2, if_neg (above 0xF0 (by decide)), if_neg least, if_pos four, if_neg noLeast,
      if_neg noMost]

theorem begin_one (chars : List Char) (byte : UInt8) (ascii : byte.toNat < 0x80) :
    Decoder.begin chars byte = ⟨Char.ofNat byte.toNat :: chars, .start⟩ := by
  have low : byte < 0x80 := UInt8.lt_iff_toNat_lt.mpr ascii
  simp only [Decoder.begin, if_pos low]

theorem begin_many (chars : List Char) (byte : UInt8) (state : State) (high : 0x80 ≤ byte.toNat)
    (leads : lead byte = some state) : Decoder.begin chars byte = ⟨chars, state⟩ := by
  simp only [Decoder.begin, if_neg (not_below byte 0x80 high), leads]

theorem step_last (chars : List Char) (low high byte : UInt8) (code : Nat)
    (within : low ≤ byte ∧ byte ≤ high) :
    Decoder.step ⟨chars, .inside 1 low high code⟩ byte =
      ⟨Char.ofNat (64 * code + (byte.toNat - 0x80)) :: chars, .start⟩ := by
  simp [Decoder.step, within]

theorem step_inner (chars : List Char) (left : Nat) (low high byte : UInt8) (code : Nat)
    (within : low ≤ byte ∧ byte ≤ high) :
    Decoder.step ⟨chars, .inside (left + 2) low high code⟩ byte =
      ⟨chars, .inside (left + 1) 0x80 0xBF (64 * code + (byte.toNat - 0x80))⟩ := by
  simp [Decoder.step, within]

theorem byte_within (n : Nat) (low high : UInt8) (above : low.toNat ≤ n) (below : n ≤ high.toNat) :
    low ≤ UInt8.ofNat n ∧ UInt8.ofNat n ≤ high := by
  have small : n < 256 := Nat.lt_of_le_of_lt below high.toNat_lt
  rw [UInt8.le_iff_toNat_le, UInt8.le_iff_toNat_le, byte_value n small]
  exact ⟨above, below⟩

theorem trailing_within (n : Nat) (small : n < 64) :
    (0x80 : UInt8) ≤ UInt8.ofNat (n + 128) ∧ UInt8.ofNat (n + 128) ≤ 0xBF := by
  exact byte_within (n + 128) 0x80 0xBF (Nat.le_add_left _ _) (Nat.add_le_add_right (Nat.le_of_lt_succ small) 128)

theorem second_within (n : Nat) (small : n < 64) (least most : UInt8) (p q : Prop) [Decidable p]
    [Decidable q] (above : p → least.toNat ≤ n + 128) (below : q → n + 128 ≤ most.toNat) :
    (if p then least else 0x80) ≤ UInt8.ofNat (n + 128) ∧
      UInt8.ofNat (n + 128) ≤ (if q then most else 0xBF) := by
  obtain ⟨low, high⟩ := trailing_within n small
  refine ⟨?_, ?_⟩
  · by_cases narrow : p
    · rw [if_pos narrow]
      exact (byte_within (n + 128) least 0xBF (above narrow) (Nat.add_le_add_right (Nat.le_of_lt_succ small) 128)).1
    · rw [if_neg narrow]
      exact low
  · by_cases narrow : q
    · rw [if_pos narrow]
      exact (byte_within (n + 128) 0x80 most (Nat.le_add_left _ _) (below narrow)).2
    · rw [if_neg narrow]
      exact high

theorem step_begins (chars : List Char) (byte : UInt8) :
    Decoder.step ⟨chars, .start⟩ byte = Decoder.begin chars byte := by
  rfl

theorem decode_one (chars : List Char) (n : Nat) (ascii : n ≤ 127) :
    [UInt8.ofNat n].foldl Decoder.step ⟨chars, .start⟩ = ⟨Char.ofNat n :: chars, .start⟩ := by
  have only := byte_value n (by omega)
  rw [List.foldl_cons, List.foldl_nil, step_begins, begin_one chars _ (by omega), only]

theorem decode_two (chars : List Char) (n : Nat) (low : 127 < n) (high : n ≤ 2047) :
    [UInt8.ofNat (n / 64 % 32 + 192), UInt8.ofNat (n % 64 + 128)].foldl Decoder.step ⟨chars, .start⟩ =
      ⟨Char.ofNat n :: chars, .start⟩ := by
  have first := byte_value (n / 64 % 32 + 192) (by omega)
  have leads := lead_two (UInt8.ofNat (n / 64 % 32 + 192)) (by omega) (by omega)
  have begun := begin_many chars _ _ (by omega) leads
  have last := step_last chars 0x80 0xBF _ (n / 64 % 32) (trailing_within (n % 64) (by omega))
  have code : 64 * (n / 64 % 32) + (n % 64 + 128 - 0x80) = n := by omega
  simp only [List.foldl_cons, List.foldl_nil, step_begins]
  rw [begun, first, Nat.add_sub_cancel, last, byte_value _ (by omega), code]

-- The second byte is bounded from below against overlong forms and from above against
-- surrogates, neither of which a character has.
theorem decode_three (chars : List Char) (n : Nat) (low : 2047 < n) (high : n ≤ 65535)
    (character : n < 0xD800 ∨ 0xDFFF < n) :
    [UInt8.ofNat (n / 4096 % 16 + 224), UInt8.ofNat (n / 64 % 64 + 128),
        UInt8.ofNat (n % 64 + 128)].foldl Decoder.step ⟨chars, .start⟩ =
      ⟨Char.ofNat n :: chars, .start⟩ := by
  have first := byte_value (n / 4096 % 16 + 224) (by omega)
  have second := byte_value (n / 64 % 64 + 128) (by omega)
  have leads := lead_three (UInt8.ofNat (n / 4096 % 16 + 224)) (by omega) (by omega)
  have begun := begin_many chars _ _ (by omega) leads
  have within := second_within (n / 64 % 64) (by omega) 0xA0 0x9F (n / 4096 % 16 + 224 = 0xE0)
    (n / 4096 % 16 + 224 = 0xED) (fun least => by change 160 ≤ _; omega)
    (fun surrogate => by change _ ≤ 159; omega)
  have inner := step_inner chars 0 _ _ _ (n / 4096 % 16) within
  have last := step_last chars 0x80 0xBF _ (64 * (n / 4096 % 16) + (n / 64 % 64 + 128 - 0x80))
    (trailing_within (n % 64) (by omega))
  have code : 64 * (64 * (n / 4096 % 16) + (n / 64 % 64 + 128 - 0x80)) + (n % 64 + 128 - 0x80) = n := by
    omega
  simp only [List.foldl_cons, List.foldl_nil, step_begins]
  rw [begun, first, Nat.add_sub_cancel, inner, second, last, byte_value _ (by omega), code]

theorem decode_four (chars : List Char) (n : Nat) (low : 65535 < n) (high : n < 0x110000) :
    [UInt8.ofNat (n / 262144 % 8 + 240), UInt8.ofNat (n / 4096 % 64 + 128),
        UInt8.ofNat (n / 64 % 64 + 128), UInt8.ofNat (n % 64 + 128)].foldl Decoder.step ⟨chars, .start⟩ =
      ⟨Char.ofNat n :: chars, .start⟩ := by
  have first := byte_value (n / 262144 % 8 + 240) (by omega)
  have second := byte_value (n / 4096 % 64 + 128) (by omega)
  have third := byte_value (n / 64 % 64 + 128) (by omega)
  have leads := lead_four (UInt8.ofNat (n / 262144 % 8 + 240)) (by omega) (by omega)
  have begun := begin_many chars _ _ (by omega) leads
  have within := second_within (n / 4096 % 64) (by omega) 0x90 0x8F (n / 262144 % 8 + 240 = 0xF0)
    (n / 262144 % 8 + 240 = 0xF4) (fun least => by change 144 ≤ _; omega)
    (fun most => by change _ ≤ 143; omega)
  have outer := step_inner chars 1 _ _ _ (n / 262144 % 8) within
  have inner := step_inner chars 0 0x80 0xBF _ (64 * (n / 262144 % 8) + (n / 4096 % 64 + 128 - 0x80))
    (trailing_within (n / 64 % 64) (by omega))
  have last := step_last chars 0x80 0xBF _
    (64 * (64 * (n / 262144 % 8) + (n / 4096 % 64 + 128 - 0x80)) + (n / 64 % 64 + 128 - 0x80))
    (trailing_within (n % 64) (by omega))
  have code : 64 * (64 * (64 * (n / 262144 % 8) + (n / 4096 % 64 + 128 - 0x80)) +
      (n / 64 % 64 + 128 - 0x80)) + (n % 64 + 128 - 0x80) = n := by
    omega
  simp only [List.foldl_cons, List.foldl_nil, step_begins]
  rw [begun, first, Nat.add_sub_cancel, outer, second, inner, third, last, byte_value _ (by omega), code]

theorem decode_char (chars : List Char) (c : Char) :
    (String.utf8EncodeChar c).foldl Decoder.step ⟨chars, .start⟩ = ⟨c :: chars, .start⟩ := by
  have range := char_range c
  have same : Char.ofNat c.toNat = c := Char.ofNat_toNat c
  have value : c.val.toNat = c.toNat := rfl
  unfold String.utf8EncodeChar
  rw [value]
  dsimp only
  by_cases one : c.toNat ≤ 127
  · rw [if_pos one, decode_one chars _ one, same]
  by_cases two : c.toNat ≤ 2047
  · rw [if_neg one, if_pos two, decode_two chars _ (by omega) two, same]
  by_cases three : c.toNat ≤ 65535
  · rw [if_neg one, if_neg two, if_pos three, decode_three chars _ (by omega) three (by omega), same]
  · rw [if_neg one, if_neg two, if_neg three, decode_four chars _ (by omega) (by omega), same]

theorem decode_chars (text found : List Char) :
    (text.flatMap String.utf8EncodeChar).foldl Decoder.step ⟨found, .start⟩ =
      ⟨text.reverse ++ found, .start⟩ := by
  induction text generalizing found with
  | nil => rfl
  | cons c text ih =>
      rw [List.flatMap_cons, List.foldl_append, decode_char, ih]
      simp

theorem decode_of_text (text : String) : decode (Bytes.ofText text) = text := by
  rw [decode, of_text_chars, decode_chars]
  simp [Decoder.finish]

end RespClient.Utf8

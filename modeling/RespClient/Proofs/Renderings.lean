import RespClient.Proofs.Numerals

set_option autoImplicit false

namespace RespClient.Decimal

section
variable {digits : Bytes}

theorem fold_grows (digits : Bytes) (total : Nat) :
    total ≤ digits.foldl (fun total digit => 10 * total + (digit.toNat - 48)) total := by
  induction digits generalizing total with
  | nil => exact Nat.le_refl total
  | cons first rest ih =>
      have more : total ≤ 10 * total + (first.toNat - 48) := by omega
      exact Nat.le_trans more (ih _)

theorem fold_below (digits : Bytes) (places total : Nat)
    (allDigits : ∀ digit ∈ digits, 48 ≤ digit ∧ digit ≤ 57) (below : total < Nat.pow 10 places) :
    digits.foldl (fun total digit => 10 * total + (digit.toNat - 48)) total <
      Nat.pow 10 (places + digits.length) := by
  induction digits generalizing places total with
  | nil => exact below
  | cons first rest ih =>
      have high : first.toNat ≤ 57 := (allDigits first List.mem_cons_self).2
      have longer : Nat.pow 10 (places + 1) = Nat.pow 10 places * 10 := rfl
      have order : places + (first :: rest).length = places + 1 + rest.length := by
        rw [List.length_cons]
        omega
      have next : 10 * total + (first.toNat - 48) < Nat.pow 10 (places + 1) := by omega
      rw [order]
      exact ih (places + 1) _ (fun digit member => allDigits digit (List.mem_cons_of_mem _ member)) next

theorem value_below (allDigits : ∀ digit ∈ digits, 48 ≤ digit ∧ digit ≤ 57) :
    value digits < Nat.pow 10 digits.length := by
  have below := fold_below digits 0 0 allDigits (by decide)
  rwa [Nat.zero_add] at below

theorem value_positive (first : UInt8) (rest : Bytes) (digit : 48 ≤ first) (leading : first ≠ 48) :
    0 < value (first :: rest) := by
  have low : 48 ≤ first.toNat := digit
  have different : first.toNat ≠ 48 := fun same => leading (UInt8.toNat_inj.mp same)
  have grown := fold_grows rest (10 * 0 + (first.toNat - 48))
  rw [value, List.foldl_cons]
  omega

theorem value_zero_iff (allDigits : ∀ digit ∈ digits, 48 ≤ digit ∧ digit ≤ 57) :
    value digits = 0 ↔ ∀ digit ∈ digits, digit = 48 := by
  induction digits with
  | nil => simp [value]
  | cons first rest ih =>
      have others := ih fun digit member => allDigits digit (List.mem_cons_of_mem _ member)
      by_cases zero : first = 48
      · subst zero
        have same : value (48 :: rest) = value rest := rfl
        simp [same, others]
      · have positive := value_positive first rest (allDigits first List.mem_cons_self).1 zero
        constructor
        · intro nothing
          omega
        · intro zeros
          exact absurd (zeros first List.mem_cons_self) zero

def Unpadded (digits : Bytes) : Prop := digits.head? = some 48 → digits = [48]

theorem of_nat_unpadded (n : Nat) : Unpadded (ofNat n) := by
  induction n using Nat.strongRecOn with
  | ind n ih =>
      intro leading
      by_cases small : n < 10
      · rw [of_nat_step, if_pos small, List.nil_append] at leading ⊢
        rw [List.head?_cons, Option.some.injEq] at leading
        rw [leading]
      · obtain ⟨first, rest, front⟩ := List.exists_cons_of_ne_nil (of_nat_nonempty (n / 10))
        have alone : ofNat (n / 10) = [48] := by
          refine ih (n / 10) (by omega) ?_
          rw [of_nat_step, if_neg small, front] at leading
          rw [front]
          exact leading
        have exact := congrArg value alone
        rw [value_of_nat] at exact
        have nothing : value [48] = 0 := rfl
        omega

theorem of_nat_unique (n : Nat) (digits : Bytes) (nonempty : digits ≠ [])
    (allDigits : ∀ digit ∈ digits, 48 ≤ digit ∧ digit ≤ 57) (unpadded : Unpadded digits)
    (exact : value digits = n) : ofNat n = digits := by
  induction n using Nat.strongRecOn generalizing digits with
  | ind n ih =>
      obtain rfl | ⟨front, last, rfl⟩ := List.eq_nil_or_concat digits
      · exact absurd rfl nonempty
      rw [List.concat_eq_append] at allDigits unpadded exact ⊢
      have digit := allDigits last (by simp)
      have low : 48 ≤ last.toNat := digit.1
      have high : last.toNat ≤ 57 := digit.2
      rw [value_snoc] at exact
      have lastSame : UInt8.ofNat (48 + n % 10) = last := by
        apply UInt8.toNat_inj.mp
        rw [last_digit]
        omega
      rw [of_nat_step, lastSame]
      cases front with
      | nil =>
          have empty : value [] = 0 := rfl
          rw [if_pos (by omega)]
      | cons first rest =>
          have leading : first ≠ 48 := by
            intro zero
            subst zero
            have alone := congrArg List.length (unpadded rfl)
            simp at alone
          have positive := value_positive first rest (allDigits first (by simp)).1 leading
          have frontText : ofNat (n / 10) = first :: rest := by
            refine ih (n / 10) (by omega) (first :: rest) (by simp) ?_ ?_ (by omega)
            · exact fun digit member => allDigits digit (List.mem_append_left _ member)
            · exact fun zero => absurd (Option.some.inj zero) leading
          rw [if_neg (by omega), frontText]

theorem of_value_iff (nonempty : digits ≠ [])
    (allDigits : ∀ digit ∈ digits, 48 ≤ digit ∧ digit ≤ 57) :
    ofNat (value digits) = digits ↔ Unpadded digits := by
  constructor
  · intro same
    rw [← same]
    exact of_nat_unpadded (value digits)
  · intro unpadded
    exact of_nat_unique (value digits) digits nonempty allDigits unpadded rfl

end

structure Shortest (text : Bytes) (n : Nat) : Prop where
  nonempty : text ≠ []
  allDigits : ∀ digit ∈ text, 48 ≤ digit ∧ digit ≤ 57
  exact : value text = n
  unpadded : Unpadded text
  zero : n = 0 → text = [48]
  least : ∀ other : Bytes, other ≠ [] → (∀ digit ∈ other, 48 ≤ digit ∧ digit ≤ 57) →
    value other = n → text.length ≤ other.length

theorem of_nat_shortest (n : Nat) : Shortest (ofNat n) n where
  nonempty := of_nat_nonempty n
  allDigits := of_nat_digits n
  exact := value_of_nat n
  unpadded := of_nat_unpadded n
  zero nothing := by rw [nothing]; rfl
  least other nonempty allDigits exact := by
    have bound := value_below allDigits
    rw [exact] at bound
    exact of_nat_length other.length n (List.length_pos_iff.mpr nonempty) bound

def Padded (text : Bytes) : Prop :=
  ∃ digit digits, text = 48 :: digit :: digits ∨ text = minus :: 48 :: digit :: digits

def NegativeZero (text : Bytes) : Prop :=
  ∃ zeros : Bytes, text = minus :: zeros ∧ ∀ digit ∈ zeros, digit = 48

theorem unpadded_iff (digits : Bytes) :
    Unpadded digits ↔ ¬ ∃ digit rest, digits = 48 :: digit :: rest := by
  constructor
  · intro unpadded led
    obtain ⟨digit, rest, rfl⟩ := led
    cases unpadded rfl
  · intro unled leading
    obtain ⟨rest, rfl⟩ := List.head?_eq_some_iff.mp leading
    cases rest with
    | nil => rfl
    | cons digit rest => exact absurd ⟨digit, rest, rfl⟩ unled

theorem rendered_unsigned (digits : Bytes) (nonempty : digits ≠ [])
    (allDigits : ∀ digit ∈ digits, 48 ≤ digit ∧ digit ≤ 57) :
    ofInt (value digits) = digits ↔ ¬ Padded digits ∧ ¬ NegativeZero digits := by
  have noSign : ∀ rest : Bytes, digits ≠ minus :: rest := by
    intro rest same
    exact minus_no_digit (allDigits minus (by simp [same]))
  have padded : Padded digits ↔ ∃ digit rest, digits = 48 :: digit :: rest := by
    simp [Padded, noSign]
  have positive : ¬ NegativeZero digits := by
    intro zero
    obtain ⟨zeros, same, _⟩ := zero
    exact noSign zeros same
  rw [padded, ← unpadded_iff, ← of_value_iff nonempty allDigits]
  exact ⟨fun same => ⟨same, positive⟩, fun same => same.1⟩

theorem rendered_signed (digits : Bytes) (nonempty : digits ≠ [])
    (allDigits : ∀ digit ∈ digits, 48 ≤ digit ∧ digit ≤ 57) :
    ofInt (-(value digits : Int)) = minus :: digits ↔
      ¬ Padded (minus :: digits) ∧ ¬ NegativeZero (minus :: digits) := by
  have padded : Padded (minus :: digits) ↔ ∃ digit rest, digits = 48 :: digit :: rest := by
    simp [Padded, show minus ≠ 48 by decide]
  have zeros : NegativeZero (minus :: digits) ↔ value digits = 0 := by
    rw [value_zero_iff allDigits]
    simp [NegativeZero]
  rw [padded, zeros, ← unpadded_iff, ← of_value_iff nonempty allDigits]
  cases magnitude : value digits with
  | zero =>
      constructor
      · intro same
        cases same
      · intro nonzero
        exact absurd rfl nonzero.2
  | succ n =>
      have opposite : -((n + 1 : Nat) : Int) = .negSucc n := rfl
      rw [opposite, ofInt, List.cons.injEq]
      exact ⟨fun same => ⟨same.2, Nat.succ_ne_zero n⟩, fun same => ⟨rfl, same.1⟩⟩

theorem rendered_again (text : Bytes) (value : Int64) (read : int64? text = some value) :
    ofInt value.toInt = text ↔ ¬ Padded text ∧ ¬ NegativeZero text := by
  obtain ⟨digits, nonempty, allDigits, ⟨rfl, exact⟩ | ⟨rfl, exact⟩, _⟩ :=
    (int64_iff text value).mp read
  · rw [exact]
    exact rendered_unsigned text nonempty allDigits
  · rw [exact]
    exact rendered_signed digits nonempty allDigits

structure Inverse (unsigned : UInt64 → Option Rendering) (signed : Int64 → Option Rendering)
    (read : Bytes → Option Int64) : Prop where
  unsignedFits : ∀ value : UInt64, ∃ rendering digits, unsigned value = some rendering ∧
    rendering.used ≤ 20 ∧ rendering.text? = some digits ∧ Shortest digits value.toNat
  signedFits : ∀ value : Int64, ∃ rendering digits, signed value = some rendering ∧
    rendering.used ≤ 20 ∧
    rendering.text? = some (if value < 0 then minus :: digits else digits) ∧
    Shortest digits value.toInt.natAbs
  readBack : ∀ (value : Int64) (text : Bytes), (signed value).bind Rendering.text? = some text →
    read text = some value
  renderedBack : ∀ (text : Bytes) (value : Int64), read text = some value →
    ((signed value).bind Rendering.text? = some text ↔ ¬ Padded text ∧ ¬ NegativeZero text)

theorem unsigned_fits (value : UInt64) :
    ∃ rendering digits, ofUInt64? value = some rendering ∧ rendering.used ≤ 20 ∧
      rendering.text? = some digits ∧ Shortest digits value.toNat := by
  obtain ⟨rendering, rendered, text⟩ := Option.bind_eq_some_iff.mp (unsigned_text value)
  obtain ⟨_, inside, _⟩ := (text_iff rendering _).mp text
  exact ⟨rendering, ofNat value.toNat, rendered, inside, text, of_nat_shortest value.toNat⟩

theorem signed_fits (value : Int64) :
    ∃ rendering digits, ofInt64? value = some rendering ∧ rendering.used ≤ 20 ∧
      rendering.text? = some (if value < 0 then minus :: digits else digits) ∧
      Shortest digits value.toInt.natAbs := by
  obtain ⟨rendering, rendered, text⟩ := Option.bind_eq_some_iff.mp (signed_text value)
  obtain ⟨_, inside, _⟩ := (text_iff rendering _).mp text
  have shown : ofInt value.toInt =
      if value < 0 then minus :: ofNat value.toInt.natAbs else ofNat value.toInt.natAbs := by
    have negative : value < 0 ↔ value.toInt < 0 := Int64.lt_iff_toInt_lt
    simp only [negative]
    cases value.toInt with
    | ofNat n =>
        have positive : ¬ Int.ofNat n < 0 := Int.not_lt.mpr (Int.natCast_nonneg n)
        rw [if_neg positive]
        rfl
    | negSucc n =>
        rw [if_pos (Int.negSucc_lt_zero n)]
        rfl
  rw [shown] at text
  exact ⟨rendering, _, rendered, inside, text, of_nat_shortest _⟩

/-- Words are rendered in their buffer as the shortest text, and reading is the inverse. -/
theorem rendering_inverts_reading : Inverse ofUInt64? ofInt64? int64? where
  unsignedFits := unsigned_fits
  signedFits := signed_fits
  readBack value text rendered := by
    rw [signed_text, Option.some.injEq] at rendered
    rw [← rendered, int64_iff]
    exact numeral_of_int _ (Int64.le_toInt value) (Int64.toInt_le value)
  renderedBack text value read := by
    rw [signed_text, Option.some.injEq]
    exact rendered_again text value read

example : text Int64.minValue = Bytes.ofText "-9223372036854775808" := by
  decide +kernel

end RespClient.Decimal

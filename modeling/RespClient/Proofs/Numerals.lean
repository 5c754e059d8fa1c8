import RespClient.Reply.Grammar

set_option autoImplicit false

namespace RespClient.Decimal

theorem of_nat_step (n : Nat) :
    ofNat n = (if n < 10 then [] else ofNat (n / 10)) ++ [UInt8.ofNat (48 + n % 10)] := by
  by_cases zero : n = 0
  · subst zero
    rfl
  · have digits : ofNat n = (digitsUp (n / 10)).reverse ++ [UInt8.ofNat (48 + n % 10)] := by
      rw [ofNat, if_neg zero, digitsUp, if_neg zero, List.reverse_cons]
    rw [digits]
    by_cases small : n < 10
    · have noMore : n / 10 = 0 := Nat.div_eq_of_lt small
      rw [if_pos small, noMore, digitsUp]
      rfl
    · have more : n / 10 ≠ 0 := by omega
      rw [if_neg small, ofNat, if_neg more]

theorem of_nat_nonempty (n : Nat) : ofNat n ≠ [] := by
  rw [of_nat_step]
  simp

theorem last_digit (n : Nat) : (UInt8.ofNat (48 + n % 10)).toNat = 48 + n % 10 := by
  exact UInt8.toNat_ofNat_of_lt' (by simp only [UInt8.size]; omega)

theorem is_digit_iff (byte : UInt8) : isDigit byte = true ↔ 48 ≤ byte ∧ byte ≤ 57 := by
  simp [isDigit]

theorem of_nat_digits (n : Nat) : ∀ digit ∈ ofNat n, 48 ≤ digit ∧ digit ≤ 57 := by
  induction n using Nat.strongRecOn with
  | ind n ih =>
      intro digit member
      rw [of_nat_step, List.mem_append] at member
      rcases member with front | last
      · split at front
        · cases front
        · exact ih (n / 10) (by omega) digit front
      · have same : digit = UInt8.ofNat (48 + n % 10) := by simpa using last
        have bound : n % 10 < 10 := Nat.mod_lt n (by omega)
        rw [same, UInt8.le_iff_toNat_le, UInt8.le_iff_toNat_le, last_digit]
        constructor
        · change 48 ≤ 48 + n % 10
          omega
        · change 48 + n % 10 ≤ 57
          omega

theorem value_snoc (digits : Bytes) (digit : UInt8) :
    value (digits ++ [digit]) = 10 * value digits + (digit.toNat - 48) := by
  simp [value]

theorem value_of_nat (n : Nat) : value (ofNat n) = n := by
  induction n using Nat.strongRecOn with
  | ind n ih =>
      rw [of_nat_step, value_snoc, last_digit]
      split
      · have empty : value [] = 0 := rfl
        omega
      · rw [ih (n / 10) (by omega)]
        omega

theorem nat_iff (text : Bytes) (n : Nat) :
    nat? text = some n ↔
      text ≠ [] ∧ (∀ digit ∈ text, 48 ≤ digit ∧ digit ≤ 57) ∧ n = value text := by
  have digits : text.all isDigit = true ↔ ∀ digit ∈ text, 48 ≤ digit ∧ digit ≤ 57 := by
    simp only [List.all_eq_true, is_digit_iff]
  by_cases numeral : text ≠ [] ∧ text.all isDigit
  · rw [nat?, if_pos numeral, Option.some.injEq]
    have allDigits := digits.mp numeral.2
    exact ⟨fun same => ⟨numeral.1, allDigits, same.symm⟩, fun h => h.2.2.symm⟩
  · rw [nat?, if_neg numeral]
    simp only [reduceCtorEq, false_iff]
    intro spelled
    obtain ⟨nonempty, allDigits, _⟩ := spelled
    exact numeral ⟨nonempty, digits.mpr allDigits⟩

theorem minus_no_digit : ¬ (48 ≤ minus ∧ minus ≤ 57) := by
  decide

theorem int_iff (text : Bytes) (n : Int) :
    int? text = some n ↔
      ∃ digits : Bytes, digits ≠ [] ∧ (∀ digit ∈ digits, 48 ≤ digit ∧ digit ≤ 57) ∧
        (text = digits ∧ n = value digits ∨ text = minus :: digits ∧ n = -(value digits : Int)) := by
  cases text with
  | nil =>
      simp only [int?, reduceCtorEq, false_iff]
      intro spelled
      obtain ⟨digits, nonempty, _, ⟨same, _⟩ | ⟨same, _⟩⟩ := spelled
      · exact nonempty same.symm
      · cases same
  | cons sign rest =>
      by_cases negative : sign = minus
      · subst negative
        rw [int?, if_pos rfl]
        simp only [Option.map_eq_some_iff, nat_iff]
        constructor
        · intro read
          obtain ⟨m, ⟨nonempty, digits, rfl⟩, rfl⟩ := read
          exact ⟨rest, nonempty, digits, Or.inr ⟨rfl, rfl⟩⟩
        · intro spelled
          obtain ⟨digits, nonempty, allDigits, ⟨same, _⟩ | ⟨same, rfl⟩⟩ := spelled
          · exact absurd (allDigits minus (by simp [← same])) minus_no_digit
          · obtain rfl : rest = digits := (List.cons.inj same).2
            exact ⟨_, ⟨nonempty, allDigits, rfl⟩, rfl⟩
      · rw [int?, if_neg negative]
        simp only [Option.map_eq_some_iff, nat_iff]
        constructor
        · intro read
          obtain ⟨m, ⟨nonempty, digits, rfl⟩, rfl⟩ := read
          exact ⟨sign :: rest, nonempty, digits, Or.inl ⟨rfl, rfl⟩⟩
        · intro spelled
          obtain ⟨digits, nonempty, allDigits, ⟨rfl, rfl⟩ | ⟨same, _⟩⟩ := spelled
          · exact ⟨_, ⟨nonempty, allDigits, rfl⟩, rfl⟩
          · exact absurd (List.cons.inj same).1 negative

theorem int64_iff (text : Bytes) (n : Int64) : int64? text = some n ↔ Numeral text n.toInt := by
  unfold int64? Numeral
  simp only [Option.bind_eq_some_iff]
  constructor
  · intro read
    obtain ⟨m, parsed, ranged⟩ := read
    split at ranged
    · rename_i bounds
      have same : n.toInt = m := by
        rw [← Option.some.inj ranged]
        exact Int64.toInt_ofInt_of_le bounds.1 (Int.lt_add_one_of_le bounds.2)
      obtain ⟨digits, nonempty, allDigits, reading⟩ := (int_iff text m).mp parsed
      exact ⟨digits, nonempty, allDigits, by rwa [same], by rwa [same]⟩
    · cases ranged
  · intro numeral
    obtain ⟨digits, nonempty, allDigits, reading, bounds⟩ := numeral
    refine ⟨n.toInt, (int_iff text n.toInt).mpr ⟨digits, nonempty, allDigits, reading⟩, ?_⟩
    rw [if_pos bounds, Int64.ofInt_toInt]

theorem numeral_of_int (n : Int) (low : Int64.minValue.toInt ≤ n)
    (high : n ≤ Int64.maxValue.toInt) : Numeral (ofInt n) n := by
  cases n with
  | ofNat n =>
      exact ⟨ofNat n, of_nat_nonempty n, of_nat_digits n,
        Or.inl ⟨rfl, by rw [value_of_nat]; rfl⟩, low, high⟩
  | negSucc n =>
      exact ⟨ofNat (n + 1), of_nat_nonempty (n + 1), of_nat_digits (n + 1),
        Or.inr ⟨rfl, by rw [value_of_nat]; rfl⟩, low, high⟩

theorem numeral_of_nat (n : Nat) (high : (n : Int) ≤ Int64.maxValue.toInt) :
    Numeral (ofNat n) n := by
  have low : Int64.minValue.toInt ≤ (n : Int) :=
    Int.le_trans (by decide) (Int.natCast_nonneg n)
  exact numeral_of_int n low high

theorem of_nat_visible (n : Nat) : lf ∉ ofNat n := by
  intro member
  exact absurd (of_nat_digits n lf member) (by decide)

end RespClient.Decimal

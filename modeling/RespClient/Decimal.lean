import RespClient.Bytes

set_option autoImplicit false

namespace RespClient.Decimal

def minus : UInt8 := 45
def isDigit (byte : UInt8) : Bool := 48 ≤ byte && byte ≤ 57

def digitsUp (n : Nat) : Bytes :=
  if n = 0 then [] else UInt8.ofNat (48 + n % 10) :: digitsUp (n / 10)

def ofNat (n : Nat) : Bytes := if n = 0 then [48] else (digitsUp n).reverse

def ofInt : Int → Bytes
  | .ofNat n => ofNat n
  | .negSucc n => minus :: ofNat (n + 1)

def value (digits : Bytes) : Nat :=
  digits.foldl (fun total digit => 10 * total + (digit.toNat - 48)) 0

def nat? (text : Bytes) : Option Nat :=
  if text ≠ [] ∧ text.all isDigit then some (value text) else none

def int? : Bytes → Option Int
  | [] => none
  | sign :: digits =>
      if sign = minus then (nat? digits).map fun n : Nat => -(n : Int)
      else (nat? (sign :: digits)).map fun n : Nat => (n : Int)

def int64? (text : Bytes) : Option Int64 :=
  (int? text).bind fun n =>
    if Int64.minValue.toInt ≤ n ∧ n ≤ Int64.maxValue.toInt then some (Int64.ofInt n) else none

def capacity : Nat := 20

structure Buffer where
  cells : Bytes
  sized : cells.length = capacity
deriving Repr

namespace Buffer

def blank : Buffer := ⟨List.replicate capacity 0, List.length_replicate⟩

def write? (buffer : Buffer) (start : Nat) (bytes : Bytes) : Option Buffer :=
  if inside : start + bytes.length ≤ capacity then
    some ⟨buffer.cells.take start ++ bytes ++ buffer.cells.drop (start + bytes.length), by
      have sized := buffer.sized
      simp only [List.length_append, List.length_take, List.length_drop]
      omega⟩
  else none

def front? (buffer : Buffer) (used : Nat) : Option Bytes :=
  if used ≤ capacity then some (buffer.cells.take used) else none

theorem write_inside (buffer : Buffer) (start : Nat) (bytes : Bytes)
    (inside : start + bytes.length ≤ capacity) :
    ∃ written, buffer.write? start bytes = some written ∧
      written.cells.take (start + bytes.length) = buffer.cells.take start ++ bytes := by
  have before : (buffer.cells.take start).length = start := by
    rw [List.length_take, buffer.sized]
    omega
  exact ⟨_, dif_pos inside, List.take_left' (by rw [List.length_append, before])⟩

end Buffer

structure Rendering where
  buffer : Buffer
  used : Nat
deriving Repr

def Rendering.text? (rendering : Rendering) : Option Bytes :=
  rendering.buffer.front? rendering.used

def putDigits (value : UInt64) (buffer : Buffer) (used : Nat) : Option Rendering :=
  if value = 0 then some ⟨buffer, used⟩
  else
    (buffer.write? used [48 + (value % 10).toUInt8]).bind fun buffer =>
      putDigits (value / 10) buffer (used + 1)
termination_by value.toNat
decreasing_by
  rename_i positive
  have nonzero : value.toNat ≠ 0 := fun zero => positive (UInt64.toNat_inj.mp zero)
  rw [UInt64.toNat_div]
  exact Nat.div_lt_self (Nat.pos_of_ne_zero nonzero) (by decide)

def Rendering.turnRound (rendering : Rendering) : Option Rendering := do
  let digits ← rendering.text?
  let buffer ← rendering.buffer.write? 0 digits.reverse
  return ⟨buffer, rendering.used⟩

def ofUInt64? (value : UInt64) : Option Rendering :=
  if value = 0 then (Buffer.blank.write? 0 [48]).map fun buffer => ⟨buffer, 1⟩
  else (putDigits value .blank 0).bind Rendering.turnRound

-- What stands behind the minus sign of a negative number. That of the least number is no signed
-- word, but it is an unsigned one.
def magnitude (value : Int64) : UInt64 := (-value).toUInt64

def ofInt64? (value : Int64) : Option Rendering :=
  if 0 ≤ value then ofUInt64? value.toUInt64
  else do
    let rendering ← ofUInt64? (magnitude value)
    let signed ← Buffer.blank.write? 0 [minus]
    let digits ← rendering.text?
    let buffer ← signed.write? 1 digits
    return ⟨buffer, rendering.used + 1⟩

theorem digits_up_length (places n : Nat) (bound : n < Nat.pow 10 places) :
    (digitsUp n).length ≤ places := by
  induction places generalizing n with
  | zero =>
      have none : n = 0 := Nat.lt_one_iff.mp bound
      rw [digitsUp, if_pos none]
      exact Nat.le_refl 0
  | succ places ih =>
      by_cases zero : n = 0
      · rw [digitsUp, if_pos zero]
        exact Nat.zero_le _
      · have whole : n < Nat.pow 10 places * 10 := bound
        rw [digitsUp, if_neg zero]
        exact Nat.succ_le_succ (ih (n / 10) (by omega))

theorem of_nat_length (places n : Nat) (positive : 0 < places) (bound : n < Nat.pow 10 places) :
    (ofNat n).length ≤ places := by
  rw [ofNat]
  split
  · exact positive
  · rw [List.length_reverse]
    exact digits_up_length places n bound

theorem word_digit (value : UInt64) :
    48 + (value % 10).toUInt8 = UInt8.ofNat (48 + value.toNat % 10) := by
  apply UInt8.toNat_inj.mp
  rw [UInt8.toNat_add, UInt64.toNat_toUInt8, UInt64.toNat_mod, UInt8.toNat_ofNat']
  change (48 + value.toNat % 10 % 256) % 256 = (48 + value.toNat % 10) % 256
  omega

theorem put_digits_text (value : UInt64) (buffer : Buffer) (used : Nat)
    (room : used + (digitsUp value.toNat).length ≤ capacity) :
    (putDigits value buffer used).bind Rendering.text? =
      some (buffer.cells.take used ++ digitsUp value.toNat) := by
  fun_induction putDigits value buffer used with
  | case1 buffer used =>
      have none : digitsUp (0 : UInt64).toNat = [] := by
        rw [digitsUp]
        rfl
      rw [none, List.append_nil]
      exact if_pos (Nat.le_trans (Nat.le_add_right _ _) room)
  | case2 value buffer used positive ih =>
      have nonzero : value.toNat ≠ 0 := fun zero => positive (UInt64.toNat_inj.mp zero)
      have digits : digitsUp value.toNat =
          (48 + (value % 10).toUInt8) :: digitsUp (value / 10).toNat := by
        rw [digitsUp, if_neg nonzero, word_digit, UInt64.toNat_div]
        rfl
      rw [digits, List.length_cons] at room
      obtain ⟨written, wrote, front⟩ := buffer.write_inside used [48 + (value % 10).toUInt8]
        (by rw [List.length_singleton]; omega)
      rw [List.length_singleton] at front
      rw [wrote, Option.bind_some, ih written (by omega), front, digits, List.append_assoc,
        List.singleton_append]

theorem text_iff (rendering : Rendering) (text : Bytes) :
    rendering.text? = some text ↔ rendering.used = text.length ∧ rendering.used ≤ capacity ∧
      rendering.buffer.cells.take rendering.used = text := by
  unfold Rendering.text? Buffer.front?
  constructor
  · intro taken
    split at taken
    · rename_i inside
      cases taken
      refine ⟨?_, inside, rfl⟩
      rw [List.length_take, rendering.buffer.sized]
      omega
    · cases taken
  · intro parts
    obtain ⟨_, inside, same⟩ := parts
    rw [if_pos inside, same]

theorem turn_round_text (rendering : Rendering) (text : Bytes)
    (rendered : rendering.text? = some text) :
    rendering.turnRound.bind Rendering.text? = some text.reverse := by
  obtain ⟨counted, inside, _⟩ := (text_iff rendering text).mp rendered
  obtain ⟨written, wrote, front⟩ := rendering.buffer.write_inside 0 text.reverse
    (by rw [List.length_reverse]; omega)
  rw [List.length_reverse, Nat.zero_add, List.take_zero, List.nil_append] at front
  have turned : rendering.turnRound = some ⟨written, rendering.used⟩ := by
    simp [Rendering.turnRound, rendered, wrote]
  rw [turned, Option.bind_some, text_iff]
  dsimp only
  rw [List.length_reverse]
  exact ⟨counted, inside, by rw [counted, front]⟩

theorem unsigned_text (value : UInt64) :
    (ofUInt64? value).bind Rendering.text? = some (ofNat value.toNat) := by
  by_cases zero : value = 0
  · subst zero
    rfl
  · have nonzero : value.toNat ≠ 0 := fun same => zero (UInt64.toNat_inj.mp same)
    have bound : value.toNat < Nat.pow 10 20 := Nat.lt_trans value.toNat_lt (by decide)
    have room : 0 + (digitsUp value.toNat).length ≤ capacity := by
      rw [Nat.zero_add]
      exact digits_up_length 20 value.toNat bound
    have digits := put_digits_text value .blank 0 room
    obtain ⟨rendering, put, text⟩ := Option.bind_eq_some_iff.mp digits
    rw [ofUInt64?, if_neg zero, put, Option.bind_some, turn_round_text rendering _ text, ofNat,
      if_neg nonzero]
    rfl

theorem word_sign (value : Int64) :
    (0 ≤ value ∧ value.toInt = value.toUInt64.toNat) ∨
      (¬ 0 ≤ value ∧ ∃ n : Nat, (magnitude value).toNat = n + 1 ∧ n < 9223372036854775808 ∧
        value.toInt = .negSucc n) := by
  have opposite : (magnitude value).toNat =
      (18446744073709551616 - value.toUInt64.toNat) % 18446744073709551616 := by
    rw [magnitude, ← Int64.toNat_toBitVec, Int64.toBitVec_neg, BitVec.toNat_neg,
      Int64.toNat_toBitVec]
  have word : value.toInt = if 2 * value.toUInt64.toNat < 18446744073709551616 then
      (value.toUInt64.toNat : Int) else value.toUInt64.toNat - 18446744073709551616 := by
    rw [← Int64.toInt_toBitVec, BitVec.toInt_eq_toNat_cond, Int64.toNat_toBitVec]
    rfl
  have zero : (0 : Int64).toInt = 0 := rfl
  have bound := value.toUInt64.toNat_lt
  rw [Int64.le_iff_toInt_le, zero]
  split at word
  · exact Or.inl ⟨by omega, word⟩
  · exact Or.inr ⟨by omega, (magnitude value).toNat - 1, by omega, by omega, by omega⟩

theorem signed_text (value : Int64) :
    (ofInt64? value).bind Rendering.text? = some (ofInt value.toInt) := by
  rcases word_sign value with ⟨positive, exact⟩ | ⟨negative, n, opposite, bound, exact⟩
  · rw [ofInt64?, if_pos positive, unsigned_text, exact]
    rfl
  · obtain ⟨rendering, rendered, text⟩ :=
      Option.bind_eq_some_iff.mp (unsigned_text (magnitude value))
    rw [opposite] at text
    obtain ⟨counted, _, _⟩ := (text_iff rendering _).mp text
    have digits : (ofNat (n + 1)).length ≤ 19 :=
      of_nat_length 19 (n + 1) (by decide) (Nat.lt_of_le_of_lt bound (by decide))
    have room : 1 + (ofNat (n + 1)).length ≤ capacity := by
      rw [capacity]
      omega
    obtain ⟨signed, wroteSign, sign⟩ := Buffer.blank.write_inside 0 [minus] (by decide)
    obtain ⟨written, wrote, front⟩ := signed.write_inside 1 (ofNat (n + 1)) room
    have both : ofInt64? value = some ⟨written, rendering.used + 1⟩ := by
      simp [ofInt64?, negative, rendered, wroteSign, text, wrote]
    have signAlone : signed.cells.take 1 = [minus] := sign
    rw [both, exact, Option.bind_some, text_iff]
    dsimp only
    rw [counted, Nat.add_comm, front, signAlone]
    exact ⟨Nat.add_comm _ _, room, rfl⟩

def text (value : Int64) : Bytes :=
  ((ofInt64? value).bind Rendering.text?).get (by rw [signed_text]; rfl)

@[simp] theorem text_exact (value : Int64) : text value = ofInt value.toInt := by
  simp only [text, signed_text, Option.get_some]

end RespClient.Decimal

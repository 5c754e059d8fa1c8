import RespClient.Link
import RespClient.Proofs.Acceptance
import RespClient.Proofs.Text

set_option autoImplicit false

namespace RespClient

namespace Reply

theorem count_line_body (n : Nat) (high : (n : Int) ≤ Int64.maxValue.toInt) :
    LineBody (Decimal.ofNat n) := by
  have most : Int64.maxValue.toInt = 9223372036854775807 := by decide
  have places : Nat.pow 10 19 = 10000000000000000000 := by decide
  have short := Decimal.of_nat_length 19 n (by decide) (by rw [places]; omega)
  exact ⟨Decimal.of_nat_visible n, by omega⟩

theorem number_line_body (value : Int64) : LineBody (Decimal.ofInt value.toInt) := by
  have most : Int64.maxValue.toInt = 9223372036854775807 := by decide
  have least : Int64.minValue.toInt = -9223372036854775808 := by decide
  have low := Int64.le_toInt value
  have high := Int64.toInt_le value
  have places : Nat.pow 10 19 = 10000000000000000000 := by decide
  cases number : value.toInt with
  | ofNat n =>
      rw [number] at high
      exact count_line_body n high
  | negSucc n =>
      have magnitude : n + 1 < Nat.pow 10 19 := by
        rw [number] at low
        omega
      have short := Decimal.of_nat_length 19 (n + 1) (by decide) magnitude
      have visible := Decimal.of_nat_visible (n + 1)
      have sign : lf ≠ Decimal.minus := by decide
      refine ⟨?_, ?_⟩
      · simp [Decimal.ofInt, sign, visible]
      · simp only [Decimal.ofInt, List.length_cons]
        omega

theorem bulk_encodes (depth : Nat) (data : Bytes) (bounded : data.length ≤ 536870912) :
    Encodes depth (Framing.bulk data) (.bulk data) := by
  have high : (data.length : Int) ≤ Int64.maxValue.toInt := by
    have most : Int64.maxValue.toInt = 9223372036854775807 := by decide
    omega
  exact .bulk (count_line_body _ high) (Decimal.numeral_of_nat _ high) bounded

theorem array_encodes (depth : Nat) (bytes : Bytes) (items : List Reply) (shallow : depth < 32)
    (high : (items.length : Int) ≤ Int64.maxValue.toInt) (all : EncodesAll (depth + 1) bytes items) :
    Encodes depth (Framing.count '*' items.length ++ bytes) (.array items) := by
  exact .array (count_line_body _ high) (Decimal.numeral_of_nat _ high) shallow all

theorem bulks_encode (depth : Nat) (parts : List Bytes)
    (bounded : ∀ part ∈ parts, part.length ≤ 536870912) :
    EncodesAll depth (parts.flatMap Framing.bulk) (parts.map .bulk) := by
  induction parts with
  | nil => exact .nil
  | cons part parts ih =>
      rw [List.flatMap_cons, List.map_cons]
      exact .cons (bulk_encodes depth part (bounded part (by simp)))
        (ih fun other member => bounded other (by simp [member]))

theorem status_encodes (depth : Nat) (text : String) (fits : FitsLine text) :
    Encodes depth (Framing.line '+' (Bytes.ofText text)) (.status text) := by
  have encodes := @Encodes.status depth _ fits
  rwa [Utf8.decode_of_text] at encodes

theorem error_encodes (depth : Nat) (text : String) (fits : FitsLine text) :
    Encodes depth (Framing.line '-' (Bytes.ofText text)) (.error text) := by
  have encodes := @Encodes.error depth _ fits
  rwa [Utf8.decode_of_text] at encodes

theorem integer_encodes (depth : Nat) (value : Int64) :
    Encodes depth (Framing.line ':' (Decimal.ofInt value.toInt)) (.integer value) := by
  exact .integer (number_line_body value)
    (Decimal.numeral_of_int _ (Int64.le_toInt value) (Int64.toInt_le value))

theorem nil_encodes (depth : Nat) : Encodes depth (Framing.line '$' (Decimal.ofInt (-1))) .nil := by
  exact .noBulk (number_line_body (-1)) (Decimal.numeral_of_int (-1) (by decide) (by decide))

mutual
theorem canonical_encodes (depth : Nat) (reply : Reply) (fits : Fits depth reply) :
    Encodes depth (encode reply) reply := by
  cases reply with
  | status text => exact status_encodes depth text fits
  | error text => exact error_encodes depth text fits
  | integer value => exact integer_encodes depth value
  | bulk data => exact bulk_encodes depth data fits
  | nil => exact nil_encodes depth
  | array items =>
      obtain ⟨shallow, counted, all⟩ := fits
      exact array_encodes depth _ items shallow counted (canonical_all_encode (depth + 1) items all)
theorem canonical_all_encode (depth : Nat) (items : List Reply) (fits : FitsAll depth items) :
    EncodesAll depth (encodeAll items) items := by
  cases items with
  | nil => exact .nil
  | cons item items =>
      exact .cons (canonical_encodes depth item fits.1) (canonical_all_encode depth items fits.2)
end

end Reply

namespace Reply

theorem scan_canonical (reply : Reply) (fits : Fits 0 reply) (after : Bytes) :
    scan (reply.encode ++ after) = .done reply after := by
  exact Scan.accepts_front scan_accepts _ after reply (canonical_encodes 0 reply fits)

theorem scan_canonical_cut (reply : Reply) (fits : Fits 0 reply) (sent : Nat)
    (short : sent < reply.encode.length) : scan (reply.encode.take sent) = .short := by
  have decides : Scan.Decides scan (reply.encode.take sent ++ reply.encode.drop sent) (.done reply) := by
    rw [List.take_append_drop]
    exact scan_canonical reply fits
  have missing : reply.encode.drop sent ≠ [] := by
    rw [ne_eq, List.drop_eq_nil_iff]
    omega
  exact Scan.short_before_verdict scan_incremental _ _ (.done reply) missing decides

theorem scan_empty : scan [] = .short := by
  rw [scan, scan_within_line]
  rfl

theorem encode_nonempty (reply : Reply) (fits : Fits 0 reply) : reply.encode ≠ [] := by
  intro empty
  have whole := scan_canonical reply fits []
  rw [empty] at whole
  exact nomatch scan_empty.symm.trans whole

end Reply

namespace Stream

theorem read_chunk (noBytes : IoError) (reply : Reply) (fits : Reply.Fits 0 reply) :
    (({} : Stream).deliver (some (.chunk reply.encode))).read noBytes = .ok (reply, {}) := by
  have scanned := Reply.scan_canonical reply fits []
  rw [List.append_nil] at scanned
  simp [deliver, read, Reply.read, scanned, Scan.settle, Except.map]

theorem read_cut (noBytes : IoError) (reply : Reply) (fits : Reply.Fits 0 reply) (sent : Nat)
    (short : sent < reply.encode.length) :
    (({} : Stream).deliver (some (.closing (reply.encode.take sent)))).read noBytes =
      .error .closed := by
  have scanned := Reply.scan_canonical_cut reply fits sent short
  simp [deliver, read, Reply.read, scanned, Scan.settle, Except.map, Ending.error]

theorem read_nothing (noBytes : IoError) (delivery : Option Delivery)
    (empty : delivery = none ∨ delivery = some (.closing [])) :
    (({} : Stream).deliver delivery).read noBytes = .error .closed := by
  rcases empty with rfl | rfl <;>
    simp [deliver, read, Reply.read, Reply.scan_empty, Scan.settle, Except.map, Ending.error]

end Stream
end RespClient

import RespClient.Proofs.Numerals

set_option autoImplicit false

namespace RespClient.Reply

theorem numeral_read (text : Bytes) (n : Int) (numeral : Numeral text n) :
    Decimal.int64? text = some (Int64.ofInt n) ∧ (Int64.ofInt n).toInt = n := by
  have bounds : Int64.minValue.toInt ≤ n ∧ n ≤ Int64.maxValue.toInt := by
    obtain ⟨_, _, _, _, bounds⟩ := numeral
    exact bounds
  have same : (Int64.ofInt n).toInt = n :=
    Int64.toInt_ofInt_of_le bounds.1 (Int.lt_add_one_of_le bounds.2)
  exact ⟨(Decimal.int64_iff text _).mpr (by rwa [same]), same⟩

theorem counted_iff (announce : Nat → Except Fault Header) (text : Bytes) (header : Header) :
    Header.counted announce text = .ok header ↔
      Numeral text (-1) ∧ header = .complete .nil ∨
        ∃ n : Nat, Numeral text n ∧ announce n = .ok header := by
  constructor
  · intro announced
    unfold Header.counted at announced
    split at announced
    · cases announced
    · rename_i length read
      have numeral : Numeral text length.toInt := (Decimal.int64_iff text length).mp read
      by_cases missing : length = -1
      · subst missing
        cases announced
        exact Or.inl ⟨numeral, rfl⟩
      by_cases negative : length < 0
      · rw [if_neg missing, if_pos negative] at announced
        cases announced
      · have count : ((length.toInt.toNat : Nat) : Int) = length.toInt := by
          rw [Int64.lt_iff_toInt_lt] at negative
          exact Int.toNat_of_nonneg (Int.not_lt.mp negative)
        rw [if_neg missing, if_neg negative] at announced
        exact Or.inr ⟨length.toInt.toNat, by rwa [count], announced⟩
  · intro kinds
    rcases kinds with ⟨numeral, rfl⟩ | ⟨n, numeral, announced⟩
    · have read := (numeral_read text (-1) numeral).1
      rw [Header.counted, read]
      rfl
    · obtain ⟨read, same⟩ := numeral_read text n numeral
      have notMissing : Int64.ofInt n ≠ -1 := by
        intro missing
        have negative : (n : Int) = -1 := by rw [← same, missing]; rfl
        omega
      have notNegative : ¬ Int64.ofInt n < 0 := by
        rw [Int64.lt_iff_toInt_lt, same]
        exact Int.not_lt.mpr (Int.natCast_nonneg n)
      rw [Header.counted, read]
      dsimp only
      rw [if_neg notMissing, if_neg notNegative, same]
      exact announced

inductive Announces : Bytes → Header → Prop where
  | status {body : Bytes} : Announces ('+'.toUInt8 :: body) (.complete (.status (Utf8.decode body)))
  | error {body : Bytes} : Announces ('-'.toUInt8 :: body) (.complete (.error (Utf8.decode body)))
  | integer {body : Bytes} {value : Int64} :
      Numeral body value.toInt → Announces (':'.toUInt8 :: body) (.complete (.integer value))
  | noBulk {body : Bytes} : Numeral body (-1) → Announces ('$'.toUInt8 :: body) (.complete .nil)
  | noArray {body : Bytes} : Numeral body (-1) → Announces ('*'.toUInt8 :: body) (.complete .nil)
  | bulk {body : Bytes} {length : Nat} :
      Numeral body length → length ≤ maxBulk → Announces ('$'.toUInt8 :: body) (.bulk length)
  | array {body : Bytes} {count : Nat} :
      Numeral body count → Announces ('*'.toUInt8 :: body) (.array count)

theorem of_line_integer (text : Bytes) :
    Header.ofLine (':'.toUInt8 :: text) =
      match Decimal.int64? text with
      | some value => .ok (.complete (.integer value))
      | none => .error .invalidInteger := by
  rfl

theorem of_line_bulk (text : Bytes) :
    Header.ofLine ('$'.toUInt8 :: text) =
      Header.counted (fun n => if maxBulk < n then .error .bulkTooLong else .ok (.bulk n)) text := by
  rfl

theorem of_line_array (text : Bytes) :
    Header.ofLine ('*'.toUInt8 :: text) = Header.counted (fun n => .ok (.array n)) text := by
  rfl

theorem announces_of_line (line : Bytes) (header : Header)
    (announced : Header.ofLine line = .ok header) : Announces line header := by
  cases line with
  | nil => cases announced
  | cons type text =>
      by_cases plus : type = '+'.toUInt8
      · subst plus
        cases announced
        exact .status
      by_cases minus : type = '-'.toUInt8
      · subst minus
        cases announced
        exact .error
      by_cases colon : type = ':'.toUInt8
      · subst colon
        rw [of_line_integer] at announced
        split at announced
        · rename_i value read
          cases announced
          exact .integer ((Decimal.int64_iff text value).mp read)
        · cases announced
      by_cases dollar : type = '$'.toUInt8
      · subst dollar
        rw [of_line_bulk, counted_iff] at announced
        rcases announced with ⟨numeral, rfl⟩ | ⟨n, numeral, bounded⟩
        · exact .noBulk numeral
        · by_cases long : maxBulk < n
          · rw [if_pos long] at bounded
            cases bounded
          · rw [if_neg long] at bounded
            cases bounded
            exact .bulk numeral (Nat.not_lt.mp long)
      by_cases star : type = '*'.toUInt8
      · subst star
        rw [of_line_array, counted_iff] at announced
        rcases announced with ⟨numeral, rfl⟩ | ⟨n, numeral, same⟩
        · exact .noArray numeral
        · cases same
          exact .array numeral
      simp only [Header.ofLine, plus, minus, colon, dollar, star, if_false, reduceCtorEq] at announced

theorem of_line_announced (line : Bytes) (header : Header) (announces : Announces line header) :
    Header.ofLine line = .ok header := by
  cases announces with
  | status => rfl
  | error => rfl
  | @integer body value numeral =>
      rw [of_line_integer, (Decimal.int64_iff body value).mpr numeral]
  | noBulk numeral =>
      rw [of_line_bulk, counted_iff]
      exact Or.inl ⟨numeral, rfl⟩
  | noArray numeral =>
      rw [of_line_array, counted_iff]
      exact Or.inl ⟨numeral, rfl⟩
  | bulk numeral fits =>
      rw [of_line_bulk, counted_iff]
      exact Or.inr ⟨_, numeral, if_neg (Nat.not_lt.mpr fits)⟩
  | array numeral =>
      rw [of_line_array, counted_iff]
      exact Or.inr ⟨_, numeral, rfl⟩

theorem of_line_iff (line : Bytes) (header : Header) :
    Header.ofLine line = .ok header ↔ Announces line header :=
  ⟨announces_of_line line header, of_line_announced line header⟩

inductive Completes (depth : Nat) : Header → Bytes → Reply → Prop where
  | complete {reply : Reply} : Completes depth (.complete reply) [] reply
  | bulk {data : Bytes} : Completes depth (.bulk data.length) (data ++ crlf) (.bulk data)
  | array {bytes : Bytes} {items : List Reply} :
      depth < maxDepth → EncodesAll (depth + 1) bytes items →
      Completes depth (.array items.length) bytes (.array items)

theorem line_body_iff (type : UInt8) (body : Bytes) (visible : type ≠ lf) :
    LineBody body ↔ lf ∉ type :: body ∧ (type :: body).length + 2 ≤ maxLine := by
  have clean : lf ∉ type :: body ↔ lf ∉ body := by
    simp [Ne.symm visible]
  rw [clean]
  rfl

theorem line_front (type : Char) (body rest : Bytes) :
    type.toUInt8 :: body ++ crlf ++ rest = Framing.line type body ++ rest := by
  simp [Framing.line]

theorem line_alone (type : Char) (body : Bytes) :
    type.toUInt8 :: body ++ crlf ++ [] = Framing.line type body := by
  simp [Framing.line]

def Headed (depth : Nat) (used : Bytes) (reply : Reply) : Prop :=
  ∃ line header rest, used = line ++ crlf ++ rest ∧ (lf ∉ line ∧ line.length + 2 ≤ maxLine) ∧
    Announces line header ∧ Completes depth header rest reply

section
variable {depth : Nat} {type : Char} {body rest : Bytes} {header : Header} {reply : Reply}

theorem headed_front (visible : type.toUInt8 ≠ lf) (fits : LineBody body)
    (announces : Announces (type.toUInt8 :: body) header)
    (completes : Completes depth header rest reply) :
    Headed depth (Framing.line type body ++ rest) reply := by
  have clean := (line_body_iff type.toUInt8 body visible).mp fits
  exact ⟨_, header, rest, (line_front type body rest).symm, clean, announces, completes⟩

theorem headed_alone (visible : type.toUInt8 ≠ lf) (fits : LineBody body)
    (announces : Announces (type.toUInt8 :: body) header)
    (completes : Completes depth header [] reply) :
    Headed depth (Framing.line type body) reply := by
  have headed := headed_front visible fits announces completes
  rwa [List.append_nil] at headed

end

theorem encodes_headed (depth : Nat) (used : Bytes) (reply : Reply)
    (encodes : Encodes depth used reply) : Headed depth used reply := by
  cases encodes with
  | status fits => exact headed_alone (by decide) fits .status .complete
  | error fits => exact headed_alone (by decide) fits .error .complete
  | integer fits numeral => exact headed_alone (by decide) fits (.integer numeral) .complete
  | noBulk fits numeral => exact headed_alone (by decide) fits (.noBulk numeral) .complete
  | noArray fits numeral => exact headed_alone (by decide) fits (.noArray numeral) .complete
  | bulk fits numeral bounded => exact headed_front (by decide) fits (.bulk numeral bounded) .bulk
  | array fits numeral shallow all =>
      exact headed_front (by decide) fits (.array numeral) (.array shallow all)

theorem headed_encodes (depth : Nat) (used : Bytes) (reply : Reply)
    (headed : Headed depth used reply) : Encodes depth used reply := by
  obtain ⟨line, header, rest, rfl, fits, announces, completes⟩ := headed
  cases announces with
  | status =>
      cases completes
      rw [line_alone]
      exact .status ((line_body_iff _ _ (by decide)).mpr fits)
  | error =>
      cases completes
      rw [line_alone]
      exact .error ((line_body_iff _ _ (by decide)).mpr fits)
  | integer numeral =>
      cases completes
      rw [line_alone]
      exact .integer ((line_body_iff _ _ (by decide)).mpr fits) numeral
  | noBulk numeral =>
      cases completes
      rw [line_alone]
      exact .noBulk ((line_body_iff _ _ (by decide)).mpr fits) numeral
  | noArray numeral =>
      cases completes
      rw [line_alone]
      exact .noArray ((line_body_iff _ _ (by decide)).mpr fits) numeral
  | bulk numeral bounded =>
      cases completes
      rw [line_front]
      exact .bulk ((line_body_iff _ _ (by decide)).mpr fits) numeral bounded
  | array numeral =>
      cases completes with
      | array shallow all =>
          rw [line_front]
          exact .array ((line_body_iff _ _ (by decide)).mpr fits) numeral shallow all

theorem encodes_iff (depth : Nat) (used : Bytes) (reply : Reply) :
    Encodes depth used reply ↔ Headed depth used reply :=
  ⟨encodes_headed depth used reply, headed_encodes depth used reply⟩

def scanAfter (levels : Nat) (line rest : Bytes) : Scan Reply :=
  match Header.ofLine line with
  | .error fault => .malformed fault rest
  | .ok (.complete reply) => .done reply rest
  | .ok (.bulk length) => (scanBulk length rest).map .bulk
  | .ok (.array count) =>
      match levels with
      | 0 => .malformed .nestedTooDeep rest
      | levels + 1 => (Scan.many (scanWithin levels) count [] rest).map .array

theorem scan_within_line (levels : Nat) :
    scanWithin levels = fun bytes => (scanLine bytes).andThen (scanAfter levels) := by
  funext bytes
  rw [scanWithin.eq_def]
  rfl

-- The depth grows by one from an array to its elements, and the limit is met where an array
-- would be begun: not at a nil in its place, nor at an element that is no array.
theorem scan_at_line (depth : Nat) (bytes : Bytes) :
    scanAt depth bytes = (scanLine bytes).andThen fun line rest =>
      match Header.ofLine line with
      | .error fault => .malformed fault rest
      | .ok (.complete reply) => .done reply rest
      | .ok (.bulk length) => (scanBulk length rest).map .bulk
      | .ok (.array count) =>
          if maxDepth ≤ depth then .malformed .nestedTooDeep rest
          else (Scan.many (scanAt (depth + 1)) count [] rest).map .array := by
  rw [scanAt, scan_within_line]
  refine congrArg (scanLine bytes).andThen (funext fun line => funext fun rest => ?_)
  unfold scanAfter
  cases Header.ofLine line with
  | error fault => rfl
  | ok header =>
      cases header with
      | complete reply => rfl
      | bulk length => rfl
      | array count =>
          cases left : maxDepth - depth with
          | zero => exact (if_pos (by omega)).symm
          | succ below =>
              obtain rfl : maxDepth - (depth + 1) = below := by omega
              exact (if_neg (by omega)).symm

end RespClient.Reply

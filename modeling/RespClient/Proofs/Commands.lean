import RespClient.Proofs.Canonical

set_option autoImplicit false

namespace RespClient

namespace Command

inductive Append where
  | word (text : String)
  | int (value : Int64)
  | arg (data : Bytes)
  | args (items : List Bytes)
deriving DecidableEq, Repr

def Append.onto (command : Command) : Append → Command
  | .word text => command.word text
  | .int value => command.int value
  | .arg data => command.arg data
  | .args items => command.args items

def Append.parts : Append → List Bytes
  | .word text => [Bytes.ofText text]
  | .int value => [Decimal.ofInt value.toInt]
  | .arg data => [data]
  | .args items => items

def build (name : String) (appends : List Append) : Command :=
  appends.foldl Append.onto ⟨name, []⟩

theorem parts_of_tokens (command : Command) (tokens : List Token) :
    (command.append tokens).parts = command.parts ++ tokens.map Token.bytes := by
  simp [parts, all, append]

theorem parts_of_append (command : Command) (append : Append) :
    (append.onto command).parts = command.parts ++ append.parts := by
  cases append with
  | word text => exact parts_of_tokens command [.word text]
  | int value =>
      have appended := parts_of_tokens command [.int value]
      rwa [List.map_singleton, Token.bytes, Decimal.text_exact] at appended
  | arg data => exact parts_of_tokens command [.data data]
  | args items =>
      have same : (items.map Token.data).map Token.bytes = items := by
        rw [List.map_map]
        exact List.map_id' items
      have appended := parts_of_tokens command (items.map .data)
      rw [same] at appended
      exact appended

theorem parts_of_appends (appends : List Append) (command : Command) :
    (appends.foldl Append.onto command).parts = command.parts ++ appends.flatMap Append.parts := by
  induction appends generalizing command with
  | nil => simp
  | cons append appends ih => simp [ih, parts_of_append]

theorem parts_of_build (name : String) (appends : List Append) :
    (build name appends).parts = Bytes.ofText name :: appends.flatMap Append.parts := by
  exact parts_of_appends appends ⟨name, []⟩

theorem size_counts_parts (command : Command) : command.size = command.parts.length := by
  simp [size, parts]

theorem push_bulk (token : Token) (buffer : Bytes) :
    token.push buffer = buffer ++ Framing.bulk token.bytes := by
  cases token <;> rfl

theorem push_bulks (tokens : List Token) (buffer : Bytes) :
    tokens.foldl Token.push buffer =
      buffer ++ (tokens.map Token.bytes).flatMap Framing.bulk := by
  induction tokens generalizing buffer with
  | nil => simp
  | cons token tokens ih =>
      rw [List.foldl_cons, ih, push_bulk, List.map_cons, List.flatMap_cons, List.append_assoc]

theorem encode_onto_bulks (buffer : Bytes) (command : Command) :
    encodeOnto buffer command =
      buffer ++ (Framing.count '*' command.parts.length ++ command.parts.flatMap Framing.bulk) := by
  rw [encodeOnto, push_bulks, List.append_assoc, size_counts_parts]
  rfl

theorem encode_bulks (command : Command) :
    command.encode =
      Framing.count '*' command.parts.length ++ command.parts.flatMap Framing.bulk := by
  exact encode_onto_bulks [] command

theorem encode_onto_front (buffer : Bytes) (command : Command) :
    encodeOnto buffer command = buffer ++ command.encode := by
  rw [encode_onto_bulks, encode_bulks]

-- More tokens than a signed machine word counts are not held by any vector.
def Addressable (command : Command) : Prop := (command.size : Int) ≤ Int64.maxValue.toInt
deriving Decidable

theorem encode_encodes (command : Command) (addressable : command.Addressable)
    (bounded : ∀ part ∈ command.parts, part.length ≤ 536870912) :
    Reply.Encodes 0 command.encode (.array (command.parts.map .bulk)) := by
  have counted : command.parts.length = (command.parts.map Reply.bulk).length := by
    rw [List.length_map]
  rw [encode_bulks, counted]
  refine Reply.array_encodes 0 _ _ (by decide) ?_ (Reply.bulks_encode 1 _ bounded)
  rw [← counted, ← size_counts_parts]
  exact addressable

/-- A command is read back as the array of its parts, whatever it stands between. -/
theorem built_command_reads_back (name : String) (appends : List Append)
    (addressable : (build name appends).Addressable)
    (bounded : ∀ part ∈ (build name appends).parts, part.length ≤ 536870912) :
    (build name appends).parts = Bytes.ofText name :: appends.flatMap Append.parts ∧
      (build name appends).size = (build name appends).parts.length ∧
      ∃ wire : Bytes,
        (∀ buffer, encodeOnto buffer (build name appends) = buffer ++ wire) ∧
        ∀ (ending : Ending) (after : Bytes),
          Reply.Reads ending (wire ++ after)
            (.ok (.array ((build name appends).parts.map .bulk))) wire.length := by
  refine ⟨parts_of_build name appends, size_counts_parts _, (build name appends).encode,
    fun buffer => encode_onto_front buffer _, ?_⟩
  intro ending after
  rw [Reply.reads_encoding, List.take_left]
  exact ⟨by simp, encode_encodes _ addressable bounded⟩

theorem binary_set_reads_back :
    ∃ wire : Bytes,
      (∀ buffer, encodeOnto buffer
        (build "SET" [.arg [107], .args [], .arg [0, 255, 13, 10], .int (-1700000000)]) =
          buffer ++ wire) ∧
      ∀ (ending : Ending) (after : Bytes),
        Reply.Reads ending (wire ++ after)
          (.ok (.array ((build "SET"
            [.arg [107], .args [], .arg [0, 255, 13, 10], .int (-1700000000)]).parts.map .bulk)))
          wire.length := by
  obtain ⟨_, _, reads⟩ := built_command_reads_back "SET"
    [.arg [107], .args [], .arg [0, 255, 13, 10], .int (-1700000000)] (by decide) (by decide +kernel)
  exact reads

end Command

namespace Request

theorem take_count (type : Char) (n : Nat) (behind : Bytes) :
    takeCount type (Framing.count type n ++ behind) = some (n, behind) := by
  have digits : ∀ digit ∈ Decimal.ofNat n, Decimal.isDigit digit = true := by
    intro digit member
    exact (Decimal.is_digit_iff digit).mpr (Decimal.of_nat_digits n digit member)
  have number : Decimal.nat? (Decimal.ofNat n) = some n := by
    rw [Decimal.nat_iff]
    exact ⟨Decimal.of_nat_nonempty n, Decimal.of_nat_digits n, (Decimal.value_of_nat n).symm⟩
  have found : (Decimal.ofNat n ++ cr :: lf :: behind).takeWhile Decimal.isDigit = Decimal.ofNat n := by
    have stops : Decimal.isDigit cr = false := by decide
    rw [List.takeWhile_append_of_pos digits, List.takeWhile_cons_of_neg (by simp [stops]),
      List.append_nil]
  have framed : Framing.count type n ++ behind =
      type.toUInt8 :: (Decimal.ofNat n ++ cr :: lf :: behind) := by
    simp [Framing.count, Framing.line, crlf]
  rw [framed]
  simp [takeCount, found, number, crlf]

theorem take_data (data behind : Bytes) :
    takeData data.length (data ++ (crlf ++ behind)) = some (data, behind) := by
  simp [takeData, crlf]

theorem take_bulk (data behind : Bytes) :
    takeBulk (Framing.bulk data ++ behind) = some (data, behind) := by
  simp only [takeBulk, Framing.bulk, List.append_assoc, take_count, Option.bind_some, take_data]

theorem take_bulks (parts : List Bytes) (behind : Bytes) :
    takeBulks parts.length (parts.flatMap Framing.bulk ++ behind) = some (parts, behind) := by
  induction parts with
  | nil => rfl
  | cons part parts ih =>
      simp only [List.length_cons, takeBulks, List.flatMap_cons, List.append_assoc, take_bulk,
        Option.bind_eq_bind, Option.bind_some, ih, Option.pure_def]

theorem decode_bulks (parts : List Bytes) :
    decode? (Framing.count '*' parts.length ++ parts.flatMap Framing.bulk) = some parts := by
  have taken := take_bulks parts []
  rw [List.append_nil] at taken
  simp only [decode?, take_count, Option.bind_eq_bind, Option.bind_some, taken, if_true]

theorem decode_command (command : Command) : decode? command.encode = some command.parts := by
  rw [Command.encode_bulks, decode_bulks]

theorem take_command (command : Command) (behind : Bytes) :
    take? (command.encode ++ behind) = some (command.parts, behind) := by
  rw [Command.encode_bulks, List.append_assoc, take?, take_count]
  exact take_bulks command.parts behind

theorem command_front (command other : Command) (behind after : Bytes)
    (same : command.encode ++ behind = other.encode ++ after) :
    command.parts = other.parts ∧ behind = after := by
  have taken := congrArg take? same
  rw [take_command, take_command, Option.some.injEq, Prod.mk.injEq] at taken
  exact taken

theorem encode_not_empty (command : Command) : command.encode ≠ [] := by
  rw [Command.encode_bulks]
  simp [Framing.count, Framing.line]

theorem commands_unique (commands others : List Command)
    (same : commands.flatMap Command.encode = others.flatMap Command.encode) :
    commands.map Command.parts = others.map Command.parts := by
  induction commands generalizing others with
  | nil =>
      cases others with
      | nil => rfl
      | cons other others =>
          rw [List.flatMap_nil, List.flatMap_cons] at same
          exact absurd (List.append_eq_nil_iff.mp same.symm).1 (encode_not_empty other)
  | cons command commands ih =>
      cases others with
      | nil =>
          rw [List.flatMap_nil, List.flatMap_cons] at same
          exact absurd (List.append_eq_nil_iff.mp same).1 (encode_not_empty command)
      | cons other others =>
          rw [List.flatMap_cons, List.flatMap_cons] at same
          obtain ⟨parts, rest⟩ := command_front command other _ _ same
          rw [List.map_cons, List.map_cons, parts, ih others rest]

end Request
end RespClient

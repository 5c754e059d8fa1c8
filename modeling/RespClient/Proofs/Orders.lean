import RespClient.Call.Command
import RespClient.Order
import RespClient.Proofs.FieldMaps
import RespClient.Proofs.Numerals
import RespClient.Proofs.Text

set_option autoImplicit false

namespace RespClient

namespace Order

theorem number_read (value : Int64) : Decimal.int64? (number value) = some value := by
  have numeral := Decimal.numeral_of_int value.toInt (Int64.le_toInt value) (Int64.toInt_le value)
  exact (Decimal.int64_iff _ value).mpr numeral

theorem index_read (index : UInt32) :
    Decimal.nat? (number (Int64.ofNat index.toNat)) = some index.toNat := by
  have bound := index.toNat_lt
  have whole : (Int64.ofNat index.toNat).toInt = index.toNat :=
    Int64.toInt_ofNat_of_lt (by omega)
  have text : number (Int64.ofNat index.toNat) = Decimal.ofNat index.toNat := by
    rw [number, whole]
    rfl
  rw [text, Decimal.nat_iff]
  exact ⟨Decimal.of_nat_nonempty _, Decimal.of_nat_digits _, (Decimal.value_of_nat _).symm⟩

theorem condition_read (condition : WriteCondition) :
    Strings.condition? (flags condition) = some condition := by
  cases condition <;> decide

theorem setting_read (key value : Bytes) (seconds : Option Int64) (condition : WriteCondition) :
    setting? key value (options seconds condition) = some (.set key value seconds condition) := by
  cases seconds with
  | none =>
      -- At most one word stands here, so none of them can be taken for an expiry.
      cases condition <;> rfl
  | some seconds => simp [setting?, options, number_read, condition_read]

theorem pairs_read (pairs : List (Bytes × Bytes)) :
    pairs? (pairs.flatMap fun pair => [pair.1, pair.2]) = some pairs := by
  induction pairs with
  | nil => rfl
  | cons pair rest ih => simp [pairs?, ih]

theorem read_parts (order : Order) : read? order.parts = some order := by
  cases order with
  | ping payload => cases payload <;> simp [read?, parts, named?, Utf8.decode_of_text]
  | select index =>
      simp [read?, parts, named?, Utf8.decode_of_text, index_read, UInt32.toNat_lt_size]
  | set key value seconds condition =>
      simp [read?, parts, named?, Utf8.decode_of_text, setting_read]
  | hset key fields =>
      simp [read?, parts, named?, Utf8.decode_of_text, pairs_read, Fields.of_list_entries]
  | _ => simp [read?, parts, named?, Utf8.decode_of_text, number_read]

theorem parts_injective (one other : Order) (same : one.parts = other.parts) : one = other := by
  have read := congrArg read? same
  rw [read_parts, read_parts] at read
  exact Option.some.inj read

theorem number_bytes (value : Int64) : (Token.int value).bytes = number value := by
  exact Decimal.text_exact value

end Order

namespace Call

theorem command_parts (now : Instant) (call : Call) (command : Command)
    (made : call.command now = .ok command) : command.parts = (call.order now).parts := by
  cases call with
  | expireIn key expiry =>
      obtain ⟨seconds, lasting, rfl⟩ := map_granted _ _ _ made
      obtain ⟨rfl, _⟩ := lifetime_granted now expiry seconds lasting
      exact congrArg (fun number => [Bytes.ofText "EXPIRE", key, number]) (Order.number_bytes _)
  | set key value expiry condition =>
      obtain ⟨timing, granted, rfl⟩ := set_granted now key value expiry condition command made
      rw [(expiry_granted now expiry timing granted).2]
      cases expiry with
      | none => cases condition <;> rfl
      | some expiry =>
          have number := Order.number_bytes (expiry.remaining now)
          cases condition <;>
            exact congrArg (fun number => Bytes.ofText "SET" :: key :: value ::
              Bytes.ofText "EX" :: number :: _) number
  | hset key fields =>
      cases made
      simp [Command.parts, Command.all, Token.bytes, order, Order.parts, List.map_flatMap]
  | _ =>
      cases made
      simp [Command.parts, Command.all, Token.bytes, order, Order.parts, Order.number,
        Function.comp_def]

end Call
end RespClient

import RespClient.Proofs.Accounts

set_option autoImplicit false

namespace RespClient.ByteStream

-- By every delivery the others have brought what the first ones have of the leading bytes.
def Covers (leading : Nat) (deliveries others : List Delivery) : Prop :=
  ∀ count, (arrived (deliveries.take count)).take leading <+: arrived (others.take count)

theorem arrived_first (delivery : Delivery) (later : List Delivery) :
    delivery.bytes <+: arrived (delivery :: later) := by
  cases delivery with
  | chunk bytes => exact List.prefix_append bytes (arrived later)
  | closing bytes => exact List.prefix_refl bytes

theorem covers_cut (front rest otherRest : Bytes) (delivery other : Delivery)
    (later others : List Delivery) (whole : delivery.bytes = front ++ rest)
    (otherWhole : other.bytes = front ++ otherRest) :
    Covers front.length (delivery :: later) (other :: others) := by
  intro count
  cases count with
  | zero => simp [arrived]
  | succ count =>
      obtain ⟨more, arrives⟩ := arrived_first delivery (later.take count)
      obtain ⟨otherMore, otherArrives⟩ := arrived_first other (others.take count)
      rw [List.take_succ_cons, List.take_succ_cons, ← arrives, ← otherArrives, whole, otherWhole,
        List.append_assoc, List.append_assoc, List.take_left]
      exact List.prefix_append front _

theorem covers_behind (leading : Nat) (bytes : Bytes) (later others : List Delivery)
    (covers : Covers leading later others) :
    Covers (bytes.length + leading) (.chunk bytes :: later) (.chunk bytes :: others) := by
  intro count
  cases count with
  | zero => simp [arrived]
  | succ count =>
      rw [List.take_succ_cons, List.take_succ_cons, arrived, arrived, List.take_append,
        List.take_of_length_le (by omega), Nat.add_sub_cancel_left]
      exact (List.prefix_append_right_inj bytes).mpr (covers count)

namespace Reading

def Conclusive (reading : Reading) : Prop :=
  (∃ reply, reading.outcome = .ok reply) ∨ ∃ reason, reading.outcome = .error (.protocol reason)

instance (reading : Reading) : Decidable reading.Conclusive :=
  match told : reading.outcome with
  | .ok reply => isTrue (Or.inl ⟨reply, told⟩)
  | .error (.protocol reason) => isTrue (Or.inr ⟨reason, told⟩)
  | .error (.io _) | .error .closed | .error (.unresolved _) => isFalse (by simp [Conclusive, told])

end Reading

namespace Account

structure Paced (deliveries : List Delivery) (account : Account) : Prop where
  delivered : account.delivered = deliveries.take account.readings.length
  pending : account.connection.pending = deliveries.drop account.readings.length

theorem paced_received (deliveries : List Delivery) (account : Account)
    (paced : account.Paced deliveries) :
    account.received = deliveries.take (account.readings.length + 1) := by
  rw [received, paced.delivered, paced.pending, List.head?_drop, List.take_add_one]

theorem exchange_paced (shortage : Shortage) (command : Command) (deliveries : List Delivery)
    (account : Account) (paced : account.Paced deliveries) :
    (account.exchange shortage command).2.Paced deliveries := by
  obtain ⟨_, used, unread, outcome, _, _, exchanged⟩ := exchange_after shortage command account
  rw [exchanged]
  have longer : (account.after command used unread outcome).readings.length =
      account.readings.length + 1 := by
    simp [after]
  refine ⟨?_, ?_⟩
  · rw [longer]
    exact paced_received deliveries account paced
  · rw [longer, ← List.tail_drop, ← paced.pending]
    rfl

section
variable {shortage : Shortage} {command : Command} {account partner : Account}
  {deliveries others : List Delivery} {leading : Nat}

theorem covered_front (isOpen : account.Open) (partnerOpen : partner.Open)
    (paced : account.Paced deliveries) (partnerPaced : partner.Paced others)
    (alike : partner.readings = account.readings) (covers : Covers leading deliveries others)
    (count : Nat) (within : account.used.length + count ≤ leading) :
    account.connection.receive.stream.unread.take count <+:
      partner.connection.receive.stream.unread := by
  have used : partner.used = account.used := by rw [Account.used, Account.used, alike]
  have came := covers (account.readings.length + 1)
  rw [← paced_received deliveries account paced, ← alike,
    ← paced_received others partner partnerPaced, ← received_whole isOpen,
    ← received_whole partnerOpen, used, List.take_append, List.take_of_length_le (by omega),
    List.prefix_append_right_inj] at came
  exact (List.take_prefix_take_left (by omega)).trans came

theorem exchange_covered (isOpen : account.Open) (partnerOpen : partner.Open)
    (paced : account.Paced deliveries) (partnerPaced : partner.Paced others)
    (alike : partner.readings = account.readings) (covers : Covers leading deliveries others)
    (conclusive : ∀ reading ∈ (account.exchange shortage command).2.readings, reading.Conclusive)
    (within : (account.exchange shortage command).2.used.length ≤ leading) :
    (partner.exchange shortage command).1 = (account.exchange shortage command).1 ∧
      (partner.exchange shortage command).2.readings =
        (account.exchange shortage command).2.readings := by
  obtain ⟨outcome, count, reads⟩ := Reply.reads_total
    (account.connection.receive.stream.ending shortage.noBytes) account.connection.receive.stream.unread
  rw [exchange_reads shortage command account outcome count reads] at conclusive within ⊢
  rw [after_used, List.length_append, List.length_take, Nat.min_eq_left reads.1] at within
  have newest := conclusive
    ⟨command, account.connection.receive.stream.unread.take count, outcome⟩ (by simp [after])
  have settled := Reply.settled_of_conclusive _ _ outcome count reads newest
  obtain ⟨behind, front⟩ := covered_front isOpen partnerOpen paced partnerPaced alike covers count
    within
  have same : partner.connection.receive.stream.unread.take count =
      account.connection.receive.stream.unread.take count := by
    rw [← front, List.take_append_of_le_length (by simp [reads.1]), List.take_take, Nat.min_self]
  have enough : count ≤ partner.connection.receive.stream.unread.length := by
    have lengths := congrArg List.length same
    rw [List.length_take, List.length_take, Nat.min_eq_left reads.1] at lengths
    omega
  have partnerReads := settled.stable _ (partner.connection.receive.stream.ending shortage.noBytes)
    enough same
  rw [exchange_reads shortage command partner outcome count partnerReads, same]
  refine ⟨rfl, ?_⟩
  rw [after, after, alike]

end
end Account
end RespClient.ByteStream

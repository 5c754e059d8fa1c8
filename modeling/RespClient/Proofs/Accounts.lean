import RespClient.Link
import RespClient.Proofs.Acceptance

/- The books of one connection. As long as every command on it was answered its account is open:
   the replies stand one after another at the front of what arrived, and what is unread begins
   where the last of them ended. -/
set_option autoImplicit false

namespace RespClient

namespace Delivery

def bytes : Delivery → Bytes
  | .chunk bytes | .closing bytes => bytes

def closes : Delivery → Bool
  | .chunk _ => false
  | .closing _ => true

end Delivery

def Stream.ending (noBytes : IoError) (stream : Stream) : Ending :=
  if stream.closed then .endOfFile else .failure noBytes

namespace ByteStream

-- The bytes that come of some deliveries; what was meant to follow a close never does.
def arrived : List Delivery → Bytes
  | [] => []
  | .chunk bytes :: later => bytes ++ arrived later
  | .closing bytes :: _ => bytes

structure Reading where
  command : Command
  used : Bytes
  outcome : Except LinkError Reply

structure Account where
  number : Nat
  connection : Connection
  delivered : List Delivery := []
  readings : List Reading := []

namespace Account

def unread (account : Account) : Bytes := account.connection.stream.unread
def used (account : Account) : Bytes := account.readings.flatMap Reading.used

def replies (account : Account) : List Reply :=
  account.readings.filterMap fun reading => reading.outcome.toOption

def deliveries (account : Account) : List Delivery :=
  account.delivered ++ account.connection.pending

def exchange (shortage : Shortage) (command : Command) (account : Account) :
    Except LinkError Reply × Account :=
  let connection := account.connection.receive
  let stream := connection.stream
  let (outcome, unread) := Reply.read (stream.ending shortage.noBytes) stream.unread
  let used := stream.unread.take (stream.unread.length - unread.length)
  (outcome,
    { account with
      connection := { connection with stream := { stream with unread } }
      delivered := account.delivered ++ account.connection.pending.head?.toList
      readings := account.readings ++ [{ command, used, outcome }] })

end Account

structure Ledger where
  network : Network
  accounts : List Account := []

namespace Ledger

def dial (shortage : Shortage) (ledger : Ledger) : Except LinkError Account × Ledger :=
  match ledger.network with
  | [] => (.error (.io shortage.noConnection), ledger)
  | pending :: network =>
      let account : Account := { number := ledger.accounts.length, connection := { pending } }
      (.ok account, { network, accounts := ledger.accounts ++ [account] })

def enter (ledger : Ledger) (account : Account) : Ledger :=
  { ledger with accounts := ledger.accounts.set account.number account }

def link (shortage : Shortage) : Link Ledger Account where
  dial _ _ ledger := ledger.dial shortage
  run command account ledger :=
    let (outcome, account) := account.exchange shortage command
    (outcome.map fun reply => (reply, account), ledger.enter account)

end Ledger

end ByteStream

namespace ByteStream

theorem arrived_append (delivered more : List Delivery)
    (running : ∀ earlier ∈ delivered, earlier.closes = false) :
    arrived (delivered ++ more) = arrived delivered ++ arrived more := by
  induction delivered with
  | nil => rfl
  | cons first rest ih =>
      have later := ih fun earlier member => running earlier (List.mem_cons_of_mem _ member)
      cases first with
      | chunk bytes => simp [arrived, later]
      | closing bytes => cases running (.closing bytes) (by simp)

theorem arrived_snoc (delivered : List Delivery) (delivery : Delivery)
    (running : ∀ earlier ∈ delivered, earlier.closes = false) :
    arrived (delivered ++ [delivery]) = arrived delivered ++ delivery.bytes := by
  rw [arrived_append delivered [delivery] running]
  cases delivery <;> simp [arrived, Delivery.bytes]

theorem arrived_closed (delivered more : List Delivery)
    (finished : ∃ earlier ∈ delivered, earlier.closes = true) :
    arrived (delivered ++ more) = arrived delivered := by
  induction delivered with
  | nil => simp at finished
  | cons first rest ih =>
      cases first with
      | closing bytes => rfl
      | chunk bytes =>
          have later : ∃ earlier ∈ rest, earlier.closes = true := by
            simpa [Delivery.closes] using finished
          simp [arrived, ih later]

namespace Reading

def Answered (reading : Reading) : Prop := ∃ reply, reading.outcome = .ok reply

end Reading

namespace Account

structure Aligned (account : Account) : Prop where
  whole : account.used ++ account.unread = arrived account.delivered
  inOrder : ∃ rest, Scan.many Reply.scan account.replies.length [] (arrived account.delivered) =
    .done account.replies rest
  encoded : ∀ reading ∈ account.readings, ∀ reply, reading.outcome = .ok reply →
    Reply.Encodes 0 reading.used reply
  answered : ∀ reading ∈ account.readings.dropLast, reading.Answered

-- The stream is closed when its last delivery closed it, or when it was asked for one more
-- than there were.
structure Tracked (account : Account) : Prop where
  running : account.connection.stream.closed = false →
    ∀ delivery ∈ account.delivered, delivery.closes = false
  finished : account.connection.stream.closed = true →
    account.connection.pending = [] ∨ ∃ delivery ∈ account.delivered, delivery.closes = true

structure Open (account : Account) : Prop where
  tracked : account.Tracked
  whole : account.used ++ account.unread = arrived account.delivered
  scanned : Scan.many Reply.scan account.replies.length [] (arrived account.delivered) =
    .done account.replies account.unread
  encoded : ∀ reading ∈ account.readings, ∀ reply, reading.outcome = .ok reply →
    Reply.Encodes 0 reading.used reply
  answered : ∀ reading ∈ account.readings, reading.Answered

theorem open_aligned (account : Account) (isOpen : account.Open) : account.Aligned where
  whole := isOpen.whole
  inOrder := ⟨account.unread, isOpen.scanned⟩
  encoded := isOpen.encoded
  answered reading member := isOpen.answered reading (List.dropLast_subset _ member)

theorem fresh_open (number : Nat) (pending : List Delivery) :
    Account.Open { number, connection := { pending } } where
  tracked := ⟨by simp, by simp⟩
  whole := rfl
  scanned := rfl
  encoded := by simp
  answered := by simp

def received (account : Account) : List Delivery :=
  account.delivered ++ account.connection.pending.head?.toList

theorem receive_tracked (account : Account) (tracked : account.Tracked) :
    Tracked { account with connection := account.connection.receive, delivered := account.received } ∧
      ∃ fresh, account.connection.receive.stream.unread = account.unread ++ fresh ∧
        arrived account.received = arrived account.delivered ++ fresh := by
  obtain ⟨number, ⟨⟨unread, closed⟩, pending⟩, delivered, readings⟩ := account
  cases closed with
  | true =>
      have stopped := tracked.finished rfl
      refine ⟨⟨by simp [Connection.receive, Stream.deliver], fun _ => ?_⟩, [],
        by simp [Connection.receive, Stream.deliver, Account.unread], ?_⟩
      · rcases stopped with rfl | ⟨delivery, member, closes⟩
        · exact Or.inl rfl
        · exact Or.inr ⟨delivery, List.mem_append_left _ member, closes⟩
      · rcases stopped with rfl | closing
        · simp [received]
        · simp [received, arrived_closed delivered _ closing]
  | false =>
      have running := tracked.running rfl
      cases pending with
      | nil =>
          refine ⟨⟨by simp [Connection.receive, Stream.deliver], fun _ => Or.inl rfl⟩, [], ?_, ?_⟩
          · simp [Connection.receive, Stream.deliver, Account.unread]
          · simp [received]
      | cons delivery later =>
          refine ⟨?_, delivery.bytes, ?_, arrived_snoc delivered delivery running⟩
          · cases delivery with
            | chunk bytes =>
                refine ⟨fun _ other member => ?_, by simp [Connection.receive, Stream.deliver]⟩
                rcases List.mem_append.mp member with earlier | last
                · exact running other earlier
                · obtain rfl : other = .chunk bytes := by simpa using last
                  rfl
            | closing bytes =>
                refine ⟨by simp [Connection.receive, Stream.deliver], fun _ => Or.inr ?_⟩
                exact ⟨.closing bytes, by simp [received], rfl⟩
          · cases delivery <;> simp [Connection.receive, Stream.deliver, Account.unread, Delivery.bytes]

def after (account : Account) (command : Command) (used unread : Bytes)
    (outcome : Except LinkError Reply) : Account where
  number := account.number
  connection :=
    { account.connection.receive with
      stream := { account.connection.receive.stream with unread } }
  delivered := account.received
  readings := account.readings ++ [{ command, used, outcome }]

theorem exchange_reads (shortage : Shortage) (command : Command) (account : Account)
    (outcome : Except LinkError Reply) (count : Nat)
    (reads : Reply.Reads (account.connection.receive.stream.ending shortage.noBytes)
      account.connection.receive.stream.unread outcome count) :
    account.exchange shortage command =
      (outcome, account.after command (account.connection.receive.stream.unread.take count)
        (account.connection.receive.stream.unread.drop count) outcome) := by
  obtain ⟨bound, taken⟩ := reads
  have left : account.connection.receive.stream.unread.length -
      (account.connection.receive.stream.unread.drop count).length = count := by
    rw [List.length_drop]
    omega
  simp only [exchange, taken, left]
  rfl

theorem exchange_after (shortage : Shortage) (command : Command) (account : Account) :
    ∃ ending used unread outcome,
      Reply.read ending account.connection.receive.stream.unread = (outcome, unread) ∧
        account.connection.receive.stream.unread = used ++ unread ∧
        account.exchange shortage command = (outcome, account.after command used unread outcome) := by
  obtain ⟨outcome, count, reads⟩ := Reply.reads_total
    (account.connection.receive.stream.ending shortage.noBytes) account.connection.receive.stream.unread
  exact ⟨_, _, _, outcome, reads.2, (List.take_append_drop count _).symm,
    exchange_reads shortage command account outcome count reads⟩

section
variable (account : Account) (command : Command) (used unread : Bytes)

theorem after_used (outcome : Except LinkError Reply) :
    (account.after command used unread outcome).used = account.used ++ used := by
  simp [after, Account.used]

theorem after_replied (reply : Reply) :
    (account.after command used unread (.ok reply)).replies = account.replies ++ [reply] := by
  simp [after, replies, Except.toOption]

theorem after_failed (cause : LinkError) :
    (account.after command used unread (.error cause)).replies = account.replies := by
  simp [after, replies, Except.toOption]

theorem after_deliveries (outcome : Except LinkError Reply) :
    (account.after command used unread outcome).deliveries = account.deliveries := by
  cases pending : account.connection.pending <;>
    simp [after, deliveries, received, Connection.receive, pending]

end

section
variable {account : Account} {command : Command} {used unread : Bytes}

theorem received_whole (isOpen : account.Open) :
    account.used ++ account.connection.receive.stream.unread = arrived account.received := by
  obtain ⟨_, fresh, waiting, longer⟩ := receive_tracked account isOpen.tracked
  rw [waiting, ← List.append_assoc, isOpen.whole, longer]

theorem after_whole (isOpen : account.Open) (outcome : Except LinkError Reply)
    (taken : account.connection.receive.stream.unread = used ++ unread) :
    (account.after command used unread outcome).used ++ unread = arrived account.received := by
  rw [after_used, List.append_assoc, ← taken, received_whole isOpen]

theorem received_scanned (isOpen : account.Open) :
    Scan.many Reply.scan account.replies.length [] (arrived account.received) =
      .done account.replies account.connection.receive.stream.unread := by
  obtain ⟨_, fresh, waiting, longer⟩ := receive_tracked account isOpen.tracked
  rw [longer, waiting]
  exact Scan.verdict_extends (Scan.many_incremental Reply.scan_incremental _ []) _ _ fresh
    (.done account.replies) isOpen.scanned

theorem after_open (isOpen : account.Open) (ending : Ending) (reply : Reply)
    (taken : account.connection.receive.stream.unread = used ++ unread)
    (read : Reply.read ending account.connection.receive.stream.unread = (.ok reply, unread)) :
    (account.after command used unread (.ok reply)).Open where
  tracked := by
    obtain ⟨⟨running, finished⟩, _⟩ := receive_tracked account isOpen.tracked
    exact ⟨running, finished⟩
  whole := after_whole isOpen _ taken
  scanned := by
    rw [Reply.read_ok_iff] at read
    rw [after_replied, List.length_append]
    exact Scan.many_snoc _ [] _ _ _ _ _ (received_scanned isOpen) read
  encoded := by
    intro reading member other replied
    rcases List.mem_append.mp member with earlier | last
    · exact isOpen.encoded reading earlier other replied
    · obtain rfl : reading = { command, used, outcome := .ok reply } := by simpa using last
      obtain rfl : reply = other := by simpa using replied
      rw [Reply.read_ok_iff, taken] at read
      obtain ⟨front, split, encodes⟩ := (Reply.scan_accepts _ _ _).mp read
      exact List.append_cancel_right split ▸ encodes
  answered := by
    intro reading member
    rcases List.mem_append.mp member with earlier | last
    · exact isOpen.answered reading earlier
    · obtain rfl : reading = { command, used, outcome := .ok reply } := by simpa using last
      exact ⟨reply, rfl⟩

theorem after_aligned (isOpen : account.Open) (cause : LinkError)
    (taken : account.connection.receive.stream.unread = used ++ unread) :
    (account.after command used unread (.error cause)).Aligned where
  whole := after_whole isOpen _ taken
  inOrder := by
    rw [after_failed]
    exact ⟨_, received_scanned isOpen⟩
  encoded := by
    intro reading member reply replied
    rcases List.mem_append.mp member with earlier | last
    · exact isOpen.encoded reading earlier reply replied
    · obtain rfl : reading = { command, used, outcome := .error cause } := by simpa using last
      cases replied
  answered := by
    intro reading member
    rw [after, List.dropLast_concat] at member
    exact isOpen.answered reading member

end
end Account

end ByteStream
end RespClient

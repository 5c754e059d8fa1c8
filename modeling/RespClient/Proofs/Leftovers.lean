import RespClient.Proofs.Afresh
import RespClient.Proofs.Growth
import RespClient.Proofs.Substitutes

set_option autoImplicit false

namespace RespClient.Leftovers
open ByteStream RespClient.Alignment

def books (shortage : Shortage) (address : Address) (connectTimeout : Span) (network : Network)
    (turns : List Turn) : Ledger :=
  (Session.advance (Ledger.link shortage) ⟨{ address, connectTimeout }, { network }⟩ turns).network

def Within (leading number : Nat) (ledger : Ledger) : Prop :=
  ∀ account : Account, ledger.accounts[number]? = some account →
    (∀ reading ∈ account.readings, reading.Conclusive) ∧ account.used.length ≤ leading

theorem within_earlier (leading number : Nat) (earlier later : Ledger) (grows : Grows earlier later)
    (within : Within leading number later) : Within leading number earlier := by
  intro account found
  obtain ⟨grown, there, more, longer⟩ := grows number account found
  obtain ⟨conclusive, used⟩ := within grown there
  refine ⟨?_, ?_⟩
  · intro reading member
    exact conclusive reading (longer ▸ List.mem_append_left more member)
  · rw [Account.used, ← longer, List.flatMap_append, List.length_append] at used
    exact Nat.le_trans (Nat.le_add_right _ _) used

-- The accounts of a connection in both runs: one and the same, or those of the connection on which
-- other bytes arrive.
inductive Partners (number : Nat) (deliveries others : List Delivery) : Account → Account → Prop where
  | same {account : Account} : account.number ≠ number → Partners number deliveries others account account
  | replaced {account partner : Account} :
      account.number = number → partner.number = number → partner.readings = account.readings →
      account.Paced deliveries → partner.Paced others →
      Partners number deliveries others account partner

inductive InHand (number : Nat) (deliveries others : List Delivery) :
    Option Account → Option Account → Prop where
  | nothing : InHand number deliveries others none none
  | partners {account partner : Account} : Partners number deliveries others account partner →
      InHand number deliveries others (some account) (some partner)

structure Beside (number : Nat) (deliveries others : List Delivery) (session twin : Books) : Prop where
  address : twin.client.address = session.client.address
  connectTimeout : twin.client.connectTimeout = session.client.connectTimeout
  dialed : twin.network.accounts.length = session.network.accounts.length
  inHand : InHand number deliveries others session.client.held twin.client.held

theorem dial_nothing (shortage : Shortage) (ledger : Ledger) (empty : ledger.network = [])
    (address : Address) (timeout : Span) : (Ledger.link shortage).dial address timeout ledger =
      (.error (.io shortage.noConnection), ledger) := by
  simp only [Ledger.link, Ledger.dial, empty]

theorem dial_next (shortage : Shortage) (ledger : Ledger) (pending : List Delivery)
    (rest : Network) (waits : ledger.network = pending :: rest) (address : Address) (timeout : Span) :
    (Ledger.link shortage).dial address timeout ledger =
      (.ok { number := ledger.accounts.length, connection := { pending } },
        ⟨rest, ledger.accounts ++ [{ number := ledger.accounts.length, connection := { pending } }]⟩) := by
  simp only [Ledger.link, Ledger.dial, waits]

structure Twins (network : Network) (number : Nat) (deliveries others : List Delivery)
    (session twin : Books) : Prop extends Beside number deliveries others session twin where
  kept : Kept network session
  twinKept : Kept (network.set number others) twin

section
variable {shortage : Shortage} {network : Network} {number leading : Nat}
  {deliveries others : List Delivery} {session twin : Books}

theorem exchange_partners (command : Command)
    (twins : Twins network number deliveries others session twin)
    (covers : Covers leading deliveries others) (account partner : Account)
    (held : session.client.held = some account) (twinHeld : twin.client.held = some partner)
    (partners : Partners number deliveries others account partner)
    (within : Within leading number ((Ledger.link shortage).run command account session.network).2) :
    (partner.exchange shortage command).1 = (account.exchange shortage command).1 ∧
      Partners number deliveries others (account.exchange shortage command).2
        (partner.exchange shortage command).2 := by
  cases partners with
  | same elsewhere => exact ⟨rfl, .same elsewhere⟩
  | replaced own partnerOwn alike paced partnerPaced =>
      have found := exchange_found shortage network command session twins.kept account held
      rw [own] at found
      obtain ⟨conclusive, used⟩ := within _ found
      obtain ⟨outcome, readings⟩ := Account.exchange_covered (twins.kept.inHand account held)
        (twins.twinKept.inHand partner twinHeld) paced partnerPaced alike covers conclusive used
      exact ⟨outcome, .replaced own partnerOwn readings
        (Account.exchange_paced shortage command deliveries account paced)
        (Account.exchange_paced shortage command others partner partnerPaced)⟩

theorem runs_beside (command : Command)
    (twins : Twins network number deliveries others session twin)
    (covers : Covers leading deliveries others) (account partner : Account)
    (held : session.client.held = some account) (twinHeld : twin.client.held = some partner)
    (within : Within leading number ((Ledger.link shortage).run command account session.network).2) :
    Session.RunsAlike (fun held ledger twinHeld twinLedger =>
        Beside number deliveries others (session.holding held ledger) (twin.holding twinHeld twinLedger))
      ((Ledger.link shortage).run command account session.network)
      ((Ledger.link shortage).run command partner twin.network) := by
  have inHand := twins.inHand
  rw [held, twinHeld] at inHand
  cases inHand with
  | partners partners =>
      obtain ⟨outcome, after⟩ := exchange_partners command twins covers account partner held twinHeld
        partners within
      have dialed : (twin.network.enter (partner.exchange shortage command).2).accounts.length =
          (session.network.enter (account.exchange shortage command).2).accounts.length := by
        simp [Ledger.enter, twins.dialed]
      rw [link_run, link_run, outcome]
      cases (account.exchange shortage command).1 with
      | error cause => exact .failed ⟨twins.address, twins.connectTimeout, dialed, .nothing⟩
      | ok reply => exact .replied ⟨twins.address, twins.connectTimeout, dialed, .partners after⟩

theorem next_waiting (session : Books) (kept : Kept network session) :
    session.network.network.head? = network[session.network.accounts.length]? := by
  have count : (session.network.accounts.map Account.deliveries).length =
      session.network.accounts.length := List.length_map _
  rw [← kept.balanced.deliveries, List.getElem?_append_right (Nat.le_of_eq count), count, Nat.sub_self,
    List.head?_eq_getElem?]

theorem waiting_beside (twins : Twins network number deliveries others session twin)
    (found : network[number]? = some deliveries) :
    session.network.network = [] ∧ twin.network.network = [] ∨
      ∃ pending rest twinPending twinRest, session.network.network = pending :: rest ∧
        twin.network.network = twinPending :: twinRest ∧
        Partners number deliveries others
          { number := session.network.accounts.length, connection := { pending } }
          { number := twin.network.accounts.length, connection := { pending := twinPending } } := by
  have next := next_waiting session twins.kept
  have twinNext := next_waiting twin twins.twinKept
  rw [twins.dialed] at twinNext ⊢
  by_cases own : number = session.network.accounts.length
  · obtain ⟨inside, _⟩ := List.getElem?_eq_some_iff.mp found
    rw [← own, found, List.head?_eq_some_iff] at next
    rw [← own, List.getElem?_set_self inside, List.head?_eq_some_iff] at twinNext
    obtain ⟨rest, waits⟩ := next
    obtain ⟨twinRest, twinWaits⟩ := twinNext
    exact Or.inr ⟨deliveries, rest, others, twinRest, waits, twinWaits,
      .replaced own.symm own.symm rfl ⟨rfl, rfl⟩ ⟨rfl, rfl⟩⟩
  · rw [List.getElem?_set_ne own, ← next] at twinNext
    cases waits : session.network.network with
    | nil =>
        rw [waits, List.head?_nil, List.head?_eq_none_iff] at twinNext
        exact Or.inl ⟨rfl, twinNext⟩
    | cons pending rest =>
        rw [waits, List.head?_cons, List.head?_eq_some_iff] at twinNext
        obtain ⟨twinRest, twinWaits⟩ := twinNext
        exact Or.inr ⟨pending, rest, pending, twinRest, rfl, twinWaits, .same (Ne.symm own)⟩

def opened (session : Books) (pending : List Delivery) (rest : Network) : Books :=
  session.holding (some { number := session.network.accounts.length, connection := { pending } })
    ⟨rest, session.network.accounts ++
      [{ number := session.network.accounts.length, connection := { pending } }]⟩

theorem opened_twins (twins : Twins network number deliveries others session twin)
    (pending twinPending : List Delivery) (rest twinRest : Network)
    (waits : session.network.network = pending :: rest)
    (twinWaits : twin.network.network = twinPending :: twinRest)
    (partners : Partners number deliveries others
      { number := session.network.accounts.length, connection := { pending } }
      { number := twin.network.accounts.length, connection := { pending := twinPending } }) :
    Twins network number deliveries others (opened session pending rest)
      (opened twin twinPending twinRest) where
  address := twins.address
  connectTimeout := twins.connectTimeout
  dialed := by simp [opened, Session.holding, twins.dialed]
  inHand := .partners partners
  kept := (opened_kept network session twins.kept pending rest waits _ rfl).1
  twinKept := (opened_kept _ twin twins.twinKept twinPending twinRest twinWaits _ rfl).1

theorem idle_meets (now : Instant) (call : Call) (command : Command)
    (made : call.command now = .ok command)
    (twins : Twins network number deliveries others session twin)
    (covers : Covers leading deliveries others) (found : network[number]? = some deliveries)
    (idle : session.client.held = none) (twinIdle : twin.client.held = none)
    (within : Within leading number
      (session.take (Ledger.link shortage) ⟨now, .call call⟩).session.network) :
    Session.Meets (Ledger.link shortage) (Ledger.link shortage) (Beside number deliveries others)
      command session twin := by
  rcases waiting_beside twins found with
    ⟨none, twinNone⟩ | ⟨pending, rest, twinPending, twinRest, waits, twinWaits, partners⟩
  · exact .unreachable idle twinIdle (dial_nothing shortage _ none _ _)
      (dial_nothing shortage _ twinNone _ _)
      ⟨twins.address, twins.connectTimeout, twins.dialed, .nothing⟩
  · have dialed := dial_next shortage session.network pending rest waits
      session.client.address session.client.connectTimeout
    have twinDialed := dial_next shortage twin.network twinPending twinRest twinWaits
      session.client.address session.client.connectTimeout
    rw [Session.take_ran now call command _ _ _ made (Session.reach_dialed _ _ idle dialed)] at within
    have ready := opened_twins twins pending twinPending rest twinRest waits twinWaits partners
    exact .dialed idle twinIdle dialed twinDialed
      (runs_beside command ready covers _ _ rfl rfl within)

theorem meets_beside (now : Instant) (call : Call) (command : Command)
    (made : call.command now = .ok command)
    (twins : Twins network number deliveries others session twin)
    (covers : Covers leading deliveries others) (found : network[number]? = some deliveries)
    (within : Within leading number
      (session.take (Ledger.link shortage) ⟨now, .call call⟩).session.network) :
    Session.Meets (Ledger.link shortage) (Ledger.link shortage) (Beside number deliveries others)
      command session twin := by
  have inHand := twins.inHand
  cases held : session.client.held with
  | some account =>
      cases twinHeld : twin.client.held with
      | none =>
          rw [held, twinHeld] at inHand
          cases inHand
      | some partner =>
          rw [Session.take_ran now call command account [] session.network made
            (Session.reach_held account held)] at within
          exact .held held twinHeld
            (runs_beside command twins covers account partner held twinHeld within)
  | none =>
      cases twinHeld : twin.client.held with
      | some partner =>
          rw [held, twinHeld] at inHand
          cases inHand
      | none => exact idle_meets now call command made twins covers found held twinHeld within

-- One turn in both runs. The leading bytes are those of the run to its end, so what this turn
-- took of them is known only from the books behind it.
theorem take_beside (turn : Turn) (twins : Twins network number deliveries others session twin)
    (covers : Covers leading deliveries others) (found : network[number]? = some deliveries)
    (within : Within leading number (session.take (Ledger.link shortage) turn).session.network) :
    Session.Alike (Beside number deliveries others) (session.take (Ledger.link shortage) turn)
      (twin.take (Ledger.link shortage) turn) := by
  obtain ⟨now, action⟩ := turn
  cases action with
  | disconnect =>
      exact Session.disconnect_alike now
        ⟨twins.address, twins.connectTimeout, twins.dialed, .nothing⟩
  | call call =>
      cases made : call.command now with
      | error failure => exact Session.refused_alike now call failure made twins.toBeside
      | ok command =>
          exact Session.performed_alike now call command made twins.address twins.connectTimeout
            (meets_beside now call command made twins covers found within)

theorem beside_connected (session twin : Books)
    (beside : Beside number deliveries others session twin) :
    twin.client.connected = session.client.connected := by
  have inHand := beside.inHand
  unfold Client.connected
  generalize session.client.held = held at inHand
  generalize twin.client.held = twinHeld at inHand
  cases inHand <;> rfl

theorem play_beside (turns : List Turn) (session twin : Books)
    (twins : Twins network number deliveries others session twin)
    (covers : Covers leading deliveries others) (found : network[number]? = some deliveries)
    (within : Within leading number (session.advance (Ledger.link shortage) turns).network) :
    (twin.play (Ledger.link shortage) turns).map Step.seen =
      (session.play (Ledger.link shortage) turns).map Step.seen := by
  induction turns generalizing session twin with
  | nil => rfl
  | cons turn turns ih =>
      have next := (take_kept shortage network session turn twins.kept).1
      have twinNext := (take_kept shortage (network.set number others) twin turn twins.twinKept).1
      have soon := within_earlier leading number _ _ (advance_grows shortage network turns _ next) within
      have alike := take_beside turn twins covers found soon
      have later := ih _ _ ⟨alike.session, next, twinNext⟩ within
      have now := Session.alike_seen _ _ beside_connected alike
      rw [Session.play, Session.play, List.map_cons, List.map_cons, later, now]

end

inductive Replaces (network : Network) (ledger : Ledger) (number : Nat) (others : List Delivery) :
    Prop where
  | behind {account : Account} {deliveries : List Delivery} :
      ledger.accounts[number]? = some account → network[number]? = some deliveries →
      (∀ reading ∈ account.readings, reading.Conclusive) →
      Covers account.used.length deliveries others → Replaces network ledger number others

theorem replaced_unseen (shortage : Shortage) (address : Address) (connectTimeout : Span)
    (network : Network) (turns : List Turn) (number : Nat) (others : List Delivery)
    (replaces : Replaces network (books shortage address connectTimeout network turns) number others) :
    (Session.play (ByteStream.link shortage)
        ⟨{ address, connectTimeout }, network.set number others⟩ turns).map Step.seen =
      (Session.play (ByteStream.link shortage) ⟨{ address, connectTimeout }, network⟩ turns).map
        Step.seen := by
  obtain @⟨account, deliveries, entered, found, conclusive, covers⟩ := replaces
  have within : Within account.used.length number
      (books shortage address connectTimeout network turns) := by
    intro other same
    rw [entered, Option.some_inj] at same
    subst same
    exact ⟨conclusive, Nat.le_refl _⟩
  have twins : Twins network number deliveries others
      ⟨{ address, connectTimeout }, { network }⟩
      ⟨{ address, connectTimeout }, { network := network.set number others }⟩ :=
    ⟨⟨rfl, rfl, rfl, .nothing⟩, start_kept address connectTimeout network,
      start_kept address connectTimeout (network.set number others)⟩
  have beside := play_beside turns _ _ twins covers found within
  rw [← (bookkeeping shortage).play_seen, ← (bookkeeping shortage).play_seen] at beside
  exact beside

theorem abandoned_unseen (shortage : Shortage) (address : Address) (connectTimeout : Span)
    (network : Network) (before later : List Turn) (number : Nat) (others : List Delivery)
    (idle : (Session.advance (ByteStream.link shortage) ⟨{ address, connectTimeout }, network⟩
      before).client.connected = false)
    (replaces : Replaces network (books shortage address connectTimeout network before) number others) :
    (Session.play (ByteStream.link shortage)
        ⟨{ address, connectTimeout }, network.set number others⟩ (before ++ later)).map Step.seen =
      (Session.play (ByteStream.link shortage) ⟨{ address, connectTimeout }, network⟩
        (before ++ later)).map Step.seen := by
  obtain @⟨account, deliveries, entered, found, conclusive, covers⟩ := replaces
  have kept := advance_kept shortage network before _ (start_kept address connectTimeout network)
  have released : Released
      (Session.advance (Ledger.link shortage) ⟨{ address, connectTimeout }, { network }⟩ before)
      number := by
    have unbooked := (bookkeeping shortage).advance before ⟨{ address, connectTimeout }, { network }⟩
    have empty : (Session.advance (Ledger.link shortage) ⟨{ address, connectTimeout }, { network }⟩
        before).client.connected = false := by
      rw [← (bookkeeping shortage).connected, ← unbooked]
      exact idle
    intro other held
    rw [Client.connected, held] at empty
    cases empty
  obtain ⟨still, _⟩ := advance_continues shortage network later _ kept number account entered released
  refine replaced_unseen shortage address connectTimeout network (before ++ later) number others ?_
  rw [books, Session.advance_append]
  exact .behind still found conclusive covers

structure Forgets (shortage : Shortage) (client : Client Connection) (network : Network) : Prop where
  replaced : ∀ turns number others,
    Replaces network (books shortage client.address client.connectTimeout network turns) number others →
      (Session.play (ByteStream.link shortage) ⟨client, network.set number others⟩ turns).map Step.seen =
        (Session.play (ByteStream.link shortage) ⟨client, network⟩ turns).map Step.seen
  broken : ∀ turns, ∀ step ∈ Session.play (ByteStream.link shortage) ⟨client, network⟩ turns,
    ∀ cause, step.response.answer = .error (.broken cause) → step.session.client.connected = false
  abandoned : ∀ before later number others,
    (Session.advance (ByteStream.link shortage) ⟨client, network⟩ before).client.connected = false →
    Replaces network (books shortage client.address client.connectTimeout network before) number others →
      (Session.play (ByteStream.link shortage) ⟨client, network.set number others⟩
          (before ++ later)).map Step.seen =
        (Session.play (ByteStream.link shortage) ⟨client, network⟩ (before ++ later)).map Step.seen
  afresh : ∀ before later,
    (Session.advance (ByteStream.link shortage) ⟨client, network⟩ before).client.connected = false →
      Session.play (ByteStream.link shortage) ⟨client, network⟩ (before ++ later) =
        Session.play (ByteStream.link shortage) ⟨client, network⟩ before ++
          Session.play (ByteStream.link shortage) ⟨client, network.drop
            (dials (Session.play (ByteStream.link shortage) ⟨client, network⟩ before))⟩ later

/-- Bytes behind those that were used are never seen by a later call. -/
theorem leftovers_never_matter (shortage : Shortage) (settings : Settings)
    (client : Client Connection) (network : Network)
    (built : Client.ofSettings settings = .ok client) : Forgets shortage client network := by
  rw [of_settings_idle settings client built]
  constructor
  case replaced =>
    intro turns number others replaces
    exact replaced_unseen shortage _ _ network turns number others replaces
  case broken =>
    intro turns
    exact broken_steps_idle (ByteStream.link shortage) turns _
  case abandoned =>
    intro before later number others idle replaces
    exact abandoned_unseen shortage _ _ network before later number others idle replaces
  case afresh =>
    intro before later idle
    exact idle_afresh shortage _ _ network before later idle

def forged : List Delivery :=
  [.chunk (Bytes.ofText "+PONG\r\n:1\r"), .chunk (Bytes.ofText "\n?x\r\n$6\r\nforged\r\n")]

def unforged : List Delivery :=
  [.chunk (Bytes.ofText "+PONG\r\n:1\r"), .closing (Bytes.ofText "\n?x\r\n-")]

def forgedNetwork : Network := [forged, [.chunk (Bytes.ofText "$4\r\ntrue\r\n")]]

def untilFault : List Turn :=
  [⟨⟨0⟩, .call (.ping none)⟩, ⟨⟨1⟩, .call (.scard [107])⟩, ⟨⟨2⟩, .call (.get [107])⟩]

def behindFault : List Turn := [⟨⟨3⟩, .call (.get [107])⟩, ⟨⟨4⟩, .disconnect⟩]

def quiet : Shortage where
  noConnection := { kind := .connectionRefused }
  noBytes := { kind := .wouldBlock }

def cache : Client Connection where
  address := ⟨"cache", 6390⟩
  connectTimeout := .ofSeconds 2

theorem forged_covered : Covers 15 forged unforged := by
  have cut : Covers 5 [.chunk (Bytes.ofText "\n?x\r\n$6\r\nforged\r\n")]
      [.closing (Bytes.ofText "\n?x\r\n-")] :=
    covers_cut (Bytes.ofText "\n?x\r\n") (Bytes.ofText "$6\r\nforged\r\n") (Bytes.ofText "-") _ _ [] []
      (by decide) (by decide)
  exact covers_behind 5 (Bytes.ofText "+PONG\r\n:1\r") _ _ cut

theorem forged_replaces :
    Replaces forgedNetwork (books quiet cache.address cache.connectTimeout forgedNetwork untilFault)
      0 unforged := by
  have taken : ((books quiet cache.address cache.connectTimeout forgedNetwork
      untilFault).accounts[0]?.map fun account =>
        (decide (∀ reading ∈ account.readings, reading.Conclusive), account.used.length)) =
      some (true, 15) := by decide +kernel
  obtain ⟨account, entered, both⟩ := Option.map_eq_some_iff.mp taken
  obtain ⟨conclusive, used⟩ := Prod.mk.inj both
  have covers : Covers account.used.length forged unforged := by
    rw [used]
    exact forged_covered
  exact .behind entered rfl (of_decide_eq_true conclusive) covers

theorem forged_reply_never_matters :
    Client.ofSettings { addr := "cache:6390" } = .ok cache ∧
      (Session.play (ByteStream.link quiet) ⟨cache, forgedNetwork.set 0 unforged⟩
          (untilFault ++ behindFault)).map Step.seen =
        (Session.play (ByteStream.link quiet) ⟨cache, forgedNetwork⟩
          (untilFault ++ behindFault)).map Step.seen := by
  have built : Client.ofSettings { addr := "cache:6390" } = .ok cache := rfl
  have forgets := leftovers_never_matter quiet { addr := "cache:6390" } cache forgedNetwork built
  exact ⟨built, forgets.abandoned untilFault behindFault 0 unforged (by decide +kernel) forged_replaces⟩

end RespClient.Leftovers

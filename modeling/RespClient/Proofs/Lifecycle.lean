import RespClient.Proofs.Lockstep
import RespClient.Proofs.Verdicts

/- The link is watched from outside, through a record of all it was asked to do, in which every
   connection carries the mark of its dial and of the commands it has run. -/
set_option autoImplicit false

namespace RespClient

structure Mark where
  dialed : Nat
  uses : Nat := 0
deriving DecidableEq, Repr

def Mark.used (mark : Mark) : Mark := { mark with uses := mark.uses + 1 }

inductive Contact where
  | dial (address : Address) (timeout : Span) (outcome : Except LinkError Mark)
  | run (connection : Mark) (command : Command) (outcome : Except LinkError Reply)

structure Record (σ : Type) where
  network : σ
  contacts : List Contact := []

structure Marked (κ : Type) where
  mark : Mark
  connection : κ

namespace Record
variable {σ : Type}

def next (record : Record σ) : Mark := { dialed := record.contacts.length }

def add (record : Record σ) (network : σ) (contact : Contact) : Record σ :=
  { network, contacts := record.contacts ++ [contact] }

end Record

namespace Link
variable {σ κ : Type}

def recorded (link : Link σ κ) : Link (Record σ) (Marked κ) where
  dial address timeout record :=
    let (outcome, network) := link.dial address timeout record.network
    (outcome.map (Marked.mk record.next),
      record.add network (.dial address timeout (outcome.map fun _ => record.next)))
  run command held record :=
    let (outcome, network) := link.run command held.connection record.network
    (outcome.map fun (reply, connection) => (reply, ⟨held.mark.used, connection⟩),
      record.add network (.run held.mark command (outcome.map Prod.fst)))

theorem recorded_dial_eq (link : Link σ κ) (address : Address) (timeout : Span) (record : Record σ) :
    link.recorded.dial address timeout record =
      ((link.dial address timeout record.network).1.map (Marked.mk record.next),
        record.add (link.dial address timeout record.network).2
          (.dial address timeout
            ((link.dial address timeout record.network).1.map fun _ => record.next))) := by
  rfl

theorem recorded_run_eq (link : Link σ κ) (command : Command) (held : Marked κ) (record : Record σ) :
    link.recorded.run command held record =
      ((link.run command held.connection record.network).1.map
          fun result => (result.1, ⟨held.mark.used, result.2⟩),
        record.add (link.run command held.connection record.network).2
          (.run held.mark command
            ((link.run command held.connection record.network).1.map Prod.fst))) := by
  rfl

end Link

namespace Lifecycle

inductive Reached (address : Address) (timeout : Span) (fresh : Mark) :
    Option Mark → Mark → List Contact → Prop where
  | held {mark : Mark} : Reached address timeout fresh (some mark) mark []
  | dialed : Reached address timeout fresh none fresh [.dial address timeout (.ok fresh)]

inductive Exchanged (address : Address) (timeout : Span) (fresh : Mark) (command : Command) :
    Option Mark → List Contact → Except Failure Reply → Option Mark → Prop where
  | unreachable {cause : LinkError} :
      Exchanged address timeout fresh command none [.dial address timeout (.error cause)]
        (.error (.unreachable address cause)) none
  | broken {held : Option Mark} {mark : Mark} {made : List Contact} {cause : LinkError} :
      Reached address timeout fresh held mark made →
      Exchanged address timeout fresh command held (made ++ [.run mark command (.error cause)])
        (.error (.broken cause)) none
  | replied {held : Option Mark} {mark : Mark} {made : List Contact} {reply : Reply} :
      Reached address timeout fresh held mark made →
      Exchanged address timeout fresh command held (made ++ [.run mark command (.ok reply)])
        (.ok reply) (some mark.used)

-- A turn. A call that is not valid makes no contact, nor does a disconnect; a reply, whatever
-- it is, is never reported as a failure of the connection.
inductive Permitted (address : Address) (timeout : Span) (fresh : Mark) :
    Turn → Option Mark → List Contact → Response → Option Mark → Prop where
  | disconnect {now : Instant} {held : Option Mark} :
      Permitted address timeout fresh ⟨now, .disconnect⟩ held [] ⟨.ok .done, .empty⟩ none
  | invalid {now : Instant} {call : Call} {held : Option Mark} {expiry : Expiry} :
      call.expiry? = some expiry → expiry.remaining now ≤ 0 →
      Permitted address timeout fresh ⟨now, .call call⟩ held []
        ⟨.error (.expired (expiry.remaining now)), call.fields⟩ held
  | failed {now : Instant} {call : Call} {command : Command} {held after : Option Mark}
      {made : List Contact} {failure : Failure} :
      call.Valid now → call.command now = .ok command →
      Exchanged address timeout fresh command held made (.error failure) after →
      Permitted address timeout fresh ⟨now, .call call⟩ held made
        ⟨.error failure, call.fields⟩ after
  | replied {now : Instant} {call : Call} {command : Command} {held after : Option Mark}
      {made : List Contact} {reply : Reply} :
      call.Valid now → call.command now = .ok command →
      Exchanged address timeout fresh command held made (.ok reply) after →
      (∀ failure, call.answer reply = .error failure → failure.fromConnection = false) →
      Permitted address timeout fresh ⟨now, .call call⟩ held made
        ⟨call.answer reply, call.filled reply⟩ after

def event : Contact → Event
  | .dial address timeout outcome => .dialed address timeout outcome.isOk
  | .run _ command _ => .sent command

variable {σ κ : Type}

def holds (session : Session (Record σ) (Marked κ)) : Option Mark :=
  session.client.held.map Marked.mark

theorem holds_connected (session : Session (Record σ) (Marked κ)) :
    (holds session).isSome = session.client.connected := by
  exact Option.isSome_map

inductive Orderly (address : Address) (timeout : Span) :
    Option Mark → List Contact → List Turn → List (Step (Record σ) (Marked κ)) → Prop where
  | nil {held : Option Mark} {past : List Contact} : Orderly address timeout held past [] []
  | cons {held : Option Mark} {past made : List Contact} {turn : Turn} {turns : List Turn}
      {step : Step (Record σ) (Marked κ)} {steps : List (Step (Record σ) (Marked κ))} :
      Permitted address timeout { dialed := past.length } turn held made step.response
        (holds step.session) →
      step.session.network.contacts = past ++ made →
      step.events = made.map event →
      Orderly address timeout (holds step.session) (past ++ made) turns steps →
      Orderly address timeout held past (turn :: turns) (step :: steps)

theorem recorded_dial (link : Link σ κ) (address : Address) (timeout : Span)
    (record after : Record σ) (outcome : Except LinkError (Marked κ))
    (dialed : link.recorded.dial address timeout record = (outcome, after)) :
    (outcome.map Marked.mark = outcome.map fun _ => record.next) ∧
      after.contacts = record.contacts ++ [.dial address timeout (outcome.map Marked.mark)] := by
  rw [Link.recorded_dial_eq, Prod.mk.injEq] at dialed
  obtain ⟨rfl, rfl⟩ := dialed
  cases (link.dial address timeout record.network).1 <;> exact ⟨rfl, rfl⟩

theorem recorded_run (link : Link σ κ) (command : Command) (held : Marked κ)
    (record after : Record σ) (outcome : Except LinkError (Reply × Marked κ))
    (ran : link.recorded.run command held record = (outcome, after)) :
    (outcome.map fun result => result.2.mark) = (outcome.map fun _ => held.mark.used) ∧
      after.contacts = record.contacts ++ [.run held.mark command (outcome.map Prod.fst)] := by
  rw [Link.recorded_run_eq, Prod.mk.injEq] at ran
  obtain ⟨rfl, rfl⟩ := ran
  cases (link.run command held.connection record.network).1 <;> exact ⟨rfl, rfl⟩

theorem obtained_contacts (link : Link σ κ) (session : Session (Record σ) (Marked κ))
    (connection : Marked κ) (events : List Event) (network : Record σ)
    (obtains : session.Obtains link.recorded connection events network) :
    ∃ made,
      Reached session.client.address session.client.connectTimeout session.network.next
        (holds session) connection.mark made ∧
      network.contacts = session.network.contacts ++ made ∧ events = made.map event := by
  cases obtains with
  | held holding =>
      refine ⟨[], ?_, by simp, rfl⟩
      rw [holds, holding]
      exact .held
  | dialed empty dialed =>
      obtain ⟨marked, recorded⟩ := recorded_dial _ _ _ _ _ _ dialed
      have same : connection.mark = session.network.next := Except.ok.inj marked
      refine ⟨[.dial session.client.address session.client.connectTimeout (.ok connection.mark)],
        ?_, recorded, rfl⟩
      rw [holds, empty, same]
      exact .dialed

theorem exchange_contacts (link : Link σ κ) (command : Command)
    (session : Session (Record σ) (Marked κ)) (result : Exchange (Record σ) (Marked κ))
    (exchanges : session.Exchanges link.recorded command result) :
    ∃ made,
      Exchanged session.client.address session.client.connectTimeout session.network.next command
        (holds session) made result.reply (holds result.session) ∧
      result.session.network.contacts = session.network.contacts ++ made ∧
      result.events = made.map event := by
  cases exchanges with
  | unreachable empty dialed =>
      obtain ⟨_, recorded⟩ := recorded_dial _ _ _ _ _ _ dialed
      refine ⟨_, ?_, recorded, rfl⟩
      rw [holds, empty]
      exact .unreachable
  | broken obtains ran =>
      obtain ⟨made, reached, before, seen⟩ := obtained_contacts _ _ _ _ _ obtains
      obtain ⟨_, recorded⟩ := recorded_run _ _ _ _ _ _ ran
      refine ⟨_, .broken reached, ?_, ?_⟩
      · rw [← List.append_assoc, ← before]
        exact recorded
      · simp [seen, event]
  | @replied connection after events middle network reply obtains ran =>
      obtain ⟨made, reached, before, seen⟩ := obtained_contacts _ _ _ _ _ obtains
      obtain ⟨marked, recorded⟩ := recorded_run _ _ _ _ _ _ ran
      have used : after.mark = connection.mark.used := Except.ok.inj marked
      refine ⟨made ++ [.run connection.mark command (.ok reply)], ?_, ?_, ?_⟩
      · simp only [holds, Session.holding, Option.map_some, used]
        exact .replied reached
      · rw [← List.append_assoc, ← before]
        exact recorded
      · simp [seen, event]

theorem take_contacts (link : Link σ κ) (session : Session (Record σ) (Marked κ)) (turn : Turn)
    (step : Step (Record σ) (Marked κ)) (takes : session.Takes link.recorded turn step) :
    ∃ made,
      Permitted session.client.address session.client.connectTimeout session.network.next turn
        (holds session) made step.response (holds step.session) ∧
      step.session.network.contacts = session.network.contacts ++ made ∧
      step.events = made.map event := by
  cases takes with
  | disconnected => exact ⟨[], .disconnect, by simp [Session.holding], rfl⟩
  | refused refused =>
      obtain ⟨expiry, carried, rfl, due⟩ := Call.command_refused _ _ _ refused
      exact ⟨[], .invalid carried due, by simp, rfl⟩
  | @performed now call command result made exchanges =>
      have valid := Call.command_valid now call command made
      obtain ⟨contacts, exchanged, recorded, seen⟩ := exchange_contacts _ _ _ _ exchanges
      refine ⟨contacts, ?_, recorded, seen⟩
      cases replied : result.reply with
      | error failure =>
          rw [replied] at exchanged
          exact .failed valid made exchanged
      | ok reply =>
          rw [replied] at exchanged
          exact .replied valid made exchanged (Call.answer_blameless call reply)

theorem play_orderly (link : Link σ κ) (address : Address) (timeout : Span) (turns : List Turn)
    (session : Session (Record σ) (Marked κ)) (sameAddress : session.client.address = address)
    (sameTimeout : session.client.connectTimeout = timeout) :
    Orderly address timeout (holds session) session.network.contacts turns
      (session.play link.recorded turns) := by
  induction turns generalizing session with
  | nil => exact .nil
  | cons turn turns ih =>
      have takes := Session.take_cases link.recorded session turn
      obtain ⟨made, permitted, recorded, seen⟩ := take_contacts _ _ _ _ takes
      obtain ⟨held, network, after⟩ := Session.taken_holding _ _ _ _ takes
      have rest := ih (session.take link.recorded turn).session
        (by rw [after]; exact sameAddress) (by rw [after]; exact sameTimeout)
      rw [recorded] at rest
      rw [sameAddress, sameTimeout] at permitted
      exact .cons permitted recorded seen rest

def bareSession (session : Session (Record σ) (Marked κ)) : Session σ κ where
  client := { session.client with held := session.client.held.map Marked.connection }
  network := session.network.network

def bareStep (step : Step (Record σ) (Marked κ)) : Step σ κ where
  response := step.response
  events := step.events
  session := bareSession step.session

def unrecorded (link : Link σ κ) : Projection link.recorded link where
  network := Record.network
  connection := Marked.connection
  dial address timeout record := by
    rw [Link.recorded_dial_eq]
    rcases link.dial address timeout record.network with ⟨outcome, network⟩
    cases outcome <;> rfl
  run command held record := by
    rw [Link.recorded_run_eq]
    rcases link.run command held.connection record.network with ⟨outcome, network⟩
    cases outcome <;> rfl

theorem bare_play (link : Link σ κ) (turns : List Turn) (session : Session (Record σ) (Marked κ)) :
    (session.play link.recorded turns).map bareStep = (bareSession session).play link turns := by
  exact (unrecorded link).play turns session

/-- Over any link a client dials only without a connection and runs one command for a valid call. -/
theorem every_run_is_orderly (link : Link σ κ) (settings : Settings) (address : Address)
    (network : σ) (turns : List Turn) (parsed : Address.parse settings.addr = .ok address) :
    ∃ client : Client (Marked κ), Client.ofSettings settings = .ok client ∧
      client.connected = false ∧
      Orderly address settings.connectTimeout none [] turns
        (Session.play link.recorded ⟨client, { network }⟩ turns) ∧
      ∃ plain : Client κ, Client.ofSettings settings = .ok plain ∧ plain.connected = false ∧
        Session.play link ⟨plain, network⟩ turns =
          (Session.play link.recorded ⟨client, { network }⟩ turns).map bareStep := by
  refine ⟨{ address, connectTimeout := settings.connectTimeout }, ?_, rfl, ?_, ?_⟩
  · rw [Client.ofSettings, parsed]
    rfl
  · exact play_orderly link address settings.connectTimeout turns
      ⟨{ address, connectTimeout := settings.connectTimeout }, { network }⟩ rfl rfl
  · refine ⟨{ address, connectTimeout := settings.connectTimeout }, ?_, rfl, ?_⟩
    · rw [Client.ofSettings, parsed]
      rfl
    · rw [bare_play]
      rfl

def failingScript : Script where
  dials := [.error .closed]
  replies := [.error .closed, .ok (.error "ERR")]

def failingTurns : List Turn :=
  [⟨⟨0⟩, .call (.get [107])⟩, ⟨⟨1⟩, .call (.get [107])⟩, ⟨⟨2⟩, .call (.ping none)⟩,
    ⟨⟨3⟩, .disconnect⟩]

theorem failing_run_is_orderly :
    ∃ client : Client (Marked Unit), Client.ofSettings { addr := "cache:6390" } = .ok client ∧
      client.connected = false ∧
      Orderly ⟨"cache", 6390⟩ (.ofSeconds 2) none [] failingTurns
        (Session.play Script.link.recorded ⟨client, { network := failingScript }⟩ failingTurns) := by
  obtain ⟨client, made, idle, orderly, _⟩ := every_run_is_orderly Script.link
    { addr := "cache:6390" } ⟨"cache", 6390⟩ failingScript failingTurns rfl
  exact ⟨client, made, idle, orderly⟩

end Lifecycle
end RespClient

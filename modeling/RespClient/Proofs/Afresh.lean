import RespClient.Proofs.Verdicts

set_option autoImplicit false

namespace RespClient.Leftovers
open ByteStream

theorem broken_idle {σ κ : Type} (link : Link σ κ) (session : Session σ κ) (turn : Turn)
    (cause : LinkError)
    (broken : (session.take link turn).response.answer = .error (.broken cause)) :
    (session.take link turn).session.client.connected = false := by
  have takes := Session.take_cases link session turn
  generalize session.take link turn = step at takes broken
  cases takes with
  | disconnected => rfl
  | refused made =>
      obtain ⟨_, _, rfl, _⟩ := Call.command_refused _ _ _ made
      cases broken
  | @performed now call command result made exchanges =>
      cases exchanges with
      | unreachable => rfl
      | broken => rfl
      | replied obtains ran => exact nomatch Call.answer_blameless call _ _ broken

theorem broken_steps_idle {σ κ : Type} (link : Link σ κ) (turns : List Turn) (session : Session σ κ) :
    ∀ step ∈ session.play link turns, ∀ cause,
      step.response.answer = .error (.broken cause) → step.session.client.connected = false := by
  induction turns generalizing session with
  | nil => simp [Session.play]
  | cons turn turns ih =>
      rw [Session.play, List.forall_mem_cons]
      exact ⟨broken_idle link session turn, ih _⟩

def accepted : Event → Bool
  | .dialed _ _ accepted => accepted
  | .sent _ => false

def dials {σ κ : Type} (steps : List (Step σ κ)) : Nat :=
  (steps.flatMap Step.events).countP accepted

theorem dialed_waiting (shortage : Shortage) (network after : Network) (address : Address)
    (timeout : Span) (outcome : Except LinkError Connection)
    (dialed : (ByteStream.link shortage).dial address timeout network = (outcome, after)) :
    after = network.drop (if outcome.isOk then 1 else 0) := by
  cases network <;> cases dialed <;> rfl

theorem obtained_waiting (shortage : Shortage) (session : Session Network Connection)
    (connection : Connection) (events : List Event) (before : Network) (command : Command)
    (obtains : session.Obtains (ByteStream.link shortage) connection events before) :
    before = session.network.drop ((events ++ [Event.sent command]).countP accepted) := by
  cases obtains with
  | held held => rfl
  | dialed idle dialed => exact dialed_waiting shortage _ _ _ _ _ dialed

theorem take_waiting (shortage : Shortage) (session : Session Network Connection) (turn : Turn) :
    (session.take (ByteStream.link shortage) turn).session.network =
      session.network.drop ((session.take (ByteStream.link shortage) turn).events.countP accepted) := by
  have takes := Session.take_cases (ByteStream.link shortage) session turn
  generalize session.take (ByteStream.link shortage) turn = step at takes
  cases takes with
  | disconnected => rfl
  | refused made => rfl
  | performed made exchanges =>
      cases exchanges with
      | unreachable idle dialed => exact dialed_waiting shortage _ _ _ _ _ dialed
      | broken obtains ran =>
          obtain ⟨_, rfl⟩ := Prod.mk.inj ran
          exact obtained_waiting shortage session _ _ _ _ obtains
      | replied obtains ran =>
          obtain ⟨_, rfl⟩ := Prod.mk.inj ran
          exact obtained_waiting shortage session _ _ _ _ obtains

theorem advance_waiting (shortage : Shortage) (turns : List Turn)
    (session : Session Network Connection) :
    (session.advance (ByteStream.link shortage) turns).network =
      session.network.drop (dials (session.play (ByteStream.link shortage) turns)) := by
  induction turns generalizing session with
  | nil => rfl
  | cons turn turns ih =>
      rw [Session.advance, ih, take_waiting, List.drop_drop, Session.play, dials, dials,
        List.flatMap_cons, List.countP_append]

theorem idle_afresh (shortage : Shortage) (address : Address) (connectTimeout : Span)
    (network : Network) (before later : List Turn)
    (idle : (Session.advance (ByteStream.link shortage) ⟨{ address, connectTimeout }, network⟩
      before).client.connected = false) :
    Session.play (ByteStream.link shortage) ⟨{ address, connectTimeout }, network⟩ (before ++ later) =
      Session.play (ByteStream.link shortage) ⟨{ address, connectTimeout }, network⟩ before ++
        Session.play (ByteStream.link shortage) ⟨{ address, connectTimeout }, network.drop
          (dials (Session.play (ByteStream.link shortage) ⟨{ address, connectTimeout }, network⟩ before))⟩
          later := by
  have remaining := advance_waiting shortage before ⟨{ address, connectTimeout }, network⟩
  obtain ⟨held, left, same⟩ := Session.advance_holding (ByteStream.link shortage) before
    ⟨{ address, connectTimeout }, network⟩
  rw [Session.play_append]
  rw [same] at idle remaining ⊢
  obtain rfl : held = none :=
    Option.isNone_iff_eq_none.mp (by simpa [Client.connected, Session.holding] using idle)
  obtain rfl : left = _ := remaining
  rfl

theorem of_settings_idle (settings : Settings) (client : Client Connection)
    (built : Client.ofSettings settings = .ok client) :
    client = { address := client.address, connectTimeout := client.connectTimeout } := by
  obtain ⟨address, _, rfl⟩ := Call.map_granted _ _ _ built
  rfl

end RespClient.Leftovers

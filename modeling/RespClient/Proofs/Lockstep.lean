import RespClient.Proofs.Runs

set_option autoImplicit false

namespace RespClient

def Step.seen {σ κ : Type} (step : Step σ κ) : Response × List Event × Bool :=
  (step.response, step.events, step.session.client.connected)

end RespClient

namespace RespClient.Session
variable {σ κ τ ι : Type}

inductive RunsAlike (pairs : Option κ → σ → Option ι → τ → Prop) :
    Except LinkError (Reply × κ) × σ → Except LinkError (Reply × ι) × τ → Prop where
  | failed {cause : LinkError} {network : σ} {other : τ} :
      pairs none network none other → RunsAlike pairs (.error cause, network) (.error cause, other)
  | replied {reply : Reply} {connection : κ} {twin : ι} {network : σ} {other : τ} :
      pairs (some connection) network (some twin) other →
      RunsAlike pairs (.ok (reply, connection), network) (.ok (reply, twin), other)

inductive Meets (one : Link σ κ) (other : Link τ ι) (pairs : Session σ κ → Session τ ι → Prop)
    (command : Command) (session : Session σ κ) (twin : Session τ ι) : Prop where
  | held {connection : κ} {partner : ι} :
      session.client.held = some connection → twin.client.held = some partner →
      RunsAlike (fun held network twinHeld twinNetwork =>
          pairs (session.holding held network) (twin.holding twinHeld twinNetwork))
        (one.run command connection session.network) (other.run command partner twin.network) →
      Meets one other pairs command session twin
  | dialed {connection : κ} {partner : ι} {network : σ} {twinNetwork : τ} :
      session.client.held = none → twin.client.held = none →
      one.dial session.client.address session.client.connectTimeout session.network =
        (.ok connection, network) →
      other.dial session.client.address session.client.connectTimeout twin.network =
        (.ok partner, twinNetwork) →
      RunsAlike (fun held network twinHeld twinNetwork =>
          pairs (session.holding held network) (twin.holding twinHeld twinNetwork))
        (one.run command connection network) (other.run command partner twinNetwork) →
      Meets one other pairs command session twin
  | unreachable {cause : LinkError} {network : σ} {twinNetwork : τ} :
      session.client.held = none → twin.client.held = none →
      one.dial session.client.address session.client.connectTimeout session.network =
        (.error cause, network) →
      other.dial session.client.address session.client.connectTimeout twin.network =
        (.error cause, twinNetwork) →
      pairs (session.holding none network) (twin.holding none twinNetwork) →
      Meets one other pairs command session twin

structure Alike (pairs : Session σ κ → Session τ ι → Prop) (step : Step σ κ) (twin : Step τ ι) :
    Prop where
  response : step.response = twin.response
  events : step.events = twin.events
  session : pairs step.session twin.session

structure SameExchange (pairs : Session σ κ → Session τ ι → Prop) (result : Exchange σ κ)
    (twin : Exchange τ ι) : Prop where
  reply : result.reply = twin.reply
  events : result.events = twin.events
  session : pairs result.session twin.session

section
variable {one : Link σ κ} {other : Link τ ι} {pairs : Session σ κ → Session τ ι → Prop}
  {session : Session σ κ} {twin : Session τ ι}

theorem reached_alike (command : Command) (connection : κ) (partner : ι) (events : List Event)
    (network : σ) (twinNetwork : τ)
    (reached : session.reach one = (.ok connection, events, network))
    (twinReached : twin.reach other = (.ok partner, events, twinNetwork))
    (runs : RunsAlike (fun held network twinHeld twinNetwork =>
        pairs (session.holding held network) (twin.holding twinHeld twinNetwork))
      (one.run command connection network) (other.run command partner twinNetwork)) :
    SameExchange pairs (session.exchange one command) (twin.exchange other command) := by
  unfold exchange
  rw [reached, twinReached]
  dsimp only
  generalize one.run command connection network = run at runs
  generalize other.run command partner twinNetwork = twinRun at runs
  cases runs with
  | failed paired => exact ⟨rfl, rfl, paired⟩
  | replied paired => exact ⟨rfl, rfl, paired⟩

theorem exchange_alike (command : Command)
    (sameAddress : twin.client.address = session.client.address)
    (sameTimeout : twin.client.connectTimeout = session.client.connectTimeout)
    (meets : Meets one other pairs command session twin) :
    SameExchange pairs (session.exchange one command) (twin.exchange other command) := by
  cases meets with
  | held holding twinHolding runs =>
      exact reached_alike command _ _ [] _ _ (reach_held _ holding) (reach_held _ twinHolding) runs
  | dialed idle twinIdle dialed twinDialed runs =>
      rw [← sameAddress, ← sameTimeout] at twinDialed
      have reached := reach_dialed _ _ twinIdle twinDialed
      rw [sameAddress, sameTimeout] at reached
      exact reached_alike command _ _ _ _ _ (reach_dialed _ _ idle dialed) reached runs
  | unreachable idle twinIdle dialed twinDialed paired =>
      rw [← sameAddress, ← sameTimeout] at twinDialed
      unfold exchange
      rw [reach_dialed _ _ idle dialed, reach_dialed _ _ twinIdle twinDialed, sameAddress, sameTimeout]
      exact ⟨rfl, rfl, paired⟩

theorem disconnect_alike (now : Instant)
    (paired : pairs (session.holding none session.network) (twin.holding none twin.network)) :
    Alike pairs (session.take one ⟨now, .disconnect⟩) (twin.take other ⟨now, .disconnect⟩) := by
  exact ⟨rfl, rfl, paired⟩

theorem refused_alike (now : Instant) (call : Call) (failure : Failure)
    (made : call.command now = .error failure) (paired : pairs session twin) :
    Alike pairs (session.take one ⟨now, .call call⟩) (twin.take other ⟨now, .call call⟩) := by
  simp only [take, perform, made]
  exact ⟨rfl, rfl, paired⟩

theorem performed_alike (now : Instant) (call : Call) (command : Command)
    (made : call.command now = .ok command)
    (sameAddress : twin.client.address = session.client.address)
    (sameTimeout : twin.client.connectTimeout = session.client.connectTimeout)
    (meets : Meets one other pairs command session twin) :
    Alike pairs (session.take one ⟨now, .call call⟩) (twin.take other ⟨now, .call call⟩) := by
  have same := exchange_alike command sameAddress sameTimeout meets
  simp only [take, perform, made]
  exact ⟨congrArg call.respond same.reply, same.events, same.session⟩

theorem alike_seen (step : Step σ κ) (other : Step τ ι)
    (connected : ∀ session twin, pairs session twin →
      twin.client.connected = session.client.connected)
    (alike : Alike pairs step other) : other.seen = step.seen := by
  rw [Step.seen, Step.seen, alike.response, alike.events, connected _ _ alike.session]

end
end RespClient.Session

namespace RespClient
variable {σ κ τ ι : Type}

-- How the states of a link are those of a coarser one with something added to them.
structure Projection (fine : Link σ κ) (coarse : Link τ ι) where
  network : σ → τ
  connection : κ → ι
  dial : ∀ address timeout state,
    coarse.dial address timeout (network state) =
      ((fine.dial address timeout state).1.map connection,
        network (fine.dial address timeout state).2)
  run : ∀ command held state,
    coarse.run command (connection held) (network state) =
      ((fine.run command held state).1.map fun result => (result.1, connection result.2),
        network (fine.run command held state).2)

namespace Projection
variable {fine : Link σ κ} {coarse : Link τ ι} (projection : Projection fine coarse)

def session (session : Session σ κ) : Session τ ι where
  client := { session.client with held := session.client.held.map projection.connection }
  network := projection.network session.network

def step (step : Step σ κ) : Step τ ι where
  response := step.response
  events := step.events
  session := projection.session step.session

theorem runs_alike (command : Command) (held : κ) (state : σ)
    (pairs : Option κ → σ → Option ι → τ → Prop)
    (projected : ∀ held state, pairs held state (held.map projection.connection) (projection.network state)) :
    Session.RunsAlike pairs (fine.run command held state)
      (coarse.run command (projection.connection held) (projection.network state)) := by
  rw [projection.run]
  rcases fine.run command held state with ⟨outcome, after⟩
  cases outcome with
  | error cause => exact .failed (projected none after)
  | ok result => exact .replied (projected (some result.2) after)

theorem meets (command : Command) (session : Session σ κ) :
    Session.Meets fine coarse (fun session twin => twin = projection.session session) command
      session (projection.session session) := by
  have dial := projection.dial session.client.address session.client.connectTimeout session.network
  cases holding : session.client.held with
  | some connection =>
      refine .held holding ?_ (projection.runs_alike command connection session.network _ ?_)
      · simp only [Projection.session, holding, Option.map_some]
      · exact fun held state => rfl
  | none =>
      have idle : (projection.session session).client.held = none := by
        simp only [Projection.session, holding, Option.map_none]
      rcases dialed : fine.dial session.client.address session.client.connectTimeout session.network
        with ⟨outcome, after⟩
      rw [dialed] at dial
      cases outcome with
      | error cause => exact .unreachable holding idle dialed dial rfl
      | ok connection =>
          refine .dialed holding idle dialed dial (projection.runs_alike command connection after _ ?_)
          exact fun held state => rfl

theorem take (session : Session σ κ) (turn : Turn) :
    (projection.session session).take coarse turn = projection.step (session.take fine turn) := by
  have alike : Session.Alike (fun session twin => twin = projection.session session)
      (session.take fine turn) ((projection.session session).take coarse turn) := by
    obtain ⟨now, action⟩ := turn
    cases action with
    | disconnect => exact Session.disconnect_alike now rfl
    | call call =>
        cases made : call.command now with
        | error failure => exact Session.refused_alike now call failure made rfl
        | ok command =>
            exact Session.performed_alike now call command made rfl rfl
              (projection.meets command session)
  obtain ⟨response, events, projected⟩ := alike
  rw [step, response, events, ← projected]

theorem play (turns : List Turn) (session : Session σ κ) :
    (session.play fine turns).map projection.step = (projection.session session).play coarse turns := by
  induction turns generalizing session with
  | nil => rfl
  | cons turn turns ih =>
      rw [Session.play, Session.play, List.map_cons, ih, take]
      rfl

theorem advance (turns : List Turn) (session : Session σ κ) :
    (projection.session session).advance coarse turns =
      projection.session (session.advance fine turns) := by
  induction turns generalizing session with
  | nil => rfl
  | cons turn turns ih =>
      rw [Session.advance, Session.advance, ← ih, take]
      rfl

theorem connected (session : Session σ κ) :
    (projection.session session).client.connected = session.client.connected := by
  exact Option.isSome_map

theorem step_seen (step : Step σ κ) : (projection.step step).seen = step.seen := by
  rw [Step.seen, Step.seen, ← projection.connected step.session]
  rfl

theorem play_seen (turns : List Turn) (session : Session σ κ) :
    ((projection.session session).play coarse turns).map Step.seen =
      (session.play fine turns).map Step.seen := by
  rw [← projection.play, List.map_map]
  exact List.map_congr_left fun step _ => projection.step_seen step

end Projection
end RespClient

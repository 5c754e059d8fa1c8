import RespClient.Session

set_option autoImplicit false

namespace RespClient.Session
variable {σ κ : Type}

inductive Obtains (link : Link σ κ) (session : Session σ κ) : κ → List Event → σ → Prop where
  | held {connection : κ} :
      session.client.held = some connection → Obtains link session connection [] session.network
  | dialed {connection : κ} {network : σ} :
      session.client.held = none →
      link.dial session.client.address session.client.connectTimeout session.network =
        (.ok connection, network) →
      Obtains link session connection
        [.dialed session.client.address session.client.connectTimeout true] network

inductive Exchanges (link : Link σ κ) (command : Command) (session : Session σ κ) :
    Exchange σ κ → Prop where
  | unreachable {cause : LinkError} {network : σ} :
      session.client.held = none →
      link.dial session.client.address session.client.connectTimeout session.network =
        (.error cause, network) →
      Exchanges link command session
        { reply := .error (.unreachable session.client.address cause)
          events := [.dialed session.client.address session.client.connectTimeout false]
          session := session.holding none network }
  | broken {connection : κ} {events : List Event} {before network : σ} {cause : LinkError} :
      Obtains link session connection events before →
      link.run command connection before = (.error cause, network) →
      Exchanges link command session
        { reply := .error (.broken cause)
          events := events ++ [.sent command]
          session := session.holding none network }
  | replied {connection after : κ} {events : List Event} {before network : σ} {reply : Reply} :
      Obtains link session connection events before →
      link.run command connection before = (.ok (reply, after), network) →
      Exchanges link command session
        { reply := .ok reply
          events := events ++ [.sent command]
          session := session.holding (some after) network }

inductive Takes (link : Link σ κ) (session : Session σ κ) : Turn → Step σ κ → Prop where
  | disconnected {now : Instant} :
      Takes link session ⟨now, .disconnect⟩
        { response := ⟨.ok .done, .empty⟩
          events := []
          session := session.holding none session.network }
  | refused {now : Instant} {call : Call} {failure : Failure} :
      call.command now = .error failure →
      Takes link session ⟨now, .call call⟩
        { response := call.respond (.error failure), events := [], session }
  | performed {now : Instant} {call : Call} {command : Command} {result : Exchange σ κ} :
      call.command now = .ok command → Exchanges link command session result →
      Takes link session ⟨now, .call call⟩
        { response := call.respond result.reply, events := result.events, session := result.session }

def Receives (link : Link σ κ) (session : Session σ κ) (command : Command) (reply : Reply) : Prop :=
  ∃ connection after events before network, Obtains link session connection events before ∧
    link.run command connection before = (.ok (reply, after), network)

section
variable {link : Link σ κ} {session : Session σ κ}

theorem reach_held (connection : κ) (holding : session.client.held = some connection) :
    session.reach link = (.ok connection, [], session.network) := by
  simp only [reach, holding]

theorem reach_dialed (outcome : Except LinkError κ) (network : σ)
    (idle : session.client.held = none)
    (dialed : link.dial session.client.address session.client.connectTimeout session.network =
      (outcome, network)) :
    session.reach link =
      (outcome, [.dialed session.client.address session.client.connectTimeout outcome.isOk],
        network) := by
  simp only [reach, idle, dialed]

def contact (session : Session σ κ) : List Event :=
  if session.client.connected then []
  else [.dialed session.client.address session.client.connectTimeout true]

theorem reach_fresh (fresh : κ)
    (dials : ∀ address timeout network, link.dial address timeout network = (.ok fresh, network))
    (ready : ∀ connection, session.client.held = some connection → connection = fresh) :
    session.reach link = (.ok fresh, session.contact, session.network) := by
  cases held : session.client.held with
  | some connection =>
      rw [reach_held connection held, ready connection held]
      simp [contact, Client.connected, held]
  | none =>
      rw [reach_dialed (.ok fresh) session.network held (dials _ _ _)]
      simp [contact, Client.connected, held, Except.isOk, Except.toBool]

section
variable {command : Command} {connection : κ} {events : List Event} {before network : σ}

theorem exchange_replied (reply : Reply) (after : κ)
    (reached : session.reach link = (.ok connection, events, before))
    (ran : link.run command connection before = (.ok (reply, after), network)) :
    session.exchange link command =
      { reply := .ok reply
        events := events ++ [.sent command]
        session := session.holding (some after) network } := by
  simp only [exchange, reached, ran]

theorem obtained_reach (obtains : Obtains link session connection events before) :
    session.reach link = (.ok connection, events, before) := by
  cases obtains with
  | held holding => exact reach_held connection holding
  | dialed idle dialed => exact reach_dialed (.ok connection) before idle dialed

theorem exchange_broken (cause : LinkError)
    (reached : session.reach link = (.ok connection, events, before))
    (ran : link.run command connection before = (.error cause, network)) :
    session.exchange link command =
      { reply := .error (.broken cause)
        events := events ++ [.sent command]
        session := session.holding none network } := by
  simp only [exchange, reached, ran]

end

theorem take_refused (now : Instant) (call : Call) (failure : Failure)
    (refused : call.command now = .error failure) :
    session.take link ⟨now, .call call⟩ =
      { response := call.respond (.error failure), events := [], session } := by
  simp only [take, perform, refused]

theorem take_call (now : Instant) (call : Call) (command : Command)
    (made : call.command now = .ok command) :
    session.take link ⟨now, .call call⟩ =
      { response := call.respond (session.exchange link command).reply
        events := (session.exchange link command).events
        session := (session.exchange link command).session } := by
  simp only [take, perform, made]

theorem take_ran (now : Instant) (call : Call) (command : Command) (connection : κ)
    (events : List Event) (before : σ) (made : call.command now = .ok command)
    (reached : session.reach link = (.ok connection, events, before)) :
    (session.take link ⟨now, .call call⟩).session.network =
      (link.run command connection before).2 := by
  rw [take_call now call command made]
  unfold exchange
  rw [reached]
  dsimp only
  rcases link.run command connection before with ⟨outcome, network⟩
  cases outcome <;> rfl

end

theorem reach_cases (link : Link σ κ) (session : Session σ κ) :
    (∃ connection events network, session.reach link = (.ok connection, events, network) ∧
        Obtains link session connection events network) ∨
      ∃ cause network, session.client.held = none ∧
        link.dial session.client.address session.client.connectTimeout session.network =
          (.error cause, network) ∧
        session.reach link = (.error cause,
          [.dialed session.client.address session.client.connectTimeout false], network) := by
  unfold reach
  cases held : session.client.held with
  | some connection => exact Or.inl ⟨connection, [], session.network, rfl, .held held⟩
  | none =>
      cases dialed : link.dial session.client.address session.client.connectTimeout session.network with
      | mk outcome network =>
          cases outcome with
          | error cause => exact Or.inr ⟨cause, network, rfl, rfl, rfl⟩
          | ok connection => exact Or.inl ⟨connection, _, network, rfl, .dialed held dialed⟩

theorem exchange_cases (link : Link σ κ) (command : Command) (session : Session σ κ) :
    Exchanges link command session (session.exchange link command) := by
  unfold exchange
  rcases reach_cases link session with
    ⟨connection, events, before, reached, obtains⟩ | ⟨cause, network, held, dialed, reached⟩
  · rw [reached]
    dsimp only
    cases ran : link.run command connection before with
    | mk outcome network =>
        cases outcome with
        | error cause => exact .broken obtains ran
        | ok result => exact .replied obtains ran
  · rw [reached]
    exact .unreachable held dialed

theorem take_cases (link : Link σ κ) (session : Session σ κ) (turn : Turn) :
    Takes link session turn (session.take link turn) := by
  obtain ⟨now, action⟩ := turn
  cases action with
  | disconnect => exact .disconnected
  | call call =>
      unfold take perform
      dsimp only
      cases made : call.command now with
      | error failure => exact .refused made
      | ok command => exact .performed made (exchange_cases link command session)

theorem exchanged_holding (link : Link σ κ) (command : Command) (session : Session σ κ)
    (result : Exchange σ κ) (exchanges : Exchanges link command session result) :
    ∃ held network, result.session = session.holding held network := by
  cases exchanges with
  | unreachable => exact ⟨none, _, rfl⟩
  | broken => exact ⟨none, _, rfl⟩
  | replied => exact ⟨some _, _, rfl⟩

theorem taken_holding (link : Link σ κ) (session : Session σ κ) (turn : Turn) (step : Step σ κ)
    (takes : Takes link session turn step) :
    ∃ held network, step.session = session.holding held network := by
  cases takes with
  | disconnected => exact ⟨none, session.network, rfl⟩
  | refused made => exact ⟨session.client.held, session.network, rfl⟩
  | performed made exchanges => exact exchanged_holding link _ session _ exchanges

end RespClient.Session

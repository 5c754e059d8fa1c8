import RespClient.Call.Answer
import RespClient.Call.Command
import RespClient.Link

set_option autoImplicit false

namespace RespClient

structure Client (κ : Type) where
  address : Address
  connectTimeout : Span
  held : Option κ := none

namespace Client
variable {κ : Type}

def ofSettings (settings : Settings) : Except Failure (Client κ) :=
  (Address.parse settings.addr).map fun address => { address, connectTimeout := settings.connectTimeout }

def ofAddress (text : String) : Except Failure (Client κ) :=
  ofSettings { addr := text }

def connected (client : Client κ) : Bool := client.held.isSome

def disconnect (client : Client κ) : Client κ := { client with held := none }

end Client

inductive Event where
  | dialed (address : Address) (timeout : Span) (accepted : Bool)
  | sent (command : Command)
deriving DecidableEq, Repr

def Event.command? : Event → Option Command
  | .dialed .. => none
  | .sent command => some command

inductive Action where
  | call (call : Call)
  | disconnect
deriving DecidableEq, Repr

structure Turn where
  now : Instant
  action : Action
deriving DecidableEq, Repr

structure Session (σ κ : Type) where
  client : Client κ
  network : σ

structure Step (σ κ : Type) where
  response : Response
  events : List Event
  session : Session σ κ

def Step.commands {σ κ : Type} (step : Step σ κ) : List Command :=
  step.events.filterMap Event.command?

structure Exchange (σ κ : Type) where
  reply : Except Failure Reply
  events : List Event
  session : Session σ κ

namespace Session
variable {σ κ : Type}

def holding (session : Session σ κ) (held : Option κ) (network : σ) : Session σ κ :=
  { client := { session.client with held }, network }

def reach (link : Link σ κ) (session : Session σ κ) :
    Except LinkError κ × List Event × σ :=
  match session.client.held with
  | some connection => (.ok connection, [], session.network)
  | none =>
      let (outcome, network) :=
        link.dial session.client.address session.client.connectTimeout session.network
      (outcome,
        [.dialed session.client.address session.client.connectTimeout outcome.isOk], network)

def exchange (link : Link σ κ) (command : Command) (session : Session σ κ) : Exchange σ κ :=
  match session.reach link with
  | (.error cause, events, network) =>
      { reply := .error (.unreachable session.client.address cause)
        events
        session := session.holding none network }
  | (.ok connection, events, network) =>
      match link.run command connection network with
      | (.error cause, network) =>
          { reply := .error (.broken cause)
            events := events ++ [.sent command]
            session := session.holding none network }
      | (.ok (reply, connection), network) =>
          { reply := .ok reply
            events := events ++ [.sent command]
            session := session.holding (some connection) network }

def perform (link : Link σ κ) (now : Instant) (call : Call) (session : Session σ κ) : Step σ κ :=
  match call.command now with
  | .error error => { response := call.respond (.error error), events := [], session }
  | .ok command =>
      let result := session.exchange link command
      { response := call.respond result.reply, events := result.events, session := result.session }

def take (link : Link σ κ) (session : Session σ κ) (turn : Turn) : Step σ κ :=
  match turn.action with
  | .call call => session.perform link turn.now call
  | .disconnect =>
      { response := ⟨.ok .done, .empty⟩
        events := []
        session := { session with client := session.client.disconnect } }

def play (link : Link σ κ) : Session σ κ → List Turn → List (Step σ κ)
  | _, [] => []
  | session, turn :: turns =>
      let step := session.take link turn
      step :: play link step.session turns

end Session
end RespClient

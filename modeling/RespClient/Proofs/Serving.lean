import RespClient.Proofs.Commands
import RespClient.Proofs.Lockstep
import RespClient.Server

set_option autoImplicit false

namespace RespClient

structure Journal (σ : Type) where
  state : σ
  executed : List (List Bytes) := []

namespace Journal
variable {σ : Type}

def enter (journal : Journal σ) (request : List Bytes) (state : σ) : Journal σ :=
  { state, executed := journal.executed ++ [request] }

end Journal

namespace Server
variable {σ : Type}

def journaled (server : Server σ) : Server (Journal σ) where
  execute request journal :=
    let (reply, state) := server.execute request journal.state
    (reply, journal.enter request state)

end Server

namespace Server
variable {σ : Type} (server : Server σ) (noBytes : IoError)

section
variable (command : Command) (host : Host σ)

theorem run_served (fits : Reply.Fits 0 (server.execute command.parts host.state).1)
    (mishap : host.mishaps.head?.join = none) :
    (server.overStreams noBytes).run command {} host =
      (.ok ((server.execute command.parts host.state).1, {}),
        { state := (server.execute command.parts host.state).2, mishaps := host.mishaps.tail }) := by
  simp only [overStreams, serve, mishap, Request.decode_command, Stream.read_chunk noBytes _ fits]

theorem run_cut (fits : Reply.Fits 0 (server.execute command.parts host.state).1) (sent : Nat)
    (mishap : host.mishaps.head?.join = some (.cut sent)) :
    (server.overStreams noBytes).run command {} host =
      (.error .closed,
        { state := (server.execute command.parts host.state).2, mishaps := host.mishaps.tail }) := by
  have something := List.length_pos_iff.mpr (Reply.encode_nonempty _ fits)
  have short : min sent ((server.execute command.parts host.state).1.encode.length - 1) <
      (server.execute command.parts host.state).1.encode.length := by
    omega
  simp only [overStreams, serve, mishap, Request.decode_command,
    Stream.read_cut noBytes _ fits _ short]

theorem run_ignored (mishap : host.mishaps.head?.join = some .ignored) :
    (server.overStreams noBytes).run command {} host =
      (.error .closed, { host with mishaps := host.mishaps.tail }) := by
  simp only [overStreams, serve, mishap, Stream.read_nothing noBytes _ (Or.inr rfl)]

end

def plain (host : Host (Journal σ)) : Host σ :=
  { state := host.state.state, mishaps := host.mishaps }

theorem serve_plain (bytes : Bytes) (host : Host (Journal σ)) :
    server.serve bytes (plain host) =
      ((server.journaled.serve bytes host).1, plain (server.journaled.serve bytes host).2) := by
  simp only [serve, plain, journaled]
  rcases host.mishaps.head?.join with _ | _ | sent <;> cases Request.decode? bytes <;> rfl

def unjournaled : Projection (server.journaled.overStreams noBytes) (server.overStreams noBytes) where
  network := plain
  connection stream := stream
  dial _ _ _ := rfl
  run command stream host := by
    have same : ∀ outcome : Except LinkError (Reply × Stream),
        (outcome.map fun result => (result.1, result.2)) = outcome := by
      intro outcome
      cases outcome <;> rfl
    simp only [overStreams, serve_plain, same]

theorem take_direct (session : Session σ Unit) (now : Instant) (call : Call) (command : Command)
    (made : call.command now = .ok command) :
    session.take server.direct ⟨now, .call call⟩ =
      { response := call.respond (.ok (server.execute command.parts session.network).1)
        events := session.contact ++ [.sent command]
        session := session.holding (some ()) (server.execute command.parts session.network).2 } := by
  have reached : session.reach server.direct = (.ok (), session.contact, session.network) := by
    exact Session.reach_fresh () (fun _ _ _ => rfl) (fun _ _ => rfl)
  have ran : server.direct.run command () session.network =
      (.ok ((server.execute command.parts session.network).1, ()),
        (server.execute command.parts session.network).2) := by
    rfl
  rw [Session.take_call now call command made, Session.exchange_replied _ () reached ran]

end Server
end RespClient

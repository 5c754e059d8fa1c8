import RespClient.Proofs.Canonical
import RespClient.Proofs.Lockstep

set_option autoImplicit false

namespace RespClient

inductive Reaction where
  | answer (reply : Reply)
  | close (reply : Reply) (sent : Nat)

namespace Reaction
open ByteStream

def WithinLimits : Reaction → Prop
  | .answer reply => Reply.Fits 0 reply
  | .close reply sent => Reply.Fits 0 reply ∧ sent < reply.encode.length

def outcome : Reaction → Except LinkError Reply
  | .answer reply => .ok reply
  | .close .. => .error .closed

def delivery : Reaction → Delivery
  | .answer reply => .chunk reply.encode
  | .close reply sent => .closing (reply.encode.take sent)

def script (reactions : List Reaction) : Script := { replies := reactions.map outcome }

def commandsAhead : List Event → Nat
  | .sent _ :: events => commandsAhead events + 1
  | _ => 0

def network : List Event → List Reaction → Network
  | [], _ => []
  | .sent _ :: events, reactions => network events reactions
  | .dialed .. :: events, reactions =>
      (reactions.take (commandsAhead events)).map delivery ::
        network events (reactions.drop (commandsAhead events))

end Reaction

namespace Reaction
open ByteStream

theorem run_delivery (shortage : Shortage) (reaction : Reaction) (limits : reaction.WithinLimits)
    (later : List Delivery) :
    ByteStream.run shortage { pending := reaction.delivery :: later } =
      reaction.outcome.map fun reply => (reply, { pending := later }) := by
  cases reaction with
  | answer reply =>
      have read := Stream.read_chunk shortage.noBytes reply limits
      simp only [ByteStream.run, Connection.receive, delivery, outcome, List.head?_cons, List.tail_cons]
      rw [read]
      rfl
  | close reply sent =>
      have read := Stream.read_cut shortage.noBytes reply limits.1 sent limits.2
      simp only [ByteStream.run, Connection.receive, delivery, outcome, List.head?_cons, List.tail_cons]
      rw [read]
      rfl

theorem run_exhausted (shortage : Shortage) :
    ByteStream.run shortage { pending := [] } = .error .closed := by
  have read := Stream.read_nothing shortage.noBytes none (Or.inl rfl)
  simp only [ByteStream.run, Connection.receive, List.head?_nil]
  rw [read]
  rfl

def next : List Reaction → Except LinkError Reply
  | [] => .error .closed
  | reaction :: _ => reaction.outcome

theorem run_script (command : Command) (reactions : List Reaction) :
    Script.link.run command () (script reactions) =
      ((next reactions).map fun reply => (reply, ()), script reactions.tail) := by
  cases reactions <;> rfl

theorem run_streams (shortage : Shortage) (reactions : List Reaction)
    (limits : ∀ reaction ∈ reactions, reaction.WithinLimits) (ahead : Nat) :
    ByteStream.run shortage { pending := (reactions.take (ahead + 1)).map delivery } =
      (next reactions).map fun reply =>
        (reply, { pending := (reactions.tail.take ahead).map delivery }) := by
  cases reactions with
  | nil => exact run_exhausted shortage
  | cons reaction later => exact run_delivery shortage reaction (limits reaction (by simp)) _

end Reaction

namespace Refinement
open ByteStream Reaction

def upcoming (session : Session Script Unit) (turns : List Turn) : List Event :=
  (session.play Script.link turns).flatMap Step.events

theorem upcoming_cons (session : Session Script Unit) (turn : Turn) (turns : List Turn) :
    upcoming session (turn :: turns) =
      (session.take Script.link turn).events ++
        upcoming (session.take Script.link turn).session turns := by
  rfl

-- Both clients stand at the same place of the same reactions, with the same turns to come: the
-- bytes in hand are those for the commands before the next dial, and no byte is left over.
structure Abreast (reactions : List Reaction) (turns : List Turn) (session : Session Script Unit)
    (twin : Session Network Connection) : Prop where
  address : twin.client.address = session.client.address
  connectTimeout : twin.client.connectTimeout = session.client.connectTimeout
  script : session.network = Reaction.script reactions
  network : twin.network = Reaction.network (upcoming session turns)
    (reactions.drop (commandsAhead (upcoming session turns)))
  held : twin.client.held = session.client.held.map fun _ =>
    { pending := (reactions.take (commandsAhead (upcoming session turns))).map delivery }

theorem idle_dials (session : Session Script Unit) (turns : List Turn)
    (idle : session.client.held = none) : commandsAhead (upcoming session turns) = 0 := by
  induction turns generalizing session with
  | nil => rfl
  | cons turn turns ih =>
      have takes := Session.take_cases Script.link session turn
      rw [upcoming_cons]
      generalize session.take Script.link turn = step at takes
      cases takes with
      | disconnected => exact ih _ rfl
      | refused made => exact ih _ idle
      | performed made exchanges =>
          cases exchanges with
          | unreachable => rfl
          | broken obtains ran =>
              cases obtains with
              | held held => exact nomatch idle.symm.trans held
              | dialed => rfl
          | replied obtains ran =>
              cases obtains with
              | held held => exact nomatch idle.symm.trans held
              | dialed => rfl

def behind (session : Session Script Unit) (reactions : List Reaction) : Session Script Unit :=
  session.holding ((next reactions).toOption.map fun _ => ()) (Reaction.script reactions.tail)

section
variable {reactions : List Reaction} {session : Session Script Unit}

theorem reached_script (command : Command) (events : List Event)
    (reached : session.reach Script.link = (.ok (), events, Reaction.script reactions)) :
    (session.exchange Script.link command).events = events ++ [.sent command] ∧
      (session.exchange Script.link command).session = behind session reactions := by
  unfold Session.exchange behind
  rw [reached]
  dsimp only
  rw [run_script]
  cases next reactions <;> exact ⟨rfl, rfl⟩

theorem held_script (command : Command) (network : session.network = Reaction.script reactions)
    (held : session.client.held = some ()) :
    (session.exchange Script.link command).events = [.sent command] ∧
      (session.exchange Script.link command).session = behind session reactions := by
  have reached : session.reach Script.link = (.ok (), [], session.network) :=
    Session.reach_held () held
  rw [network] at reached
  exact reached_script command [] reached

theorem idle_script (command : Command) (network : session.network = Reaction.script reactions)
    (idle : session.client.held = none) :
    (session.exchange Script.link command).events =
        [.dialed session.client.address session.client.connectTimeout true, .sent command] ∧
      (session.exchange Script.link command).session = behind session reactions := by
  have dialed : Script.link.dial session.client.address session.client.connectTimeout
      session.network = (.ok (), Reaction.script reactions) := by
    rw [network]
    rfl
  exact reached_script command _ (Session.reach_dialed (.ok ()) _ idle dialed)

theorem performed_upcoming (now : Instant) (call : Call) (command : Command) (turns : List Turn)
    (made : call.command now = .ok command) :
    upcoming session (⟨now, .call call⟩ :: turns) =
      (session.exchange Script.link command).events ++
        upcoming (session.exchange Script.link command).session turns := by
  simp only [upcoming_cons, Session.take, Session.perform, made]

end

theorem runs_alike (shortage : Shortage) (reactions : List Reaction)
    (limits : ∀ reaction ∈ reactions, reaction.WithinLimits) (turns : List Turn)
    (session : Session Script Unit) (twin : Session Network Connection) (command : Command)
    (address : twin.client.address = session.client.address)
    (connectTimeout : twin.client.connectTimeout = session.client.connectTimeout)
    (ahead : Nat) (same : ahead = commandsAhead (upcoming (behind session reactions) turns)) :
    Session.RunsAlike (fun held network twinHeld twinNetwork =>
        Abreast reactions.tail turns (session.holding held network) (twin.holding twinHeld twinNetwork))
      (Script.link.run command () (Reaction.script reactions))
      ((ByteStream.link shortage).run command
        { pending := (reactions.take (ahead + 1)).map delivery }
        (Reaction.network (upcoming (behind session reactions) turns)
          (reactions.drop (ahead + 1)))) := by
  have streams := run_streams shortage reactions limits ahead
  have rest : reactions.drop (ahead + 1) = reactions.tail.drop ahead := by simp
  simp only [ByteStream.link]
  rw [run_script, streams, rest, same]
  unfold behind
  cases next reactions with
  | error cause => exact .failed ⟨address, connectTimeout, rfl, rfl, rfl⟩
  | ok reply => exact .replied ⟨address, connectTimeout, rfl, rfl, rfl⟩

theorem command_meets (shortage : Shortage) (reactions : List Reaction)
    (limits : ∀ reaction ∈ reactions, reaction.WithinLimits) (now : Instant) (call : Call)
    (turns : List Turn) (session : Session Script Unit) (twin : Session Network Connection)
    (abreast : Abreast reactions (⟨now, .call call⟩ :: turns) session twin) (command : Command)
    (made : call.command now = .ok command) :
    Session.Meets Script.link (ByteStream.link shortage)
      (Abreast reactions.tail turns) command session twin := by
  obtain ⟨address, connectTimeout, script, network, held⟩ := abreast
  have seen := @performed_upcoming session now call command turns made
  have runs := runs_alike shortage reactions limits turns session twin command address
    connectTimeout _ rfl
  cases inHand : session.client.held with
  | some connection =>
      obtain ⟨events, after⟩ := held_script command script inHand
      rw [events, after] at seen
      rw [inHand, seen] at held
      rw [seen] at network
      rw [← script] at runs
      refine .held inHand held ?_
      rw [network]
      exact runs
  | none =>
      obtain ⟨events, after⟩ := idle_script command script inHand
      rw [events, after] at seen
      rw [inHand] at held
      rw [seen] at network
      rw [← script] at runs
      refine .dialed inHand held ?_ ?_ runs
      · rw [script]
        rfl
      · rw [network]
        rfl

theorem take_abreast (shortage : Shortage) (reactions : List Reaction)
    (limits : ∀ reaction ∈ reactions, reaction.WithinLimits) (turn : Turn) (turns : List Turn)
    (session : Session Script Unit) (twin : Session Network Connection)
    (abreast : Abreast reactions (turn :: turns) session twin) :
    ∃ rest, (∀ reaction ∈ rest, reaction.WithinLimits) ∧
      Session.Alike (Abreast rest turns) (session.take Script.link turn)
        (twin.take (ByteStream.link shortage) turn) := by
  obtain ⟨now, action⟩ := turn
  cases action with
  | disconnect =>
      refine ⟨reactions, limits, Session.disconnect_alike now ?_⟩
      exact ⟨abreast.address, abreast.connectTimeout, abreast.script, abreast.network, rfl⟩
  | call call =>
      cases made : call.command now with
      | error failure =>
          have same : upcoming session (⟨now, .call call⟩ :: turns) = upcoming session turns := by
            simp [upcoming_cons, Session.take, Session.perform, made]
          obtain ⟨address, connectTimeout, script, network, held⟩ := abreast
          rw [same] at network held
          refine ⟨reactions, limits, Session.refused_alike now call failure made ?_⟩
          exact ⟨address, connectTimeout, script, network, held⟩
      | ok command =>
          refine ⟨reactions.tail, fun reaction member => limits reaction (List.mem_of_mem_tail member), ?_⟩
          exact Session.performed_alike now call command made abreast.address abreast.connectTimeout
            (command_meets shortage reactions limits now call turns session twin abreast command made)

theorem abreast_connected (reactions : List Reaction) (turns : List Turn)
    (session : Session Script Unit) (twin : Session Network Connection)
    (abreast : Abreast reactions turns session twin) :
    twin.client.connected = session.client.connected := by
  rw [Client.connected, abreast.held, Option.isSome_map]
  rfl

theorem play_abreast (shortage : Shortage) (turns : List Turn) (reactions : List Reaction)
    (limits : ∀ reaction ∈ reactions, reaction.WithinLimits)
    (session : Session Script Unit) (twin : Session Network Connection)
    (abreast : Abreast reactions turns session twin) :
    (twin.play (ByteStream.link shortage) turns).map Step.seen =
      (session.play Script.link turns).map Step.seen := by
  induction turns generalizing reactions session twin with
  | nil => rfl
  | cons turn turns ih =>
      obtain ⟨rest, restLimits, alike⟩ :=
        take_abreast shortage reactions limits turn turns session twin abreast
      have later := ih rest restLimits _ _ alike.session
      have now := Session.alike_seen _ _ (abreast_connected rest turns) alike
      simp only [Session.play, List.map_cons, later, now]

/-- Over canonical bytes a client does what it does over the replies themselves. -/
theorem byte_streams_refine_scripts (shortage : Shortage) (settings : Settings) (address : Address)
    (reactions : List Reaction) (turns : List Turn)
    (parsed : Address.parse settings.addr = .ok address)
    (limits : ∀ reaction ∈ reactions, reaction.WithinLimits) :
    ∃ (client : Client Unit) (twin : Client Connection),
      Client.ofSettings settings = .ok client ∧ Client.ofSettings settings = .ok twin ∧
      (Session.play (ByteStream.link shortage)
          ⟨twin, Reaction.network ((Session.play Script.link ⟨client, Reaction.script reactions⟩
            turns).flatMap Step.events) reactions⟩ turns).map Step.seen =
        (Session.play Script.link ⟨client, Reaction.script reactions⟩ turns).map Step.seen := by
  refine ⟨{ address, connectTimeout := settings.connectTimeout },
    { address, connectTimeout := settings.connectTimeout }, ?_, ?_, ?_⟩
  · rw [Client.ofSettings, parsed]
    rfl
  · rw [Client.ofSettings, parsed]
    rfl
  · refine play_abreast shortage turns reactions limits _ _ ⟨rfl, rfl, rfl, ?_, rfl⟩
    have idle := idle_dials
      ⟨{ address, connectTimeout := settings.connectTimeout }, Reaction.script reactions⟩ turns rfl
    rw [idle]
    rfl

def mixedReactions : List Reaction :=
  [.answer (.array [.bulk [13, 10], .nil, .error "ERR"]), .close (.status "OK") 2, .answer (.integer (-5))]

def mixedTurns : List Turn :=
  [⟨⟨0⟩, .call (.sdiff [[107]])⟩, ⟨⟨1⟩, .call (.ping none)⟩, ⟨⟨2⟩, .call (.ttl [107])⟩,
    ⟨⟨3⟩, .disconnect⟩, ⟨⟨4⟩, .call (.get [107])⟩]

def scarce : Shortage where
  noConnection := { kind := .connectionRefused }
  noBytes := { kind := .wouldBlock }

theorem mixed_run_refines :
    ∃ (client : Client Unit) (twin : Client Connection),
      Client.ofSettings { addr := "[::1]:6390" } = .ok client ∧
      Client.ofSettings { addr := "[::1]:6390" } = .ok twin ∧
      (Session.play (ByteStream.link scarce)
          ⟨twin, Reaction.network ((Session.play Script.link ⟨client, Reaction.script mixedReactions⟩
            mixedTurns).flatMap Step.events) mixedReactions⟩ mixedTurns).map Step.seen =
        (Session.play Script.link ⟨client, Reaction.script mixedReactions⟩ mixedTurns).map Step.seen := by
  refine byte_streams_refine_scripts scarce { addr := "[::1]:6390" } ⟨"::1", 6390⟩ mixedReactions
    mixedTurns rfl ?_
  intro reaction member
  simp only [mixedReactions, List.mem_cons, List.not_mem_nil, or_false] at member
  rcases member with rfl | rfl | rfl
  · have short : [13, 10].length ≤ 536870912 := by decide
    exact ⟨by decide, by decide, short, trivial, ⟨by decide, by decide⟩, trivial⟩
  · exact ⟨⟨by decide, by decide⟩, by decide⟩
  · trivial

end Refinement
end RespClient

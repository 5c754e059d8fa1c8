import RespClient.Proofs.Commands
import RespClient.Proofs.Exchanges
import RespClient.Proofs.Orders

set_option autoImplicit false

namespace RespClient.Transcript

abbrev Calls := List (Instant × Call)

def turns (calls : Calls) : List Turn := calls.map fun call => ⟨call.1, .call call.2⟩

def orders (calls : Calls) : List Order := calls.map fun call => call.2.order call.1

section
variable {σ κ : Type}

def commands (steps : List (Step σ κ)) : List Command := steps.flatMap Step.commands

def written (steps : List (Step σ κ)) : Bytes := (commands steps).flatMap Command.encode

def Executed (steps : List (Step σ κ)) : Prop := ∀ step ∈ steps, step.commands ≠ []

instance (steps : List (Step σ κ)) : Decidable (Executed steps) :=
  inferInstanceAs (Decidable (∀ step ∈ steps, step.commands ≠ []))

end
variable {σ κ τ ι : Type}

theorem performed_commands (link : Link σ κ) (session : Session σ κ) (now : Instant) (call : Call)
    (command : Command) (made : call.command now = .ok command) :
    (session.take link ⟨now, .call call⟩).commands = [command] ∨
      (session.take link ⟨now, .call call⟩).commands = [] ∧
        ∃ cause, (session.take link ⟨now, .call call⟩).response.answer =
          .error (.unreachable session.client.address cause) := by
  rw [Session.take_call now call command made]
  have exchanges := Session.exchange_cases link command session
  generalize session.exchange link command = result at exchanges
  cases exchanges with
  | unreachable => exact Or.inr ⟨rfl, _, rfl⟩
  | broken obtains ran => cases obtains <;> exact Or.inl rfl
  | replied obtains ran => cases obtains <;> exact Or.inl rfl

theorem take_commands (link : Link σ κ) (session : Session σ κ) (now : Instant) (call : Call)
    (executed : (session.take link ⟨now, .call call⟩).commands ≠ []) :
    ∃ command, call.command now = .ok command ∧
      (session.take link ⟨now, .call call⟩).commands = [command] := by
  cases made : call.command now with
  | error failure =>
      rw [Session.take_refused now call failure made] at executed
      exact absurd rfl executed
  | ok command =>
      refine ⟨command, rfl, ?_⟩
      rcases performed_commands link session now call command made with written | ⟨unwritten, _⟩
      · exact written
      · exact absurd unwritten executed

theorem executed_parts (link : Link σ κ) (calls : Calls) (session : Session σ κ)
    (executed : Executed (session.play link (turns calls))) :
    (commands (session.play link (turns calls))).map Command.parts =
      (orders calls).map Order.parts := by
  induction calls generalizing session with
  | nil => rfl
  | cons call calls ih =>
      obtain ⟨now, call⟩ := call
      obtain ⟨here, later⟩ := List.forall_mem_cons.mp executed
      obtain ⟨command, made, ran⟩ := take_commands link session now call here
      have rest := ih _ later
      have first := Call.command_parts now call command made
      have all : commands (session.play link (turns ((now, call) :: calls))) =
          command :: commands ((session.take link ⟨now, .call call⟩).session.play link (turns calls)) := by
        change (session.take link ⟨now, .call call⟩).commands ++ _ = _
        rw [ran]
        rfl
      rw [all, List.map_cons, rest, first]
      rfl

theorem same_bytes_iff (commands others : List Command) :
    commands.flatMap Command.encode = others.flatMap Command.encode ↔
      commands.map Command.parts = others.map Command.parts := by
  refine ⟨Request.commands_unique commands others, ?_⟩
  intro same
  have onParts : ∀ some : List Command, some.flatMap Command.encode =
      (some.map Command.parts).flatMap fun parts =>
        Framing.count '*' parts.length ++ parts.flatMap Framing.bulk := by
    intro some
    rw [List.flatMap_map]
    exact congrArg (fun encode => some.flatMap encode) (funext Command.encode_bulks)
  rw [onParts, onParts, same]

/-- Runs write the same bytes just when their calls give the same orders. -/
theorem written_bytes_tell_calls (link : Link σ κ) (other : Link τ ι) (session : Session σ κ)
    (twin : Session τ ι) (calls others : Calls)
    (executed : Executed (session.play link (turns calls)))
    (othersExecuted : Executed (twin.play other (turns others))) :
    written (session.play link (turns calls)) = written (twin.play other (turns others)) ↔
      orders calls = orders others := by
  unfold written
  rw [same_bytes_iff, executed_parts link calls session executed,
    executed_parts other others twin othersExecuted]
  exact List.map_inj_right Order.parts_injective

def givenCalls : Calls :=
  [(⟨0⟩, .expire [107] 5), (⟨1⟩, .hget [104] (Fields.ofList [([98], [1]), ([97], [])])),
    (⟨2⟩, .set [69, 88] [42, 49, 13, 10] (some (.after (.ofSeconds 7))) .ifAbsent)]

def otherCalls : Calls :=
  [(⟨3⟩, .expireIn [107] (.after ⟨5900000000⟩)), (⟨4⟩, .hget [104] (Fields.ofList [([97], [2]), ([98], [])])),
    (⟨4000000000⟩, .set [69, 88] [42, 49, 13, 10] (some (.atUnix 11)) .ifAbsent)]

def listener : Session Script Unit where
  client := { address := ⟨"cache", 6379⟩, connectTimeout := .ofSeconds 2 }
  network := { replies := [.ok (.integer 1), .ok .nil] }

theorem differing_calls_write_alike :
    Executed (listener.play Script.link (turns givenCalls)) ∧
      Executed (listener.play Script.link (turns otherCalls)) ∧
      written (listener.play Script.link (turns givenCalls)) =
        written (listener.play Script.link (turns otherCalls)) := by
  have given : Executed (listener.play Script.link (turns givenCalls)) := by decide +kernel
  have other : Executed (listener.play Script.link (turns otherCalls)) := by decide +kernel
  exact ⟨given, other, (written_bytes_tell_calls Script.link Script.link listener listener givenCalls
    otherCalls given other).mpr (by decide +kernel)⟩

end RespClient.Transcript

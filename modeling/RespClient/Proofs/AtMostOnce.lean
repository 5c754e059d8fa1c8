import RespClient.Proofs.Serving

set_option autoImplicit false

namespace RespClient.Strings

inductive Access where
  | set (key value : Bytes) (condition : WriteCondition)
  | get (key : Bytes)
deriving DecidableEq, Repr

namespace Access

def call : Access → Call
  | .set key value condition => .set key value none condition
  | .get key => .get key

def request : Access → List Bytes
  | .set key value .always => [Bytes.ofText "SET", key, value]
  | .set key value .ifAbsent => [Bytes.ofText "SET", key, value, Bytes.ofText "NX"]
  | .set key value .ifPresent => [Bytes.ofText "SET", key, value, Bytes.ofText "XX"]
  | .get key => [Bytes.ofText "GET", key]

def reply (store : Strings) : Access → Reply
  | .set key _ condition => if store.permits key condition then .status "OK" else .nil
  | .get key => (store key).elim .nil .bulk

def effect (store : Strings) : Access → Strings
  | .set key value condition => store.write key value condition
  | .get _ => store

def answer (store : Strings) : Access → Answer
  | .set _ _ .always => .written .stored
  | .set key _ .ifAbsent => .written (if (store key).isNone then .stored else .keyExists)
  | .set key _ .ifPresent => .written (if (store key).isSome then .stored else .keyMissing)
  | .get key => .value (store key)

def Bounded : Access → Prop
  | .set _ value _ => value.length ≤ 536870912
  | .get _ => True

end Access

inductive Operation where
  | call (access : Access)
  | disconnect
deriving DecidableEq, Repr

namespace Operation

def action : Operation → Action
  | .call access => .call access.call
  | .disconnect => .disconnect

def Bounded : Operation → Prop
  | .call access => access.Bounded
  | .disconnect => True

def turns (operations : List (Instant × Operation)) : List Turn :=
  operations.map fun operation => ⟨operation.1, operation.2.action⟩

end Operation

def Bounded (store : Strings) : Prop :=
  ∀ key value, store key = some value → value.length ≤ 536870912

def KeepsMap (server : Server Strings) : Prop :=
  ∀ store access, server.execute (Access.request access) store =
    (access.reply store, access.effect store)

theorem server_keeps_map : KeepsMap server := by
  intro store access
  cases access with
  | get key => rfl
  | set key value condition => cases condition <;> rfl

namespace Access

theorem command_made (now : Instant) (access : Access) :
    ∃ command, access.call.command now = .ok command ∧ command.parts = access.request := by
  cases access with
  | get key => exact ⟨_, rfl, rfl⟩
  | set key value condition => cases condition <;> exact ⟨_, rfl, rfl⟩

theorem reply_answers (store : Strings) (access : Access) :
    access.call.answer (access.reply store) = .ok (access.answer store) := by
  cases access with
  | get key =>
      rw [reply, answer]
      cases store key <;> rfl
  | set key value condition =>
      cases condition with
      | always => rfl
      | ifAbsent =>
          rw [reply, answer, permits]
          cases (store key).isNone <;> rfl
      | ifPresent =>
          rw [reply, answer, permits]
          cases (store key).isSome <;> rfl

theorem reply_fits (store : Strings) (access : Access) (bounded : store.Bounded) :
    Reply.Fits 0 (access.reply store) := by
  cases access with
  | get key =>
      cases found : store key with
      | none => simp [reply, found, Reply.Fits]
      | some value => simpa [reply, found, Reply.Fits] using bounded key value found
  | set key value condition =>
      by_cases permitted : store.permits key condition
      · rw [reply, if_pos permitted]
        exact ⟨by decide, by decide⟩
      · simp [reply, permitted, Reply.Fits]

theorem effect_bounded (store : Strings) (access : Access) (bounded : store.Bounded)
    (within : access.Bounded) : (access.effect store).Bounded := by
  cases access with
  | get key => exact bounded
  | set key value condition =>
      by_cases permitted : store.permits key condition
      · intro other stored found
        rw [effect, write, if_pos permitted, put] at found
        by_cases same : other = key
        · rw [if_pos same] at found
          cases found
          exact within
        · rw [if_neg same] at found
          exact bounded other stored found
      · simpa only [effect, write, if_neg permitted] using bounded

end Access

abbrev World := Host (Journal Strings)

inductive Fate (access : Access) (before : Journal Strings) :
    Option Mishap → Except Failure Answer → Journal Strings → Prop where
  | answered :
      Fate access before none (.ok (access.answer before.state))
        (before.enter access.request (access.effect before.state))
  | unheard {sent : Nat} :
      Fate access before (some (.cut sent)) (.error (.broken .closed))
        (before.enter access.request (access.effect before.state))
  | unseen : Fate access before (some .ignored) (.error (.broken .closed)) before

structure Done (access : Access) (world : World) (step : Step World Stream) : Prop where
  fate : Fate access world.state world.mishaps.head?.join step.response.answer
    step.session.network.state
  mishaps : step.session.network.mishaps = world.mishaps.tail

inductive Follows : World → List (Instant × Operation) → List (Step World Stream) → Prop where
  | nil {world : World} : Follows world [] []
  | call {world : World} {now : Instant} {access : Access} {step : Step World Stream}
      {operations : List (Instant × Operation)} {steps : List (Step World Stream)} :
      Done access world step → Follows step.session.network operations steps →
      Follows world ((now, .call access) :: operations) (step :: steps)
  | disconnect {world : World} {now : Instant} {step : Step World Stream}
      {operations : List (Instant × Operation)} {steps : List (Step World Stream)} :
      step.response.answer = .ok .done → step.session.network = world →
      Follows world operations steps →
      Follows world ((now, .disconnect) :: operations) (step :: steps)

-- Between operations the client has no connection or one with nothing on it.
def Clean (session : Session World Stream) : Prop :=
  ∀ stream, session.client.held = some stream → stream = {}

theorem idle_clean (session : Session World Stream) (idle : session.client.held = none) :
    Clean session := by
  intro stream held
  exact nomatch idle.symm.trans held

section
variable {server : Server Strings} (keeps : KeepsMap server) (noBytes : IoError)
include keeps

theorem execute_request (access : Access) (command : Command) (journal : Journal Strings)
    (parts : command.parts = access.request) :
    server.journaled.execute command.parts journal =
      (access.reply journal.state, journal.enter access.request (access.effect journal.state)) := by
  simp only [Server.journaled, parts, keeps journal.state access]

theorem call_done (session : Session World Stream) (now : Instant) (access : Access)
    (clean : Clean session) (bounded : session.network.state.state.Bounded) :
    Done access session.network
        (session.take (server.journaled.overStreams noBytes) ⟨now, .call access.call⟩) ∧
      Clean (session.take (server.journaled.overStreams noBytes) ⟨now, .call access.call⟩).session := by
  obtain ⟨command, made, parts⟩ := access.command_made now
  have executed := execute_request keeps access command session.network.state parts
  have fits : Reply.Fits 0 (server.journaled.execute command.parts session.network.state).1 := by
    rw [executed]
    exact access.reply_fits _ bounded
  have reached : session.reach (server.journaled.overStreams noBytes) =
      (.ok {}, session.contact, session.network) := by
    refine Session.reach_fresh ({} : Stream) ?_ clean
    exact fun _ _ _ => rfl
  rw [Session.take_call now access.call command made]
  cases mishap : session.network.mishaps.head?.join with
  | none =>
      have ran := server.journaled.run_served noBytes command session.network fits mishap
      rw [executed] at ran
      rw [Session.exchange_replied _ _ reached ran]
      refine ⟨⟨?_, rfl⟩, fun stream held => (Option.some.inj held).symm⟩
      rw [mishap, Call.respond, Access.reply_answers]
      exact .answered
  | some kind =>
      cases kind with
      | cut sent =>
          have ran := server.journaled.run_cut noBytes command session.network fits sent mishap
          rw [executed] at ran
          rw [Session.exchange_broken _ reached ran]
          refine ⟨⟨?_, rfl⟩, idle_clean _ rfl⟩
          rw [mishap]
          exact .unheard
      | ignored =>
          have ran := server.journaled.run_ignored noBytes command session.network mishap
          rw [Session.exchange_broken _ reached ran]
          refine ⟨⟨?_, rfl⟩, idle_clean _ rfl⟩
          rw [mishap]
          exact .unseen

end

theorem fate_bounded (access : Access) (before after : Journal Strings) (mishap : Option Mishap)
    (answer : Except Failure Answer) (fate : Fate access before mishap answer after)
    (bounded : before.state.Bounded) (within : access.Bounded) : after.state.Bounded := by
  cases fate with
  | answered => exact access.effect_bounded _ bounded within
  | unheard => exact access.effect_bounded _ bounded within
  | unseen => exact bounded

section
variable {server : Server Strings} (keeps : KeepsMap server) (noBytes : IoError)
include keeps

theorem play_follows_map (operations : List (Instant × Operation))
    (session : Session World Stream) (clean : Clean session)
    (bounded : session.network.state.state.Bounded)
    (within : ∀ operation ∈ operations, operation.2.Bounded) :
    Follows session.network operations
      (session.play (server.journaled.overStreams noBytes) (Operation.turns operations)) := by
  induction operations generalizing session with
  | nil => exact .nil
  | cons operation operations ih =>
      obtain ⟨now, operation⟩ := operation
      have later : ∀ operation ∈ operations, operation.2.Bounded :=
        fun operation member => within operation (List.mem_cons_of_mem _ member)
      cases operation with
      | disconnect =>
          have rest := ih (session.holding none session.network) (idle_clean _ rfl) bounded later
          exact .disconnect rfl rfl rest
      | call access =>
          obtain ⟨done, cleanAfter⟩ := call_done keeps noBytes session now access clean bounded
          have kept := fate_bounded access _ _ _ _ done.fate bounded (within _ List.mem_cons_self)
          exact .call done (ih _ cleanAfter kept later)

/-- No access is executed twice, and one that succeeds tells what the map says at that point. -/
theorem accesses_happen_at_most_once (address : Address) (connectTimeout : Span) (store : Strings)
    (mishaps : List (Option Mishap)) (operations : List (Instant × Operation))
    (bounded : store.Bounded) (within : ∀ operation ∈ operations, operation.2.Bounded) :
    Follows { state := { state := store }, mishaps } operations
        (Session.play (server.journaled.overStreams noBytes)
          ⟨{ address, connectTimeout }, { state := { state := store }, mishaps }⟩
          (Operation.turns operations)) ∧
      Session.play (server.overStreams noBytes)
          ⟨{ address, connectTimeout }, { state := store, mishaps }⟩ (Operation.turns operations) =
        (Session.play (server.journaled.overStreams noBytes)
          ⟨{ address, connectTimeout }, { state := { state := store }, mishaps }⟩
          (Operation.turns operations)).map (server.unjournaled noBytes).step := by
  have followed := play_follows_map keeps noBytes operations
    ⟨{ address, connectTimeout }, { state := { state := store }, mishaps }⟩ (idle_clean _ rfl) bounded within
  have played := (server.unjournaled noBytes).play (Operation.turns operations)
    ⟨{ address, connectTimeout }, { state := { state := store }, mishaps }⟩
  exact ⟨followed, played.symm⟩

end

def brokenOperations : List (Instant × Operation) :=
  [(⟨0⟩, .call (.set [107] [13, 10] .ifAbsent)), (⟨1⟩, .call (.set [107] [] .ifAbsent)),
    (⟨2⟩, .disconnect), (⟨3⟩, .call (.get [107])), (⟨4⟩, .call (.get [107]))]

def brokenMishaps : List (Option Mishap) := [some (.cut 3), none, some .ignored]

def brokenRun : List (Step World Stream) :=
  Session.play (server.journaled.overStreams { kind := .wouldBlock })
    ⟨{ address := ⟨"::1", 6379⟩, connectTimeout := .ofSeconds 2 },
      { state := { state := fun _ => none }, mishaps := brokenMishaps }⟩
    (Operation.turns brokenOperations)

theorem broken_run_happens_at_most_once :
    Follows { state := { state := fun _ => none }, mishaps := brokenMishaps } brokenOperations brokenRun ∧
      brokenRun.map (fun step => step.response.answer.toOption) =
        [none, some (.written .keyExists), some .done, none, some (.value (some [13, 10]))] := by
  have happened := accesses_happen_at_most_once server_keeps_map { kind := .wouldBlock } ⟨"::1", 6379⟩
    (.ofSeconds 2) (fun _ => none) brokenMishaps brokenOperations (fun key value found => nomatch found) ?_
  · exact ⟨happened.1, by decide +kernel⟩
  · intro operation member
    simp only [brokenOperations, List.mem_cons, List.not_mem_nil, or_false] at member
    rcases member with rfl | rfl | rfl | rfl | rfl <;> simp [Operation.Bounded, Access.Bounded]

end RespClient.Strings

import RespClient.Proofs.Runs
import RespClient.Proofs.Transcripts

set_option autoImplicit false

namespace RespClient.Lifetimes

inductive Carries : Call → Expiry → (Int64 → Order) → Prop where
  | expireIn {key : Bytes} {expiry : Expiry} : Carries (.expireIn key expiry) expiry (.expire key)
  | set {key value : Bytes} {expiry : Expiry} {condition : WriteCondition} :
      Carries (.set key value (some expiry) condition) expiry
        fun seconds => .set key value (some seconds) condition

-- A command with a lifetime in it. Of the commands of a write it is any that has the word for one
-- behind the key and the value, whether the call gave an expiry or not.
inductive Lasting : Call → Command → Prop where
  | expireIn {key : Bytes} {expiry : Expiry} {command : Command} :
      Lasting (.expireIn key expiry) command
  | set {key value : Bytes} {expiry : Option Expiry} {condition : WriteCondition}
      {command : Command} :
      Bytes.ofText "EX" ∈ command.parts.drop 3 → Lasting (.set key value expiry condition) command

structure Timely {σ κ : Type} (session : Session σ κ) (turn : Turn) (step : Step σ κ) : Prop where
  refused : ∀ call expiry order, turn.action = .call call → Carries call expiry order →
    expiry.remaining turn.now ≤ 0 →
      step.response = ⟨.error (.expired (expiry.remaining turn.now)), call.fields⟩ ∧
        step.events = [] ∧ step.session = session
  resolved : ∀ call expiry order, turn.action = .call call → Carries call expiry order →
    0 < expiry.remaining turn.now →
      ∃ command, call.command turn.now = .ok command ∧
        command.parts = (order (expiry.remaining turn.now)).parts ∧
        (step.commands = [command] ∨
          step.commands = [] ∧
            ∃ cause, step.response.answer = .error (.unreachable session.client.address cause))
  lasting : ∀ call, turn.action = .call call → ∀ command ∈ step.commands, Lasting call command →
    ∃ expiry order seconds, Carries call expiry order ∧
      1 ≤ seconds.toInt ∧ seconds.toInt ≤ 9223372036854775807 ∧
      command.parts = (order seconds).parts
  reached : ∀ call expiry order, turn.action = .call call → Carries call expiry order →
    expiry.Reached turn.now → step.events = [] ∧ step.session = session

variable {σ κ : Type}

theorem carried_order (now : Instant) (call : Call) (expiry : Expiry) (order : Int64 → Order)
    (carries : Carries call expiry order) : call.order now = order (expiry.remaining now) := by
  cases carries <;> rfl

theorem carried_expiry (call : Call) (expiry : Expiry) (order : Int64 → Order)
    (carries : Carries call expiry order) : call.expiry? = some expiry := by
  cases carries <;> rfl

theorem lasting_command (now : Instant) (call : Call) (expiry : Expiry) (order : Int64 → Order)
    (carries : Carries call expiry order) (left : 0 < expiry.remaining now) :
    ∃ command, call.command now = .ok command := by
  refine Call.command_exists now call ?_
  intro other carried
  cases (carried_expiry call expiry order carries).symm.trans carried
  exact left

theorem lasting_carries (now : Instant) (call : Call) (command : Command)
    (made : call.command now = .ok command) (lasting : Lasting call command) :
    ∃ expiry order, Carries call expiry order ∧ 0 < expiry.remaining now := by
  cases lasting with
  | @expireIn key expiry command =>
      exact ⟨expiry, _, .expireIn, Call.command_valid now _ command made expiry rfl⟩
  | @set key value expiry condition command word =>
      cases expiry with
      | none =>
          -- The only word behind the value is the condition.
          have unmarked : Bytes.ofText "EX" ∉ Order.options none condition := by
            cases condition <;> decide
          rw [Call.command_parts now _ command made] at word
          exact absurd word unmarked
      | some expiry =>
          exact ⟨expiry, _, .set, Call.command_valid now _ command made expiry rfl⟩

theorem take_due (link : Link σ κ) (session : Session σ κ) (now : Instant) (call : Call)
    (expiry : Expiry) (order : Int64 → Order) (carries : Carries call expiry order)
    (due : expiry.remaining now ≤ 0) :
    session.take link ⟨now, .call call⟩ =
      { response := ⟨.error (.expired (expiry.remaining now)), call.fields⟩, events := [], session } := by
  have carried := carried_expiry call expiry order carries
  exact Session.take_refused now call _ (Call.due_refused now call expiry carried due)

theorem take_timely (link : Link σ κ) (session : Session σ κ) (turn : Turn) :
    Timely session turn (session.take link turn) := by
  obtain ⟨now, action⟩ := turn
  constructor
  case refused =>
    rintro call expiry order rfl carries due
    rw [take_due link session now call expiry order carries due]
    exact ⟨rfl, rfl, rfl⟩
  case resolved =>
    rintro call expiry order rfl carries left
    obtain ⟨command, made⟩ := lasting_command now call expiry order carries left
    have words := Call.command_parts now call command made
    rw [carried_order now call expiry order carries] at words
    exact ⟨command, made, words, Transcript.performed_commands link session now call command made⟩
  case lasting =>
    rintro call rfl command sent lasting
    obtain ⟨made, ran, only⟩ := Transcript.take_commands link session now call (List.ne_nil_of_mem sent)
    rw [only, List.mem_singleton] at sent
    subst sent
    obtain ⟨expiry, order, carries, left⟩ := lasting_carries now call command ran lasting
    have words := Call.command_parts now call command ran
    rw [carried_order now call expiry order carries] at words
    exact ⟨expiry, order, expiry.remaining now, carries, Int64.lt_iff_toInt_lt.mp left,
      Int64.toInt_le _, words⟩
  case reached =>
    rintro call expiry order rfl carries passed
    rw [take_due link session now call expiry order carries (Expiry.reached_due now expiry passed)]
    exact ⟨rfl, rfl⟩

/-- The seconds sent are those left when the call begins; where none are left nothing is sent. -/
theorem no_due_expiry_is_sent (link : Link σ κ) (session : Session σ κ) (turns : List Turn) :
    Session.Along Timely session turns (session.play link turns) := by
  exact Session.play_along Timely (take_timely link) turns session

end RespClient.Lifetimes

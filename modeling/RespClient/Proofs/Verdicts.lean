import RespClient.Proofs.FieldFilling
import RespClient.Proofs.Runs

set_option autoImplicit false

namespace RespClient

inductive Ask where
  | payload
  | completion
  | change
  | membership
  | number
  | writing (condition : WriteCondition)
  | value
  | members
  | fields (count : Nat)

def Call.ask : Call → Ask
  | .ping _ => .payload
  | .select _ | .hset .. => .completion
  | .expire .. | .expireIn .. | .expireAt .. => .change
  | .sismember .. => .membership
  | .ttl _ | .sadd .. | .scard _ | .sdiffStore .. | .sinterStore .. => .number
  | .set _ _ _ condition => .writing condition
  | .get _ => .value
  | .sdiff _ | .sinter _ => .members
  | .hget _ fields => .fields fields.size

namespace Ask

def kinds : Ask → List Reply.Kind
  | .payload => [.status, .bulk]
  | .completion => [.status]
  | .change | .membership | .number => [.integer]
  | .writing _ => [.status, .nil]
  | .value => [.bulk, .nil]
  | .members | .fields _ => [.array]

inductive Told : Ask → Reply → Answer → Prop where
  | named {text : String} : Told .payload (.status text) (.bytes (Bytes.ofText text))
  | echoed {data : Bytes} : Told .payload (.bulk data) (.bytes data)
  | completed {text : String} : Told .completion (.status text) .done
  | changed {n : Int64} : Told .change (.integer n) (.flag (n = 1))
  | belongs {n : Int64} : Told .membership (.integer n) (.flag (n ≠ 0))
  | counted {n : Int64} : Told .number (.integer n) (.count n)
  | stored {condition : WriteCondition} {text : String} :
      Told (.writing condition) (.status text) (.written .stored)
  | rejected : Told (.writing .always) .nil (.written .rejected)
  | keyExists : Told (.writing .ifAbsent) .nil (.written .keyExists)
  | keyMissing : Told (.writing .ifPresent) .nil (.written .keyMissing)
  | found {data : Bytes} : Told .value (.bulk data) (.value (some data))
  | missing : Told .value .nil (.value none)
  | members {items : List Reply} {names : List Bytes} :
      List.Forall₂ Reply.Names items names → Told .members (.array items) (.members names)
  | fields {count : Nat} {items : List Reply} {values : List Bytes} :
      items.length = count → List.Forall₂ Reply.Holds items values →
      Told (.fields count) (.array items) .done

-- The number of elements is judged before any of them, and the elements in their order.
inductive Verdict : Ask → Reply → Except Failure Answer → Prop where
  | told {ask : Ask} {reply : Reply} {answer : Answer} :
      Told ask reply answer → Verdict ask reply (.ok answer)
  | refused {ask : Ask} {reply : Reply} {failure : Failure} :
      reply.kind ∉ ask.kinds → Rejects ask.kinds reply failure → Verdict ask reply (.error failure)
  | miscounted {count : Nat} {items : List Reply} :
      items.length ≠ count →
      Verdict (.fields count) (.array items) (.error (.wrongCount count items.length))
  | oddMember {front back : List Reply} {names : List Bytes} {odd : Reply} {failure : Failure} :
      List.Forall₂ Reply.Names front names → (∀ name, ¬ Reply.Names odd name) →
      Rejects [.bulk] odd failure →
      Verdict .members (.array (front ++ odd :: back)) (.error failure)
  | oddField {count : Nat} {front back : List Reply} {values : List Bytes} {odd : Reply}
      {failure : Failure} :
      (front ++ odd :: back).length = count → List.Forall₂ Reply.Holds front values →
      (∀ value, ¬ Reply.Holds odd value) → Rejects [.bulk, .nil] odd failure →
      Verdict (.fields count) (.array (front ++ odd :: back)) (.error failure)

theorem told_exists (ask : Ask) (reply : Reply) (asked : reply.kind ∈ ask.kinds)
    (plain : reply.kind ≠ .array) : ∃ answer, Told ask reply answer := by
  cases ask with
  | payload =>
      cases reply with
      | status => exact ⟨_, .named⟩
      | bulk => exact ⟨_, .echoed⟩
      | _ => simp [kinds, Reply.kind] at asked
  | completion =>
      cases reply with
      | status => exact ⟨_, .completed⟩
      | _ => simp [kinds, Reply.kind] at asked
  | change =>
      cases reply with
      | integer => exact ⟨_, .changed⟩
      | _ => simp [kinds, Reply.kind] at asked
  | membership =>
      cases reply with
      | integer => exact ⟨_, .belongs⟩
      | _ => simp [kinds, Reply.kind] at asked
  | number =>
      cases reply with
      | integer => exact ⟨_, .counted⟩
      | _ => simp [kinds, Reply.kind] at asked
  | writing condition =>
      cases reply with
      | status => exact ⟨_, .stored⟩
      | nil =>
          cases condition with
          | always => exact ⟨_, .rejected⟩
          | ifAbsent => exact ⟨_, .keyExists⟩
          | ifPresent => exact ⟨_, .keyMissing⟩
      | _ => simp [kinds, Reply.kind] at asked
  | value =>
      cases reply with
      | bulk => exact ⟨_, .found⟩
      | nil => exact ⟨_, .missing⟩
      | _ => simp [kinds, Reply.kind] at asked
  | members => exact absurd (List.mem_singleton.mp asked) plain
  | fields => exact absurd (List.mem_singleton.mp asked) plain

theorem members_verdict_exists (items : List Reply) :
    ∃ outcome, Verdict .members (.array items) outcome := by
  rcases all_or_odd Reply.Names items with
    ⟨names, all⟩ | ⟨front, names, odd, back, rfl, all, unnamed⟩
  · exact ⟨_, .told (.members all)⟩
  · obtain ⟨failure, rejects⟩ := rejection_exists [.bulk] odd
    exact ⟨_, .oddMember all unnamed rejects⟩

theorem fields_verdict_exists (count : Nat) (items : List Reply) :
    ∃ outcome, Verdict (.fields count) (.array items) outcome := by
  by_cases counted : items.length = count
  · rcases all_or_odd Reply.Holds items with
      ⟨values, all⟩ | ⟨front, values, odd, back, rfl, all, unheld⟩
    · exact ⟨_, .told (.fields counted all)⟩
    · obtain ⟨failure, rejects⟩ := rejection_exists [.bulk, .nil] odd
      exact ⟨_, .oddField counted all unheld rejects⟩
  · exact ⟨_, .miscounted counted⟩

theorem verdict_exists (ask : Ask) (reply : Reply) : ∃ outcome, Verdict ask reply outcome := by
  by_cases asked : reply.kind ∈ ask.kinds
  · by_cases list : reply.kind = .array
    · cases reply with
      | array items =>
          cases ask with
          | members => exact members_verdict_exists items
          | fields count => exact fields_verdict_exists count items
          | _ => simp [kinds, Reply.kind] at asked
      | _ => cases list
    · obtain ⟨answer, told⟩ := told_exists ask reply asked list
      exact ⟨_, .told told⟩
  · obtain ⟨failure, rejects⟩ := rejection_exists ask.kinds reply
    exact ⟨_, .refused asked rejects⟩

structure Tells {α : Type} (shape : Shape α) (tell : α → Answer) (ask : Ask) : Prop where
  kinds : shape.kinds = ask.kinds
  single : .array ∉ ask.kinds
  told : ∀ reply answer, Told ask reply answer → (shape.read reply).map tell = .ok answer
  untaken : ∀ reply, reply.kind ∉ ask.kinds → shape.content? reply = none

theorem plain_verdict {α : Type} {shape : Shape α} {tell : α → Answer} {ask : Ask}
    (tells : Tells shape tell ask) (reply : Reply) (outcome : Except Failure Answer)
    (verdict : Verdict ask reply outcome) : (shape.read reply).map tell = outcome := by
  cases verdict with
  | told told => exact tells.told reply _ told
  | @refused _ _ failure other rejects =>
      rw [← tells.kinds] at rejects
      rw [shape.read_rejected reply failure rejects (tells.untaken reply other)]
      rfl
  | miscounted => exact absurd List.mem_cons_self tells.single
  | oddMember => exact absurd List.mem_cons_self tells.single
  | oddField => exact absurd List.mem_cons_self tells.single

theorem payload_tells : Tells Shape.statusOrBulk .bytes .payload where
  kinds := rfl
  single := by decide
  told reply answer told := by
    cases told <;> rfl
  untaken reply other := by
    cases reply <;> simp_all [kinds, Reply.kind, Shape.statusOrBulk, Shape.bytes?]

theorem completion_tells : Tells Shape.status (fun _ => .done) .completion where
  kinds := rfl
  single := by decide
  told reply answer told := by
    cases told
    rfl
  untaken reply other := by
    cases reply <;> simp_all [kinds, Reply.kind, Shape.status]

theorem integer_tells (tell : Int64 → Answer) (ask : Ask) (kinds : ask.kinds = [.integer])
    (told : ∀ reply answer, Told ask reply answer → ∃ n, reply = .integer n ∧ answer = tell n) :
    Tells Shape.integer tell ask where
  kinds := kinds.symm
  single := by
    rw [kinds]
    decide
  told reply answer said := by
    obtain ⟨n, rfl, rfl⟩ := told reply answer said
    rfl
  untaken reply other := by
    cases reply <;> simp_all [Reply.kind, Shape.integer]

theorem change_tells : Tells Shape.integer (fun n => .flag (n = 1)) .change := by
  refine integer_tells _ _ rfl ?_
  rintro _ _ ⟨⟩
  exact ⟨_, rfl, rfl⟩

theorem membership_tells : Tells Shape.integer (fun n => .flag (n ≠ 0)) .membership := by
  refine integer_tells _ _ rfl ?_
  rintro _ _ ⟨⟩
  exact ⟨_, rfl, rfl⟩

theorem number_tells : Tells Shape.integer .count .number := by
  refine integer_tells _ _ rfl ?_
  rintro _ _ ⟨⟩
  exact ⟨_, rfl, rfl⟩

theorem writing_tells (condition : WriteCondition) :
    Tells (Shape.written condition) .written (.writing condition) where
  kinds := rfl
  single := by
    change _ ∉ [Reply.Kind.status, .nil]
    decide
  told reply answer told := by
    cases told <;> rfl
  untaken reply other := by
    cases reply <;> simp_all [kinds, Reply.kind, Shape.written]

theorem value_tells : Tells Shape.bulkOrNil .value .value where
  kinds := rfl
  single := by decide
  told reply answer told := by
    cases told <;> rfl
  untaken reply other := by
    cases reply <;> simp_all [kinds, Reply.kind, Shape.bulkOrNil]

theorem members_verdict (reply : Reply) (outcome : Except Failure Answer)
    (verdict : Verdict .members reply outcome) : (Call.members reply).map .members = outcome := by
  cases verdict with
  | told told =>
      cases told with
      | @members items names all =>
          change (items.mapM Shape.member.read).map _ = _
          rw [each_read member_recognizes items names all]
          rfl
  | @refused _ _ failure other rejects =>
      have untaken := Shape.array_untaken reply (List.mem_singleton.not.mp other)
      rw [Call.members, Shape.read_rejected Shape.array reply failure rejects untaken]
      rfl
  | @oddMember front back names odd failure all unnamed rejects =>
      change ((front ++ odd :: back).mapM Shape.member.read).map _ = _
      rw [each_stopped member_recognizes front back names odd failure all unnamed rejects]
      rfl

theorem fields_verdict (fields : Fields) (reply : Reply) (outcome : Except Failure Answer)
    (verdict : Verdict (.fields fields.size) reply outcome) :
    (Call.fillFields fields reply).2.map (fun _ => .done) = outcome := by
  cases verdict with
  | told told =>
      cases told with
      | @fields _ items values counted all =>
          rw [(Call.fill_fields_all fields items values all counted).2]
          rfl
  | @refused _ _ failure other rejects =>
      have unlisted : reply.kind ≠ .array := List.mem_singleton.not.mp other
      rw [Call.fill_fields_no_array fields reply failure unlisted rejects]
      rfl
  | @miscounted _ items counted =>
      rw [Call.fill_fields_miscounted fields items counted]
      rfl
  | @oddField _ front back values odd failure counted all unheld rejects =>
      rw [(Call.fill_fields_stopped fields front back odd values failure all unheld rejects counted).2]
      rfl

end Ask

theorem Call.answer_of_verdict (call : Call) (reply : Reply) (outcome : Except Failure Answer)
    (verdict : call.ask.Verdict reply outcome) : call.answer reply = outcome := by
  cases call with
  | ping => exact Ask.plain_verdict Ask.payload_tells reply outcome verdict
  | select | hset => exact Ask.plain_verdict Ask.completion_tells reply outcome verdict
  | expire | expireIn | expireAt => exact Ask.plain_verdict Ask.change_tells reply outcome verdict
  | sismember => exact Ask.plain_verdict Ask.membership_tells reply outcome verdict
  | ttl | sadd | scard | sdiffStore | sinterStore =>
      exact Ask.plain_verdict Ask.number_tells reply outcome verdict
  | set _ _ _ condition =>
      exact Ask.plain_verdict (Ask.writing_tells condition) reply outcome verdict
  | get => exact Ask.plain_verdict Ask.value_tells reply outcome verdict
  | sdiff | sinter => exact Ask.members_verdict reply outcome verdict
  | hget _ fields => exact Ask.fields_verdict fields reply outcome verdict

theorem Call.answer_verdict (call : Call) (reply : Reply) (outcome : Except Failure Answer) :
    call.answer reply = outcome ↔ call.ask.Verdict reply outcome := by
  refine ⟨?_, answer_of_verdict call reply outcome⟩
  rintro rfl
  obtain ⟨outcome, verdict⟩ := Ask.verdict_exists call.ask reply
  rwa [answer_of_verdict call reply outcome verdict]

theorem rejected_blameless (expected : List Reply.Kind) (reply : Reply) (failure : Failure)
    (rejects : Rejects expected reply failure) : failure.fromConnection = false := by
  cases rejects <;> rfl

theorem Ask.verdict_blameless (ask : Ask) (reply : Reply) (failure : Failure)
    (verdict : ask.Verdict reply (.error failure)) : failure.fromConnection = false := by
  cases verdict with
  | refused _ rejects => exact rejected_blameless _ _ failure rejects
  | miscounted => rfl
  | oddMember _ _ rejects => exact rejected_blameless _ _ failure rejects
  | oddField _ _ _ rejects => exact rejected_blameless _ _ failure rejects

def Blameless {α : Type} (result : Except Failure α) : Prop :=
  ∀ failure, result = .error failure → failure.fromConnection = false

theorem Call.answer_blameless (call : Call) (reply : Reply) : Blameless (call.answer reply) := by
  intro failure failed
  have verdict := (call.answer_verdict reply _).mp failed
  exact call.ask.verdict_blameless reply failure verdict

namespace Verdicts
variable {σ κ : Type}

def Judged (link : Link σ κ) (session : Session σ κ) (turn : Turn) (step : Step σ κ) : Prop :=
  ∀ call command reply, turn.action = .call call → call.command turn.now = .ok command →
    session.Receives link command reply →
      step.commands = [command] ∧
        ∀ outcome, step.response.answer = outcome ↔ call.ask.Verdict reply outcome

theorem take_judged (link : Link σ κ) (session : Session σ κ) (turn : Turn) :
    Judged link session turn (session.take link turn) := by
  obtain ⟨now, action⟩ := turn
  rintro call command reply rfl made ⟨connection, after, events, before, network, obtains, ran⟩
  have reached := Session.obtained_reach obtains
  rw [Session.take_call now call command made,
    Session.exchange_replied reply after reached ran]
  refine ⟨?_, call.answer_verdict reply⟩
  cases obtains <;> rfl

/-- In every run the answer to a call is the verdict on the reply that its command receives. -/
theorem every_reply_is_judged (link : Link σ κ) (session : Session σ κ) (turns : List Turn) :
    Session.Along (Judged link) session turns (session.play link turns) := by
  exact Session.play_along (Judged link) (take_judged link) turns session

def spoiledReply : Reply := .array [.bulk [97], .status "b", .error "ERR inner", .nil]

def spoiledSession : Session Script Unit where
  client := { address := ⟨"cache", 6379⟩, connectTimeout := .ofSeconds 2 }
  network := { replies := [.ok spoiledReply] }

theorem spoiled_members_judged :
    spoiledSession.Receives Script.link ⟨"SDIFF", []⟩ spoiledReply ∧
      (spoiledSession.take Script.link ⟨⟨0⟩, .call (.sdiff [])⟩).response.answer =
        .error (.server "ERR inner") := by
  have receives : spoiledSession.Receives Script.link ⟨"SDIFF", []⟩ spoiledReply :=
    ⟨(), (), _, _, _, .dialed rfl rfl, rfl⟩
  have along := every_reply_is_judged Script.link spoiledSession [⟨⟨0⟩, .call (.sdiff [])⟩]
  cases along with
  | cons judged _ =>
      obtain ⟨_, verdicts⟩ := judged (.sdiff []) ⟨"SDIFF", []⟩ spoiledReply rfl rfl receives
      have front : List.Forall₂ Reply.Names [.bulk [97], .status "b"] [[97], Bytes.ofText "b"] :=
        .cons .bulk (.cons .status .nil)
      exact ⟨receives, (verdicts _).mpr (.oddMember front (fun _ named => nomatch named) .server)⟩

end Verdicts
end RespClient

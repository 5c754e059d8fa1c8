import RespClient.Call
import RespClient.Call
import RespClient.Command

set_option autoImplicit false

namespace RespClient

def Expiry.lifetime (now : Instant) (expiry : Expiry) : Except Failure Int64 :=
  let seconds := expiry.remaining now
  if seconds ≤ 0 then .error (.expired seconds) else .ok seconds

namespace Call

def expiryTokens (now : Instant) : Option Expiry → Except Failure (List Token)
  | none => .ok []
  | some expiry => (expiry.lifetime now).map fun seconds => [.word "EX", .int seconds]

def setTokens (now : Instant) (key value : Bytes) (expiry : Option Expiry)
    (condition : WriteCondition) : Except Failure (List Token) :=
  (expiryTokens now expiry).map fun tokens =>
    [.data key, .data value] ++ tokens ++ condition.flag.toList.map .word

def command (now : Instant) : Call → Except Failure Command
  | .ping payload => .ok ⟨"PING", payload.toList.map .data⟩
  | .select index => .ok ⟨"SELECT", [.int (Int64.ofNat index.toNat)]⟩
  | .expire key seconds => .ok ⟨"EXPIRE", [.data key, .int (Int64.ofNat seconds.toNat)]⟩
  | .expireIn key expiry =>
      (expiry.lifetime now).map fun seconds => ⟨"EXPIRE", [.data key, .int seconds]⟩
  | .expireAt key time => .ok ⟨"EXPIREAT", [.data key, .int time]⟩
  | .ttl key => .ok ⟨"TTL", [.data key]⟩
  | .set key value expiry condition =>
      (setTokens now key value expiry condition).map fun tokens => ⟨"SET", tokens⟩
  | .get key => .ok ⟨"GET", [.data key]⟩
  | .sadd key members => .ok ⟨"SADD", .data key :: members.map .data⟩
  | .scard key => .ok ⟨"SCARD", [.data key]⟩
  | .sismember key member => .ok ⟨"SISMEMBER", [.data key, .data member]⟩
  | .sdiff keys => .ok ⟨"SDIFF", keys.map .data⟩
  | .sdiffStore dest keys => .ok ⟨"SDIFFSTORE", .data dest :: keys.map .data⟩
  | .sinter keys => .ok ⟨"SINTER", keys.map .data⟩
  | .sinterStore dest keys => .ok ⟨"SINTERSTORE", .data dest :: keys.map .data⟩
  | .hget key fields => .ok ⟨"HMGET", .data key :: fields.names.map .data⟩
  | .hset key fields =>
      .ok ⟨"HMSET", .data key :: fields.entries.flatMap fun entry => [.data entry.1, .data entry.2]⟩

theorem lifetime_refused (now : Instant) (expiry : Expiry) (failure : Failure)
    (refused : expiry.lifetime now = .error failure) :
    failure = .expired (expiry.remaining now) ∧ expiry.remaining now ≤ 0 := by
  unfold Expiry.lifetime at refused
  dsimp only at refused
  split at refused
  · rename_i due
    cases refused
    exact ⟨rfl, due⟩
  · cases refused

theorem lifetime_granted (now : Instant) (expiry : Expiry) (seconds : Int64)
    (granted : expiry.lifetime now = .ok seconds) :
    seconds = expiry.remaining now ∧ 0 < expiry.remaining now := by
  unfold Expiry.lifetime at granted
  dsimp only at granted
  split at granted
  · cases granted
  · rename_i future
    exact ⟨(Except.ok.inj granted).symm, Int64.not_le.mp future⟩

theorem map_refused {α β : Type} (f : α → β) (result : Except Failure α) (failure : Failure)
    (refused : result.map f = .error failure) : result = .error failure := by
  cases result with
  | error other =>
      cases refused
      rfl
  | ok value => cases refused

theorem map_granted {α β : Type} (f : α → β) (result : Except Failure α) (value : β)
    (granted : result.map f = .ok value) : ∃ found, result = .ok found ∧ f found = value := by
  cases result with
  | error failure => cases granted
  | ok found => exact ⟨found, rfl, Except.ok.inj granted⟩

def expiry? : Call → Option Expiry
  | .expireIn _ expiry => some expiry
  | .set _ _ expiry _ => expiry
  | _ => none

def Valid (now : Instant) (call : Call) : Prop :=
  ∀ expiry, call.expiry? = some expiry → 0 < expiry.remaining now

theorem expiry_granted (now : Instant) (expiry : Option Expiry) (tokens : List Token)
    (granted : expiryTokens now expiry = .ok tokens) :
    (∀ limit, expiry = some limit → 0 < limit.remaining now) ∧
      tokens = (expiry.map fun limit => limit.remaining now).toList.flatMap
        fun seconds => [.word "EX", .int seconds] := by
  cases expiry with
  | none =>
      cases granted
      exact ⟨fun _ absent => (nomatch absent), rfl⟩
  | some expiry =>
      obtain ⟨seconds, lasting, rfl⟩ := map_granted _ _ _ granted
      obtain ⟨rfl, left⟩ := lifetime_granted now expiry seconds lasting
      exact ⟨fun _ same => Option.some.inj same ▸ left, rfl⟩

theorem set_granted (now : Instant) (key value : Bytes) (expiry : Option Expiry)
    (condition : WriteCondition) (command : Command)
    (made : (set key value expiry condition).command now = .ok command) :
    ∃ timing, expiryTokens now expiry = .ok timing ∧
      command = ⟨"SET", [.data key, .data value] ++ timing ++ condition.flag.toList.map .word⟩ := by
  obtain ⟨tokens, listed, rfl⟩ := map_granted _ _ _ made
  obtain ⟨timing, granted, rfl⟩ := map_granted _ _ _ listed
  exact ⟨timing, granted, rfl⟩

theorem command_refused (now : Instant) (call : Call) (failure : Failure)
    (refused : call.command now = .error failure) :
    ∃ expiry, call.expiry? = some expiry ∧ failure = .expired (expiry.remaining now) ∧
      expiry.remaining now ≤ 0 := by
  cases call with
  | expireIn key expiry =>
      exact ⟨expiry, rfl, lifetime_refused now expiry failure (map_refused _ _ _ refused)⟩
  | set key value expiry condition =>
      have due : expiryTokens now expiry = .error failure :=
        map_refused _ _ _ (map_refused _ _ _ refused)
      cases expiry with
      | none => cases due
      | some expiry =>
          exact ⟨expiry, rfl, lifetime_refused now expiry failure (map_refused _ _ _ due)⟩
  | _ => cases refused

theorem command_valid (now : Instant) (call : Call) (command : Command)
    (made : call.command now = .ok command) : call.Valid now := by
  intro expiry carried
  cases call with
  | expireIn key _ =>
      cases carried
      obtain ⟨seconds, granted, _⟩ := map_granted _ _ _ made
      exact (lifetime_granted now expiry seconds granted).2
  | set key value _ condition =>
      obtain ⟨timing, granted, _⟩ := set_granted now key value _ condition command made
      exact (expiry_granted now _ timing granted).1 expiry carried
  | _ => cases carried

theorem command_exists (now : Instant) (call : Call) (valid : call.Valid now) :
    ∃ command, call.command now = .ok command := by
  cases made : call.command now with
  | ok command => exact ⟨command, rfl⟩
  | error failure =>
      obtain ⟨expiry, carried, _, due⟩ := command_refused now call failure made
      exact absurd (valid expiry carried) (Int64.not_lt.mpr due)

theorem due_refused (now : Instant) (call : Call) (expiry : Expiry)
    (carried : call.expiry? = some expiry) (due : expiry.remaining now ≤ 0) :
    call.command now = .error (.expired (expiry.remaining now)) := by
  cases made : call.command now with
  | ok command =>
      exact absurd (command_valid now call command made expiry carried) (Int64.not_lt.mpr due)
  | error failure =>
      obtain ⟨other, same, rfl, _⟩ := command_refused now call failure made
      cases carried.symm.trans same
      rfl

end Call
end RespClient

set_option autoImplicit false

namespace RespClient

def nanosPerSecond : Nat := 1000000000

def saturate (low : Int64) (n : Int) : Int64 :=
  Int64.ofInt (max low.toInt (min n Int64.maxValue.toInt))

structure Span where
  nanos : Nat
deriving DecidableEq, Repr

namespace Span

def ofSeconds (seconds : Nat) : Span := ⟨seconds * nanosPerSecond⟩
def seconds (span : Span) : Nat := span.nanos / nanosPerSecond
def subsecond (span : Span) : Nat := span.nanos % nanosPerSecond

end Span

structure Instant where
  nanos : Int
deriving DecidableEq, Repr

def Instant.unixSeconds (instant : Instant) : Int64 :=
  saturate (-Int64.maxValue) (instant.nanos.tdiv nanosPerSecond)

inductive Expiry where
  | after (ttl : Span)
  | atUnix (seconds : Int64)
deriving DecidableEq, Repr

namespace Expiry

def atInstant (deadline : Instant) : Expiry := .atUnix deadline.unixSeconds

def remaining (now : Instant) : Expiry → Int64
  | .after ttl => saturate 0 ttl.seconds
  | .atUnix deadline => saturate Int64.minValue (deadline.toInt - now.unixSeconds.toInt)

end Expiry

theorem saturate_exact (low : Int64) (n : Int) :
    (saturate low n).toInt = max low.toInt (min n Int64.maxValue.toInt) := by
  have lowest := Int64.le_toInt low
  have low_highest := Int64.toInt_le low
  have highest := Int64.toInt_maxValue
  exact Int64.toInt_ofInt_of_le (by omega) (by omega)

theorem saturate_mono (low : Int64) (n m : Int) (most : n ≤ m) : saturate low n ≤ saturate low m := by
  rw [Int64.le_iff_toInt_le, saturate_exact, saturate_exact]
  omega

theorem second_positive : (0 : Int) < nanosPerSecond := by
  decide

namespace Instant

theorem unix_seconds_mono (one other : Instant) (earlier : one.nanos ≤ other.nanos) :
    one.unixSeconds ≤ other.unixSeconds := by
  exact saturate_mono _ _ _ (Int.tdiv_le_tdiv second_positive earlier)

theorem whole_second_reached (seconds : Int64) (now : Instant)
    (reached : seconds.toInt * nanosPerSecond ≤ now.nanos) : seconds ≤ now.unixSeconds := by
  have whole : seconds.toInt ≤ now.nanos.tdiv nanosPerSecond :=
    Int.le_tdiv_of_mul_le second_positive reached
  have highest := Int64.toInt_le seconds
  rw [Int64.le_iff_toInt_le, unixSeconds, saturate_exact]
  omega

end Instant

namespace Expiry

inductive Reached (now : Instant) : Expiry → Prop where
  | atUnix {seconds : Int64} : seconds.toInt * nanosPerSecond ≤ now.nanos → Reached now (.atUnix seconds)
  | atInstant {deadline : Instant} : deadline.nanos ≤ now.nanos → Reached now (.atInstant deadline)

theorem remaining_due (seconds : Int64) (now : Instant) (due : seconds ≤ now.unixSeconds) :
    (atUnix seconds).remaining now ≤ 0 := by
  rw [Int64.le_iff_toInt_le] at due ⊢
  rw [remaining, saturate_exact, Int64.toInt_minValue, Int64.toInt_zero]
  omega

theorem reached_due (now : Instant) (expiry : Expiry) (reached : Reached now expiry) :
    expiry.remaining now ≤ 0 := by
  cases reached with
  | @atUnix seconds passed =>
      exact remaining_due seconds now (Instant.whole_second_reached seconds now passed)
  | @atInstant deadline passed =>
      exact remaining_due deadline.unixSeconds now (Instant.unix_seconds_mono deadline now passed)

end Expiry
end RespClient

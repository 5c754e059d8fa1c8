import RespClient.Expiry

set_option autoImplicit false

namespace RespClient

namespace Instant

def wholeSeconds (instant : Instant) : Int := instant.nanos.tdiv nanosPerSecond

def SameSide (one other : Instant) : Prop :=
  0 ≤ one.nanos ∧ 0 ≤ other.nanos ∨ one.nanos ≤ 0 ∧ other.nanos ≤ 0

def Countable (instant : Instant) : Prop :=
  -9223372036854775807 ≤ instant.wholeSeconds ∧ instant.wholeSeconds ≤ 9223372036854775807

def Fits (instant : Instant) : Prop :=
  -9223372036854775808 ≤ instant.wholeSeconds ∧ instant.wholeSeconds ≤ 9223372036854775807

theorem unix_seconds_exact (instant : Instant) :
    instant.unixSeconds.toInt =
      max (-9223372036854775807) (min instant.wholeSeconds 9223372036854775807) := by
  exact saturate_exact _ _

theorem whole_seconds_part (instant : Instant) :
    ∃ part : Int, instant.nanos = instant.wholeSeconds * nanosPerSecond + part ∧
      (0 ≤ instant.nanos → 0 ≤ instant.wholeSeconds ∧ 0 ≤ part ∧ part < nanosPerSecond) ∧
      (instant.nanos ≤ 0 → instant.wholeSeconds ≤ 0 ∧ part ≤ 0 ∧ -nanosPerSecond < part) := by
  refine ⟨instant.nanos.tmod nanosPerSecond, ?_, ?_, ?_⟩
  · rw [Int.mul_comm]
    exact (Int.mul_tdiv_add_tmod _ _).symm
  · intro later
    exact ⟨Int.tdiv_nonneg later (Int.le_of_lt second_positive), Int.tmod_nonneg _ later,
      Int.tmod_lt_of_pos _ second_positive⟩
  · intro earlier
    have opposite : 0 ≤ -instant.nanos := Int.neg_nonneg_of_nonpos earlier
    have whole := Int.tdiv_nonneg opposite (Int.le_of_lt second_positive)
    have part := Int.tmod_nonneg nanosPerSecond opposite
    rw [Int.neg_tdiv] at whole
    rw [Int.neg_tmod] at part
    exact ⟨Int.nonpos_of_neg_nonneg whole, Int.nonpos_of_neg_nonneg part,
      Int.lt_tmod_of_pos _ second_positive⟩

end Instant

namespace Expiry

def off (remaining : Instant → Expiry → Int64) (deadline now : Instant) : Nat :=
  ((remaining now (.atInstant deadline)).toInt * nanosPerSecond -
    (deadline.nanos - now.nanos)).natAbs

structure CountsDown (remaining : Instant → Expiry → Int64) : Prop where
  difference : ∀ (deadline : Int64) (now : Instant),
    (remaining now (.atUnix deadline)).toInt =
      max (-9223372036854775808) (min
        (deadline.toInt - max (-9223372036854775807) (min now.wholeSeconds 9223372036854775807))
        9223372036854775807)
  laterDeadline : ∀ deadline later now : Instant, deadline.nanos ≤ later.nanos →
    remaining now (.atInstant deadline) ≤ remaining now (.atInstant later)
  laterClock : ∀ deadline now later : Instant, now.nanos ≤ later.nanos →
    remaining later (.atInstant deadline) ≤ remaining now (.atInstant deadline)
  due : ∀ deadline now : Instant, deadline.nanos ≤ now.nanos →
    remaining now (.atInstant deadline) ≤ 0
  close : ∀ deadline now : Instant, deadline.SameSide now → deadline.Countable → now.Countable →
    off remaining deadline now < nanosPerSecond
  edge : ∀ deadline now : Instant, deadline.SameSide now → deadline.Fits → now.Fits →
    off remaining deadline now < 2 * nanosPerSecond
  span : ∀ (ttl : Span) (now : Instant),
    (remaining now (.after ttl)).toInt =
      min ((ttl.nanos / nanosPerSecond : Nat) : Int) 9223372036854775807

theorem at_unix_exact (deadline : Int64) (now : Instant) :
    (remaining now (.atUnix deadline)).toInt =
      max (-9223372036854775808)
        (min (deadline.toInt - now.unixSeconds.toInt) 9223372036854775807) := by
  exact saturate_exact _ _

theorem later_deadline (deadline later now : Instant) (order : deadline.nanos ≤ later.nanos) :
    remaining now (.atInstant deadline) ≤ remaining now (.atInstant later) := by
  have seconds := Int64.le_iff_toInt_le.mp (Instant.unix_seconds_mono deadline later order)
  exact saturate_mono _ _ _ (Int.sub_le_sub_right seconds _)

theorem later_clock (deadline now later : Instant) (order : now.nanos ≤ later.nanos) :
    remaining later (.atInstant deadline) ≤ remaining now (.atInstant deadline) := by
  have seconds := Int64.le_iff_toInt_le.mp (Instant.unix_seconds_mono now later order)
  exact saturate_mono _ _ _ (Int.sub_le_sub_left seconds _)

theorem same_side_difference (deadline now : Instant) (side : deadline.SameSide now) :
    (remaining now (.atInstant deadline)).toInt =
      deadline.unixSeconds.toInt - now.unixSeconds.toInt := by
  obtain ⟨_, _, deadlineLater, deadlineEarlier⟩ := deadline.whole_seconds_part
  obtain ⟨_, _, nowLater, nowEarlier⟩ := now.whole_seconds_part
  have deadlineExact := deadline.unix_seconds_exact
  have nowExact := now.unix_seconds_exact
  rw [atInstant, at_unix_exact]
  rcases side with ⟨first, second⟩ | ⟨first, second⟩
  · have deadlineWhole := (deadlineLater first).1
    have nowWhole := (nowLater second).1
    omega
  · have deadlineWhole := (deadlineEarlier first).1
    have nowWhole := (nowEarlier second).1
    omega

-- The parts cut off lie on one side of the epoch too, so their difference is below a second. What
-- is off beyond it has been moved into the range of the whole seconds.
theorem off_moved (deadline now : Instant) (side : deadline.SameSide now) :
    ∃ moved rest : Int,
      moved = deadline.unixSeconds.toInt - deadline.wholeSeconds -
        (now.unixSeconds.toInt - now.wholeSeconds) ∧
      -nanosPerSecond < rest ∧ rest < nanosPerSecond ∧
      off remaining deadline now = (moved * nanosPerSecond + rest).natAbs := by
  obtain ⟨cut, deadlineSum, deadlineLater, deadlineEarlier⟩ := deadline.whole_seconds_part
  obtain ⟨nowCut, nowSum, nowLater, nowEarlier⟩ := now.whole_seconds_part
  have bounds : -nanosPerSecond < nowCut - cut ∧ nowCut - cut < nanosPerSecond := by
    rcases side with ⟨first, second⟩ | ⟨first, second⟩
    · have one := (deadlineLater first).2
      have other := (nowLater second).2
      omega
    · have one := (deadlineEarlier first).2
      have other := (nowEarlier second).2
      omega
  refine ⟨_, nowCut - cut, rfl, bounds.1, bounds.2, ?_⟩
  rw [off, same_side_difference deadline now side]
  congr 1
  simp only [Int.sub_mul]
  omega

theorem off_countable (deadline now : Instant) (side : deadline.SameSide now)
    (deadlineCounts : deadline.Countable) (nowCounts : now.Countable) :
    off remaining deadline now < nanosPerSecond := by
  obtain ⟨moved, rest, shift, least, most, distance⟩ := off_moved deadline now side
  have deadlineExact := deadline.unix_seconds_exact
  have nowExact := now.unix_seconds_exact
  have unmoved : moved = 0 := by
    unfold Instant.Countable at deadlineCounts nowCounts
    omega
  rw [distance, unmoved]
  omega

theorem off_fitting (deadline now : Instant) (side : deadline.SameSide now)
    (deadlineFits : deadline.Fits) (nowFits : now.Fits) :
    off remaining deadline now < 2 * nanosPerSecond := by
  obtain ⟨moved, rest, shift, least, most, distance⟩ := off_moved deadline now side
  have deadlineExact := deadline.unix_seconds_exact
  have nowExact := now.unix_seconds_exact
  have atMost : moved = -1 ∨ moved = 0 ∨ moved = 1 := by
    unfold Instant.Fits at deadlineFits nowFits
    omega
  rw [distance]
  rcases atMost with back | unmoved | forth
  · rw [back]
    omega
  · rw [unmoved]
    omega
  · rw [forth]
    omega

theorem span_exact (ttl : Span) (now : Instant) :
    (remaining now (.after ttl)).toInt =
      min ((ttl.nanos / nanosPerSecond : Nat) : Int) 9223372036854775807 := by
  rw [remaining, saturate_exact]
  exact Int.max_eq_right (Int.le_min.mpr ⟨Int.natCast_nonneg _, by decide⟩)

/-- The seconds left are exact but for the parts cut off and the ends of the range. -/
theorem remaining_counts_down : CountsDown remaining where
  difference deadline now := by
    rw [at_unix_exact, Instant.unix_seconds_exact]
  laterDeadline := later_deadline
  laterClock := later_clock
  due deadline now passed := reached_due now _ (.atInstant passed)
  close := off_countable
  edge := off_fitting
  span := span_exact

def earliest : Instant := ⟨-9223372036854775808000000000⟩
def lastBefore : Instant := ⟨-1000000000⟩

theorem earliest_second_told_late :
    earliest.SameSide lastBefore ∧ earliest.Fits ∧ lastBefore.Fits ∧
      ¬ off remaining earliest lastBefore < nanosPerSecond := by
  unfold Instant.SameSide Instant.Fits
  decide

end Expiry
end RespClient

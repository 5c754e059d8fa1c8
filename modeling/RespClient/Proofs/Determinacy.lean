import RespClient.Proofs.Headers
import RespClient.Proofs.Lines

set_option autoImplicit false

namespace RespClient.Reply

theorem scan_after_incremental (levels : Nat)
    (nested : ∀ below, levels = below + 1 → Scan.Incremental (scanWithin below)) (line : Bytes) :
    Scan.Incremental (scanAfter levels line) := by
  unfold scanAfter
  cases Header.ofLine line with
  | error fault => exact Scan.incremental_of_verdict (.malformed fault)
  | ok header =>
      cases header with
      | complete reply => exact Scan.incremental_of_verdict (.done reply)
      | bulk length => exact Scan.map_incremental (scan_bulk_incremental length) Reply.bulk
      | array count =>
          cases levels with
          | zero => exact Scan.incremental_of_verdict (.malformed .nestedTooDeep)
          | succ below =>
              exact Scan.map_incremental (Scan.many_incremental (nested below rfl) count [])
                Reply.array

-- The induction is on the levels: an array scans its elements with one level less.
theorem scan_within_incremental (levels : Nat) : Scan.Incremental (scanWithin levels) := by
  rw [scan_within_line]
  refine Scan.and_then_incremental scan_line_incremental _ (scan_after_incremental levels ?_)
  intro below same
  subst same
  exact scan_within_incremental below

theorem scan_incremental : Scan.Incremental scan := by
  exact scan_within_incremental maxDepth

def Reads (ending : Ending) (bytes : Bytes) (outcome : Except LinkError Reply) (count : Nat) : Prop :=
  count ≤ bytes.length ∧ read ending bytes = (outcome, bytes.drop count)

theorem reads_unique (ending : Ending) (bytes : Bytes) (first second : Except LinkError Reply)
    (a b : Nat) (one : Reads ending bytes first a) (other : Reads ending bytes second b) :
    first = second ∧ a = b := by
  obtain ⟨aBound, aRead⟩ := one
  obtain ⟨bBound, bRead⟩ := other
  rw [aRead, Prod.mk.injEq] at bRead
  have lengths := congrArg List.length bRead.2
  rw [List.length_drop, List.length_drop] at lengths
  exact ⟨bRead.1, by omega⟩

def conclusion : Scan.Verdict Reply → Except LinkError Reply
  | .done reply => .ok reply
  | .malformed fault => .error (.protocol fault.text)

theorem reads_decided (used rest : Bytes) (verdict : Scan.Verdict Reply)
    (decides : Scan.Decides scan used verdict) (ending : Ending) :
    Reads ending (used ++ rest) (conclusion verdict) used.length := by
  refine ⟨by simp, ?_⟩
  rw [read, decides rest, List.drop_left]
  cases verdict <;> rfl

theorem reads_short (bytes : Bytes) (short : scan bytes = .short) (ending : Ending) :
    Reads ending bytes (.error ending.error) bytes.length := by
  refine ⟨Nat.le_refl _, ?_⟩
  rw [read, short, List.drop_length]
  rfl

theorem reads_total (ending : Ending) (bytes : Bytes) :
    ∃ outcome count, Reads ending bytes outcome count := by
  rcases scan_incremental bytes with short | ⟨used, rest, verdict, rfl, decides⟩
  · exact ⟨_, _, reads_short bytes short ending⟩
  · exact ⟨_, _, reads_decided used rest verdict decides ending⟩

theorem read_at_ok_iff (depth : Nat) (ending : Ending) (bytes rest : Bytes) (reply : Reply) :
    readAt depth ending bytes = (.ok reply, rest) ↔ scanAt depth bytes = .done reply rest := by
  unfold readAt
  cases scanAt depth bytes <;> simp [Scan.settle]

theorem read_ok_iff (ending : Ending) (bytes rest : Bytes) (reply : Reply) :
    read ending bytes = (.ok reply, rest) ↔ scan bytes = .done reply rest := by
  exact read_at_ok_iff 0 ending bytes rest reply

structure Settled (ending : Ending) (bytes : Bytes) (outcome : Except LinkError Reply)
    (count : Nat) : Prop where
  conclusive : (∃ reply, outcome = .ok reply) ∨ ∃ reason, outcome = .error (.protocol reason)
  reads : Reads ending bytes outcome count
  stable : ∀ (other : Bytes) (otherEnding : Ending), count ≤ other.length →
    other.take count = bytes.take count → Reads otherEnding other outcome count

structure RunsOut (bytes : Bytes) : Prop where
  closed : Reads .endOfFile bytes (.error .closed) bytes.length
  failed : ∀ error : IoError, Reads (.failure error) bytes (.error (.io error)) bytes.length

theorem settled_of_decides (used rest : Bytes) (verdict : Scan.Verdict Reply)
    (decides : Scan.Decides scan used verdict) (ending : Ending) :
    Settled ending (used ++ rest) (conclusion verdict) used.length where
  conclusive := by
    cases verdict with
    | done reply => exact Or.inl ⟨reply, rfl⟩
    | malformed fault => exact Or.inr ⟨fault.text, rfl⟩
  reads := reads_decided used rest verdict decides ending
  stable := by
    intro other otherEnding enough same
    rw [List.take_left] at same
    obtain ⟨back, rfl⟩ : ∃ back, other = used ++ back :=
      ⟨other.drop used.length, by
        calc
          other = other.take used.length ++ other.drop used.length := by simp
          _ = used ++ other.drop used.length := by rw [same]⟩
    exact reads_decided used back verdict decides otherEnding

theorem runs_out_of_short (bytes : Bytes) (short : scan bytes = .short) : RunsOut bytes where
  closed := reads_short bytes short .endOfFile
  failed error := reads_short bytes short (.failure error)

theorem settled_or_runs_out (bytes : Bytes) (ending : Ending) :
    (∃ outcome count, Settled ending bytes outcome count) ∨ RunsOut bytes := by
  rcases scan_incremental bytes with short | ⟨used, rest, verdict, rfl, decides⟩
  · exact Or.inr (runs_out_of_short bytes short)
  · exact Or.inl ⟨_, _, settled_of_decides used rest verdict decides ending⟩

theorem runs_out_reads (bytes : Bytes) (ending : Ending) (runsOut : RunsOut bytes) :
    Reads ending bytes (.error ending.error) bytes.length := by
  cases ending with
  | endOfFile => exact runsOut.closed
  | failure error => exact runsOut.failed error

theorem settled_of_conclusive (bytes : Bytes) (ending : Ending) (outcome : Except LinkError Reply)
    (count : Nat) (reads : Reads ending bytes outcome count)
    (conclusive : (∃ reply, outcome = .ok reply) ∨ ∃ reason, outcome = .error (.protocol reason)) :
    Settled ending bytes outcome count := by
  rcases settled_or_runs_out bytes ending with ⟨other, otherCount, settled⟩ | runsOut
  · obtain ⟨rfl, rfl⟩ := reads_unique ending bytes _ _ _ _ settled.reads reads
    exact settled
  · have short := (reads_unique _ _ _ _ _ _ reads (runs_out_reads bytes ending runsOut)).1
    rcases conclusive with ⟨reply, replied⟩ | ⟨reason, refused⟩
    · exact nomatch short.symm.trans replied
    · cases ending <;> exact nomatch short.symm.trans refused

theorem settled_not_runs_out (bytes : Bytes) (ending : Ending) (outcome : Except LinkError Reply)
    (count : Nat) (settled : Settled ending bytes outcome count) : ¬ RunsOut bytes := by
  intro runsOut
  have same : outcome = .error ending.error :=
    (reads_unique _ _ _ _ _ _ settled.reads (runs_out_reads bytes ending runsOut)).1
  rcases settled.conclusive with ⟨reply, replied⟩ | ⟨reason, refused⟩
  · exact nomatch same.symm.trans replied
  · cases ending <;> exact nomatch same.symm.trans refused

theorem strict_prefix_runs_out (bytes : Bytes) (ending : Ending) (reply : Reply)
    (accepted : Reads ending bytes (.ok reply) bytes.length) (count : Nat)
    (shorter : count < bytes.length) : RunsOut (bytes.take count) := by
  obtain ⟨_, returned⟩ := accepted
  rw [List.drop_length, read_ok_iff] at returned
  obtain ⟨used, whole, decides⟩ :=
    Scan.incremental_verdict scan_incremental bytes [] (.done reply) returned
  rw [List.append_nil] at whole
  subst whole
  have missing : bytes.drop count ≠ [] := by
    rw [ne_eq, List.drop_eq_nil_iff]
    omega
  rw [← List.take_append_drop count bytes] at decides
  exact runs_out_of_short _
    (Scan.short_before_verdict scan_incremental _ _ (.done reply) missing decides)

/-- Either the bytes used settle the outcome whatever follows them, or the stream runs out. -/
theorem read_settles_or_runs_out (bytes : Bytes) (ending : Ending) :
    ((∃ outcome count, Settled ending bytes outcome count) ∨ RunsOut bytes) ∧
      ¬ ((∃ outcome count, Settled ending bytes outcome count) ∧ RunsOut bytes) ∧
      ∀ reply, Reads ending bytes (.ok reply) bytes.length →
        ∀ count, count < bytes.length → RunsOut (bytes.take count) := by
  refine ⟨settled_or_runs_out bytes ending, ?_, ?_⟩
  · intro both
    obtain ⟨⟨outcome, count, settled⟩, runsOut⟩ := both
    exact settled_not_runs_out bytes ending outcome count settled runsOut
  · intro reply accepted count shorter
    exact strict_prefix_runs_out bytes ending reply accepted count shorter

end RespClient.Reply

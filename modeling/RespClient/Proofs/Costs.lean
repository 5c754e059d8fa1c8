import RespClient.Proofs.Acceptance

set_option autoImplicit false

namespace RespClient

namespace Reply

-- An array of which an element is being read: how many come after it, and those before it, the
-- last one first.
structure Begun where
  behind : Nat
  found : List Reply
deriving Repr

inductive Progress where
  | reading (pile : List Begun) (bytes : Bytes)
  | ended (scan : Scan Reply)
deriving Repr

def deliver (reply : Reply) (rest : Bytes) : List Begun → Progress
  | [] => .ended (.done reply rest)
  | ⟨0, found⟩ :: outer => deliver (.array (reply :: found).reverse) rest outer
  | ⟨behind + 1, found⟩ :: outer => .reading (⟨behind, reply :: found⟩ :: outer) rest

def goOn {α : Type} (scan : Scan α) (next : α → Bytes → Progress) : Progress :=
  match scan with
  | .done value rest => next value rest
  | .malformed fault rest => .ended (.malformed fault rest)
  | .short => .ended .short

def turn (pile : List Begun) (bytes : Bytes) : Progress :=
  goOn (scanLine bytes) fun line rest =>
    match Header.ofLine line with
    | .error fault => .ended (.malformed fault rest)
    | .ok (.complete reply) => deliver reply rest pile
    | .ok (.bulk length) => goOn (scanBulk length rest) fun data rest => deliver (.bulk data) rest pile
    | .ok (.array count) =>
        if maxDepth ≤ pile.length then .ended (.malformed .nestedTooDeep rest)
        else match count with
          | 0 => deliver (.array []) rest pile
          | behind + 1 => .reading (⟨behind, []⟩ :: pile) rest

def after : Nat → Progress → Progress
  | turns + 1, .reading pile bytes => after turns (turn pile bytes)
  | _, progress => progress

end Reply

def Scan.left {α : Type} : Scan α → Bytes
  | .done _ rest => rest
  | .malformed _ rest => rest
  | .short => []

theorem Scan.incremental_left {α : Type} (one : Bytes → Scan α) (incremental : Incremental one)
    (bytes : Bytes) : (one bytes).left.length ≤ bytes.length := by
  rcases incremental bytes with short | ⟨used, rest, verdict, rfl, decides⟩
  · rw [short]
    exact Nat.zero_le _
  · have behind : (verdict.leaving rest).left = rest := by cases verdict <;> rfl
    rw [decides rest, behind, List.length_append]
    exact Nat.le_add_left _ _

namespace Reply

-- What the read comes to once the reply that is being read has come to this.
def resume : List Begun → Scan Reply → Scan Reply
  | [], scan => scan
  | ⟨behind, found⟩ :: outer, scan =>
      resume outer ((scan.andThen fun item rest =>
        Scan.many (scanAt (outer.length + 1)) behind (item :: found) rest).map .array)

def Progress.outcome : Progress → Scan Reply
  | .reading pile bytes => resume pile (scanAt pile.length bytes)
  | .ended scan => scan

theorem resume_malformed (pile : List Begun) (fault : Fault) (rest : Bytes) :
    resume pile (.malformed fault rest) = .malformed fault rest := by
  induction pile with
  | nil => rfl
  | cons begun outer ih => exact ih

theorem resume_short (pile : List Begun) : resume pile .short = .short := by
  induction pile with
  | nil => rfl
  | cons begun outer ih => exact ih

-- The induction is on the pile: the innermost array either goes on or is complete, and then it is
-- delivered to the array around it.
theorem deliver_outcome (pile : List Begun) (reply : Reply) (rest : Bytes) :
    (deliver reply rest pile).outcome = resume pile (.done reply rest) := by
  induction pile generalizing reply with
  | nil => rfl
  | cons begun outer ih =>
      obtain ⟨behind, found⟩ := begun
      cases behind with
      | zero => exact ih _
      | succ behind => rfl

theorem go_on_outcome {α : Type} (pile : List Begun) (scan : Scan α) (next : α → Bytes → Progress)
    (later : α → Bytes → Scan Reply)
    (same : ∀ value rest, (next value rest).outcome = resume pile (later value rest)) :
    (goOn scan next).outcome = resume pile (scan.andThen later) := by
  cases scan with
  | done value rest => exact same value rest
  | malformed fault rest => exact (resume_malformed pile fault rest).symm
  | short => exact (resume_short pile).symm

theorem turn_outcome (pile : List Begun) (bytes : Bytes) :
    (turn pile bytes).outcome = (Progress.reading pile bytes).outcome := by
  rw [Progress.outcome, scan_at_line]
  refine go_on_outcome pile (scanLine bytes) _ _ ?_
  intro line rest
  cases Header.ofLine line with
  | error fault => exact (resume_malformed pile fault rest).symm
  | ok header =>
      cases header with
      | complete reply => exact deliver_outcome pile reply rest
      | bulk length =>
          exact go_on_outcome pile (scanBulk length rest) _ _ fun data rest =>
            deliver_outcome pile (.bulk data) rest
      | array count =>
          dsimp only
          by_cases deep : maxDepth ≤ pile.length
          · rw [if_pos deep, if_pos deep]
            exact (resume_malformed pile .nestedTooDeep rest).symm
          · rw [if_neg deep, if_neg deep]
            cases count with
            | zero => exact deliver_outcome pile (.array []) rest
            | succ behind => rfl

theorem after_outcome (turns : Nat) (progress : Progress) :
    (after turns progress).outcome = progress.outcome := by
  induction turns generalizing progress with
  | zero => rfl
  | succ turns ih =>
      cases progress with
      | reading pile bytes => exact (ih _).trans (turn_outcome pile bytes)
      | ended scan => rfl

def Progress.Paid (received : Nat) : Progress → Prop
  | .reading _ rest => rest.length + 3 ≤ received
  | .ended scan => scan.left.length ≤ received

theorem deliver_paid (received : Nat) (pile : List Begun) (reply : Reply) (rest : Bytes)
    (used : rest.length + 3 ≤ received) : (deliver reply rest pile).Paid received := by
  induction pile generalizing reply with
  | nil => exact Nat.le_trans (Nat.le_add_right _ 3) used
  | cons begun outer ih =>
      obtain ⟨behind, found⟩ := begun
      cases behind with
      | zero => exact ih _
      | succ behind => exact used

theorem go_on_paid {α : Type} (received : Nat) (scan : Scan α) (next : α → Bytes → Progress)
    (bounded : scan.left.length ≤ received)
    (paid : ∀ value rest, scan = .done value rest → (next value rest).Paid received) :
    (goOn scan next).Paid received := by
  cases scan with
  | done value rest => exact paid value rest rfl
  | malformed fault rest => exact bounded
  | short => exact bounded

theorem line_paid (bytes line rest : Bytes) (header : Header)
    (scanned : scanLine bytes = .done line rest) (announced : Header.ofLine line = .ok header) :
    rest.length + 3 ≤ bytes.length := by
  obtain ⟨used, rfl, rfl, _, _⟩ := (scan_line_accepts bytes line rest).mp scanned
  cases line with
  | nil => cases announced
  | cons type text =>
      simp only [List.length_append, List.length_cons, crlf, List.length_nil]
      omega

theorem turn_paid (pile : List Begun) (bytes : Bytes) : (turn pile bytes).Paid bytes.length := by
  have bounded := Scan.incremental_left scanLine scan_line_incremental bytes
  refine go_on_paid bytes.length (scanLine bytes) _ bounded ?_
  intro line rest scanned
  rw [scanned] at bounded
  cases announced : Header.ofLine line with
  | error fault => exact bounded
  | ok header =>
      have used := line_paid bytes line rest header scanned announced
      cases header with
      | complete reply => exact deliver_paid _ pile reply rest used
      | bulk length =>
          have behind := Scan.incremental_left (scanBulk length) (scan_bulk_incremental length) rest
          refine go_on_paid bytes.length (scanBulk length rest) _ (Nat.le_trans behind bounded) ?_
          intro data tail framed
          rw [framed] at behind
          exact deliver_paid _ pile (.bulk data) tail
            (Nat.le_trans (Nat.add_le_add_right behind 3) used)
      | array count =>
          dsimp only
          by_cases deep : maxDepth ≤ pile.length
          · rw [if_pos deep]
            exact bounded
          · rw [if_neg deep]
            cases count with
            | zero => exact deliver_paid _ pile (.array []) rest used
            | succ behind => exact used

theorem turn_shorter (pile above : List Begun) (bytes rest : Bytes)
    (next : turn pile bytes = .reading above rest) : rest.length + 3 ≤ bytes.length := by
  have paid := turn_paid pile bytes
  rw [next] at paid
  exact paid

-- The measure is what has not been read yet: neither a count nor a depth of nesting bounds the
-- turns, but each of them that goes on leaves three bytes less.
theorem reading_ends (pile : List Begun) (bytes : Bytes) :
    ∃ turns scan, after turns (.reading pile bytes) = .ended scan ∧
      3 * turns + scan.left.length ≤ bytes.length + 3 := by
  cases next : turn pile bytes with
  | ended scan =>
      have paid := turn_paid pile bytes
      rw [next] at paid
      have bounded : scan.left.length ≤ bytes.length := paid
      exact ⟨1, scan, next, by omega⟩
  | reading above rest =>
      have shorter := turn_shorter pile above bytes rest next
      obtain ⟨turns, scan, ended, bounded⟩ := reading_ends above rest
      refine ⟨turns + 1, scan, ?_, by omega⟩
      rw [after, next]
      exact ended
termination_by bytes.length
decreasing_by omega

theorem line_pays (type : Char) (body : Bytes) : 3 ≤ (Framing.line type body).length := by
  simp [Framing.line, crlf]

mutual
theorem encodes_paid (depth : Nat) (used : Bytes) (reply : Reply) (encodes : Encodes depth used reply) :
    3 * nodes reply + payload reply ≤ used.length := by
  cases reply with
  | status text =>
      cases encodes with
      | status fits => exact line_pays '+' _
  | error text =>
      cases encodes with
      | error fits => exact line_pays '-' _
  | integer value =>
      cases encodes with
      | integer fits numeral => exact line_pays ':' _
  | bulk data =>
      cases encodes with
      | @bulk _ body _ fits numeral bounded =>
          have line := line_pays '$' body
          simp only [nodes, payload, List.length_append]
          omega
  | nil =>
      cases encodes with
      | noBulk fits numeral => exact line_pays '$' _
      | noArray fits numeral => exact line_pays '*' _
  | array items =>
      cases encodes with
      | @array _ body bytes _ fits numeral shallow all =>
          have line := line_pays '*' body
          have elements := encodes_all_paid (depth + 1) bytes items all
          simp only [nodes, payload, List.length_append]
          omega
theorem encodes_all_paid (depth : Nat) (used : Bytes) (items : List Reply)
    (all : EncodesAll depth used items) : 3 * nodesAll items + payloadAll items ≤ used.length := by
  cases items with
  | nil =>
      cases all
      exact Nat.le_refl 0
  | cons item items =>
      cases all with
      | cons first rest =>
          have one := encodes_paid depth _ item first
          have others := encodes_all_paid depth _ items rest
          simp only [nodesAll, payloadAll, List.length_append]
          omega
end

theorem nodes_positive (reply : Reply) : 0 < nodes reply := by
  cases reply <;> simp [nodes]

theorem scan_at_paid (depth : Nat) (bytes rest : Bytes) (reply : Reply)
    (scanned : scanAt depth bytes = .done reply rest) : rest.length + 3 ≤ bytes.length := by
  have total : maxDepth - (maxDepth - depth) + (maxDepth - depth) = maxDepth :=
    Nat.sub_add_cancel (Nat.sub_le _ _)
  obtain ⟨used, rfl, encodes⟩ := (scan_within_accepts _ _ total bytes reply rest).mp scanned
  have paid := encodes_paid _ used reply encodes
  have one := nodes_positive reply
  rw [List.length_append]
  omega

structure PaidFor (ending : Ending) (bytes : Bytes) : Prop where
  ends : ∃ turns scan outcome count, after turns (.reading [] bytes) = .ended scan ∧
    scan.settle ending = read ending bytes ∧ Reads ending bytes outcome count ∧
    3 * turns ≤ count + 3
  sized : ∀ reply count, Reads ending bytes (.ok reply) count →
    3 * reply.nodes + reply.payload ≤ count
  elements : ∀ turns pile left, after turns (.reading [] bytes) = .reading pile left →
    (∃ item rest, readAt pile.length ending left = (.ok item, rest) ∧
      rest.length + 3 ≤ left.length) ∨
    ∃ error rest, readAt pile.length ending left = (.error error, rest) ∧
      read ending bytes = (.error error, rest)

theorem settle_left {α : Type} (scan : Scan α) (ending : Ending) :
    (scan.settle ending).2 = scan.left := by
  cases scan <;> rfl

theorem read_ends (ending : Ending) (bytes : Bytes) :
    ∃ turns scan outcome count, after turns (.reading [] bytes) = .ended scan ∧
      scan.settle ending = read ending bytes ∧ Reads ending bytes outcome count ∧
      3 * turns ≤ count + 3 := by
  obtain ⟨turns, scan, ended, bounded⟩ := reading_ends [] bytes
  have same : scan = Reply.scan bytes := by
    have outcome := after_outcome turns (.reading [] bytes)
    rwa [ended] at outcome
  obtain ⟨outcome, count, reads⟩ := reads_total ending bytes
  refine ⟨turns, scan, outcome, count, ended, by rw [same, read], reads, ?_⟩
  obtain ⟨inside, returned⟩ := reads
  have left : scan.left = bytes.drop count := by
    rw [← settle_left scan ending, same, ← read, returned]
  rw [left, List.length_drop] at bounded
  omega

theorem returned_reply_paid (ending : Ending) (bytes : Bytes) (reply : Reply) (count : Nat)
    (reads : Reads ending bytes (.ok reply) count) : 3 * reply.nodes + reply.payload ≤ count := by
  obtain ⟨inside, encodes⟩ := (reads_encoding ending bytes reply count).mp reads
  have paid := encodes_paid 0 _ reply encodes
  rwa [List.length_take, Nat.min_eq_left inside] at paid

theorem element_paid_or_last (ending : Ending) (bytes left : Bytes) (turns : Nat)
    (pile : List Begun) (reached : after turns (.reading [] bytes) = .reading pile left) :
    (∃ item rest, readAt pile.length ending left = (.ok item, rest) ∧
      rest.length + 3 ≤ left.length) ∨
    ∃ error rest, readAt pile.length ending left = (.error error, rest) ∧
      read ending bytes = (.error error, rest) := by
  have outcome : resume pile (scanAt pile.length left) = Reply.scan bytes := by
    have kept := after_outcome turns (.reading [] bytes)
    rwa [reached] at kept
  cases scanned : scanAt pile.length left with
  | done item rest =>
      exact Or.inl ⟨item, rest, by rw [readAt, scanned]; rfl, scan_at_paid _ left rest item scanned⟩
  | malformed fault rest =>
      rw [scanned, resume_malformed] at outcome
      exact Or.inr ⟨_, rest, by rw [readAt, scanned]; rfl, by rw [read, ← outcome]; rfl⟩
  | short =>
      rw [scanned, resume_short] at outcome
      exact Or.inr ⟨_, [], by rw [readAt, scanned]; rfl, by rw [read, ← outcome]; rfl⟩

/-- A read takes no more turns, and returns no more, than the bytes received pay for. -/
theorem read_paid_by_bytes (ending : Ending) (bytes : Bytes) : PaidFor ending bytes where
  ends := read_ends ending bytes
  sized := returned_reply_paid ending bytes
  elements turns pile left reached := element_paid_or_last ending bytes left turns pile reached

example : after 3 (.reading [] (Bytes.ofText "*9223372036854775807\r\n:1\r\n")) = .ended .short := by
  rfl

end Reply
end RespClient

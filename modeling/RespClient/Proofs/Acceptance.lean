import RespClient.Proofs.Determinacy

set_option autoImplicit false

namespace RespClient.Reply

theorem encodes_all_iff (depth : Nat) (bytes : Bytes) (items : List Reply) :
    EncodesAll depth bytes items ↔ Scan.Sequence (Encodes depth) bytes items := by
  induction items generalizing bytes with
  | nil =>
      constructor
      · intro all
        cases all
        exact .nil
      · intro all
        cases all
        exact .nil
  | cons item items ih =>
      constructor
      · intro all
        cases all with
        | cons first rest => exact .cons first ((ih _).mp rest)
      · intro all
        cases all with
        | cons first rest => exact .cons first ((ih _).mpr rest)

theorem complete_accepts (depth : Nat) (announced : Reply) :
    Scan.Accepts (fun bytes => .done announced bytes) (Completes depth (.complete announced)) := by
  intro bytes reply rest
  constructor
  · intro scanned
    cases scanned
    exact ⟨[], rfl, .complete⟩
  · intro member
    obtain ⟨used, rfl, completes⟩ := member
    cases completes
    rfl

theorem bulk_accepts (depth length : Nat) :
    Scan.Accepts (fun bytes => (scanBulk length bytes).map .bulk) (Completes depth (.bulk length)) := by
  refine Scan.accepts_same (Scan.map_accepts (scan_bulk_accepts length) Reply.bulk) _ ?_
  intro used reply
  constructor
  · intro framed
    obtain ⟨data, ⟨rfl, rfl⟩, rfl⟩ := framed
    exact .bulk
  · intro completes
    cases completes with
    | @bulk data => exact ⟨data, ⟨rfl, rfl⟩, rfl⟩

theorem array_accepts (depth below count : Nat) (shallow : depth < maxDepth)
    (nested : Scan.Accepts (scanWithin below) (Encodes (depth + 1))) :
    Scan.Accepts (fun bytes => (Scan.many (scanWithin below) count [] bytes).map .array)
      (Completes depth (.array count)) := by
  refine Scan.accepts_same (Scan.map_accepts (Scan.many_accepts nested count) Reply.array) _ ?_
  intro used reply
  constructor
  · intro elements
    obtain ⟨items, ⟨rfl, all⟩, rfl⟩ := elements
    exact .array shallow ((encodes_all_iff _ _ _).mpr all)
  · intro completes
    cases completes with
    | @array _ items _ all => exact ⟨items, ⟨rfl, (encodes_all_iff _ _ _).mp all⟩, rfl⟩

theorem no_array_accepts (depth count : Nat) (deep : maxDepth ≤ depth) :
    Scan.Accepts (fun bytes => .malformed .nestedTooDeep bytes) (Completes depth (.array count)) := by
  intro bytes reply rest
  simp only [reduceCtorEq, false_iff]
  intro member
  obtain ⟨used, rfl, completes⟩ := member
  cases completes with
  | array shallow all => omega

-- Depth and levels add up to the limit: every array that is opened moves one from the
-- levels that are left to the depth of the elements.
theorem scan_after_accepts (levels depth : Nat) (total : depth + levels = maxDepth)
    (nested : ∀ below, levels = below + 1 →
      Scan.Accepts (scanWithin below) (Encodes (depth + 1))) (line : Bytes) :
    Scan.Accepts (scanAfter levels line) fun used reply =>
      ∃ header, Announces line header ∧ Completes depth header used reply := by
  intro bytes reply rest
  unfold scanAfter
  simp only [← of_line_iff]
  cases Header.ofLine line with
  | error fault => simp
  | ok header =>
      simp only [Except.ok.injEq, exists_eq_left']
      cases header with
      | complete announced => exact complete_accepts depth announced bytes reply rest
      | bulk length => exact bulk_accepts depth length bytes reply rest
      | array count =>
          cases levels with
          | zero => exact no_array_accepts depth count (by omega) bytes reply rest
          | succ below =>
              exact array_accepts depth below count (by omega) (nested below rfl) bytes reply rest

theorem scan_within_accepts (levels depth : Nat) (total : depth + levels = maxDepth) :
    Scan.Accepts (scanWithin levels) (Encodes depth) := by
  have nested : ∀ below, levels = below + 1 →
      Scan.Accepts (scanWithin below) (Encodes (depth + 1)) := by
    intro below same
    subst same
    exact scan_within_accepts below (depth + 1) (by omega)
  rw [scan_within_line]
  refine Scan.accepts_same (Scan.and_then_accepts scan_line_accepts (scanAfter levels) _
    (scan_after_accepts levels depth total nested)) _ ?_
  intro used reply
  rw [encodes_iff]
  constructor
  · intro parts
    obtain ⟨_, line, rest, rfl, ⟨rfl, fits⟩, header, announces, completes⟩ := parts
    exact ⟨line, header, rest, rfl, fits, announces, completes⟩
  · intro parts
    obtain ⟨line, header, rest, rfl, fits, announces, completes⟩ := parts
    exact ⟨_, line, rest, rfl, ⟨rfl, fits⟩, header, announces, completes⟩

theorem scan_at_accepts (depth : Nat) (inside : depth ≤ maxDepth) :
    Scan.Accepts (scanAt depth) (Encodes depth) := by
  exact scan_within_accepts _ depth (Nat.add_sub_of_le inside)

theorem scan_accepts : Scan.Accepts scan (Encodes 0) := by
  exact scan_at_accepts 0 (Nat.zero_le maxDepth)

theorem reads_encoding (ending : Ending) (bytes : Bytes) (reply : Reply) (count : Nat) :
    Reads ending bytes (.ok reply) count ↔
      count ≤ bytes.length ∧ Encodes 0 (bytes.take count) reply := by
  unfold Reads
  rw [read_ok_iff, scan_accepts]
  constructor
  · intro split
    obtain ⟨bound, used, split, encodes⟩ := split
    have same : used = bytes.take count := by
      refine List.append_cancel_right (?_ : used ++ bytes.drop count = _ ++ bytes.drop count)
      rw [← split, List.take_append_drop]
    exact ⟨bound, same ▸ encodes⟩
  · intro front
    obtain ⟨bound, encodes⟩ := front
    exact ⟨bound, bytes.take count, (List.take_append_drop count bytes).symm, encodes⟩

theorem encodes_unique (used other rest left : Bytes) (first second : Reply)
    (one : Encodes 0 used first) (two : Encodes 0 other second)
    (same : used ++ rest = other ++ left) : first = second ∧ used = other := by
  obtain ⟨sameUsed, sameReply, _⟩ := Scan.accepts_unique scan_accepts _ _ _ _ _ _ one two same
  exact ⟨sameReply, sameUsed⟩

/-- A reply is read just where the grammar has it at the front, and there is at most one there. -/
theorem read_accepts_encodings (ending : Ending) (bytes : Bytes) :
    (∃ outcome count, Reads ending bytes outcome count) ∧
      (∀ (reply : Reply) (count : Nat), Reads ending bytes (.ok reply) count ↔
        count ≤ bytes.length ∧ Encodes 0 (bytes.take count) reply) ∧
      ∀ (first second : Reply) (a b : Nat), a ≤ bytes.length → b ≤ bytes.length →
        Encodes 0 (bytes.take a) first → Encodes 0 (bytes.take b) second →
          first = second ∧ a = b := by
  refine ⟨reads_total ending bytes, reads_encoding ending bytes, ?_⟩
  intro first second a b aBound bBound one two
  have whole : bytes.take a ++ bytes.drop a = bytes.take b ++ bytes.drop b := by
    rw [List.take_append_drop, List.take_append_drop]
  obtain ⟨sameReply, sameUsed⟩ := encodes_unique _ _ _ _ first second one two whole
  have lengths := congrArg List.length sameUsed
  rw [List.length_take, List.length_take] at lengths
  exact ⟨sameReply, by omega⟩

end RespClient.Reply

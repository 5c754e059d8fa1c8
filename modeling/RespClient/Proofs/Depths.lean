import RespClient.Proofs.Canonical

set_option autoImplicit false

namespace RespClient.Reply

-- The levels that are left grow less from an array to its elements, at both depths alike.
theorem deeper_narrows (depth deeper : Nat) (order : depth ≤ deeper) :
    Scan.Narrows .nestedTooDeep (scanAt deeper) (scanAt depth) := by
  rw [funext (scan_at_line deeper), funext (scan_at_line depth)]
  refine Scan.and_then_narrows (Scan.narrows_refl scanLine) _ _ ?_
  intro line rest
  cases Header.ofLine line with
  | error fault => exact Or.inl rfl
  | ok header =>
      cases header with
      | complete reply => exact Or.inl rfl
      | bulk length => exact Or.inl rfl
      | array count =>
          dsimp only
          by_cases deep : maxDepth ≤ deeper
          · rw [if_pos deep]
            exact Or.inr ⟨rest, rfl⟩
          · rw [if_neg deep, if_neg (by omega)]
            have elements := deeper_narrows (depth + 1) (deeper + 1) (Nat.add_le_add_right order 1)
            exact Scan.map_narrows (Scan.many_narrows elements count []) Reply.array rest
termination_by maxDepth - deeper

mutual
theorem encodes_inside (outer : Nat) (used : Bytes) (reply : Reply) (encodes : Encodes outer used reply)
    (inside : outer ≤ 32) : outer + reply.depth ≤ 32 := by
  cases reply with
  | status text => exact inside
  | error text => exact inside
  | integer value => exact inside
  | bulk data => exact inside
  | nil => exact inside
  | array items =>
      cases encodes with
      | array fits numeral shallow all =>
          have elements := encodes_all_inside (outer + 1) _ items all shallow
          rw [depth]
          omega
theorem encodes_all_inside (outer : Nat) (used : Bytes) (items : List Reply)
    (all : EncodesAll outer used items) (inside : outer ≤ 32) :
    outer + depthAll items ≤ 32 := by
  cases items with
  | nil => exact inside
  | cons item items =>
      cases all with
      | cons first rest =>
          have one := encodes_inside outer _ item first inside
          have others := encodes_all_inside outer _ items rest inside
          rw [depthAll]
          omega
end

mutual
theorem encodes_elsewhere (outer other : Nat) (used : Bytes) (reply : Reply)
    (encodes : Encodes outer used reply) (room : other + reply.depth ≤ 32) :
    Encodes other used reply := by
  cases reply with
  | status text =>
      cases encodes with
      | status fits => exact .status fits
  | error text =>
      cases encodes with
      | error fits => exact .error fits
  | integer value =>
      cases encodes with
      | integer fits numeral => exact .integer fits numeral
  | bulk data =>
      cases encodes with
      | bulk fits numeral bounded => exact .bulk fits numeral bounded
  | nil =>
      cases encodes with
      | noBulk fits numeral => exact .noBulk fits numeral
      | noArray fits numeral => exact .noArray fits numeral
  | array items =>
      cases encodes with
      | array fits numeral shallow all =>
          rw [depth] at room
          exact .array fits numeral (by omega)
            (encodes_all_elsewhere (outer + 1) (other + 1) _ items all (by omega))
theorem encodes_all_elsewhere (outer other : Nat) (used : Bytes) (items : List Reply)
    (all : EncodesAll outer used items) (room : other + depthAll items ≤ 32) :
    EncodesAll other used items := by
  cases items with
  | nil =>
      cases all
      exact .nil
  | cons item items =>
      cases all with
      | cons first rest =>
          rw [depthAll] at room
          exact .cons (encodes_elsewhere outer other _ item first (by omega))
            (encodes_all_elsewhere outer other _ items rest (by omega))
end

inductive Successive (ending : Ending) : Bytes → List Reply → Bytes → Prop where
  | none {bytes : Bytes} : Successive ending bytes [] bytes
  | next {bytes rest left : Bytes} {reply : Reply} {replies : List Reply} :
      read ending bytes = (.ok reply, rest) → Successive ending rest replies left →
      Successive ending bytes (reply :: replies) left

theorem successive_encodes (ending : Ending) (bytes left : Bytes) (replies : List Reply)
    (successive : Successive ending bytes replies left)
    (room : ∀ reply ∈ replies, reply.depth < 32) :
    ∃ used, bytes = used ++ left ∧ EncodesAll 1 used replies := by
  induction successive with
  | none => exact ⟨[], rfl, .nil⟩
  | @next bytes rest left reply replies returned successive ih =>
      rw [read_ok_iff, scan_accepts] at returned
      obtain ⟨front, rfl, encodes⟩ := returned
      obtain ⟨back, rfl, all⟩ := ih fun other member => room other (List.mem_cons_of_mem _ member)
      have space : 1 + reply.depth ≤ 32 := by
        have levels := room reply List.mem_cons_self
        omega
      exact ⟨front ++ back, by simp, .cons (encodes_elsewhere 0 1 front reply encodes space) all⟩

theorem deeper_agrees (ending : Ending) (depth deeper : Nat) (order : depth ≤ deeper)
    (bytes : Bytes) :
    readAt deeper ending bytes = readAt depth ending bytes ∨
      ∃ rest, readAt deeper ending bytes = (.error (.protocol "arrays nested too deeply"), rest) := by
  unfold readAt
  rcases deeper_narrows depth deeper order bytes with same | ⟨rest, gaveUp⟩
  · exact Or.inl (congrArg (·.settle ending) same)
  · exact Or.inr ⟨rest, congrArg (·.settle ending) gaveUp⟩

theorem deeper_returns (ending : Ending) (depth deeper : Nat) (order : depth ≤ deeper)
    (inside : deeper ≤ 32) (bytes rest : Bytes) (reply : Reply)
    (returned : readAt depth ending bytes = (.ok reply, rest)) :
    (∃ left, readAt deeper ending bytes = (.ok reply, left)) ↔
      deeper + reply.depth ≤ 32 := by
  simp only [read_at_ok_iff, scan_at_accepts deeper inside _ _ _]
  rw [read_at_ok_iff, scan_at_accepts depth (Nat.le_trans order inside)] at returned
  obtain ⟨used, rfl, encodes⟩ := returned
  constructor
  · intro accepted
    obtain ⟨left, other, _, otherEncodes⟩ := accepted
    exact encodes_inside deeper other reply otherEncodes inside
  · intro room
    exact ⟨rest, used, rfl, encodes_elsewhere depth deeper used reply encodes room⟩

theorem successive_wrapped (ending : Ending) (bytes left text : Bytes) (replies : List Reply)
    (successive : Successive ending bytes replies left)
    (room : ∀ reply ∈ replies, reply.depth < 32)
    (fits : LineBody text) (counted : Numeral text replies.length) :
    read ending (Framing.line '*' text ++ bytes) = (.ok (.array replies), left) := by
  obtain ⟨used, rfl, all⟩ := successive_encodes ending bytes left replies successive room
  rw [read_ok_iff, ← List.append_assoc]
  exact Scan.accepts_front scan_accepts _ left _ (.array fits counted (by decide) all)

-- What a greater depth changes about a read, and what it leaves as it is. In `wraps` the header is
-- any line that announces as many elements as there are replies.
structure OnlyLimited (ending : Ending) : Prop where
  agrees : ∀ (depth deeper : Nat) (bytes : Bytes), depth ≤ deeper →
    readAt deeper ending bytes = readAt depth ending bytes ∨
      ∃ rest, readAt deeper ending bytes = (.error (.protocol "arrays nested too deeply"), rest)
  returns : ∀ (depth deeper : Nat) (bytes rest : Bytes) (reply : Reply), depth ≤ deeper →
    deeper ≤ 32 → readAt depth ending bytes = (.ok reply, rest) →
    ((∃ left, readAt deeper ending bytes = (.ok reply, left)) ↔ deeper + reply.depth ≤ 32)
  wraps : ∀ (bytes left text : Bytes) (replies : List Reply),
    Successive ending bytes replies left → (∀ reply ∈ replies, reply.depth < 32) →
    LineBody text → Numeral text replies.length →
    read ending (Framing.line '*' text ++ bytes) = (.ok (.array replies), left)

/-- The depth at which a read begins only decides which arrays are nested too deep. -/
theorem depth_only_limits (ending : Ending) : OnlyLimited ending where
  agrees depth deeper bytes order := deeper_agrees ending depth deeper order bytes
  returns depth deeper bytes rest reply order inside returned :=
    deeper_returns ending depth deeper order inside bytes rest reply returned
  wraps bytes left text replies successive room fits counted :=
    successive_wrapped ending bytes left text replies successive room fits counted

theorem last_level_holds_numbers :
    (∃ left, readAt 31 .endOfFile (Bytes.ofText "*1\r\n:7\r\n") =
      (.ok (.array [.integer 7]), left)) ∧
    (¬ ∃ left, readAt 32 .endOfFile (Bytes.ofText "*1\r\n:7\r\n") =
      (.ok (.array [.integer 7]), left)) ∧
    read .endOfFile (Framing.line '*' (Decimal.ofNat 2) ++ Bytes.ofText "*1\r\n:7\r\n:8\r\n$") =
      (.ok (.array [.array [.integer 7], .integer 8]), Bytes.ofText "$") := by
  have limited := depth_only_limits .endOfFile
  have read_encoded (reply : Reply) (fits : Fits 0 reply) (rest : Bytes) :
      read .endOfFile (encode reply ++ rest) = (.ok reply, rest) :=
    (read_ok_iff _ _ _ _).mpr
      (Scan.accepts_front scan_accepts _ rest _ (canonical_encodes 0 reply fits))
  have nested : Bytes.ofText "*1\r\n:7\r\n" = encode (.array [.integer 7]) ++ [] := by decide +kernel
  have both : Bytes.ofText "*1\r\n:7\r\n:8\r\n$" =
      encode (.array [.integer 7]) ++ (encode (.integer 8) ++ Bytes.ofText "$") := by decide +kernel
  have shallow : Fits 0 (.array [.integer 7]) := ⟨by decide, by decide, trivial, trivial⟩
  refine ⟨?_, ?_, ?_⟩
  · rw [nested]
    exact (limited.returns 0 31 _ _ _ (by decide) (by decide) (read_encoded _ shallow [])).mpr
      (by decide)
  · rw [nested]
    exact fun accepted => absurd
      ((limited.returns 0 32 _ _ _ (by decide) (by decide) (read_encoded _ shallow [])).mp accepted)
      (by decide)
  · rw [both]
    exact limited.wraps _ _ _ _
      (.next (read_encoded _ shallow _) (.next (read_encoded (.integer 8) trivial _) .none))
      (by simp [depth, depthAll])
      (count_line_body 2 (by decide)) (Decimal.numeral_of_nat 2 (by decide))

end RespClient.Reply

import RespClient.Proofs.Scanning

set_option autoImplicit false

namespace RespClient.Reply

theorem take_clean_front (front rest : Bytes) (clean : lf ∉ front) :
    (front ++ rest).takeWhile (· ≠ lf) = front ++ rest.takeWhile (· ≠ lf) := by
  rw [List.takeWhile_append_of_pos]
  intro byte member
  simpa using fun same : byte = lf => clean (same ▸ member)

theorem scan_line_ended (line rest : Bytes) (clean : lf ∉ line) (fits : line.length < maxLine) :
    scanLine (line ++ lf :: rest) =
      if line.getLast? = some cr then .done line.dropLast rest
      else .malformed .lineNotTerminated rest := by
  have lineFound : (line ++ lf :: rest).takeWhile (· ≠ lf) = line := by
    rw [take_clean_front line _ clean]
    simp
  unfold scanLine
  rw [lineFound]
  simp [Nat.not_le.mpr fits]

theorem scan_line_open (bytes : Bytes) (clean : lf ∉ bytes) (fits : bytes.length < maxLine) :
    scanLine bytes = .short := by
  have whole : bytes.takeWhile (· ≠ lf) = bytes := by
    simpa using take_clean_front bytes [] clean
  unfold scanLine
  rw [whole]
  simp [Nat.not_le.mpr fits]

theorem scan_line_long (start rest : Bytes) (clean : lf ∉ start) (long : start.length = maxLine) :
    scanLine (start ++ rest) = .malformed .lineTooLong rest := by
  have reached : maxLine ≤ (start ++ rest.takeWhile (· ≠ lf)).length := by
    rw [List.length_append]
    omega
  unfold scanLine
  rw [take_clean_front start rest clean]
  dsimp only
  rw [if_pos reached, ← long, List.drop_left]

theorem line_cases (bytes : Bytes) :
    (∃ line rest, bytes = line ++ lf :: rest ∧ lf ∉ line ∧ line.length < maxLine) ∨
      (∃ start rest, bytes = start ++ rest ∧ lf ∉ start ∧ start.length = maxLine) ∨
      (lf ∉ bytes ∧ bytes.length < maxLine) := by
  by_cases ended : lf ∈ bytes
  · obtain ⟨line, rest, rfl, clean⟩ := List.eq_append_cons_of_mem ended
    by_cases fits : line.length < maxLine
    · exact Or.inl ⟨line, rest, rfl, clean, fits⟩
    · refine Or.inr (Or.inl ⟨line.take maxLine, line.drop maxLine ++ lf :: rest, ?_, ?_, ?_⟩)
      · rw [← List.append_assoc, List.take_append_drop]
      · exact fun member => clean (List.mem_of_mem_take member)
      · rw [List.length_take]
        omega
  · by_cases fits : bytes.length < maxLine
    · exact Or.inr (Or.inr ⟨ended, fits⟩)
    · refine Or.inr (Or.inl ⟨bytes.take maxLine, bytes.drop maxLine, ?_, ?_, ?_⟩)
      · rw [List.take_append_drop]
      · exact fun member => ended (List.mem_of_mem_take member)
      · rw [List.length_take]
        omega

theorem scan_line_incremental : Scan.Incremental scanLine := by
  intro bytes
  rcases line_cases bytes with ⟨line, rest, rfl, clean, fits⟩ | ⟨start, rest, rfl, clean, long⟩ | ⟨clean, fits⟩
  · by_cases terminated : line.getLast? = some cr
    · refine Or.inr ⟨line ++ [lf], rest, .done line.dropLast, by simp, ?_⟩
      intro after
      rw [List.append_assoc, List.singleton_append, scan_line_ended line after clean fits,
        if_pos terminated]
      rfl
    · refine Or.inr ⟨line ++ [lf], rest, .malformed .lineNotTerminated, by simp, ?_⟩
      intro after
      rw [List.append_assoc, List.singleton_append, scan_line_ended line after clean fits,
        if_neg terminated]
      rfl
  · exact Or.inr ⟨start, rest, .malformed .lineTooLong, rfl,
      fun after => scan_line_long start after clean long⟩
  · exact Or.inl (scan_line_open bytes clean fits)

theorem scan_line_terminated (line rest : Bytes) (clean : lf ∉ line)
    (fits : line.length + 2 ≤ maxLine) : scanLine (line ++ crlf ++ rest) = .done line rest := by
  have split : line ++ crlf ++ rest = (line ++ [cr]) ++ lf :: rest := by simp [crlf]
  have stillClean : lf ∉ line ++ [cr] := by
    simpa [show lf ≠ cr by decide] using clean
  rw [split, scan_line_ended _ rest stillClean (by simp; omega)]
  simp

theorem scan_line_accepts :
    Scan.Accepts scanLine fun used line =>
      used = line ++ crlf ∧ lf ∉ line ∧ line.length + 2 ≤ maxLine := by
  intro bytes value rest
  constructor
  · intro scanned
    rcases line_cases bytes with ⟨line, left, rfl, clean, fits⟩ | ⟨start, left, rfl, clean, long⟩ | ⟨clean, fits⟩
    · rw [scan_line_ended line left clean fits] at scanned
      by_cases terminated : line.getLast? = some cr
      · rw [if_pos terminated] at scanned
        obtain ⟨body, rfl⟩ := List.getLast?_eq_some_iff.mp terminated
        have visible : lf ∉ body := fun member => clean (List.mem_append_left [cr] member)
        have short : body.length + 2 ≤ maxLine := by
          rw [List.length_append, List.length_singleton] at fits
          omega
        rw [List.dropLast_concat] at scanned
        cases scanned
        exact ⟨value ++ crlf, by simp [crlf], rfl, visible, short⟩
      · rw [if_neg terminated] at scanned
        cases scanned
    · rw [scan_line_long start left clean long] at scanned
      cases scanned
    · rw [scan_line_open bytes clean fits] at scanned
      cases scanned
  · intro member
    obtain ⟨_, rfl, rfl, clean, fits⟩ := member
    exact scan_line_terminated value rest clean fits

theorem scan_bulk_framed (data tail rest : Bytes) (ending : tail.length = 2) :
    scanBulk data.length (data ++ (tail ++ rest)) =
      if tail = crlf then .done data rest else .malformed .bulkNotTerminated rest := by
  have framed : (data ++ (tail ++ rest)).take (data.length + 2) = data ++ tail := by
    rw [← List.append_assoc, ← ending, ← List.length_append, List.take_left]
  have left : (data ++ (tail ++ rest)).drop (data.length + 2) = rest := by
    rw [← List.append_assoc, ← ending, ← List.length_append, List.drop_left]
  unfold scanBulk
  rw [framed, left]
  simp [ending]

theorem scan_bulk_open (length : Nat) (bytes : Bytes) (missing : bytes.length < length + 2) :
    scanBulk length bytes = .short := by
  unfold scanBulk
  rw [if_pos (Nat.lt_of_le_of_lt (List.length_take_le' _ _) missing)]

theorem bulk_cases (length : Nat) (bytes : Bytes) :
    bytes.length < length + 2 ∨
      ∃ data tail rest, bytes = data ++ (tail ++ rest) ∧ data.length = length ∧ tail.length = 2 := by
  by_cases missing : bytes.length < length + 2
  · exact Or.inl missing
  · refine Or.inr ⟨bytes.take length, (bytes.drop length).take 2, (bytes.drop length).drop 2, ?_, ?_, ?_⟩
    · rw [List.take_append_drop, List.take_append_drop]
    · rw [List.length_take]
      omega
    · rw [List.length_take, List.length_drop]
      omega

theorem scan_bulk_incremental (length : Nat) : Scan.Incremental (scanBulk length) := by
  intro bytes
  rcases bulk_cases length bytes with missing | ⟨data, tail, rest, rfl, rfl, ending⟩
  · exact Or.inl (scan_bulk_open length bytes missing)
  · by_cases terminated : tail = crlf
    · refine Or.inr ⟨data ++ tail, rest, .done data, by simp, ?_⟩
      intro after
      rw [List.append_assoc, scan_bulk_framed data tail after ending, if_pos terminated]
      rfl
    · refine Or.inr ⟨data ++ tail, rest, .malformed .bulkNotTerminated, by simp, ?_⟩
      intro after
      rw [List.append_assoc, scan_bulk_framed data tail after ending, if_neg terminated]
      rfl

theorem scan_bulk_accepts (length : Nat) :
    Scan.Accepts (scanBulk length) fun used data =>
      used = data ++ crlf ∧ data.length = length := by
  intro bytes value rest
  constructor
  · intro scanned
    rcases bulk_cases length bytes with missing | ⟨data, tail, left, rfl, rfl, ending⟩
    · rw [scan_bulk_open length bytes missing] at scanned
      cases scanned
    · rw [scan_bulk_framed data tail left ending] at scanned
      by_cases terminated : tail = crlf
      · rw [if_pos terminated] at scanned
        cases scanned
        exact ⟨value ++ tail, by simp, by rw [terminated], rfl⟩
      · rw [if_neg terminated] at scanned
        cases scanned
  · intro member
    obtain ⟨_, rfl, rfl, rfl⟩ := member
    rw [List.append_assoc, scan_bulk_framed value crlf rest rfl, if_pos rfl]

end RespClient.Reply

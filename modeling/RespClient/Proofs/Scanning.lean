import RespClient.Reply.Scan

set_option autoImplicit false

namespace RespClient.Scan
variable {α β : Type}

theorem and_then_done_iff (scan : Scan α) (next : α → Bytes → Scan β) (value : β) (rest : Bytes) :
    scan.andThen next = .done value rest ↔
      ∃ first middle, scan = .done first middle ∧ next first middle = .done value rest := by
  cases scan with
  | done first middle =>
      constructor
      · intro finished
        exact ⟨first, middle, rfl, finished⟩
      · intro steps
        obtain ⟨_, _, same, finished⟩ := steps
        cases same
        exact finished
  | malformed fault middle => simp [andThen]
  | short => simp [andThen]

theorem map_done_iff (f : α → β) (scan : Scan α) (value : β) (rest : Bytes) :
    scan.map f = .done value rest ↔ ∃ found, scan = .done found rest ∧ f found = value := by
  rw [map, and_then_done_iff]
  constructor
  · intro steps
    obtain ⟨found, middle, scanned, same⟩ := steps
    cases same
    exact ⟨found, scanned, rfl⟩
  · intro found
    obtain ⟨found, scanned, rfl⟩ := found
    exact ⟨found, rest, scanned, rfl⟩

def Accepts (one : Bytes → Scan α) (language : Bytes → α → Prop) : Prop :=
  ∀ bytes value rest,
    one bytes = .done value rest ↔ ∃ used, bytes = used ++ rest ∧ language used value

inductive Sequence (language : Bytes → α → Prop) : Bytes → List α → Prop where
  | nil : Sequence language [] []
  | cons {first rest : Bytes} {item : α} {items : List α} :
      language first item → Sequence language rest items →
      Sequence language (first ++ rest) (item :: items)

section Languages
variable {one : Bytes → Scan α} {language : Bytes → α → Prop}

theorem accepts_front (accepts : Accepts one language) (used rest : Bytes) (value : α)
    (member : language used value) : one (used ++ rest) = .done value rest := by
  exact (accepts _ value rest).mpr ⟨used, rfl, member⟩

theorem accepts_unique (accepts : Accepts one language) (a b r s : Bytes) (v w : α)
    (first : language a v) (second : language b w) (same : a ++ r = b ++ s) :
    a = b ∧ v = w ∧ r = s := by
  have scanned := accepts_front accepts a r v first
  rw [same, accepts_front accepts b s w second] at scanned
  cases scanned
  exact ⟨List.append_cancel_right same, rfl, rfl⟩

theorem accepts_same (accepts : Accepts one language) (other : Bytes → α → Prop)
    (same : ∀ used value, language used value ↔ other used value) : Accepts one other := by
  intro bytes value rest
  rw [accepts]
  simp only [same]

theorem and_then_accepts (accepts : Accepts one language) (next : α → Bytes → Scan β)
    (languages : α → Bytes → β → Prop) (later : ∀ value, Accepts (next value) (languages value)) :
    Accepts (fun bytes => (one bytes).andThen next) fun used value =>
      ∃ front first back, used = front ++ back ∧ language front first ∧ languages first back value := by
  intro bytes value rest
  rw [and_then_done_iff]
  constructor
  · intro steps
    obtain ⟨first, middle, scanned, finished⟩ := steps
    obtain ⟨front, rfl, firstMember⟩ := (accepts _ _ _).mp scanned
    obtain ⟨back, rfl, member⟩ := (later first _ _ _).mp finished
    exact ⟨front ++ back, by simp, front, first, back, rfl, firstMember, member⟩
  · intro parts
    obtain ⟨_, rfl, front, first, back, rfl, firstMember, member⟩ := parts
    have scanned := accepts_front accepts front (back ++ rest) first firstMember
    have finished := accepts_front (later first) back rest value member
    rw [← List.append_assoc] at scanned
    exact ⟨first, back ++ rest, scanned, finished⟩

theorem map_accepts (accepts : Accepts one language) (f : α → β) :
    Accepts (fun bytes => (one bytes).map f) fun used value =>
      ∃ found, language used found ∧ f found = value := by
  intro bytes value rest
  rw [map_done_iff]
  constructor
  · intro found
    obtain ⟨found, scanned, same⟩ := found
    obtain ⟨used, rfl, member⟩ := (accepts _ _ _).mp scanned
    exact ⟨used, rfl, found, member, same⟩
  · intro member
    obtain ⟨used, rfl, found, member, same⟩ := member
    exact ⟨found, accepts_front accepts used rest found member, same⟩

theorem many_done_iff (accepts : Accepts one language) (count : Nat) (found values : List α)
    (bytes rest : Bytes) :
    many one count found bytes = .done values rest ↔
      ∃ used items, bytes = used ++ rest ∧ values = found.reverse ++ items ∧
        items.length = count ∧ Sequence language used items := by
  induction count generalizing found bytes with
  | zero =>
      constructor
      · intro finished
        cases finished
        exact ⟨[], [], rfl, by simp, rfl, .nil⟩
      · intro parts
        obtain ⟨used, items, rfl, rfl, noItems, sequence⟩ := parts
        obtain rfl := List.eq_nil_of_length_eq_zero noItems
        cases sequence
        simp [many]
  | succ count ih =>
      rw [many, and_then_done_iff]
      constructor
      · intro steps
        obtain ⟨value, middle, scanned, finished⟩ := steps
        obtain ⟨front, rfl, member⟩ := (accepts _ _ _).mp scanned
        obtain ⟨back, items, rfl, rfl, counted, sequence⟩ := (ih _ _).mp finished
        exact ⟨front ++ back, value :: items, by simp, by simp, by simp [counted],
          .cons member sequence⟩
      · intro parts
        obtain ⟨used, items, rfl, rfl, counted, sequence⟩ := parts
        cases sequence with
        | nil => cases counted
        | @cons front back value items member sequence =>
            have scanned := accepts_front accepts front (back ++ rest) value member
            have fewer : items.length = count := Nat.succ.inj counted
            have together : found.reverse ++ value :: items = (value :: found).reverse ++ items := by
              simp
            have finished := (ih (value :: found) (back ++ rest)).mpr
              ⟨back, items, rfl, together, fewer, sequence⟩
            rw [← List.append_assoc] at scanned
            exact ⟨value, back ++ rest, scanned, finished⟩

theorem many_accepts (accepts : Accepts one language) (count : Nat) :
    Accepts (many one count []) fun used items =>
      items.length = count ∧ Sequence language used items := by
  intro bytes values rest
  rw [many_done_iff accepts]
  constructor
  · intro parts
    obtain ⟨used, items, rfl, rfl, counted, sequence⟩ := parts
    exact ⟨used, rfl, counted, sequence⟩
  · intro member
    obtain ⟨used, rfl, counted, sequence⟩ := member
    exact ⟨used, values, rfl, rfl, counted, sequence⟩

end Languages

inductive Verdict (α : Type) where
  | done (value : α)
  | malformed (fault : Fault)

def Verdict.leaving (rest : Bytes) : Verdict α → Scan α
  | .done value => .done value rest
  | .malformed fault => .malformed fault rest

-- The verdict stands whatever follows the bytes used, and leaves it alone.
def Decides (one : Bytes → Scan α) (used : Bytes) (verdict : Verdict α) : Prop :=
  ∀ after, one (used ++ after) = verdict.leaving after

def Incremental (one : Bytes → Scan α) : Prop :=
  ∀ bytes, one bytes = .short ∨
    ∃ used rest verdict, bytes = used ++ rest ∧ Decides one used verdict

section Verdicts
variable {one : Bytes → Scan α}

theorem leaving_not_short (verdict : Verdict α) (rest : Bytes) : verdict.leaving rest ≠ .short := by
  cases verdict <;> simp [Verdict.leaving]

theorem leaving_inj (a b : Verdict α) (r s : Bytes) (same : a.leaving r = b.leaving s) :
    a = b ∧ r = s := by
  cases a <;> cases b <;> simp_all [Verdict.leaving]

theorem incremental_verdict (incremental : Incremental one) (bytes rest : Bytes)
    (verdict : Verdict α) (said : one bytes = verdict.leaving rest) :
    ∃ used, bytes = used ++ rest ∧ Decides one used verdict := by
  rcases incremental bytes with short | ⟨used, left, other, rfl, decides⟩
  · exact absurd (said.symm.trans short) (leaving_not_short verdict rest)
  · obtain ⟨rfl, rfl⟩ := leaving_inj _ _ _ _ ((decides left).symm.trans said)
    exact ⟨used, rfl, decides⟩

theorem verdict_extends (incremental : Incremental one) (bytes rest more : Bytes)
    (verdict : Verdict α) (said : one bytes = verdict.leaving rest) :
    one (bytes ++ more) = verdict.leaving (rest ++ more) := by
  obtain ⟨used, rfl, decides⟩ := incremental_verdict incremental bytes rest verdict said
  rw [List.append_assoc, decides]

theorem short_before_verdict (incremental : Incremental one) (front back : Bytes)
    (verdict : Verdict α) (missing : back ≠ []) (decides : Decides one (front ++ back) verdict) :
    one front = .short := by
  rcases incremental front with same | ⟨used, rest, early, rfl, earlyDecides⟩
  · exact same
  · have late := decides []
    rw [List.append_nil, List.append_assoc, earlyDecides] at late
    have leftover := (leaving_inj _ _ _ _ late).2
    exact absurd (List.append_eq_nil_iff.mp leftover).2 missing

theorem incremental_of_verdict (verdict : Verdict α) :
    Incremental fun bytes => verdict.leaving bytes := by
  intro bytes
  exact Or.inr ⟨[], bytes, verdict, rfl, fun _ => rfl⟩

theorem and_then_incremental (incremental : Incremental one) (next : α → Bytes → Scan β)
    (later : ∀ value, Incremental (next value)) :
    Incremental fun bytes => (one bytes).andThen next := by
  intro bytes
  rcases incremental bytes with short | ⟨used, rest, verdict, rfl, decides⟩
  · exact Or.inl (congrArg (·.andThen next) short)
  · cases verdict with
    | malformed fault =>
        refine Or.inr ⟨used, rest, .malformed fault, rfl, ?_⟩
        intro after
        exact congrArg (·.andThen next) (decides after)
    | done value =>
        have goesOn : ∀ after, (one (used ++ after)).andThen next = next value after :=
          fun after => congrArg (·.andThen next) (decides after)
        rcases later value rest with short | ⟨back, rest, verdict, rfl, finished⟩
        · exact Or.inl ((goesOn rest).trans short)
        · refine Or.inr ⟨used ++ back, rest, verdict, by simp, ?_⟩
          intro after
          rw [List.append_assoc]
          exact (goesOn (back ++ after)).trans (finished after)

theorem map_incremental (incremental : Incremental one) (f : α → β) :
    Incremental fun bytes => (one bytes).map f := by
  exact and_then_incremental incremental _ fun value => incremental_of_verdict (.done (f value))

theorem many_incremental (incremental : Incremental one) (count : Nat) (found : List α) :
    Incremental (many one count found) := by
  induction count generalizing found with
  | zero => exact incremental_of_verdict (.done found.reverse)
  | succ count ih => exact and_then_incremental incremental _ fun value => ih (value :: found)

theorem many_snoc (count : Nat) (found items : List α) (value : α) (bytes middle rest : Bytes)
    (first : many one count found bytes = .done items middle) (next : one middle = .done value rest) :
    many one (count + 1) found bytes = .done (items ++ [value]) rest := by
  induction count generalizing found bytes with
  | zero =>
      cases first
      rw [many, next]
      simp [andThen, many]
  | succ count ih =>
      rw [many, and_then_done_iff] at first ⊢
      obtain ⟨head, behind, scanned, finished⟩ := first
      exact ⟨head, behind, scanned, ih _ _ finished⟩

end Verdicts

-- Where the narrow scanner does not do as the wide one does, it gives up with this fault.
def Narrows (fault : Fault) (narrow wide : Bytes → Scan α) : Prop :=
  ∀ bytes, narrow bytes = wide bytes ∨ ∃ rest, narrow bytes = .malformed fault rest

section Narrowing
variable {fault : Fault} {narrow wide : Bytes → Scan α}

theorem narrows_refl (one : Bytes → Scan α) : Narrows fault one one :=
  fun _ => Or.inl rfl

theorem and_then_narrows (narrows : Narrows fault narrow wide) (next other : α → Bytes → Scan β)
    (later : ∀ value, Narrows fault (next value) (other value)) :
    Narrows fault (fun bytes => (narrow bytes).andThen next)
      (fun bytes => (wide bytes).andThen other) := by
  intro bytes
  dsimp only
  rcases narrows bytes with same | ⟨rest, gaveUp⟩
  · rw [same]
    cases wide bytes with
    | done value rest => exact later value rest
    | malformed fault rest => exact Or.inl rfl
    | short => exact Or.inl rfl
  · rw [gaveUp]
    exact Or.inr ⟨rest, rfl⟩

theorem map_narrows (narrows : Narrows fault narrow wide) (f : α → β) :
    Narrows fault (fun bytes => (narrow bytes).map f) (fun bytes => (wide bytes).map f) := by
  exact and_then_narrows narrows _ _ fun _ => narrows_refl _

theorem many_narrows (narrows : Narrows fault narrow wide) (count : Nat) (found : List α) :
    Narrows fault (many narrow count found) (many wide count found) := by
  induction count generalizing found with
  | zero => exact narrows_refl _
  | succ count ih => exact and_then_narrows narrows _ _ fun value => ih (value :: found)

end Narrowing
end RespClient.Scan

import Mathlib.Data.List.Forall2
import RespClient.Fields

set_option autoImplicit false

namespace RespClient.Fields

def Distinct (pairs : List (Bytes × Bytes)) : Prop := pairs.Pairwise fun a b => a.1 ≠ b.1
deriving Decidable

theorem distinct_of_ascending (pairs : List (Bytes × Bytes))
    (ascending : pairs.Pairwise fun a b => a.1 < b.1) : Distinct pairs := by
  refine ascending.imp ?_
  intro a b less same
  rw [same] at less
  exact List.lt_irrefl b.1 less

theorem nodup_of_distinct (pairs : List (Bytes × Bytes)) (distinct : Distinct pairs) : pairs.Nodup := by
  refine List.Pairwise.imp ?_ distinct
  intro a b different same
  exact different (congrArg Prod.fst same)

theorem lookup_head (name value other : Bytes) (rest : List (Bytes × Bytes)) :
    ((name, value) :: rest).lookup other = if other = name then some value else rest.lookup other := by
  by_cases same : other = name
  · simp [same]
  · simp [List.lookup_cons, same, beq_false_of_ne same]

theorem lookup_iff_mem (pairs : List (Bytes × Bytes)) (distinct : Distinct pairs) (name value : Bytes) :
    pairs.lookup name = some value ↔ (name, value) ∈ pairs := by
  induction pairs with
  | nil => simp
  | cons pair rest ih =>
      obtain ⟨head, stored⟩ := pair
      obtain ⟨others, restDistinct⟩ := List.pairwise_cons.mp distinct
      rw [lookup_head, List.mem_cons, ← ih restDistinct]
      by_cases same : name = head
      · subst same
        have absent : rest.lookup name ≠ some value := by
          intro found
          exact others _ ((ih restDistinct).mp found) rfl
        simp [absent, eq_comm]
      · simp [same]

theorem lookup_insert_entry (name value other : Bytes) (entries : List (Bytes × Bytes)) :
    (insertEntry name value entries).lookup other =
      if other = name then some value else entries.lookup other := by
  induction entries with
  | nil => exact lookup_head name value other []
  | cons entry rest ih =>
      obtain ⟨head, stored⟩ := entry
      by_cases less : name < head
      · rw [insertEntry, if_pos less, lookup_head]
      · by_cases same : name = head
        · subst same
          rw [insertEntry, if_neg less, if_pos rfl, lookup_head, lookup_head]
          by_cases here : other = name
          · simp [here]
          · simp [here]
        · rw [insertEntry, if_neg less, if_neg same, lookup_head, lookup_head, ih]
          by_cases here : other = head
          · have elsewhere : other ≠ name := fun found => same (found.symm.trans here)
            simp [here, here ▸ elsewhere]
          · simp [here]

theorem put_all_lookup {μ : Type} (put : μ → Bytes → Bytes → μ) (get : μ → Bytes → Option Bytes)
    (putGet : ∀ map name value other,
      get (put map name value) other = if other = name then some value else get map other)
    (pairs : List (Bytes × Bytes)) (distinct : Distinct pairs) (map : μ) (name : Bytes) :
    get (pairs.foldl (fun map pair => put map pair.1 pair.2) map) name =
      (pairs.lookup name).or (get map name) := by
  induction pairs generalizing map with
  | nil => rfl
  | cons pair rest ih =>
      obtain ⟨head, value⟩ := pair
      obtain ⟨others, restDistinct⟩ := List.pairwise_cons.mp distinct
      rw [List.foldl_cons, ih restDistinct, putGet, lookup_head]
      by_cases same : name = head
      · have absent : rest.lookup name = none := by
          rw [List.lookup_eq_none_iff]
          intro pair member
          simpa [same] using others pair member
        rw [absent, if_pos same, if_pos same]
        rfl
      · simp [same]

theorem get_of_list (pairs : List (Bytes × Bytes)) (distinct : Distinct pairs) (name : Bytes) :
    (ofList pairs).get? name = pairs.lookup name := by
  have found := put_all_lookup insert get? (fun fields name value other =>
    lookup_insert_entry name value other fields.entries) pairs distinct empty name
  have nothing : empty.get? name = none := rfl
  rwa [nothing, Option.or_none] at found

theorem of_list_perm (pairs : List (Bytes × Bytes)) (distinct : Distinct pairs) :
    (ofList pairs).entries.Perm pairs := by
  have ordered := distinct_of_ascending _ (ofList pairs).ascending
  rw [List.perm_ext_iff_of_nodup (nodup_of_distinct _ ordered) (nodup_of_distinct _ distinct)]
  intro pair
  have same := get_of_list pairs distinct pair.1
  rw [← lookup_iff_mem _ ordered, ← lookup_iff_mem _ distinct, ← same]
  rfl

theorem same_entries (a b : Fields) (same : a.entries = b.entries) : a = b := by
  cases a
  cases b
  cases same
  rfl

theorem of_list_entries (fields : Fields) : ofList fields.entries = fields := by
  have perm := of_list_perm fields.entries (distinct_of_ascending _ fields.ascending)
  refine same_entries _ _ (List.Perm.eq_of_pairwise ?_ (ofList fields.entries).ascending
    fields.ascending perm)
  intro a b _ _ less greater
  exact absurd (List.lt_trans less greater) (List.lt_irrefl a.1)

section Fill
variable {α ε : Type}

theorem fill_entries_nothing (read : α → Except ε Bytes) (entries : List (Bytes × Bytes)) :
    fillEntries read entries [] = (entries, .ok ()) := by
  cases entries <;> rfl

theorem fill_entries_front (read : α → Except ε Bytes) (front rest : List α) (values : List Bytes)
    (entries : List (Bytes × Bytes))
    (all : List.Forall₂ (fun item value => read item = .ok value) front values)
    (room : front.length ≤ entries.length) :
    fillEntries read entries (front ++ rest) =
      ((entries.map Prod.fst).zip values ++ (fillEntries read (entries.drop front.length) rest).1,
        (fillEntries read (entries.drop front.length) rest).2) := by
  induction all generalizing entries with
  | nil => simp
  | cons found _ ih =>
      cases entries with
      | nil => exact absurd room (Nat.not_succ_le_zero _)
      | cons entry entries =>
          have later := ih entries (Nat.le_of_succ_le_succ room)
          simp only [List.cons_append, fillEntries, found, later]
          rfl

theorem fill_entries_all (read : α → Except ε Bytes) (items : List α) (values : List Bytes)
    (entries : List (Bytes × Bytes))
    (all : List.Forall₂ (fun item value => read item = .ok value) items values)
    (counted : items.length = entries.length) :
    fillEntries read entries items = ((entries.map Prod.fst).zip values, .ok ()) := by
  have filled := fill_entries_front read items [] values entries all (Nat.le_of_eq counted)
  rw [List.append_nil, fill_entries_nothing, counted, List.drop_length, List.append_nil] at filled
  exact filled

theorem fill_entries_stopped (read : α → Except ε Bytes) (front back : List α) (odd : α)
    (values : List Bytes) (error : ε) (entries : List (Bytes × Bytes))
    (all : List.Forall₂ (fun item value => read item = .ok value) front values)
    (stops : read odd = .error error) (counted : (front ++ odd :: back).length = entries.length) :
    fillEntries read entries (front ++ odd :: back) =
      ((entries.map Prod.fst).zip values ++ entries.drop front.length, .error error) := by
  rw [List.length_append, List.length_cons] at counted
  rw [fill_entries_front read front (odd :: back) values entries all (by omega)]
  have more : entries.drop front.length ≠ [] := by
    rw [ne_eq, List.drop_eq_nil_iff]
    omega
  cases left : entries.drop front.length with
  | nil => exact absurd left more
  | cons entry later => simp only [fillEntries, stops]

theorem lookup_named (value : Bytes → Bytes) (entries : List (Bytes × Bytes)) (name : Bytes)
    (member : name ∈ entries.map Prod.fst) :
    (entries.map fun entry => (entry.1, value entry.1)).lookup name = some (value name) := by
  induction entries with
  | nil => cases member
  | cons entry rest ih =>
      rw [List.map_cons, lookup_head]
      by_cases same : name = entry.1
      · simp [same]
      · rw [if_neg same]
        rw [List.map_cons, List.mem_cons] at member
        exact ih (member.resolve_left same)

end Fill
end RespClient.Fields

import RespClient.Bytes

set_option autoImplicit false

namespace RespClient

structure Fields where
  entries : List (Bytes × Bytes)
  ascending : entries.Pairwise fun a b => a.1 < b.1
deriving DecidableEq, Repr

namespace Fields

def insertEntry (name value : Bytes) : List (Bytes × Bytes) → List (Bytes × Bytes)
  | [] => [(name, value)]
  | entry :: rest =>
      if name < entry.1 then (name, value) :: entry :: rest
      else if name = entry.1 then (name, value) :: rest
      else entry :: insertEntry name value rest

theorem mem_insert_entry (name value : Bytes) (entries : List (Bytes × Bytes))
    (entry : Bytes × Bytes) (member : entry ∈ insertEntry name value entries) :
    entry = (name, value) ∨ entry ∈ entries := by
  induction entries with
  | nil => simpa [insertEntry] using member
  | cons head rest ih =>
      simp only [insertEntry] at member
      split at member
      · simpa using member
      · split at member
        · rcases List.mem_cons.mp member with same | later
          · exact Or.inl same
          · exact Or.inr (List.mem_cons_of_mem _ later)
        · rcases List.mem_cons.mp member with same | later
          · exact Or.inr (by simp [same])
          · rcases ih later with same | before
            · exact Or.inl same
            · exact Or.inr (List.mem_cons_of_mem _ before)

theorem insert_entry_ascending (name value : Bytes) (entries : List (Bytes × Bytes))
    (ascending : entries.Pairwise fun a b => a.1 < b.1) :
    (insertEntry name value entries).Pairwise fun a b => a.1 < b.1 := by
  induction entries with
  | nil => simp [insertEntry]
  | cons head rest ih =>
      obtain ⟨above, restAscending⟩ := List.pairwise_cons.mp ascending
      simp only [insertEntry]
      split
      · rename_i less
        refine List.pairwise_cons.mpr ⟨?_, ascending⟩
        intro entry member
        rcases List.mem_cons.mp member with same | later
        · exact same ▸ less
        · exact List.lt_trans less (above entry later)
      · rename_i notLess
        split
        · rename_i same
          exact List.pairwise_cons.mpr ⟨fun entry member => same ▸ above entry member, restAscending⟩
        · rename_i different
          refine List.pairwise_cons.mpr ⟨?_, ih restAscending⟩
          intro entry member
          rcases mem_insert_entry name value rest entry member with same | later
          · subst same
            exact Std.lt_of_le_of_ne notLess (Ne.symm different)
          · exact above entry later

def empty : Fields := ⟨[], List.Pairwise.nil⟩

def insert (fields : Fields) (name value : Bytes) : Fields :=
  ⟨insertEntry name value fields.entries, insert_entry_ascending name value _ fields.ascending⟩

def ofList (pairs : List (Bytes × Bytes)) : Fields :=
  pairs.foldl (fun fields pair => fields.insert pair.1 pair.2) empty

def size (fields : Fields) : Nat := fields.entries.length
def names (fields : Fields) : List Bytes := fields.entries.map Prod.fst
def get? (fields : Fields) (name : Bytes) : Option Bytes := fields.entries.lookup name

section Fill
variable {α ε : Type}

def fillEntries (read : α → Except ε Bytes) :
    List (Bytes × Bytes) → List α → List (Bytes × Bytes) × Except ε Unit
  | entry :: rest, item :: items =>
      match read item with
      | .ok value =>
          let (filled, outcome) := fillEntries read rest items
          ((entry.1, value) :: filled, outcome)
      | .error error => (entry :: rest, .error error)
  | entries, _ => (entries, .ok ())

theorem fill_entries_names (read : α → Except ε Bytes) (entries : List (Bytes × Bytes))
    (items : List α) : (fillEntries read entries items).1.map Prod.fst = entries.map Prod.fst := by
  induction entries generalizing items with
  | nil => simp [fillEntries]
  | cons entry rest ih =>
      cases items with
      | nil => simp [fillEntries]
      | cons item items =>
          simp only [fillEntries]
          split
          · simp [ih]
          · rfl

def fill (read : α → Except ε Bytes) (fields : Fields) (items : List α) : Fields × Except ε Unit :=
  let result := fillEntries read fields.entries items
  (⟨result.1, by
    rw [← List.pairwise_map (f := Prod.fst) (R := fun a b => a < b), fill_entries_names]
    exact List.pairwise_map.mpr fields.ascending⟩, result.2)

end Fill

end Fields
end RespClient

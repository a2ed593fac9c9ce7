import Mathlib.Data.Prod.Basic
import VoxelCircuit.Proofs.Table

/-! # Renamed tables

A table with its keys renamed and its values changed. When no two keys get one name, what was
found under a key is found changed under its new name, the order of the keys is kept, and
writing commutes with renaming (`VoxelCircuit.Table.map_insert`).
-/

namespace VoxelCircuit.Table

open Std Function

variable {α α' β β' : Type} [Ord α] [TransOrd α] [Ord α'] [TransOrd α'] [LawfulEqOrd α']

/-- The table with its keys renamed and its values changed. -/
def map (rename : α → α') (change : β → β') (table : Table α β) : Table α' β' :=
  .ofList (table.entries.map (Prod.map rename change))

/-- Tables with the same entries are the same. -/
theorem ext_entries {first second : Table α' β'} (same : first.entries = second.entries) :
    first = second := by
  apply ext_get?
  · rw [← map_fst_entries, ← map_fst_entries, same]
  · intro key
    ext value
    rw [← mem_entries, ← mem_entries, same]

private theorem length_entries (table : Table α β) : table.entries.length = table.size := by
  have lengths := congrArg List.length (map_fst_entries table)
  rwa [List.length_map, keys, List.length_reverse] at lengths

private theorem isEmpty_iff_size {table : Table α β} : table.isEmpty = true ↔ table.size = 0 := by
  rw [isEmpty, size, List.isEmpty_iff_length_eq_zero]

section Renaming

variable [DecidableEq α'] {rename : α → α'} (injective : Injective rename) (change : β → β')
include injective

/-- The entries of a changed table are the changed entries. -/
theorem entries_map (table : Table α β) :
    (table.map rename change).entries = table.entries.map (Prod.map rename change) := by
  apply entries_ofList
  rw [List.map_map, Prod.map_fst', ← List.map_map, map_fst_entries]
  exact table.nodup_keys.map injective

/-- The keys of a changed table are the renamed keys. -/
theorem keys_map (table : Table α β) : (table.map rename change).keys = table.keys.map rename := by
  rw [← map_fst_entries, entries_map injective, List.map_map, Prod.map_fst', ← List.map_map,
    map_fst_entries]

/-- The values of a changed table are the changed values. -/
theorem values_map (table : Table α β) :
    (table.map rename change).values = table.values.map change := by
  rw [← map_snd_entries, entries_map injective, List.map_map, Prod.map_snd', ← List.map_map,
    map_snd_entries]

/-- A changed table has as many entries. -/
theorem size_map (table : Table α β) : (table.map rename change).size = table.size := by
  rw [← length_entries, entries_map injective, List.length_map, length_entries]

/-- A changed table is empty exactly if the table is. -/
theorem isEmpty_map (table : Table α β) : (table.map rename change).isEmpty = table.isEmpty := by
  rw [Bool.eq_iff_iff, isEmpty_iff_size, isEmpty_iff_size, size_map injective]

/-- What is found in a renamed table was there under an old name. -/
theorem get?_map_eq_some {table : Table α β} {name : α'} {changed : β'} :
    (table.map rename change).get? name = some changed ↔
      ∃ key value, table.get? key = some value ∧ rename key = name ∧ change value = changed := by
  rw [← mem_entries, entries_map injective]
  simp only [List.mem_map, Prod.exists, mem_entries, Prod.map_apply, Prod.mk.injEq]

/-- Under a renamed key there is the changed value. -/
theorem get?_map (table : Table α β) (key : α) :
    (table.map rename change).get? (rename key) = (table.get? key).map change := by
  ext changed
  rw [get?_map_eq_some injective, Option.map_eq_some_iff]
  constructor
  · rintro ⟨other, value, found, same, rfl⟩
    exact ⟨value, injective same ▸ found, rfl⟩
  · rintro ⟨value, found, rfl⟩
    exact ⟨key, value, found, rfl, rfl⟩

/-- A changed table contains the renamed keys. -/
theorem contains_map (table : Table α β) (key : α) :
    (table.map rename change).contains (rename key) = table.contains key := by
  rw [contains_eq_isSome, get?_map injective, Option.isSome_map, contains_eq_isSome]

variable [LawfulEqOrd α] [DecidableEq α]

/-- A write under the new name of a key renames the write under the key. -/
theorem map_insert (table : Table α β) (key : α) (value : β) :
    (table.insert key value).map rename change =
      (table.map rename change).insert (rename key) (change value) := by
  apply ext_get?
  · rw [keys_map injective, keys_insert, keys_insert, contains_map injective, keys_map injective]
    split
    · rfl
    · exact List.map_append
  · intro name
    ext changed
    rw [get?_map_eq_some injective, get?_insert]
    simp only [get?_insert]
    by_cases same : name = rename key
    · subst same
      simp only [if_true, Option.some.injEq]
      constructor
      · rintro ⟨other, found, there, named, rfl⟩
        rw [injective named, if_pos rfl] at there
        rw [Option.some.inj there]
      · rintro rfl
        exact ⟨key, value, if_pos rfl, rfl, rfl⟩
    · rw [if_neg same, get?_map_eq_some injective]
      have others : ∀ {other}, rename other = name → other ≠ key := fun named equal =>
        same (equal ▸ named.symm)
      constructor
      · rintro ⟨other, found, there, named, rfl⟩
        exact ⟨other, found, by rwa [if_neg (others named)] at there, named, rfl⟩
      · rintro ⟨other, found, there, named, rfl⟩
        exact ⟨other, found, by rwa [if_neg (others named)], named, rfl⟩

/-- To enter entries one by one and change the table is to enter the changed entries. -/
theorem map_foldl_insert (entries : List (α × β)) (table : Table α β) :
    (entries.foldl (fun table entry => table.insert entry.1 entry.2) table).map rename change =
      (entries.map (Prod.map rename change)).foldl
        (fun table entry => table.insert entry.1 entry.2) (table.map rename change) := by
  induction entries generalizing table with
  | nil => rfl
  | cons entry rest ih => rw [List.foldl_cons, ih, map_insert injective]; rfl

/-- A changed table of entries is the table of the changed entries. -/
theorem map_ofList (entries : List (α × β)) :
    (ofList entries).map rename change = ofList (entries.map (Prod.map rename change)) :=
  map_foldl_insert injective change entries empty

end Renaming

variable [LawfulEqOrd α] [DecidableEq α]

/-- A table changed in no way is the same. -/
theorem map_id (table : Table α β) : table.map id id = table := by
  apply ext_entries
  rw [entries_map injective_id, Prod.map_id, List.map_id]

end VoxelCircuit.Table

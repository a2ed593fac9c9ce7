import Mathlib.Data.List.Nodup
import VoxelCircuit.Table.Basic

/-! # Tables of lists of entries

A table written from a list of entries with different keys finds under each key the
value that it was entered with.
-/

namespace VoxelCircuit.Table

open Std

variable {α β : Type} [Ord α] [TransOrd α]

/-- A table contains the keys that have a value. -/
theorem contains_eq_isSome (table : Table α β) (key : α) :
    table.contains key = (table.get? key).isSome :=
  (table.isSome_get? key).symm

/-- The keys of a table are those that have a value. -/
theorem mem_keys_iff {table : Table α β} {key : α} :
    key ∈ table.keys ↔ ∃ value, table.get? key = some value := by
  rw [← contains_iff, contains_eq_isSome, Option.isSome_iff_exists]

/-- The values of a table are those of its keys. -/
theorem mem_values {table : Table α β} {value : β} :
    value ∈ table.values ↔ ∃ key, table.get? key = some value := by
  simp only [values, List.mem_filterMap]
  constructor
  · rintro ⟨key, _, found⟩
    exact ⟨key, found⟩
  · rintro ⟨key, found⟩
    exact ⟨key, mem_keys_iff.mpr ⟨value, found⟩, found⟩

/-- The entries are listed under the keys in their order. -/
theorem map_fst_entries (table : Table α β) : table.entries.map Prod.fst = table.keys := by
  have found : ∀ keys : List α, (∀ key ∈ keys, key ∈ table.keys) →
      (keys.filterMap fun key => (table.get? key).map fun value => (key, value)).map Prod.fst =
        keys := by
    intro keys listed
    induction keys with
    | nil => rfl
    | cons key rest ih =>
        obtain ⟨value, present⟩ := mem_keys_iff.mp (listed key List.mem_cons_self)
        have others := ih fun other member => listed other (List.mem_cons_of_mem _ member)
        rw [List.filterMap_cons, present]
        simp only [Option.map_some, List.map_cons, others]
  exact found table.keys fun _ member => member

/-- The values of the entries are the values, in order. -/
theorem map_snd_entries (table : Table α β) : table.entries.map Prod.snd = table.values := by
  simp only [entries, values, List.map_filterMap, Option.map_map, Function.comp_def,
    Option.map_id_fun', id]

/-- There are as many values as keys. -/
theorem length_values (table : Table α β) : table.values.length = table.keys.length := by
  rw [← map_snd_entries, ← map_fst_entries, List.length_map, List.length_map]

variable [LawfulEqOrd α]

/-- A write leaves the keys in their places. -/
theorem keys_prefix_insert (table : Table α β) (key : α) (value : β) :
    table.keys <+: (table.insert key value).keys := by
  rw [keys_insert]
  split
  · exact List.prefix_rfl
  · exact List.prefix_append _ _

/-- A table in which no key has lost its place and the same is found is the same. -/
theorem eq_of_prefix {first second : Table α β} (places : first.keys <+: second.keys)
    (values : ∀ key, second.get? key = first.get? key) : second = first := by
  have same : ∀ key, key ∈ second.keys ↔ key ∈ first.keys := by
    intro key
    rw [mem_keys_iff, mem_keys_iff, values]
  have perm := (List.perm_ext_iff_of_nodup second.nodup_keys first.nodup_keys).mpr same
  exact ext_get? (places.eq_of_length perm.length_eq.symm).symm values

/-- Writes in order find a value under a key when it was there already and none of
them is under the key, or when one of them put it there. -/
theorem get?_foldl_insert [DecidableEq α] (entries : List (α × β))
    (distinct : (entries.map Prod.fst).Nodup) (table : Table α β) (key : α) (value : β) :
    (entries.foldl (fun table entry => table.insert entry.1 entry.2) table).get? key =
        some value ↔
      (key, value) ∈ entries ∨ (key ∉ entries.map Prod.fst ∧ table.get? key = some value) := by
  induction entries generalizing table with
  | nil => simp
  | cons entry rest ih =>
      obtain ⟨first, written⟩ := entry
      rw [List.map_cons, List.nodup_cons] at distinct
      rw [List.foldl_cons, ih distinct.2, get?_insert]
      by_cases same : key = first
      · subst same
        have absent : (key, value) ∉ rest := fun member =>
          distinct.1 (List.mem_map.mpr ⟨_, member, rfl⟩)
        simp [distinct.1, absent, eq_comm]
      · simp [same]

/-- A value is found in the table of a list of entries when it was entered. -/
theorem get?_ofList [DecidableEq α] {entries : List (α × β)}
    (distinct : (entries.map Prod.fst).Nodup) {key : α} {value : β} :
    (ofList entries).get? key = some value ↔ (key, value) ∈ entries := by
  rw [ofList, get?_foldl_insert entries distinct, get?_empty]
  simp

/-- A new key and its value are entered last. -/
theorem entries_insert_of_not_mem [DecidableEq α] {table : Table α β} {key : α}
    (absent : key ∉ table.keys) (value : β) :
    (table.insert key value).entries = table.entries ++ [(key, value)] := by
  have kept : ∀ other ∈ table.keys, (table.insert key value).get? other = table.get? other := by
    intro other listed
    have apart : other ≠ key := fun same => absent (same ▸ listed)
    rw [get?_insert, if_neg apart]
  have keys := keys_insert table key value
  rw [if_neg (fun present => absent (contains_iff.mp present))] at keys
  rw [entries, keys, List.filterMap_append, List.filterMap_congr fun other listed => by
    rw [kept other listed]]
  simp [entries]

/-- A table written from entries with different keys lists them as they are. -/
theorem entries_ofList [DecidableEq α] {entries : List (α × β)}
    (distinct : (entries.map Prod.fst).Nodup) : (ofList entries).entries = entries := by
  have after : ∀ table : Table α β, (∀ entry ∈ entries, entry.1 ∉ table.keys) →
      (entries.foldl (fun table entry => table.insert entry.1 entry.2) table).entries =
        table.entries ++ entries := by
    induction entries with
    | nil => simp
    | cons entry rest ih =>
        intro table fresh
        rw [List.map_cons, List.nodup_cons] at distinct
        have written := entries_insert_of_not_mem (fresh entry List.mem_cons_self) entry.2
        rw [List.foldl_cons, ih distinct.2, written, List.append_assoc, List.singleton_append]
        intro other member listed
        rw [← map_fst_entries, written, List.map_append, List.mem_append, map_fst_entries] at listed
        rcases listed with old | new
        · exact fresh other (List.mem_cons_of_mem _ member) old
        · exact distinct.1 (List.mem_singleton.mp new ▸ List.mem_map_of_mem member)
  exact after empty (by simp)

end VoxelCircuit.Table

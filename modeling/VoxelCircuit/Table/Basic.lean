import Std.Data.ExtTreeMap

/-! # Tables

A table is a finite map that keeps its keys in the order of their first writing. A
later write under a key replaces the value and leaves the key in its place. Looking
up and writing take as many comparisons as a balanced tree is high, and two tables
are equal as soon as they have the same keys in the same order with the same values.
-/

namespace VoxelCircuit

open Std

/-- A finite map that keeps its keys in the order of their first writing. -/
structure Table (α β : Type) [Ord α] [TransOrd α] where
  /-- The keys, the latest first. -/
  recent : List α
  /-- The value under each key. -/
  store : ExtTreeMap α β
  /-- No key is listed twice. -/
  nodup : recent.Nodup
  /-- The listed keys are those with a value. -/
  mem_store : ∀ key, key ∈ store ↔ key ∈ recent

namespace Table

variable {α β : Type} [Ord α] [TransOrd α]

/-- The table without keys. -/
def empty : Table α β where
  recent := []
  store := ∅
  nodup := .nil
  mem_store key := by simp

instance : Inhabited (Table α β) := ⟨empty⟩

/-- The value under a key, if there is one. -/
def get? (table : Table α β) (key : α) : Option β :=
  table.store[key]?

/-- Whether there is a value under a key. -/
def contains (table : Table α β) (key : α) : Bool :=
  table.store.contains key

/-- The keys in the order of their first writing. -/
def keys (table : Table α β) : List α :=
  table.recent.reverse

/-- The keys with their values, in the order of first writing. -/
def entries (table : Table α β) : List (α × β) :=
  table.keys.filterMap fun key => (table.get? key).map fun value => (key, value)

/-- The values in the order in which their keys were first written. -/
def values (table : Table α β) : List β :=
  table.keys.filterMap table.get?

/-- The number of keys. -/
def size (table : Table α β) : Nat :=
  table.recent.length

/-- Whether there are no keys. -/
def isEmpty (table : Table α β) : Bool :=
  table.recent.isEmpty

/-- Nothing is found in the table without keys. -/
@[simp] theorem get?_empty (key : α) : (empty : Table α β).get? key = none :=
  ExtTreeMap.getElem?_empty

/-- The table without keys has none. -/
@[simp] theorem keys_empty : (empty : Table α β).keys = [] :=
  rfl

/-- There is a value under each key. -/
theorem isSome_get? (table : Table α β) (key : α) :
    (table.get? key).isSome = table.contains key :=
  (ExtTreeMap.contains_eq_isSome_getElem? ..).symm

/-- The keys are those under which there is a value. -/
@[simp] theorem contains_iff {table : Table α β} {key : α} :
    table.contains key = true ↔ key ∈ table.keys := by
  rw [keys, List.mem_reverse, ← table.mem_store key]
  exact ExtTreeMap.contains_iff_mem

/-- No key occurs twice. -/
theorem nodup_keys (table : Table α β) : table.keys.Nodup := by
  have distinct := table.nodup
  rw [keys]
  unfold List.Nodup at *
  rw [List.pairwise_reverse]
  exact distinct.imp Ne.symm

/-- The entries are the pairs of a key and the value found under it. -/
@[simp] theorem mem_entries {table : Table α β} {key : α} {value : β} :
    (key, value) ∈ table.entries ↔ table.get? key = some value := by
  simp only [entries, List.mem_filterMap, Option.map_eq_some_iff, Prod.mk.injEq]
  constructor
  · rintro ⟨_, _, _, found, rfl, rfl⟩
    exact found
  · intro found
    refine ⟨key, contains_iff.mp ?_, value, found, rfl, rfl⟩
    rw [← isSome_get?, found]
    rfl

variable [LawfulEqOrd α]

/-- Tables with the same keys in the same order and the same values are equal. -/
theorem ext_get? {first second : Table α β} (keys : first.keys = second.keys)
    (values : ∀ key, first.get? key = second.get? key) : first = second := by
  obtain ⟨recent, store, nodup, mem_store⟩ := first
  obtain ⟨recent', store', nodup', mem_store'⟩ := second
  obtain rfl : recent = recent' := List.reverse_inj.mp keys
  obtain rfl : store = store' := ExtTreeMap.ext_getElem? values
  rfl

instance [DecidableEq α] [DecidableEq β] : DecidableEq (Table α β) := fun first second =>
  if same : first.recent = second.recent ∧ first.store = second.store then
    isTrue (by
      cases first
      cases second
      simp_all)
  else
    isFalse fun equal => same ⟨by rw [equal], by rw [equal]⟩

/-- The table after a write. -/
def insert (table : Table α β) (key : α) (value : β) : Table α β :=
  if old : table.store.contains key then
    { table with
      store := table.store.insert key value
      mem_store := fun other => by
        rw [ExtTreeMap.mem_insert, Std.compare_eq_iff_eq, ← table.mem_store other]
        exact ⟨fun either => either.elim (fun same => same ▸ ExtTreeMap.contains_iff_mem.mp old) id,
          Or.inr⟩ }
  else
    { recent := key :: table.recent
      store := table.store.insert key value
      nodup := List.nodup_cons.mpr
        ⟨fun listed => old (ExtTreeMap.contains_iff_mem.mpr ((table.mem_store key).mpr listed)),
          table.nodup⟩
      mem_store := fun other => by
        rw [ExtTreeMap.mem_insert, Std.compare_eq_iff_eq, table.mem_store other, List.mem_cons,
          eq_comm] }

/-- A write is seen under its key and nowhere else. -/
@[simp] theorem get?_insert [DecidableEq α] (table : Table α β) (key other : α) (value : β) :
    (table.insert key value).get? other = if other = key then some value else table.get? other := by
  have found : (table.insert key value).get? other = (table.store.insert key value)[other]? := by
    unfold insert
    split <;> rfl
  rw [found, ExtTreeMap.getElem?_insert]
  simp only [Std.compare_eq_iff_eq, eq_comm (a := key)]
  rfl

/-- A write puts its key last, unless the key has a place already. -/
theorem keys_insert (table : Table α β) (key : α) (value : β) :
    (table.insert key value).keys =
      if table.contains key then table.keys else table.keys ++ [key] := by
  unfold insert contains
  split
  · rfl
  · exact List.reverse_cons

/-- The table of a list of entries, written in order. -/
def ofList (entries : List (α × β)) : Table α β :=
  entries.foldl (fun table entry => table.insert entry.1 entry.2) empty

end Table

/-- A set that keeps its elements in the order in which they were first put in. -/
abbrev OrderedSet (α : Type) [Ord α] [TransOrd α] := Table α Unit

namespace OrderedSet

variable {α : Type} [Ord α] [TransOrd α] [LawfulEqOrd α]

/-- The set with one more element; an element that is in it already keeps its place. -/
def add (set : OrderedSet α) (element : α) : OrderedSet α :=
  set.insert element ()

/-- An element that is put in comes last, unless it is in the set already. -/
theorem keys_add (set : OrderedSet α) (element : α) :
    (set.add element).keys =
      if set.contains element then set.keys else set.keys ++ [element] :=
  Table.keys_insert set element ()

end OrderedSet

end VoxelCircuit

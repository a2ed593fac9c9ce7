import Std.Data.ExtTreeMap

/-! # Groups

Items that carry a key each, sorted into groups in a single pass. The group of a key
holds the items under it in their old order.
-/

namespace VoxelCircuit

open Std

/-- Items sorted into groups by their keys. -/
structure Groups (α β : Type) [Ord α] [TransOrd α] where
  /-- The items under each key that occurs. -/
  store : ExtTreeMap α (List β)

namespace Groups

variable {α β : Type} [Ord α] [TransOrd α]

/-- The items under a key, in order. -/
def get (groups : Groups α β) (key : α) : List β :=
  groups.store[key]?.getD []

/-- The groups with one more item, which comes first. -/
def cons (item : α × β) (groups : Groups α β) : Groups α β :=
  ⟨groups.store.insert item.1 (item.2 :: groups.get item.1)⟩

/-- The groups of a list of items. -/
def ofList (items : List (α × β)) : Groups α β :=
  items.foldr cons ⟨∅⟩

/-- The items under a key are those of the list that carry it, in order. -/
theorem get_ofList [LawfulEqOrd α] [DecidableEq α] (items : List (α × β)) (key : α) :
    (ofList items).get key = (items.filter fun item => item.1 = key).map Prod.snd := by
  induction items with
  | nil => simp [ofList, get]
  | cons item rest ih =>
    by_cases same : item.1 = key
    · subst same
      simpa [ofList, cons, get] using ih
    · have found : (ofList (item :: rest)).get key = (ofList rest).get key := by
        simp [ofList, cons, get, ExtTreeMap.getElem?_insert, same]
      simp [found, ih, same]

end Groups

end VoxelCircuit

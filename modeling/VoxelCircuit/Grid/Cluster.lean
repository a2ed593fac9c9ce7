import Std.Data.ExtTreeSet
import VoxelCircuit.Grid.Basic
import VoxelCircuit.Table.Basic

/-! # Clusters

The blocks with a behavior fall into groups joined face to face. A group is
listed breadth-first from its first block in scan order, and the groups follow
the scan order of their first blocks. A cluster is a group with more in it than
wire; only clusters carry circuits.
-/

namespace VoxelCircuit

namespace Grid

variable {γ : Type} [Grid γ]

/-- Whether the block at a position has a behavior. -/
def active (grid : γ) (pos : Pos) : Bool :=
  (behavior grid pos).isSome

/-- Whether the block at a position has a behavior other than that of wire. -/
def activeBeyondWire (grid : γ) (pos : Pos) : Bool :=
  (behavior grid pos).any fun behavior => !behavior.isWire

/-- The blocks with a behavior next to a position, in the order of the directions. -/
def neighbors (grid : γ) (pos : Pos) : List Pos :=
  (Direction.all.map pos.step).filter (active grid)

/-- Take note of a block: it is fresh unless it was found before. `found` are all blocks
found so far, and `fresh` those found since the search went one step further, the
latest first. -/
def note (progress : OrderedSet Pos × List Pos) (pos : Pos) : OrderedSet Pos × List Pos :=
  let (found, fresh) := progress
  if found.contains pos then (found, fresh) else (OrderedSet.add found pos, pos :: fresh)

/-- Search on from the blocks of a level, which are all as many steps away from the
start. The fresh ones among their neighbors are the next level. Each level but the
last finds a block, so there are at most as many levels as blocks. -/
def spread (grid : γ) : (levels : Nat) → (level : List Pos) → (found : OrderedSet Pos) →
    OrderedSet Pos
  | 0, _, found => found
  | _ + 1, [], found => found
  | levels + 1, first :: rest, found =>
    let (found, fresh) := ((first :: rest).flatMap (neighbors grid)).foldl note (found, [])
    spread grid levels fresh.reverse found

/-- The blocks joined to a block with a behavior, breadth-first from it on. -/
def groupOf (grid : γ) (seed : Pos) : List Pos :=
  (spread grid (support grid).cardinality [seed] (OrderedSet.add .empty seed)).keys

/-- Groups that were found in a scan, and the blocks in them. -/
structure Grouping where
  /-- The groups, the latest first. -/
  groups : List (List Pos)
  /-- The blocks in the groups. -/
  grouped : Std.ExtTreeSet Pos

/-- The groups found so far, with that of a block unless it is in one of them. -/
def Grouping.extend (grid : γ) (grouping : Grouping) (seed : Pos) : Grouping :=
  if seed ∈ bounds grid ∧ active grid seed ∧ ¬grouping.grouped.contains seed then
    let group := groupOf grid seed
    ⟨group :: grouping.groups, grouping.grouped.insertMany group⟩
  else grouping

/-- The groups of blocks joined face to face, in the scan order of their first
blocks within the bounds. -/
def groups (grid : γ) : List (List Pos) :=
  ((support grid).scan (Grouping.extend grid) ⟨[], ∅⟩).groups.reverse

/-- The groups that are not of wire alone. -/
def clusters (grid : γ) : List (List Pos) :=
  (groups grid).filter fun group => group.any (activeBeyondWire grid)

end Grid

end VoxelCircuit

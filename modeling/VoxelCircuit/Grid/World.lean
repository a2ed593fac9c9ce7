import VoxelCircuit.Grid.Voxel

/-! # Worlds

The grids that can be put together: voxel grids whose chips hold worlds again,
worlds seen through narrower or wider bounds, and grids of some other kind.
-/

namespace VoxelCircuit

/-- A grid put together from voxel grids, bounds and grids of kind `ω`. -/
inductive World (ω : Type) where
  /-- A voxel grid. -/
  | voxel (grid : VoxelGrid (World ω))
  /-- A world that reports other bounds. All reads pass through unchanged, and
  writes outside these bounds are refused. -/
  | bounded (bounds : Box) (inner : World ω)
  /-- A grid of the other kind. -/
  | other (grid : ω)

namespace World

variable {ω : Type}

/-- The box of valid positions. -/
def bounds [Grid ω] : World ω → Box
  | voxel grid => grid.bounds
  | bounded bounds _ => bounds
  | other grid => Grid.bounds grid

/-- A box outside which no block has a behavior. -/
def support [Grid ω] : World ω → Box
  | voxel grid => grid.bounds
  | bounded _ inner => inner.support
  | other grid => Grid.support grid

/-- The type of the block at a position. -/
def blockId [Grid ω] : World ω → Pos → BlockId
  | voxel grid, pos => (grid.cell pos).id
  | bounded _ inner, pos => inner.blockId pos
  | other grid, pos => Grid.blockId grid pos

/-- What the block at a position does. -/
def behavior [Grid ω] : World ω → Pos → Option Behavior
  | voxel grid, pos => grid.behavior pos
  | bounded _ inner, pos => inner.behavior pos
  | other grid, pos => Grid.behavior grid pos

/-- How the block at a position is turned. -/
def orientation [Grid ω] : World ω → Pos → Orientation
  | voxel grid, pos => (grid.cell pos).orientation
  | bounded _ inner, pos => inner.orientation pos
  | other grid, pos => Grid.orientation grid pos

/-- The number that the block at a position keeps. -/
def datum [Grid ω] : World ω → Pos → Int
  | voxel grid, pos => (grid.cell pos).datum
  | bounded _ inner, pos => inner.datum pos
  | other grid, pos => Grid.datum grid pos

/-- The grid inside the block at a position. -/
def interior [Grid ω] : World ω → Pos → Option (World ω)
  | voxel grid, pos => grid.interior pos
  | bounded _ inner, pos => inner.interior pos
  | other grid, pos => (Grid.interior grid pos).map other

/-- No block outside the support has a behavior. -/
theorem behavior_of_not_mem [Grid ω] : (world : World ω) → {pos : Pos} →
    pos ∉ world.support → world.behavior pos = none
  | voxel _, _, outside => VoxelGrid.behavior_of_not_mem outside
  | bounded _ inner, _, outside => inner.behavior_of_not_mem outside
  | other grid, pos, outside => Grid.behavior_eq_none grid pos outside

instance [Grid ω] : Grid (World ω) where
  bounds := bounds
  support := support
  blockId := blockId
  behavior := behavior
  orientation := orientation
  datum := datum
  interior := interior
  behavior_eq_none world _ outside := world.behavior_of_not_mem outside

/-- The world after an edit. -/
def apply [EditableGrid ω] : World ω → Edit → Except GridError (World ω)
  | voxel grid, edit => (grid.apply edit).map voxel
  | bounded bounds inner, edit =>
    if edit.pos ∈ bounds then (inner.apply edit).map (bounded bounds)
    else .error (.outOfBounds edit.pos bounds)
  | other grid, edit => (EditableGrid.apply grid edit).map other

instance [EditableGrid ω] : EditableGrid (World ω) where
  apply := apply

end World

end VoxelCircuit

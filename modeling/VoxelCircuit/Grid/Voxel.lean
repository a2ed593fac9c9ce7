import VoxelCircuit.Grid.Basic
import VoxelCircuit.Grid.Catalog

/-! # Voxel grids

A box of cells with one corner at the origin, stored cell by cell in scan order.
The three sides and the number of stored cells are part of the type, so that
every position of the box has its own stored cell and no other has one. Reads
outside the box find unturned air with datum 0.
-/

namespace VoxelCircuit

/-- The block in one cell. -/
structure Cell where
  /-- The type of the block. -/
  id : BlockId
  /-- How the block is turned. -/
  orientation : Orientation
  /-- The number that the block keeps. -/
  datum : Int
deriving DecidableEq

/-- Unturned air with datum 0. -/
def Cell.air : Cell := ⟨.air, .identity, 0⟩

instance : Inhabited Cell := ⟨.air⟩

/-- The sides of a voxel grid, each from 1 to 1024. -/
structure GridExtent where
  /-- The side along x. -/
  width : Nat
  /-- The side along y. -/
  height : Nat
  /-- The side along z. -/
  depth : Nat
  /-- The side along x is in its range. -/
  width_range : 0 < width ∧ width ≤ 1024
  /-- The side along y is in its range. -/
  height_range : 0 < height ∧ height ≤ 1024
  /-- The side along z is in its range. -/
  depth_range : 0 < depth ∧ depth ≤ 1024
deriving DecidableEq

namespace GridExtent

/-- The extent with given sides, when each is in its range. -/
def ofSides? (width height depth : Nat) : Option GridExtent :=
  if ranges : (0 < width ∧ width ≤ 1024) ∧ (0 < height ∧ height ≤ 1024) ∧
      (0 < depth ∧ depth ≤ 1024) then
    some ⟨width, height, depth, ranges.1, ranges.2.1, ranges.2.2⟩
  else none

/-- The box from the origin with given sides. -/
def box (extent : GridExtent) : Box where
  low := .origin
  high := ⟨extent.width, extent.height, extent.depth⟩
  x_lt := Int.ofNat_lt.mpr extent.width_range.1
  y_lt := Int.ofNat_lt.mpr extent.height_range.1
  z_lt := Int.ofNat_lt.mpr extent.depth_range.1

end GridExtent

/-- A box of cells with the catalog of their types. -/
structure VoxelGrid (γ : Type) where
  /-- What the ids in the cells stand for. -/
  catalog : Catalog γ
  /-- The sides of the box. -/
  extent : GridExtent
  /-- The cells in scan order. -/
  cells : Array Cell
  /-- There is one cell for each position of the box. -/
  size_cells : cells.size = extent.box.cardinality

namespace VoxelGrid

variable {γ : Type}

/-- The box of valid positions. -/
def bounds (grid : VoxelGrid γ) : Box :=
  grid.extent.box

/-- A grid of air; refused when a side is not in its range. -/
def ofAir (catalog : Catalog γ) (width height depth : Nat) : Except GridError (VoxelGrid γ) :=
  match GridExtent.ofSides? width height depth with
  | some extent => .ok ⟨catalog, extent, .replicate extent.box.cardinality .air, by simp⟩
  | none => .error .emptyGrid

/-- The cell at a position; air outside the box. -/
def cell (grid : VoxelGrid γ) (pos : Pos) : Cell :=
  if pos ∈ grid.bounds then (grid.cells[grid.bounds.numberOf pos]?).getD .air else .air

/-- The cell at a position outside the box is air. -/
theorem cell_of_not_mem {grid : VoxelGrid γ} {pos : Pos} (outside : pos ∉ grid.bounds) :
    grid.cell pos = .air :=
  if_neg outside

/-- What the block at a position does. -/
def behavior (grid : VoxelGrid γ) (pos : Pos) : Option Behavior :=
  grid.catalog.behavior (grid.cell pos).id

/-- The grid inside the block at a position. -/
def interior (grid : VoxelGrid γ) (pos : Pos) : Option γ :=
  grid.catalog.interior (grid.cell pos).id

/-- No block outside the box has a behavior. -/
theorem behavior_of_not_mem {grid : VoxelGrid γ} {pos : Pos} (outside : pos ∉ grid.bounds) :
    grid.behavior pos = none := by
  rw [behavior, cell_of_not_mem outside]
  exact grid.catalog.behavior_air

/-- The number of cells that are not air. -/
def occupied (grid : VoxelGrid γ) : Nat :=
  grid.cells.countP fun cell => cell.id != .air

/-- The grid with another cell at a position; refused outside the box. -/
def setCell (grid : VoxelGrid γ) (pos : Pos) (cell : Cell) : Except GridError (VoxelGrid γ) :=
  if pos ∈ grid.bounds then
    .ok { grid with
      cells := grid.cells.setIfInBounds (grid.bounds.numberOf pos) cell
      size_cells := by simp [grid.size_cells] }
  else .error (.outOfBounds pos grid.bounds)

/-- A written cell is read back at its position, and all other cells are kept. -/
theorem cell_setCell {grid after : VoxelGrid γ} {pos : Pos} {cell : Cell}
    (written : grid.setCell pos cell = .ok after) (other : Pos) :
    after.cell other = if other = pos then cell else grid.cell other := by
  unfold setCell at written
  split at written
  · rename_i inside
    injection written with written
    subst written
    have below := grid.size_cells ▸ Box.numberOf_lt inside
    by_cases same : other = pos
    · subst same
      simp only [VoxelGrid.cell, bounds] at inside below ⊢
      simp [inside, below]
    · by_cases within : other ∈ grid.bounds
      · have apart : grid.bounds.numberOf pos ≠ grid.bounds.numberOf other := fun equal =>
          same (by rw [← Box.positionAt_numberOf within, ← equal, Box.positionAt_numberOf inside])
        simp only [VoxelGrid.cell, bounds] at within apart ⊢
        simp [same, within, Array.getElem?_setIfInBounds_ne apart]
      · have kept : grid.cell other = .air := cell_of_not_mem within
        rw [kept, if_neg same]
        exact cell_of_not_mem within
  · contradiction

/-- The grid with another block at a position. That the catalog has the type is
checked before the position. -/
def setBlock (grid : VoxelGrid γ) (pos : Pos) (id : BlockId) (orientation : Orientation)
    (datum : Int) : Except GridError (VoxelGrid γ) :=
  if grid.catalog.contains id then grid.setCell pos ⟨id, orientation, datum⟩
  else .error (.unknownBlock id)

/-- The grid with an unturned block with datum 0 at a position. -/
def place (grid : VoxelGrid γ) (pos : Pos) (id : BlockId) : Except GridError (VoxelGrid γ) :=
  grid.setBlock pos id .identity 0

/-- The grid with another datum at a position. -/
def setDatum (grid : VoxelGrid γ) (pos : Pos) (value : Int) : Except GridError (VoxelGrid γ) :=
  grid.setCell pos { grid.cell pos with datum := value }

/-- The grid with the block at a position turned. -/
def setOrientation (grid : VoxelGrid γ) (pos : Pos) (orientation : Orientation) :
    Except GridError (VoxelGrid γ) :=
  grid.setCell pos { grid.cell pos with orientation := orientation }

/-- The grid with an unturned block at a position that takes over a datum. -/
def replaceBlock (grid : VoxelGrid γ) (pos : Pos) (id : BlockId) (datum : Int) :
    Except GridError (VoxelGrid γ) :=
  grid.setBlock pos id .identity datum

/-- The grid after an edit. -/
def apply (grid : VoxelGrid γ) : Edit → Except GridError (VoxelGrid γ)
  | .setDatum pos value => grid.setDatum pos value
  | .setOrientation pos orientation => grid.setOrientation pos orientation
  | .replaceBlock pos id datum => grid.replaceBlock pos id datum

end VoxelGrid

end VoxelCircuit

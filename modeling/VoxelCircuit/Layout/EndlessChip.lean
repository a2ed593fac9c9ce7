import VoxelCircuit.Grid.Basic

/-! # The endless chip

A grid of one chip whose inside is the same grid again. Only a limit on the depth
of nesting ends its compilation. It cannot be written to.
-/

namespace VoxelCircuit

/-- The grid of one chip that holds the same grid. -/
inductive EndlessChip where
  /-- The only such grid. -/
  | grid
deriving DecidableEq, Inhabited

namespace EndlessChip

/-- The one cell at the origin. -/
def bounds : Box := .single .origin

/-- What the block at a position does: at the origin it is a chip. -/
def behavior (pos : Pos) : Option Behavior :=
  if pos = .origin then some .chip else none

/-- No block but the chip has a behavior. -/
theorem behavior_of_not_mem {pos : Pos} (outside : pos ∉ bounds) : behavior pos = none := by
  apply if_neg
  intro atOrigin
  subst atOrigin
  exact outside (by decide)

instance : Grid EndlessChip where
  bounds _ := bounds
  support _ := bounds
  blockId _ pos := if pos = .origin then ⟨30⟩ else .air
  behavior _ pos := behavior pos
  orientation _ _ := .identity
  datum _ _ := 0
  interior whole pos := if pos = .origin then some whole else none
  behavior_eq_none _ _ outside := behavior_of_not_mem outside

instance : EditableGrid EndlessChip where
  apply _ edit := .error (.outOfBounds edit.pos bounds)

end EndlessChip

end VoxelCircuit

import VoxelCircuit.Block.Id
import VoxelCircuit.Space.Box

/-! # What can go wrong with a grid

The causes for which building a catalog, building a grid or writing to one is
refused, each with the text that reports it.
-/

namespace VoxelCircuit

/-- Why a grid or a catalog refuses. -/
inductive GridError where
  /-- A write addresses a cell outside the bounds. -/
  | outOfBounds (pos : Pos) (bounds : Box)
  /-- A grid is asked for with a side that is zero or too long. -/
  | emptyGrid
  /-- An id stands for no type of the catalog. -/
  | unknownBlock (id : BlockId)
  /-- An id is given to a second type. -/
  | duplicateBlock (id : BlockId)
deriving DecidableEq

/-- The text that reports a refusal. -/
def GridError.message : GridError → String
  | outOfBounds pos bounds => "position " ++ pos.text ++ " out of bounds " ++ bounds.text
  | emptyGrid => "grid must have at least one cell"
  | unknownBlock id => "block id " ++ id.text ++ " is not in the catalog"
  | duplicateBlock id => "block id " ++ id.text ++ " registered twice"

end VoxelCircuit

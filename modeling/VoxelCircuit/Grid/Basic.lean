import VoxelCircuit.Block.Behavior
import VoxelCircuit.Grid.Error

/-! # Grids

A grid is anything that answers for the block at every position: which type it
has, what it does, how it is turned, its datum and the grid inside it. Grids of
one kind hold grids of the same kind, so that nesting may go on without end.
Only finitely many positions have a behavior; `Grid.support` is a box around them.

Evaluation never writes to a grid. It requests edits, which are applied later.
-/

namespace VoxelCircuit

/-- A kind of grids, by what can be read from them. -/
class Grid (γ : Type) where
  /-- The box of valid positions. -/
  bounds : γ → Box
  /-- A box outside which no block has a behavior. -/
  support : γ → Box
  /-- The type of the block at a position. -/
  blockId : γ → Pos → BlockId
  /-- What the block at a position does. -/
  behavior : γ → Pos → Option Behavior
  /-- How the block at a position is turned. -/
  orientation : γ → Pos → Orientation
  /-- The number that the block at a position keeps. -/
  datum : γ → Pos → Int
  /-- The grid inside the block at a position. -/
  interior : γ → Pos → Option γ
  /-- No block outside the support has a behavior. -/
  behavior_eq_none : ∀ (grid : γ) (pos : Pos), pos ∉ support grid → behavior grid pos = none

/-- A requested change of one block. -/
inductive Edit where
  /-- Give the block another datum. -/
  | setDatum (pos : Pos) (value : Int)
  /-- Turn the block. -/
  | setOrientation (pos : Pos) (orientation : Orientation)
  /-- Put an unturned block of another type there, with a datum. -/
  | replaceBlock (pos : Pos) (id : BlockId) (datum : Int)
deriving DecidableEq

/-- The position of the block that an edit changes. -/
def Edit.pos : Edit → Pos
  | setDatum pos _ | setOrientation pos _ | replaceBlock pos _ _ => pos

/-- A kind of grids that can be edited. -/
class EditableGrid (γ : Type) extends Grid γ where
  /-- The grid after an edit, or why it is refused. -/
  apply : γ → Edit → Except GridError γ

namespace EditableGrid

variable {γ : Type} [EditableGrid γ]

/-- The grid after a list of edits in order, up to the first that is refused, and
why that one is. -/
def applyAll (grid : γ) : List Edit → γ × Except GridError Unit
  | [] => (grid, .ok ())
  | edit :: rest =>
    match apply grid edit with
    | .ok after => applyAll after rest
    | .error error => (grid, .error error)

/-- Step on a pad or off it. Its datum becomes 1 or 0; the answer says whether
that changed it. Blocks that are not pads are left alone. -/
def stepOn (grid : γ) (pos : Pos) (on : Bool) : Except GridError (γ × Bool) :=
  let level : Int := if on then 1 else 0
  if Grid.behavior grid pos = some .pad ∧ Grid.datum grid pos ≠ level then
    (apply grid (.setDatum pos level)).map fun after => (after, true)
  else .ok (grid, false)

end EditableGrid

end VoxelCircuit

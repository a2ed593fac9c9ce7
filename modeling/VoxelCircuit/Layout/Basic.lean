import VoxelCircuit.Grid.World

/-! # Layouts

Ways to put a voxel grid together: a list of blocks to be set one after another,
and commands for single blocks and runs of wire. The standard catalog has a type
for each behavior but that of chips.
-/

namespace VoxelCircuit

variable {γ : Type}

/-- The extent with given sides, each brought into its range. -/
def GridExtent.clamped (width height depth : Nat) : GridExtent where
  width := max 1 (min width 1024)
  height := max 1 (min height 1024)
  depth := max 1 (min depth 1024)
  width_range := by omega
  height_range := by omega
  depth_range := by omega

/-- A block to be set at a position. -/
structure Placement where
  /-- Where the block is set. -/
  pos : Pos
  /-- The type of the block. -/
  id : BlockId
  /-- How the block is turned. -/
  orientation : Orientation
  /-- The datum of the block. -/
  datum : Int
deriving DecidableEq

/-- An unturned block to be set with datum 0. -/
def Placement.plain (pos : Pos) (id : BlockId) : Placement :=
  ⟨pos, id, .identity, 0⟩

/-- The grid after setting blocks one after another. -/
def VoxelGrid.setBlocks (grid : VoxelGrid γ) (placements : List Placement) :
    Except GridError (VoxelGrid γ) :=
  placements.foldlM
    (fun grid placement =>
      grid.setBlock placement.pos placement.id placement.orientation placement.datum)
    grid

/-- The grid of given sides in which blocks were set one after another. -/
def VoxelGrid.ofPlacements (catalog : Catalog γ) (width height depth : Nat)
    (placements : List Placement) : Except GridError (VoxelGrid γ) := do
  let grid ← VoxelGrid.ofAir catalog width height depth
  grid.setBlocks placements

namespace Layout

/-- A type of a catalog with a behavior, named for it. -/
def typeFor (id : UInt8) (behavior : Behavior) : BlockType γ :=
  ⟨⟨id⟩, behavior.name, some behavior, none⟩

/-- The types of the standard catalog, air apart: one for each behavior but that of
chips, and stone, which has none. -/
def standardTypes : List (BlockType γ) :=
  [typeFor 1 .wire, typeFor 2 .pad, typeFor 3 .indicator, typeFor 4 .junction, typeFor 5 .nor,
    typeFor 6 .gate, typeFor 7 .datumSensor, typeFor 8 .neighborSensor, typeFor 9 .spontaneous,
    typeFor 10 .rotator, typeFor 11 .changer, typeFor 12 .chipOutput,
    ⟨⟨20⟩, "stone", none, none⟩]

/-- A command for setting blocks of the standard catalog. -/
inductive Command where
  /-- Set an unturned block with datum 0. -/
  | block (pos : Pos) (id : BlockId)
  /-- Set a turned block with datum 0. -/
  | rotated (pos : Pos) (id : BlockId) (orientation : Orientation)
  /-- Set an unturned block with a datum. -/
  | datum (pos : Pos) (id : BlockId) (value : Int)
  /-- Set a run of standard wire of some length that starts one step away. -/
  | wires (start : Pos) (direction : Direction) (length : Nat)
deriving DecidableEq

/-- The grid after setting a run of standard wire of some length that starts one step
away, up to the first wire that is refused. -/
def setWires (direction : Direction) : (length : Nat) → Pos → VoxelGrid γ →
    Except GridError (VoxelGrid γ)
  | 0, _, grid => .ok grid
  | length + 1, pos, grid =>
    match grid.place (pos.step direction) ⟨1⟩ with
    | .error error => .error error
    | .ok after => setWires direction length (pos.step direction) after

/-- The grid after a command. -/
def Command.apply (grid : VoxelGrid γ) : Command → Except GridError (VoxelGrid γ)
  | block pos id => grid.place pos id
  | rotated pos id orientation => grid.setBlock pos id orientation 0
  | datum pos id value => grid.setBlock pos id .identity value
  | wires start direction length => setWires direction length start grid

/-- The grid of given sides after commands one after another. -/
def ofCommands (catalog : Catalog γ) (width height depth : Nat) (commands : List Command) :
    Except GridError (VoxelGrid γ) := do
  let grid ← VoxelGrid.ofAir catalog width height depth
  commands.foldlM Command.apply grid

end Layout

end VoxelCircuit

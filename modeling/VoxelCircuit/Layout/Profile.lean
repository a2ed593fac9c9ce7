import VoxelCircuit.Layout.Basic

/-! # Profile layouts

Three families of layouts, each of any length: a chain of wire, a lattice of open
gates and a row of chips. They share one catalog.
-/

namespace VoxelCircuit

variable {ω : Type}

namespace Profile

/-- The id of wire. -/
def wire : BlockId := ⟨1⟩

/-- The id of pads. -/
def pad : BlockId := ⟨2⟩

/-- The id of lamps, which are indicators. -/
def lamp : BlockId := ⟨3⟩

/-- The id of gates. -/
def gate : BlockId := ⟨4⟩

/-- The id of datum sensors. -/
def sensor : BlockId := ⟨5⟩

/-- The id of chip outputs. -/
def output : BlockId := ⟨6⟩

/-- The id of chips. -/
def chip : BlockId := ⟨7⟩

/-- The types of the catalog but air and chips. -/
def baseTypes : List (BlockType (World ω)) :=
  [⟨wire, "wire", some .wire, none⟩, ⟨pad, "pad", some .pad, none⟩,
    ⟨lamp, "lamp", some .indicator, none⟩, ⟨gate, "gate", some .gate, none⟩,
    ⟨sensor, "sensor", some .datumSensor, none⟩, ⟨output, "output", some .chipOutput, none⟩]

/-- The grid inside the chips: a sensor that reads the datum of the chip, and an
output that publishes it on the -X face. -/
def chipInterior : Except GridError (VoxelGrid (World ω)) := do
  let catalog ← Catalog.ofTypes baseTypes
  VoxelGrid.ofPlacements catalog 2 1 1 [.plain ⟨0, 0, 0⟩ sensor, .plain ⟨1, 0, 0⟩ output]

/-- The catalog of the profile layouts. -/
def catalog : Except GridError (Catalog (World ω)) := do
  let interior ← chipInterior
  Catalog.ofTypes (baseTypes ++ [⟨chip, "chip", some .chip, some (.voxel interior)⟩])

/-- Whether an id is one of the catalog's, air apart. -/
def isProfileBlock (id : BlockId) : Bool :=
  wire.value ≤ id.value && id.value ≤ chip.value

/-- How far a word counts when its top bit is a sign: not at all when it is negative. -/
def countOf (word : UInt32) : Nat :=
  word.toInt32.toNatClampNeg

/-- The blocks of a chain: a lit pad, wire along +X, and a lamp. -/
def wireChainBlocks (length : Nat) : List Placement :=
  ⟨.origin, pad, .identity, 1⟩ ::
    ((List.range length).map fun (place : Nat) => .plain ⟨place + 1, 0, 0⟩ wire) ++
      [.plain ⟨length + 1, 0, 0⟩ lamp]

/-- A chain of wire between a lit pad and a lamp. -/
def wireChain (length : UInt32) : Except GridError (VoxelGrid (World ω)) := do
  let grid ← VoxelGrid.ofAir (← catalog) (length + 2).toNat 1 1
  grid.setBlocks (wireChainBlocks (countOf length))

/-- The blocks of one gate of a row: wire, the gate, and a lit pad on top of it. -/
def latticeGateBlocks (z : Int) (place : Nat) : List Placement :=
  [.plain ⟨1 + 2 * place, 0, z⟩ wire, .plain ⟨2 + 2 * place, 0, z⟩ gate,
    ⟨⟨2 + 2 * place, 1, z⟩, pad, .identity, 1⟩]

/-- The blocks of a row of a lattice: a lit pad, the gates, and wire and a lamp in the
last two cells of the row. -/
def latticeRowBlocks (width gates row : Nat) : List Placement :=
  let z : Int := 2 * row
  ⟨⟨0, 0, z⟩, pad, .identity, 1⟩ :: (List.range gates).flatMap (latticeGateBlocks z) ++
    [.plain ⟨width - 2, 0, z⟩ wire, .plain ⟨width - 1, 0, z⟩ lamp]

/-- Rows of open gates along +X, two apart along z. The sides are computed in words. No
more gates than there are cells in a row are tried, since the first that does not fit
is refused. -/
def gateLattice (rows gates : UInt32) : Except GridError (VoxelGrid (World ω)) := do
  let width := (2 * gates + 3).toNat
  let grid ← VoxelGrid.ofAir (← catalog) width 2 (max ((2 * rows).toNat - 1) 1)
  grid.setBlocks
    ((List.range (countOf rows)).flatMap (latticeRowBlocks width (min (countOf gates) width)))

/-- The positions of the lamps of a lattice, computed in signed words along x. -/
def latticeLamps (rows gates : UInt32) : List Pos :=
  let x := (2 * gates.toInt32 + 2).toInt
  (List.range (countOf rows)).map fun (row : Nat) => ⟨x, 0, 2 * row⟩

/-- The blocks of one chip of a row and the lamp on its -X side. -/
def chipBlocks (place : Nat) : List Placement :=
  [.plain ⟨2 * place, 0, 0⟩ lamp, ⟨⟨2 * place + 1, 0, 0⟩, chip, .identity, place + 1⟩]

/-- Chips along +X, each with its own datum and a lamp on its -X side. -/
def chipRow (chips : UInt32) : Except GridError (VoxelGrid (World ω)) := do
  let grid ← VoxelGrid.ofAir (← catalog) (2 * chips + 1).toNat 1 1
  grid.setBlocks ((List.range (countOf chips)).flatMap chipBlocks)

end Profile

end VoxelCircuit

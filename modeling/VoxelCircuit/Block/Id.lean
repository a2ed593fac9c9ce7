import VoxelCircuit.Signal.Basic
import VoxelCircuit.Space.Orientation

/-! # Block ids

The ids of block types, one byte each, and the readings of a signal as an id or
as an orientation.
-/

namespace VoxelCircuit

/-- The id of a block type. -/
structure BlockId where
  /-- The byte that stands for the type. -/
  value : UInt8
deriving DecidableEq, Inhabited

namespace BlockId

/-- The id of air, which every catalog has. -/
def air : BlockId := ⟨0⟩

/-- The id that an integer counts to, around the 256 ids. -/
def ofIntWrapping (value : Int) : BlockId :=
  ⟨(value % 256).toNat.toUInt8⟩

/-- The id that a number asks for: its floor, counted around; air when the number
is not finite. -/
def ofNumber (number : Number) : BlockId :=
  match number.floor? with
  | some value => ofIntWrapping value
  | none => air

/-- The signal that stands for an id. -/
def signal (id : BlockId) : Signal :=
  .number (Number.ofInt id.value.toNat)

/-- The text of an id. -/
def text (id : BlockId) : String :=
  toString id.value.toNat

end BlockId

namespace Orientation

/-- The rotation that a number asks for: its floor, clamped to words of
sixty-four bits and then counted around. -/
def ofNumber (number : Number) : Orientation :=
  ofCodeWrapping number.clampedFloor

/-- The signal that stands for a rotation. -/
def signal (orientation : Orientation) : Signal :=
  .number (Number.ofInt orientation.code.val)

end Orientation

end VoxelCircuit

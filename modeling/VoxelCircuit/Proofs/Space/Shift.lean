import Mathlib.Logic.Function.Basic
import VoxelCircuit.Proofs.Space.ScanOrder

/-! # Shifts

Every cell moved by one offset. Shifted cells lie to each other as they did, and a scan meets
them in the same order.
-/

namespace VoxelCircuit

namespace Pos

/-- The cell at an offset from another. -/
def shift (offset pos : Pos) : Pos :=
  ⟨offset.x + pos.x, offset.y + pos.y, offset.z + pos.z⟩

variable (offset : Pos)

/-- Shifted positions are the same only if the positions are. -/
theorem shift_injective : Function.Injective offset.shift := by
  intro first second same
  cases first
  cases second
  simp only [shift, mk.injEq] at same ⊢
  omega

/-- Shifted positions are the same exactly if the positions are. -/
@[simp] theorem shift_inj {first second : Pos} :
    offset.shift first = offset.shift second ↔ first = second :=
  offset.shift_injective.eq_iff

/-- Every cell is some cell shifted. -/
theorem shift_surjective : Function.Surjective offset.shift := fun pos =>
  ⟨⟨pos.x - offset.x, pos.y - offset.y, pos.z - offset.z⟩, by
    cases pos
    simp only [shift, mk.injEq]
    omega⟩

/-- A step from a shifted position is the step shifted. -/
@[simp] theorem step_shift (pos : Pos) (direction : Direction) :
    (offset.shift pos).step direction = offset.shift (pos.step direction) := by
  simp only [shift, step, mk.injEq]
  omega

/-- Shifting keeps the scan order. -/
@[simp] theorem shift_precedes_shift {first second : Pos} :
    (offset.shift first).Precedes (offset.shift second) ↔ first.Precedes second := by
  simp only [Precedes, shift]
  omega

/-- A shift by nothing leaves positions as they are. -/
@[simp] theorem shift_origin : origin.shift = id := by
  funext pos
  simp only [shift, origin, Int.zero_add, id]

end Pos

namespace Face

/-- The face that a shift takes a face to. -/
def shift (offset : Pos) (face : Face) : Face :=
  ⟨offset.shift face.pos, face.direction⟩

/-- Shifted faces are the same only if the faces are. -/
theorem shift_injective (offset : Pos) : Function.Injective (shift offset) := by
  intro first second same
  simp only [shift, mk.injEq, Pos.shift_inj] at same
  cases first
  cases second
  simpa using same

/-- A shift by nothing leaves faces as they are. -/
@[simp] theorem shift_origin : shift .origin = id := by
  funext face
  simp only [shift, Pos.shift_origin, id]

end Face

end VoxelCircuit

import Mathlib.Tactic.Ring
import VoxelCircuit.Proofs.Space.Shift
import VoxelCircuit.Space.Orientation

/-! # Motions

Space turned about the origin by a rotation of the cube and then shifted. A motion takes each
step to a step along the turned direction (`VoxelCircuit.Motion.place_step`), and it can be
undone.
-/

namespace VoxelCircuit

/-- What holds of the origin, and of each cell next to one of which it holds, holds of all. -/
theorem Pos.induction_step {holds : Pos → Prop} (start : holds .origin)
    (next : ∀ pos direction, holds pos → holds (pos.step direction)) (pos : Pos) : holds pos := by
  have along : ∀ (line : Int → Pos), (∀ place, holds (line place) → holds (line (place + 1))) →
      (∀ place, holds (line place) → holds (line (place - 1))) → holds (line 0) →
        ∀ place, holds (line place) := by
    intro line up down zero place
    induction place with
    | zero => exact zero
    | succ count ih => exact up _ ih
    | pred count ih => exact down _ ih
  have columns : ∀ x, holds ⟨x, 0, 0⟩ := by
    refine along (fun x => ⟨x, 0, 0⟩) (fun x held => ?_) (fun x held => ?_) start
    · exact next ⟨x, 0, 0⟩ .posX held
    · exact next ⟨x, 0, 0⟩ .negX held
  have layers : ∀ x y, holds ⟨x, y, 0⟩ := by
    refine fun x => along (fun y => ⟨x, y, 0⟩) (fun y held => ?_) (fun y held => ?_) (columns x)
    · simpa [step, Direction.vector] using next ⟨x, y, 0⟩ .posY held
    · simpa [step, Direction.vector, Int.sub_eq_add_neg] using next ⟨x, y, 0⟩ .negY held
  obtain ⟨x, y, z⟩ := pos
  refine along (fun z => ⟨x, y, z⟩) (fun z held => ?_) (fun z held => ?_) (layers x y) z
  · simpa [step, Direction.vector] using next ⟨x, y, z⟩ .posZ held
  · simpa [step, Direction.vector, Int.sub_eq_add_neg] using next ⟨x, y, z⟩ .negZ held

namespace Orientation

/-- The identity turns no direction. -/
theorem identity_transform (direction : Direction) : identity.transform direction = direction := by
  cases direction <;> rfl

variable (rotation orientation : Orientation)

private theorem inverse_transform (direction : Direction) :
    rotation.inverse.transform direction = rotation.untransform direction := by
  have each : ∀ rotation ∈ all, ∀ direction ∈ Direction.all,
      rotation.inverse.transform direction = rotation.untransform direction := by
    decide +kernel
  exact each rotation (mem_all rotation) direction (Direction.mem_all direction)

/-- Turning by a product is turning twice. -/
theorem mul_transform (direction : Direction) :
    (rotation * orientation).transform direction =
      rotation.transform (orientation.transform direction) := by
  have each : ∀ rotation ∈ all, ∀ orientation ∈ all, ∀ direction ∈ Direction.all,
      (rotation * orientation).transform direction =
        rotation.transform (orientation.transform direction) := by
    decide +kernel
  exact each rotation (mem_all rotation) orientation (mem_all orientation) direction
    (Direction.mem_all direction)

/-- A direction turned along with a block is the same one of the unturned block. -/
theorem mul_untransform_transform (direction : Direction) :
    (rotation * orientation).untransform (rotation.transform direction) =
      orientation.untransform direction := by
  have turned := rotation.mul_transform orientation (orientation.untransform direction)
  rw [transform_untransform] at turned
  rw [← turned, untransform_transform]

private theorem transform_injective : Function.Injective rotation.transform :=
  Function.LeftInverse.injective rotation.untransform_transform

private theorem transform_opposite (direction : Direction) :
    rotation.transform direction.opposite = (rotation.transform direction).opposite := by
  cases direction
  case posX | posY | posZ => rfl
  case negX | negY | negZ => exact (Direction.opposite_opposite _).symm

/-- The cell that a rotation about the origin takes a cell to. -/
def turn (pos : Pos) : Pos where
  x := pos.x * rotation.imageX.vector.1 + pos.y * rotation.imageY.vector.1 +
    pos.z * rotation.imageZ.vector.1
  y := pos.x * rotation.imageX.vector.2.1 + pos.y * rotation.imageY.vector.2.1 +
    pos.z * rotation.imageZ.vector.2.1
  z := pos.x * rotation.imageX.vector.2.2 + pos.y * rotation.imageY.vector.2.2 +
    pos.z * rotation.imageZ.vector.2.2

/-- The origin stays where it is. -/
@[simp] theorem turn_origin : rotation.turn .origin = .origin := by
  simp [turn, Pos.origin]

private theorem turn_step_up (pos : Pos) (axis : Axis) :
    rotation.turn (pos.step (.ofAxis axis true)) =
      (rotation.turn pos).step (rotation.image axis) := by
  cases axis <;>
    simp only [turn, Pos.step, image, Direction.ofAxis, Pos.mk.injEq,
      show Direction.posX.vector = (1, 0, 0) from rfl,
      show Direction.posY.vector = (0, 1, 0) from rfl,
      show Direction.posZ.vector = (0, 0, 1) from rfl] <;>
    refine ⟨?_, ?_, ?_⟩ <;> ring

private theorem turn_step (pos : Pos) (direction : Direction) :
    rotation.turn (pos.step direction) =
      (rotation.turn pos).step (rotation.transform direction) := by
  cases up : direction.positive with
  | true =>
      have along := rotation.turn_step_up pos direction.axis
      rw [← up, Direction.ofAxis_axis_positive] at along
      rw [along, transform, if_pos up]
  | false =>
      -- A step down an axis is undone by one up it.
      have back := rotation.turn_step_up (pos.step direction) direction.axis
      have opposite : Direction.ofAxis direction.axis true = direction.opposite := by
        rw [Direction.opposite, up, Bool.not_false]
      rw [opposite, Pos.step_opposite] at back
      rw [transform, if_neg (by rw [up]; exact Bool.false_ne_true), back, Pos.step_opposite]

private theorem inverse_turn (pos : Pos) : rotation.inverse.turn (rotation.turn pos) = pos := by
  induction pos using Pos.induction_step with
  | start => simp
  | next pos direction ih =>
      rw [turn_step, turn_step, ih, inverse_transform, untransform_transform]

private theorem turn_inverse (pos : Pos) : rotation.turn (rotation.inverse.turn pos) = pos := by
  induction pos using Pos.induction_step with
  | start => simp
  | next pos direction ih =>
      rw [turn_step, turn_step, ih, inverse_transform, transform_untransform]

end Orientation

/-- A rotation about the origin followed by a shift. -/
structure Motion where
  /-- The rotation. -/
  rotation : Orientation
  /-- Where the origin goes. -/
  offset : Pos

namespace Motion

open Relation

variable (motion : Motion)

/-- The cell that a motion takes a cell to. -/
def place (pos : Pos) : Pos :=
  motion.offset.shift (motion.rotation.turn pos)

/-- The direction that a motion turns a direction to. -/
def turn (direction : Direction) : Direction :=
  motion.rotation.transform direction

/-- The face that a motion takes a face to. -/
def face (face : Face) : Face :=
  ⟨motion.place face.pos, motion.turn face.direction⟩

private theorem place_injective : Function.Injective motion.place :=
  motion.offset.shift_injective.comp
    (Function.LeftInverse.injective motion.rotation.inverse_turn)

/-- Placed positions are the same exactly if the positions are. -/
@[simp] theorem place_inj {first second : Pos} :
    motion.place first = motion.place second ↔ first = second :=
  motion.place_injective.eq_iff

/-- Every cell is some cell moved. -/
theorem place_surjective : Function.Surjective motion.place :=
  motion.offset.shift_surjective.comp
    (Function.RightInverse.surjective motion.rotation.turn_inverse)

/-- What a motion carries step by step it carries along paths. -/
theorem reflTransGen_iff {steps moved : Pos → Pos → Prop}
    (carries : ∀ pos next, moved (motion.place pos) (motion.place next) ↔ steps pos next)
    {pos last : Pos} : ReflTransGen moved (motion.place pos) (motion.place last) ↔
      ReflTransGen steps pos last := by
  refine ⟨fun path => ?_, ReflTransGen.lift motion.place (fun _ _ => (carries _ _).mpr) _ _⟩
  obtain ⟨undo, undoes, redoes⟩ :=
    Function.bijective_iff_has_inverse.mp ⟨motion.place_injective, motion.place_surjective⟩
  have back : ReflTransGen steps (undo (motion.place pos)) (undo (motion.place last)) :=
    ReflTransGen.lift undo
      (fun near far step => (carries _ _).mp (by rwa [redoes, redoes])) _ _ path
  rwa [undoes, undoes] at back

/-- Chains of moved steps lead from one moved position to another exactly if chains of steps do. -/
theorem transGen_iff {steps moved : Pos → Pos → Prop}
    (carries : ∀ pos next, moved (motion.place pos) (motion.place next) ↔ steps pos next)
    {pos last : Pos} : TransGen moved (motion.place pos) (motion.place last) ↔
      TransGen steps pos last := by
  rw [TransGen.head'_iff, TransGen.head'_iff, motion.place_surjective.exists]
  simp only [carries, motion.reflTransGen_iff carries]

/-- Each direction is one that was turned. -/
theorem turn_surjective : Function.Surjective motion.turn :=
  Function.RightInverse.surjective motion.rotation.transform_untransform

/-- Turned directions are the same only if the directions are. -/
theorem turn_injective : Function.Injective motion.turn :=
  motion.rotation.transform_injective

/-- Opposite directions turn to opposite ones. -/
@[simp] theorem turn_opposite (direction : Direction) :
    motion.turn direction.opposite = (motion.turn direction).opposite :=
  motion.rotation.transform_opposite direction

/-- A step is placed as a step in the turned direction. -/
theorem place_step (pos : Pos) (direction : Direction) :
    motion.place (pos.step direction) = (motion.place pos).step (motion.turn direction) := by
  rw [place, Orientation.turn_step, ← Pos.step_shift]
  rfl

private theorem face_injective : Function.Injective motion.face := by
  intro first second same
  obtain ⟨pos, direction⟩ := Face.mk.inj same
  cases first
  cases second
  exact (Face.mk.injEq ..).mpr ⟨motion.place_injective pos, motion.turn_injective direction⟩

/-- Placed faces are the same exactly if the faces are. -/
@[simp] theorem face_inj {first second : Face} :
    motion.face first = motion.face second ↔ first = second :=
  motion.face_injective.eq_iff

/-- Each face is one that was placed. -/
theorem face_surjective : Function.Surjective motion.face := by
  intro face
  obtain ⟨pos, placed⟩ := motion.place_surjective face.pos
  obtain ⟨direction, turned⟩ := motion.turn_surjective face.direction
  refine ⟨⟨pos, direction⟩, ?_⟩
  rw [Motion.face, placed, turned]

end Motion

end VoxelCircuit

import Std.Data.ExtTreeMap

/-! # Directions

The six directions along the axes of a voxel grid. Every ordered choice of the
library (the faces of a block, the branches of a walk, the neighbours of a cell)
goes through `Direction.all`, so this order is fixed once, here.
-/

namespace VoxelCircuit

/-- An axis of space. -/
inductive Axis where
  | x
  | y
  | z
deriving DecidableEq, Inhabited

namespace Axis

/-- The place of an axis in the order x, y, z. -/
def index : Axis → Nat
  | x => 0
  | y => 1
  | z => 2

/-- The axis perpendicular to two different axes, and whether it completes them
to a right-handed triple; nothing for two equal axes. -/
def third? : Axis → Axis → Option (Axis × Bool)
  | x, y => some (z, true)
  | y, z => some (x, true)
  | z, x => some (y, true)
  | y, x => some (z, false)
  | z, y => some (x, false)
  | x, z => some (y, false)
  | _, _ => none

end Axis

/-- A direction along an axis. -/
inductive Direction where
  | posX
  | posY
  | posZ
  | negX
  | negY
  | negZ
deriving DecidableEq, Inhabited

namespace Direction

/-- The six directions in the order that every ordered choice follows. -/
def all : List Direction :=
  [posX, posY, posZ, negX, negY, negZ]

/-- Every direction is listed. -/
@[simp] theorem mem_all (direction : Direction) : direction ∈ all := by
  cases direction <;> decide

/-- No direction is listed twice. -/
theorem nodup_all : all.Nodup := by
  decide

/-- The place of a direction in `all`. -/
def index : Direction → Nat
  | posX => 0
  | posY => 1
  | posZ => 2
  | negX => 3
  | negY => 4
  | negZ => 5

/-- The direction at a place of `all`, counted around. -/
def ofIndex (index : Nat) : Direction :=
  match index % 6 with
  | 0 => posX
  | 1 => posY
  | 2 => posZ
  | 3 => negX
  | 4 => negY
  | _ => negZ

/-- A direction stands at its own place. -/
@[simp] theorem ofIndex_index (direction : Direction) : ofIndex direction.index = direction := by
  cases direction <;> rfl

instance : Ord Direction := ⟨compareOn index⟩

instance : Std.TransOrd Direction :=
  inferInstanceAs (Std.TransCmp (compareOn index))

instance : Std.LawfulEqOrd Direction where
  eq_of_compare {first second} same := by
    have places : first.index = second.index := Std.LawfulEqOrd.eq_of_compare same
    rw [← ofIndex_index first, places, ofIndex_index]

/-- The axis that a direction runs along. -/
def axis : Direction → Axis
  | posX | negX => .x
  | posY | negY => .y
  | posZ | negZ => .z

/-- Whether a direction runs up its axis. -/
def positive : Direction → Bool
  | posX | posY | posZ => true
  | negX | negY | negZ => false

/-- The direction along an axis, up it or down it. -/
def ofAxis : Axis → Bool → Direction
  | .x, true => posX
  | .y, true => posY
  | .z, true => posZ
  | .x, false => negX
  | .y, false => negY
  | .z, false => negZ

/-- A direction is given by its axis and its sense. -/
@[simp] theorem ofAxis_axis_positive (direction : Direction) :
    ofAxis direction.axis direction.positive = direction := by
  cases direction <;> rfl

/-- The direction back along the same axis. -/
def opposite (direction : Direction) : Direction :=
  ofAxis direction.axis (!direction.positive)

/-- Turning back twice is going on. -/
@[simp] theorem opposite_opposite (direction : Direction) :
    direction.opposite.opposite = direction := by
  cases direction <;> rfl

/-- No direction is its own opposite. -/
theorem opposite_ne (direction : Direction) : direction.opposite ≠ direction := by
  cases direction <;> decide

/-- One step along a direction, by components. -/
def vector : Direction → Int × Int × Int
  | posX => (1, 0, 0)
  | posY => (0, 1, 0)
  | posZ => (0, 0, 1)
  | negX => (-1, 0, 0)
  | negY => (0, -1, 0)
  | negZ => (0, 0, -1)

/-- The right-handed vector product of two directions; nothing when they share
an axis. -/
def cross (first second : Direction) : Option Direction :=
  (first.axis.third? second.axis).map fun (axis, rightHanded) =>
    ofAxis axis (rightHanded == (first.positive == second.positive))

/-- The directions at right angles to one, in the order of `all`. -/
def perpendicular (direction : Direction) : List Direction :=
  all.filter fun candidate => candidate.axis ≠ direction.axis

/-- The text of a direction: its sense and its axis. -/
def text : Direction → String
  | posX => "+X"
  | posY => "+Y"
  | posZ => "+Z"
  | negX => "-X"
  | negY => "-Y"
  | negZ => "-Z"

/-- The direction that a text names. -/
def ofText? (text : String) : Option Direction :=
  all.find? fun direction => direction.text == text

/-- A direction is read back from its text. -/
theorem ofText?_text (direction : Direction) : ofText? direction.text = some direction := by
  cases direction <;> decide

end Direction

/-- One value for each of the six faces of a block. -/
structure PerFace (α : Type) where
  /-- The value on the face toward +X. -/
  posX : α
  /-- The value on the face toward +Y. -/
  posY : α
  /-- The value on the face toward +Z. -/
  posZ : α
  /-- The value on the face toward -X. -/
  negX : α
  /-- The value on the face toward -Y. -/
  negY : α
  /-- The value on the face toward -Z. -/
  negZ : α
deriving DecidableEq, Inhabited

namespace PerFace

variable {α : Type}

/-- The value on one face. -/
def get (table : PerFace α) : Direction → α
  | .posX => table.posX
  | .posY => table.posY
  | .posZ => table.posZ
  | .negX => table.negX
  | .negY => table.negY
  | .negZ => table.negZ

/-- The table of a function on the faces. -/
def tabulate (value : Direction → α) : PerFace α where
  posX := value .posX
  posY := value .posY
  posZ := value .posZ
  negX := value .negX
  negY := value .negY
  negZ := value .negZ

/-- A tabulated function is read back. -/
@[simp] theorem get_tabulate (value : Direction → α) (direction : Direction) :
    (tabulate value).get direction = value direction := by
  cases direction <;> rfl

/-- Two tables with the same value on every face are the same. -/
@[ext] theorem ext_get {first second : PerFace α}
    (same : ∀ direction, first.get direction = second.get direction) : first = second := by
  cases first
  cases second
  exact (mk.injEq ..).mpr ⟨same .posX, same .posY, same .posZ, same .negX, same .negY, same .negZ⟩

/-- The values in the order of the directions. -/
def toList (table : PerFace α) : List α :=
  Direction.all.map table.get

end PerFace

end VoxelCircuit

import VoxelCircuit.Space.Direction

/-! # Positions

The cells of space, by their three integer coordinates, and the faces of blocks.
-/

namespace VoxelCircuit

/-- The coordinates of a cell. -/
structure Pos where
  /-- The coordinate along the x axis. -/
  x : Int
  /-- The coordinate along the y axis. -/
  y : Int
  /-- The coordinate along the z axis. -/
  z : Int
deriving DecidableEq, Inhabited

namespace Pos

/-- The cell at the origin. -/
def origin : Pos := ⟨0, 0, 0⟩

/-- The cell one step along a direction. -/
def step (pos : Pos) (direction : Direction) : Pos :=
  let (dx, dy, dz) := direction.vector
  ⟨pos.x + dx, pos.y + dy, pos.z + dz⟩

/-- A step back returns to the start. -/
@[simp] theorem step_opposite (pos : Pos) (direction : Direction) :
    (pos.step direction).step direction.opposite = pos := by
  obtain ⟨x, y, z⟩ := pos
  cases direction <;>
    simp only [step, Direction.vector, Direction.opposite, Direction.ofAxis, Direction.axis,
      Direction.positive, Bool.not_true, Bool.not_false, mk.injEq] <;> omega

/-- Positions are ordered by x, then by y, then by z. -/
instance : Ord Pos :=
  ⟨compareLex (compareOn x) (compareLex (compareOn y) (compareOn z))⟩

instance : Std.TransOrd Pos :=
  inferInstanceAs (Std.TransCmp (compareLex (compareOn x) (compareLex (compareOn y) (compareOn z))))

instance : Std.LawfulEqOrd Pos where
  eq_of_compare {first second} same := by
    obtain ⟨x, rest⟩ := compareLex_eq_eq.mp same
    obtain ⟨y, z⟩ := compareLex_eq_eq.mp rest
    cases first
    cases second
    simp only [compareOn, Std.compare_eq_iff_eq] at x y z
    rw [x, y, z]

/-- Whether a position comes before another in this order or is the same. -/
def le (first second : Pos) : Bool :=
  (compare first second).isLE

/-- The text of a position: its coordinates in parentheses. -/
def text (pos : Pos) : String :=
  "(" ++ toString pos.x ++ ", " ++ toString pos.y ++ ", " ++ toString pos.z ++ ")"

end Pos

/-- A face of the block at a position, by the direction it looks to. -/
structure Face where
  /-- The position of the block. -/
  pos : Pos
  /-- The direction from the block through the face. -/
  direction : Direction
deriving DecidableEq, Inhabited

namespace Face

/-- Faces are ordered by their positions and then by their directions. -/
instance : Ord Face := ⟨compareLex (compareOn pos) (compareOn direction)⟩

instance : Std.TransOrd Face :=
  inferInstanceAs (Std.TransCmp (compareLex (compareOn pos) (compareOn direction)))

instance : Std.LawfulEqOrd Face where
  eq_of_compare {first second} same := by
    obtain ⟨pos, direction⟩ := compareLex_eq_eq.mp same
    cases first
    cases second
    simp only [compareOn, Std.compare_eq_iff_eq] at pos direction
    rw [pos, direction]

/-- The text of a face: its position and its direction. -/
def text (face : Face) : String :=
  face.pos.text ++ " " ++ face.direction.text

end Face

end VoxelCircuit

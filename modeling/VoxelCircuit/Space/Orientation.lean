import VoxelCircuit.Space.Direction

/-! # Orientations

The twenty-four rotations of a cube. A rotation is given by the images of +X and
+Y; the image of +Z follows by the right-hand rule. Its code counts the image of
+X first and then the image of +Y among the four directions perpendicular to it.
-/

namespace VoxelCircuit

/-- A rotation of the cube, by its code. -/
structure Orientation where
  /-- Four times the place of the image of +X, plus the place of the image of +Y
  among the directions perpendicular to that one. -/
  code : Fin 24
deriving DecidableEq

namespace Orientation

/-- The rotation that moves nothing. -/
def identity : Orientation := ⟨0⟩

instance : Inhabited Orientation := ⟨identity⟩

/-- The rotations in the order of their codes. -/
def all : List Orientation :=
  (List.finRange 24).map mk

/-- Every rotation is listed. -/
@[simp] theorem mem_all (orientation : Orientation) : orientation ∈ all :=
  List.mem_map.mpr ⟨orientation.code, List.mem_finRange _, rfl⟩

/-- The rotation with a code, if there is one. -/
def ofCode? (code : Int) : Option Orientation :=
  if bound : 0 ≤ code ∧ code < 24 then some ⟨code.toNat, by omega⟩ else none

/-- The rotation with a code counted around in both directions. -/
def ofCodeWrapping (code : Int) : Orientation :=
  ⟨(code % 24).toNat, by omega⟩

/-- The image of +X. -/
def imageX (orientation : Orientation) : Direction :=
  Direction.ofIndex (orientation.code / 4)

/-- The image of +Y. -/
def imageY (orientation : Orientation) : Direction :=
  (orientation.imageX.perpendicular[orientation.code.val % 4]?).getD .posY

/-- The image of +Z, by the right-hand rule. -/
def imageZ (orientation : Orientation) : Direction :=
  (orientation.imageX.cross orientation.imageY).getD .posZ

/-- The image of the upward direction of an axis. -/
def image (orientation : Orientation) : Axis → Direction
  | .x => orientation.imageX
  | .y => orientation.imageY
  | .z => orientation.imageZ

/-- The direction that a rotation turns a direction to. -/
def transform (orientation : Orientation) (direction : Direction) : Direction :=
  if direction.positive then orientation.image direction.axis
  else (orientation.image direction.axis).opposite

/-- The direction that a rotation turns to a direction. -/
def untransform (orientation : Orientation) (direction : Direction) : Direction :=
  (Direction.all.find? fun source => orientation.transform source == direction).getD .posX

/-- The rotation with given images of +X and +Y; nothing unless they are at right
angles. -/
def ofImages? (imageX imageY : Direction) : Option Orientation :=
  (imageX.perpendicular.idxOf? imageY).map fun place => ⟨Fin.ofNat 24 (4 * imageX.index + place)⟩

/-- One rotation after another: `second` is applied to what `first` gives. -/
def compose (second first : Orientation) : Orientation :=
  (ofImages? (second.transform first.imageX) (second.transform first.imageY)).getD identity

instance : Mul Orientation := ⟨compose⟩

/-- The rotation that undoes another. -/
def inverse (orientation : Orientation) : Orientation :=
  (ofImages? (orientation.untransform .posX) (orientation.untransform .posY)).getD identity

/-- The text of a rotation: its code and the images of +X, +Y and +Z. -/
def text (orientation : Orientation) : String :=
  "R" ++ toString orientation.code.val ++ "[" ++ orientation.imageX.text ++ ","
    ++ orientation.imageY.text ++ "," ++ orientation.imageZ.text ++ "]"

/-- Turning back undoes turning. -/
@[simp] theorem untransform_transform (orientation : Orientation) (direction : Direction) :
    orientation.untransform (orientation.transform direction) = direction := by
  have each : ∀ orientation ∈ all, ∀ direction ∈ Direction.all,
      orientation.untransform (orientation.transform direction) = direction := by
    decide +kernel
  exact each orientation (mem_all orientation) direction (Direction.mem_all direction)

/-- Turning undoes turning back. -/
@[simp] theorem transform_untransform (orientation : Orientation) (direction : Direction) :
    orientation.transform (orientation.untransform direction) = direction := by
  have each : ∀ orientation ∈ all, ∀ direction ∈ Direction.all,
      orientation.transform (orientation.untransform direction) = direction := by
    decide +kernel
  exact each orientation (mem_all orientation) direction (Direction.mem_all direction)

end Orientation

end VoxelCircuit

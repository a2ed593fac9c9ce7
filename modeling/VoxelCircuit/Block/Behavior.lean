import VoxelCircuit.Space.Orientation

/-! # Behaviors

What a block does in a circuit, and the part each of its faces plays. A behavior
states the roles of the faces of an unrotated block; the role of a face of a
rotated block is that of the face which the rotation turned there.
-/

namespace VoxelCircuit

/-- The part that a face of a block plays on its net. -/
inductive FaceRole where
  /-- The block reads the net. -/
  | input
  /-- The block drives the net. -/
  | output
  /-- The block does both, and the net goes on through it. -/
  | both
  /-- The face takes no part. -/
  | none
deriving DecidableEq, Inhabited

namespace FaceRole

/-- Whether the block reads the net at the face. -/
def reads : FaceRole → Bool
  | input | both => true
  | output | none => false

/-- Whether the block drives the net at the face. -/
def drives : FaceRole → Bool
  | output | both => true
  | input | none => false

/-- The text of a role. -/
def text : FaceRole → String
  | input => "In"
  | output => "Out"
  | both => "InOut"
  | none => "None"

end FaceRole

/-- What a block does in a circuit. A block without a behavior takes no part. -/
inductive Behavior where
  /-- Carries a net straight on. -/
  | wire
  /-- Drives its own datum. -/
  | pad
  /-- Shows in its datum whether an input is truthy. -/
  | indicator
  /-- Carries a net on in every direction. -/
  | junction
  /-- Drives true when neither input along x is truthy. -/
  | nor
  /-- Passes the signal of its -X face to +X while a side input is truthy. -/
  | gate
  /-- Drives the datum of the block it is embedded in, or else its own. -/
  | datumSensor
  /-- Drives the id of the block beyond its -X face, or beyond that face of the
  block it is embedded in. -/
  | neighborSensor
  /-- Drives the event of an embedded evaluation. -/
  | spontaneous
  /-- Turns itself, or the block it is embedded in. -/
  | rotator
  /-- Replaces itself, or the block it is embedded in, by another type. -/
  | changer
  /-- Publishes its inputs on the faces of the block it is embedded in. -/
  | chipOutput
  /-- Evaluates the circuits of the grid inside it. -/
  | chip
deriving DecidableEq, Inhabited

namespace Behavior

/-- The behaviors in the order of their registry. -/
def all : List Behavior :=
  [wire, pad, indicator, junction, nor, gate, datumSensor, neighborSensor, spontaneous, rotator,
    changer, chipOutput, chip]

/-- Every behavior is listed. -/
@[simp] theorem mem_all (behavior : Behavior) : behavior ∈ all := by
  cases behavior <;> decide

/-- The name under which a behavior is registered. -/
def name : Behavior → String
  | wire => "wire"
  | pad => "pad"
  | indicator => "indicator"
  | junction => "junction"
  | nor => "nor"
  | gate => "gate"
  | datumSensor => "getSubDatum"
  | neighborSensor => "getNeighborID"
  | spontaneous => "spontaneous"
  | rotator => "setRotation"
  | changer => "become"
  | chipOutput => "icOutput"
  | chip => "ic"

/-- The behavior registered under a name. -/
def ofName? (name : String) : Option Behavior :=
  all.find? fun behavior => behavior.name == name

/-- A behavior is found under its name. -/
theorem ofName?_name (behavior : Behavior) : ofName? behavior.name = some behavior := by
  cases behavior <;> decide

/-- Whether a behavior only carries nets straight on. -/
def isWire (behavior : Behavior) : Bool :=
  behavior = wire

/-- Whether a behavior carries nets on in every direction. -/
def isJunction (behavior : Behavior) : Bool :=
  behavior = junction

/-- The role of a face of an unrotated block. -/
def role : Behavior → Direction → FaceRole
  | wire, _ => .none
  | junction, _ => .both
  | pad, _ | datumSensor, _ | spontaneous, _ | chip, _ => .output
  | indicator, _ | rotator, _ | changer, _ | chipOutput, _ => .input
  | neighborSensor, .negX => .none
  | neighborSensor, _ => .output
  | nor, .posX | nor, .negX => .input
  | nor, _ => .output
  | gate, .posX => .output
  | gate, _ => .input

/-- The role of a face of a rotated block. -/
def faceRole (behavior : Behavior) (orientation : Orientation) (direction : Direction) :
    FaceRole :=
  behavior.role (orientation.untransform direction)

/-- A rotation takes the role of a face along with the face. -/
@[simp] theorem faceRole_transform (behavior : Behavior) (orientation : Orientation)
    (direction : Direction) :
    behavior.faceRole orientation (orientation.transform direction) = behavior.role direction := by
  simp [faceRole]

/-- The faces of an unrotated block that drive, in the order of the directions. -/
def drivingFaces (behavior : Behavior) : List Direction :=
  Direction.all.filter fun direction => (behavior.role direction).drives

end Behavior

end VoxelCircuit

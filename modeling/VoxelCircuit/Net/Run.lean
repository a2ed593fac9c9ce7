import VoxelCircuit.Grid.Basic

/-! # Straight runs

From a face, a signal runs straight on through wire, inside the bounds of the
grid, until it comes to another block with a behavior or breaks off.
-/

namespace VoxelCircuit

/-- A straight run from a face. -/
structure Run where
  /-- The wires passed through, in order. -/
  wires : List Pos
  /-- The block that the run comes to, if it does not break off. -/
  arrival : Option Pos
deriving DecidableEq

namespace Run

/-- The run that breaks off at once. -/
def broken : Run := ⟨[], none⟩

/-- The positions entered, in order. -/
def entered (run : Run) : List Pos :=
  run.wires ++ run.arrival.toList

/-- The steps of a run that starts at a position. -/
def edges (run : Run) (start : Pos) : List (Pos × Pos) :=
  (start :: run.entered).zip run.entered

end Run

namespace Grid

variable {γ : Type} [Grid γ]

/-- The straight run from a position of at most some number of steps. -/
def runWithin (grid : γ) (direction : Direction) : (steps : Nat) → Pos → Run
  | 0, _ => .broken
  | steps + 1, pos =>
    let next := pos.step direction
    if next ∈ bounds grid then
      match behavior grid next with
      | none => .broken
      | some behavior =>
        if behavior.isWire then
          let rest := runWithin grid direction steps next
          ⟨next :: rest.wires, rest.arrival⟩
        else ⟨[], some next⟩
    else .broken

/-- The straight run from a face. The bounds allow no more steps than their reach. -/
def run (grid : γ) (face : Face) : Run :=
  runWithin grid face.direction ((bounds grid).reach face.pos face.direction) face.pos

/-- The face that the straight run from a face comes to. -/
def facing? (grid : γ) (face : Face) : Option Face :=
  (run grid face).arrival.map fun pos => ⟨pos, face.direction.opposite⟩

/-- The part that a face plays on its net; none without a behavior. -/
def roleAt (grid : γ) (face : Face) : FaceRole :=
  match behavior grid face.pos with
  | some behavior => behavior.faceRole (orientation grid face.pos) face.direction
  | none => .none

end Grid

end VoxelCircuit

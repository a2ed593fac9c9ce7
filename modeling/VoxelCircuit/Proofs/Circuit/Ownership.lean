import VoxelCircuit.Proofs.Circuit.Evaluation
import VoxelCircuit.Proofs.Circuit.Surroundings
import VoxelCircuit.Proofs.Net.Containment

/-! # What a circuit owns

All blocks that have an effect in the circuit of a cluster are members of the circuit
(`VoxelCircuit.Circuit.Compiled.owns`). So the circuit edits members alone, and it
evaluates grids alike in which its members see the same.
-/

namespace VoxelCircuit.Circuit

variable {γ : Type} [Grid γ] {grid : γ} {circuit : Circuit γ}

/-- The blocks that have an effect in a circuit are members of it. -/
def Owns (circuit : Circuit γ) : Prop :=
  ∀ effect ∈ circuit.pipeline, ∀ pos, effect.target = .block pos → pos ∈ circuit.members

/-- A circuit that was compiled for a closed set of blocks owns its members. -/
theorem Compiled.owns {recordEdges : Bool} (compiled : Compiled grid recordEdges circuit)
    (closed : Grid.Closed grid circuit.members) : circuit.Owns := by
  intro effect listed pos same
  obtain ⟨effects, realized, pipeline⟩ := compiled.realized
  obtain ⟨target, demanded, realizes⟩ := exists_target_of_mem realized (pipeline ▸ listed)
  rw [realizes.target_eq] at same
  subst same
  exact Grid.demandOrder_among closed (fun _ member => member) compiled.traced demanded

/-- Each of the circuits that a grid is compiled to owns its members. -/
theorem owns_of_compileAll {options : CompileOptions} {depth : Nat} {circuits : List (Circuit γ)}
    (compiled : (compileAll options depth grid).outcome = .ok circuits)
    (listed : circuit ∈ circuits) : circuit.Owns := by
  obtain ⟨cluster, among, made⟩ := (mem_compileAll compiled).1 circuit listed
  refine (compile_ok made).2.owns ((Grid.clusters_closed among).1.congr fun pos => ?_)
  rw [(compile_ok made).1, mem_ofMembers]

/-- A circuit requests edits of its members alone. -/
theorem Owns.pos_of_mem_edits (owns : circuit.Owns) {start : EvalState γ} (fresh : start.Fresh)
    {edit : Edit} (requested : edit ∈ (circuit.evaluate start).edits) :
    edit.pos ∈ circuit.members := by
  by_contra foreign
  have none : (circuit.evaluate start).edits.filter (fun other => other.pos = edit.pos) = [] := by
    rw [evaluate, Pipeline.run, Effect.edits_runAll_of_others, EvalState.edits, fresh.2]
    · rfl
    · exact fun effect listed same => foreign (owns effect listed _ same)
  exact List.filter_eq_nil_iff.mp none edit requested (decide_eq_true rfl)

/-- What a circuit does depends on what its members can see. -/
theorem Owns.evaluate_congr (owns : circuit.Owns) {first second : γ}
    (same : ∀ pos ∈ circuit.members, Grid.SameAt first second pos) :
    (circuit.evaluate (.editing first)).written = (circuit.evaluate (.editing second)).written := by
  have start : (EvalState.editing first).Alike (.editing second) :=
    ⟨.none, fun _ _ => rfl, fun _ => ⟨rfl, rfl⟩⟩
  obtain ⟨values, requests⟩ := Effect.runAll_eq_of_alike circuit.pipeline start rfl
    fun effect listed pos target => same pos (owns effect listed pos target)
  simp only [evaluate, Pipeline.run, EvalState.written, EvalState.edits, values, requests]

end VoxelCircuit.Circuit

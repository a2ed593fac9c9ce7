import VoxelCircuit.Proofs.Circuit.Publishing
import VoxelCircuit.Proofs.Engine.Embedded

/-! # The answer of the circuits inside a block

What an event for a block is answered with comes from all circuits inside it, merged in two
places: among the blocks of a circuit and among the circuits. Merging is associative, so both
come to one merge of the nets on a face of all chip outputs, circuit by circuit and in each
in the order of its pipeline (`VoxelCircuit.Engine.evaluateEmbedded_answers`).
-/

namespace VoxelCircuit

variable {γ : Type} [Grid γ]

namespace Circuit

variable {grid : γ} {circuit : Circuit γ} {recordEdges : Bool}

/-- Some chip output of a circuit has a net on its face in a direction, however it is turned. -/
def ShowsOn (circuit : Circuit γ) (grid : γ) (direction : Direction) (id : NetId) : Prop :=
  ∃ pos ∈ circuit.members, Grid.behavior grid pos = some .chipOutput ∧
    circuit.graph.netAt ⟨pos, direction⟩ = some id

private theorem Compiled.mem_outputSignals (compiled : Compiled grid recordEdges circuit)
    (owns : circuit.Owns) {values : Values} {direction : Direction} {signal : Signal} :
    signal ∈ circuit.outputSignals grid values direction ↔
      ∃ id, circuit.ShowsOn grid direction id ∧ values.get (.net id) = signal := by
  have blocks : ∀ pos, pos ∈ circuit.inTurn grid .chipOutput ↔ _ := fun _ =>
    compiled.mem_inTurn owns (by decide)
  simp only [outputSignals, List.mem_filterMap, blocks, Option.map_eq_some_iff, ShowsOn]
  refine ⟨fun told => ?_, fun shown => ?_⟩
  · obtain ⟨pos, ⟨member, there⟩, id, attached, same⟩ := told
    exact ⟨id, ⟨pos, member, there, attached⟩, same⟩
  · obtain ⟨id, ⟨pos, member, there, attached⟩, same⟩ := shown
    exact ⟨pos, ⟨member, there⟩, id, attached, same⟩

private theorem Compiled.askedTypes_eq_nil (compiled : Compiled grid recordEdges circuit)
    (owns : circuit.Owns) {state : EvalState γ} : circuit.askedTypes grid state = [] ↔
      ∀ pos ∈ circuit.members, Grid.behavior grid pos = some .changer →
        (Grid.inputsAt grid circuit.graph pos).any state Direction.all = .null := by
  have numbers : ∀ {signal : Signal}, signal.asNumber.map BlockId.ofNumber = none ↔
      signal = .null := by
    intro signal
    cases signal <;> simp [Signal.asNumber]
  have blocks : ∀ pos, pos ∈ circuit.inTurn grid .changer ↔ _ := fun _ =>
    compiled.mem_inTurn owns (by decide)
  simp only [askedTypes, List.filterMap_eq_nil_iff, numbers, blocks, and_imp]

variable {circuits : List (Circuit γ)} {start : EvalState γ}

/-- Merged among the blocks of each circuit and then among the circuits, the nets on a face of
all chip outputs are merged once. -/
theorem outputs_ofValues (made : ∀ circuit ∈ circuits, Compiled grid recordEdges circuit)
    (fresh : start.Fresh) (direction : Direction) :
    (EmbeddedOutcome.ofValues (circuits.map fun circuit =>
        (circuit.evaluate start).values)).outputs.get direction =
      Signal.mergePresent (circuits.flatMap fun circuit =>
        circuit.outputSignals grid (circuit.evaluate start).values direction) := by
  rw [EmbeddedOutcome.ofValues, PerFace.get_tabulate, List.filterMap_map,
    ← Signal.mergePresent_flatMap]
  exact congrArg Signal.mergePresent (List.filterMap_congr fun circuit listed =>
    (made circuit listed).published_eq fresh direction)

/-- The last type asked for in each circuit and then among the circuits is the last of all. -/
theorem replacement_ofValues (made : ∀ circuit ∈ circuits, Compiled grid recordEdges circuit)
    (fresh : start.Fresh) (embedded : start.embedding.isSome) :
    (EmbeddedOutcome.ofValues (circuits.map fun circuit =>
        (circuit.evaluate start).values)).replacement =
      (circuits.flatMap fun circuit =>
        circuit.askedTypes grid (circuit.evaluate start)).getLast? := by
  rw [EmbeddedOutcome.ofValues, List.filterMap_map, ← List.getLast?_map, List.map_filterMap,
    List.getLast?_flatMap, ← List.getLast?_filterMap]
  refine congrArg List.getLast? (List.filterMap_congr fun circuit listed => ?_)
  rw [Function.comp_apply, (made circuit listed).replacement_eq fresh embedded]
  cases (circuit.askedTypes grid (circuit.evaluate start)).getLast? with
  | none => rfl
  | some id => exact id.ofNumber_signal

end Circuit

namespace Engine

variable {σ : Type} {engine : Engine σ} {interior outer : γ} {pos : Pos}
  {event : Option Signal} {outcome : EmbeddedOutcome}

/-- **The answer of the circuits inside a block.** On each face there is no answer if no chip
output of a circuit has a net on it, whichever way the chip outputs are turned. Else the answer
is truthy if one of these nets is so when its circuit is done, and it is the first truthy one,
circuit by circuit and in each in the order of its pipeline, or the last one if none is. The
block is to become another if some changer merges its nets to a signal at all, and then it is
the last of these in the last such circuit that tells which. As neither chip outputs nor changers
drive anything, they have their turns after all nets that they read, in circles of nets too. -/
theorem evaluateEmbedded_answers (entered : engine.options.maxEmbedDepth ≠ 0)
    (answered : (engine.evaluateEmbedded interior outer pos event).outcome = .ok outcome) :
    ∃ circuits, (Circuit.compileAll engine.options 1 interior).outcome = .ok circuits ∧
      let final (circuit : Circuit γ) := circuit.evaluate (.embedded interior ⟨outer, pos, event⟩)
      (∀ direction,
        let signals := circuits.flatMap fun circuit =>
          circuit.outputSignals interior (final circuit).values direction
        (outcome.outputs.get direction = none ↔
          ∀ circuit ∈ circuits, ∀ id, ¬circuit.ShowsOn interior direction id) ∧
        ((∃ signal, outcome.outputs.get direction = some signal ∧ signal.truthy) ↔
          ∃ circuit ∈ circuits, ∃ id, circuit.ShowsOn interior direction id ∧
            ((final circuit).values.get (.net id)).truthy) ∧
        outcome.outputs.get direction = (signals.find? Signal.truthy).or signals.getLast?) ∧
      (outcome.replacement.isSome ↔ ∃ circuit ∈ circuits, ∃ place ∈ circuit.members,
        Grid.behavior interior place = some .changer ∧
          (Grid.inputsAt interior circuit.graph place).any (final circuit) Direction.all ≠ .null) ∧
      outcome.replacement =
        (circuits.flatMap fun circuit => circuit.askedTypes interior (final circuit)).getLast? := by
  rw [evaluateEmbedded, if_neg entered, Compilation.andThen_ok] at answered
  obtain ⟨circuits, compiled, done⟩ := answered
  obtain rfl := Except.ok.inj done
  set start : EvalState γ := .embedded interior ⟨outer, pos, event⟩
  have fresh : start.Fresh := ⟨rfl, rfl⟩
  have made : ∀ circuit ∈ circuits,
      Circuit.Compiled interior engine.options.recordTraceEdges circuit := fun circuit listed =>
    Circuit.compiled_of_mem_compileAll compiled listed
  have owns : ∀ circuit ∈ circuits, circuit.Owns := fun circuit listed =>
    Circuit.owns_of_compileAll compiled listed
  refine ⟨circuits, compiled, fun direction => ?_, ?_⟩
  · set signals := circuits.flatMap fun circuit =>
      circuit.outputSignals interior (circuit.evaluate start).values direction with all
    have member : ∀ {signal}, signal ∈ signals ↔ ∃ circuit ∈ circuits, ∃ id,
        circuit.ShowsOn interior direction id ∧
          (circuit.evaluate start).values.get (.net id) = signal := by
      intro signal
      rw [all, List.mem_flatMap]
      exact exists_congr fun circuit => and_congr_right fun listed =>
        (made circuit listed).mem_outputSignals (owns circuit listed)
    rw [Circuit.outputs_ofValues made fresh direction]
    refine ⟨?_, ?_, Signal.mergePresent_eq signals⟩
    · rw [Signal.mergePresent_eq_none, List.eq_nil_iff_forall_not_mem]
      refine ⟨fun none circuit listed id shown => ?_, fun none signal listed => ?_⟩
      · exact none _ (member.mpr ⟨circuit, listed, id, shown, rfl⟩)
      · obtain ⟨circuit, listed, id, shown, _⟩ := member.mp listed
        exact none circuit listed id shown
    · rw [← Option.any_eq_true, Signal.truthy_mergePresent, List.any_eq_true]
      refine ⟨fun answer => ?_, fun lit => ?_⟩
      · obtain ⟨signal, among, on⟩ := answer
        obtain ⟨circuit, listed, id, shown, rfl⟩ := member.mp among
        exact ⟨circuit, listed, id, shown, on⟩
      · obtain ⟨circuit, listed, id, shown, on⟩ := lit
        exact ⟨_, member.mpr ⟨circuit, listed, id, shown, rfl⟩, on⟩
  · have asked := Circuit.replacement_ofValues made fresh rfl
    refine ⟨?_, asked⟩
    rw [asked, List.getLast?_isSome, ne_eq, List.flatMap_eq_nil_iff, forall₂_congr
      fun circuit listed => (made circuit listed).askedTypes_eq_nil (owns circuit listed)]
    simp only [not_forall, exists_prop, ne_eq]

/-- Three rows of a changer and a chip output on either side of a pad, with the chip outputs turned
three ways and the data 0, 5 and 20 on the pads. -/
def answeringRows : World EndlessChip :=
  .voxel ⟨⟨Layout.standardTypes⟩, .clamped 3 5 1,
    #[⟨⟨11⟩, .identity, 0⟩, ⟨⟨2⟩, .identity, 0⟩, ⟨⟨12⟩, .identity, 0⟩, .air, .air, .air,
      ⟨⟨11⟩, .identity, 0⟩, ⟨⟨2⟩, .identity, 5⟩, ⟨⟨12⟩, .ofCodeWrapping 4, 0⟩, .air, .air, .air,
      ⟨⟨11⟩, .identity, 0⟩, ⟨⟨2⟩, .identity, 20⟩, ⟨⟨12⟩, .ofCodeWrapping 13, 0⟩], rfl⟩

/-- The first truthy datum is the answer on the face that the chip outputs have to the pads, the
last changer tells what the chip is to become, and no chip output has a net on another face. -/
theorem answeringRows_answers :
    usual.options.maxEmbedDepth ≠ 0 ∧ ∃ outcome circuits,
      (usual.evaluateEmbedded answeringRows (.voxel (chipAround answeringRows)) ⟨0, 0, 0⟩
        none).outcome = .ok outcome ∧
      (Circuit.compileAll usual.options 1 answeringRows).outcome = .ok circuits ∧
      outcome.outputs.get .negX = some (.number (.ofInt 5)) ∧
      (∃ circuit ∈ circuits, ∃ id, circuit.ShowsOn answeringRows .negX id) ∧
      (∀ circuit ∈ circuits, ∀ id, ¬circuit.ShowsOn answeringRows .posX id) ∧
      ∃ asked, asked.getLast? = some ⟨20⟩ ∧ asked = circuits.flatMap fun circuit =>
        circuit.askedTypes answeringRows (circuit.evaluate (.embedded answeringRows
          ⟨.voxel (chipAround answeringRows), ⟨0, 0, 0⟩, none⟩)) := by
  have entered : usual.options.maxEmbedDepth ≠ 0 := by decide
  obtain ⟨outcome, answered, look⟩ := Compilation.exists_ok
    (usual.evaluateEmbedded answeringRows (.voxel (chipAround answeringRows)) ⟨0, 0, 0⟩ none)
    id ⟨⟨none, none, none, some (.number (.ofInt 5)), none, none⟩, some ⟨20⟩⟩ (by decide +kernel)
  obtain rfl : outcome = _ := look
  obtain ⟨circuits, compiled, faces, _, replaced⟩ := evaluateEmbedded_answers entered answered
  obtain ⟨_, truthy, _⟩ := faces .negX
  obtain ⟨unseen, _⟩ := faces .posX
  obtain ⟨circuit, listed, id, shown, _⟩ := truthy.mp ⟨_, rfl, by decide +kernel⟩
  exact ⟨entered, _, circuits, answered, compiled, rfl, ⟨circuit, listed, id, shown⟩,
    unseen.mp rfl, _, replaced.symm, rfl⟩

end Engine

end VoxelCircuit

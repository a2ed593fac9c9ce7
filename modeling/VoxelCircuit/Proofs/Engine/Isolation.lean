import VoxelCircuit.Proofs.Circuit.Settling
import VoxelCircuit.Proofs.Engine.Replacement

/-! # The world seen from inside a block

The circuits inside a block see the grid around it only as far as the block goes: its datum,
how it is turned, and the types of the blocks beside it. It is sensors that see this, and
only those in the grid inside the block itself, since deeper ones look at the chip that they
are in. Without these sensors, nothing of the grid outside is seen
(`VoxelCircuit.Effect.runAll_elsewhere`). What the circuits answer depends on nothing else of
the grid around the block (`VoxelCircuit.Engine.evaluateEmbedded_isolated`).
-/

namespace VoxelCircuit

variable {γ : Type}

/-- The state of an evaluation that has come as far inside another block. -/
def EvalState.elsewhere (state : EvalState γ) (embedding : Embedding γ) : EvalState γ :=
  { state with embedding := some embedding }

variable [Grid γ]

namespace Effect

/-- An effect does not look at the block around the grid: it is not that of a sensor. -/
def Blind (effect : Effect γ) : Prop :=
  ∀ pos behavior orientation inputs, effect = .respond pos behavior orientation inputs →
    behavior ≠ .datumSensor ∧ behavior ≠ .neighborSensor

variable {first second : Embedding γ}

private theorem response_elsewhere {effect : Effect γ} (blind : effect.Blind)
    (event : first.event = second.event) (state : EvalState γ) :
    effect.response (state.elsewhere second) = effect.response (state.elsewhere first) := by
  have events : (state.elsewhere second).event = (state.elsewhere first).event := event.symm
  cases effect with
  | merge net drivers => simp only [response, EvalState.elsewhere]
  | respond pos behavior orientation inputs =>
      obtain ⟨notDatum, notNeighbor⟩ := blind pos behavior orientation inputs rfl
      rw [response, response]
      cases behavior
      case datumSensor => exact (notDatum rfl).elim
      case neighborSensor => exact (notNeighbor rfl).elim
      case spontaneous => rw [Behavior.response, Behavior.response, events]
      all_goals rfl
  | chip pos orientation interior circuits =>
      -- The circuits of the chip see the grid that the chip is in, and that is the same grid.
      rw [response, response, events]
      rfl

/-- Effects that do not look outside do the same inside any other block, given the same
event. -/
theorem runAll_elsewhere {effects : List (Effect γ)} (blind : ∀ effect ∈ effects, effect.Blind)
    (event : first.event = second.event) (state : EvalState γ) :
    runAll effects (state.elsewhere second) =
      (runAll effects (state.elsewhere first)).elsewhere second := by
  induction effects generalizing state with
  | nil => rw [runAll, runAll]; rfl
  | cons effect rest ih =>
      rw [runAll, runAll, response_elsewhere (blind effect List.mem_cons_self) event]
      exact ih (fun other member => blind other (List.mem_cons_of_mem _ member))
        (state.add (effect.response (state.elsewhere first)))

end Effect

namespace Circuit

/-- In a grid without sensors, no effect looks at the block around the grid. -/
theorem Compiled.blind {grid : γ} {recordEdges : Bool} {circuit : Circuit γ}
    (compiled : Compiled grid recordEdges circuit)
    (unseen : ∀ pos, Grid.behavior grid pos ≠ some .datumSensor ∧
      Grid.behavior grid pos ≠ some .neighborSensor) :
    ∀ effect ∈ circuit.pipeline, effect.Blind := by
  obtain ⟨effects, realized, pipeline⟩ := compiled.realized
  intro effect member pos behavior orientation inputs same
  subst same
  obtain ⟨target, _, realizes⟩ := exists_target_of_mem realized (pipeline ▸ member)
  cases realizes with
  | net merges =>
      obtain ⟨_, _, other⟩ := Option.map_eq_some_iff.mp merges.symm
      cases other
  | block there active =>
      refine ⟨fun datum => (unseen pos).1 (datum ▸ there), fun neighbor => ?_⟩
      exact (unseen pos).2 (neighbor ▸ there)

end Circuit

namespace Engine

variable {σ : Type} {engine : Engine σ} {interior outer other : γ} {pos place : Pos}
  {event : Option Signal}

private theorem evaluateEmbedded_passed (none : engine.options.maxEmbedDepth = 0) :
    engine.evaluateEmbedded interior outer pos event =
      ⟨[.depthExceeded pos 0], .ok .nothing⟩ :=
  if_pos none

private theorem evaluateEmbedded_congr (entered : engine.options.maxEmbedDepth ≠ 0)
    (values : ∀ circuits, (Circuit.compileAll engine.options 1 interior).outcome = .ok circuits →
      ∀ circuit ∈ circuits, (circuit.evaluate (.embedded interior ⟨outer, pos, event⟩)).values =
        (circuit.evaluate (.embedded interior ⟨other, place, event⟩)).values) :
    engine.evaluateEmbedded interior outer pos event =
      engine.evaluateEmbedded interior other place event := by
  rw [evaluateEmbedded, evaluateEmbedded, if_neg entered, if_neg entered, Compilation.andThen,
    Compilation.andThen]
  cases compiled : (Circuit.compileAll engine.options 1 interior).outcome with
  | error error => rfl
  | ok circuits => simp only [List.map_congr_left (values circuits compiled)]

/-- **The circuits inside a block see the world outside only through the block.** In two grids in
which the block at a position has the same datum, is turned the same way and has blocks of the
same types beside it, the circuits inside give the same answer or fail alike, and make the
same reports. If the grid inside has no sensors, whatever the grids inside its chips have,
then so they do in any two grids and inside any two blocks, but for the block named by the
report that it is passed over. -/
theorem evaluateEmbedded_isolated (engine : Engine σ) (interior outer other : γ) (pos : Pos)
    (event : Option Signal) :
    (Grid.SameAround outer other pos →
      engine.evaluateEmbedded interior outer pos event =
        engine.evaluateEmbedded interior other pos event) ∧
    ((∀ inside, Grid.behavior interior inside ≠ some .datumSensor ∧
        Grid.behavior interior inside ≠ some .neighborSensor) → ∀ place,
      let here := engine.evaluateEmbedded interior outer pos event
      let there := engine.evaluateEmbedded interior other place event
      here.outcome = there.outcome ∧ (here.reports = there.reports ∨ ∃ limit,
        here.reports = [.depthExceeded pos limit] ∧
          there.reports = [.depthExceeded place limit])) := by
  by_cases none : engine.options.maxEmbedDepth = 0
  · simp only [evaluateEmbedded_passed none]
    exact ⟨fun _ => trivial, fun _ place => ⟨trivial, Or.inr ⟨0, rfl, rfl⟩⟩⟩
  refine ⟨fun same => evaluateEmbedded_congr none fun circuits _ circuit _ => ?_,
    fun unseen place => ?_⟩
  · have start : (EvalState.embedded interior ⟨outer, pos, event⟩).Alike
        (.embedded interior ⟨other, pos, event⟩) :=
      ⟨.some (.of_sameAround same rfl), fun _ _ => rfl, fun _ => ⟨rfl, rfl⟩⟩
    exact (Effect.runAll_eq_of_alike circuit.pipeline start rfl
      fun _ _ place _ => .refl interior place).1
  · have same : engine.evaluateEmbedded interior outer pos event =
        engine.evaluateEmbedded interior other place event := by
      refine evaluateEmbedded_congr none fun circuits compiled circuit listed => ?_
      have blind := (Circuit.compiled_of_mem_compileAll compiled listed).blind unseen
      set first : Embedding γ := ⟨outer, pos, event⟩
      set second : Embedding γ := ⟨other, place, event⟩
      have events : first.event = second.event := rfl
      have moved := Effect.runAll_elsewhere blind events (.embedded interior first)
      exact (congrArg EvalState.values moved).symm
    exact ⟨congrArg _ same, Or.inl (congrArg _ same)⟩

/-- A turned chip with datum 7, stone, a chip with datum 3, and a block at the end of the row. -/
def twoChips (interior : World EndlessChip) (last : Cell) : World EndlessChip :=
  .voxel ⟨⟨Layout.standardTypes ++ [⟨⟨30⟩, "chip", some .chip, some interior⟩]⟩, .clamped 4 1 1,
    #[⟨⟨30⟩, .ofCodeWrapping 2, 7⟩, ⟨⟨20⟩, .identity, 0⟩, ⟨⟨30⟩, .identity, 3⟩, last], rfl⟩

/-- Sensors inside the first chip see its datum and the stone beside it, whatever is at the end of
the row. What obeys the event does so in either chip. -/
theorem twoChips_isolated :
    let pad : Cell := ⟨⟨2⟩, .identity, 0⟩
    let sensed :=
      usual.evaluateEmbedded Circuit.sensing (twoChips Circuit.sensing pad) ⟨0, 0, 0⟩ none
    let obeyed := usual.evaluateEmbedded obeying (twoChips obeying pad) ⟨0, 0, 0⟩
      (some (.number (.ofInt 20)))
    sensed.outcome = .ok
      ⟨⟨none, some (.number (.ofInt 20)), none, none, some (.number (.ofInt 7)), none⟩, none⟩ ∧
    sensed = usual.evaluateEmbedded Circuit.sensing (twoChips Circuit.sensing .air) ⟨0, 0, 0⟩ none ∧
    obeyed.outcome = .ok ⟨.tabulate fun _ => none, some ⟨20⟩⟩ ∧
    obeyed.outcome = (usual.evaluateEmbedded obeying (twoChips Circuit.sensing .air) ⟨2, 0, 0⟩
      (some (.number (.ofInt 20)))).outcome := by
  intro pad sensed obeyed
  obtain ⟨around, _⟩ := usual.evaluateEmbedded_isolated Circuit.sensing
    (twoChips Circuit.sensing pad) (twoChips Circuit.sensing .air) ⟨0, 0, 0⟩ none
  obtain ⟨_, apart⟩ := usual.evaluateEmbedded_isolated obeying (twoChips obeying pad)
    (twoChips Circuit.sensing .air) ⟨0, 0, 0⟩ (some (.number (.ofInt 20)))
  have unseen : ∀ inside, Grid.behavior obeying inside ≠ some .datumSensor ∧
      Grid.behavior obeying inside ≠ some .neighborSensor := by
    intro inside
    by_cases member : inside ∈ Grid.support obeying
    · have held : ∀ place ∈ (Grid.support obeying).positions,
          Grid.behavior obeying place ≠ some .datumSensor ∧
            Grid.behavior obeying place ≠ some .neighborSensor := by decide +kernel
      exact held inside (Box.mem_positions.mpr member)
    · rw [Grid.behavior_eq_none obeying inside member]
      exact ⟨nofun, nofun⟩
  refine ⟨by decide +kernel, around ⟨rfl, rfl, fun direction => ?_⟩, by decide +kernel,
    (apart unseen ⟨2, 0, 0⟩).1⟩
  cases direction <;> rfl

end Engine

end VoxelCircuit

import VoxelCircuit.Engine.Dispatch
import VoxelCircuit.Layout.Basic
import VoxelCircuit.Layout.EndlessChip
import VoxelCircuit.Proofs.Circuit.Interior
import VoxelCircuit.Proofs.Circuit.Success
import VoxelCircuit.Proofs.Circuit.Surroundings

/-! # Two ways into a chip

The circuits inside a chip are evaluated as part of the circuit that the chip is in, and on
their own when an event is sent to the chip. Each way compiles them, checks the depth and
merges what they publish for itself, and an event never permits edits. Both come to the
same (`VoxelCircuit.Engine.evaluateEmbedded_agrees`).
-/

namespace VoxelCircuit

variable {γ : Type} [Grid γ]

namespace Behavior

variable {publication : Publication} {pos : Pos} {state : EvalState γ}

/-- A chip drives what is published on its turned faces and nothing on the others. -/
theorem get?_chipResponse {values : Values} (orientation : Orientation) (direction : Direction)
    (before : values.get? (.output ⟨pos, orientation.transform direction⟩) = none) :
    (values.setAll (chipResponse pos orientation publication state).writes).get?
      (.output ⟨pos, orientation.transform direction⟩) = publication.outputs.get direction := by
  have apart : Function.Injective fun direction =>
      Key.output ⟨pos, orientation.transform direction⟩ := fun _ _ same =>
    Function.LeftInverse.injective orientation.untransform_transform
      (congrArg Face.direction (Key.output.inj same))
  rw [chipResponse, Values.get?_setAll_each apart, before, Option.or_none]

/-- A chip is replaced where edits are permitted and it is asked for another type. -/
theorem replaceBlock_mem_chipResponse {orientation : Orientation} {id : BlockId} {datum : Int} :
    .replaceBlock pos id datum ∈ (chipResponse pos orientation publication state).edits ↔
      state.allowEdits = true ∧
        (publication.replacement.bind Signal.asNumber).map .ofNumber = some id ∧
          id ≠ Grid.blockId state.grid pos ∧ datum = Grid.datum state.grid pos := by
  have replaces : ∀ {asked : BlockId}, .replaceBlock pos id datum ∈
      replaceEdits state.grid pos asked ↔ asked = id ∧ id ≠ Grid.blockId state.grid pos ∧
        datum = Grid.datum state.grid pos := by
    intro asked
    by_cases kept : Grid.blockId state.grid pos = asked
    · simp only [replaceEdits, kept, if_true, List.not_mem_nil, false_iff]
      exact fun both => both.2.1 both.1.symm
    · simp only [replaceEdits, kept, if_false, List.mem_singleton, Edit.replaceBlock.injEq,
        true_and]
      exact ⟨fun same => ⟨same.1.symm, fun equal => kept (equal.symm.trans same.1), same.2⟩,
        fun both => ⟨both.1.symm, both.2.2⟩⟩
  have turns : ∀ asked : Orientation,
      .replaceBlock pos id datum ∉ rotateEdits state.grid pos asked := by
    intro asked member
    unfold rotateEdits at member
    split at member <;> simp at member
  unfold chipResponse
  dsimp only
  by_cases allowed : state.allowEdits = true
  · rw [if_pos allowed, List.mem_append]
    have noTurn : .replaceBlock pos id datum ∉
        ((publication.rotation.bind Signal.asNumber).map fun number =>
          rotateEdits state.grid pos (.ofNumber number)).getD [] := by
      cases publication.rotation.bind Signal.asNumber with
      | none => simp
      | some number => exact turns _
    rw [or_iff_left noTurn]
    cases publication.replacement.bind Signal.asNumber with
    | none => simp
    | some number => simp [replaces, allowed]
  · rw [if_neg allowed]
    simp [allowed]

end Behavior

namespace Circuit

private theorem last_number (signals : List Signal)
    (numbers : ∀ signal ∈ signals, ∃ number, signal.asNumber = some number) :
    signals.getLast?.bind Signal.asNumber = (signals.filterMap Signal.asNumber).getLast? := by
  rcases List.eq_nil_or_concat signals with rfl | ⟨before, last, rfl⟩
  · rfl
  · obtain ⟨number, found⟩ := numbers last (by simp)
    simp [List.filterMap_append, found]

/-- The circuits of a grid answer for the block around it what they publish when it is
evaluated along with the block, whether edits are permitted there or not. -/
theorem published_eq (circuits : List (Circuit γ)) (interior : γ) (pos : Pos)
    (state : EvalState γ) :
    (published circuits interior pos state).outputs = (EmbeddedOutcome.ofValues
        (circuits.map fun circuit => (circuit.evaluate
          (.embedded interior ⟨state.grid, pos, state.event⟩)).values)).outputs ∧
      ((published circuits interior pos state).replacement.bind Signal.asNumber).map
          BlockId.ofNumber = (EmbeddedOutcome.ofValues
        (circuits.map fun circuit => (circuit.evaluate
          (.embedded interior ⟨state.grid, pos, state.event⟩)).values)).replacement := by
  have start : (state.inside interior ⟨state.grid, pos, state.event⟩).Alike
      (.embedded interior ⟨state.grid, pos, state.event⟩) :=
    ⟨.some (.refl _), fun _ _ => rfl, fun _ => ⟨rfl, rfl⟩⟩
  have same : List.Forall₂ Values.SameSignals
      (circuits.map fun circuit => (circuit.evaluate
        (state.inside interior ⟨state.grid, pos, state.event⟩)).values)
      (circuits.map fun circuit => (circuit.evaluate
        (.embedded interior ⟨state.grid, pos, state.event⟩)).values) := by
    rw [List.forall₂_map_left_iff, List.forall₂_map_right_iff, List.forall₂_same]
    exact fun circuit _ => (Effect.runAll_alike circuit.pipeline start
      fun _ _ pos _ => .refl interior pos).signal
  refine ⟨Values.outputs_ofValues_congr same, congrArg (Option.map BlockId.ofNumber) ?_⟩
  have asked := Values.filterMap_get?_congr same (show Key.replacement ≠ .rotation from nofun)
  rw [published, Publication.ofValues, asked, last_number, List.filterMap_filterMap]
  intro signal member
  obtain ⟨id, rfl⟩ := admits_of_asked circuits rfl member
  exact ⟨_, rfl⟩

end Circuit

namespace Engine

variable {σ : Type} {engine : Engine σ} {interior grid : γ} {pos : Pos} {source circuit : Circuit γ}
  {start : EvalState γ}

/-- When the grid inside a block compiles, the answer is made of what its circuits leave. -/
theorem evaluateEmbedded_ok {nested : List (Circuit γ)} (entered : 0 < engine.options.maxEmbedDepth)
    (compiled : (Circuit.compileAll engine.options 1 interior).outcome = .ok nested)
    (event : Option Signal) :
    (engine.evaluateEmbedded interior grid pos event).outcome =
      .ok (.ofValues (nested.map fun circuit =>
        (circuit.evaluate (.embedded interior ⟨grid, pos, event⟩)).values)) := by
  rw [evaluateEmbedded, if_neg entered.ne', Compilation.andThen_ok]
  exact ⟨nested, compiled, rfl⟩

private theorem evaluateEmbedded_error {event : Option Signal} {error : CompileError}
    (failed : (engine.evaluateEmbedded interior grid pos event).outcome = .error error) :
    0 < engine.options.maxEmbedDepth ∧
      (Circuit.compileAll engine.options 1 interior).outcome = .error error := by
  unfold evaluateEmbedded at failed
  by_cases none : engine.options.maxEmbedDepth = 0
  · rw [if_pos none] at failed
    simp [Compilation.andThen_error, Compilation.report, Compilation.done] at failed
  · rw [if_neg none, Compilation.andThen_error] at failed
    refine ⟨Nat.pos_of_ne_zero none, failed.resolve_right ?_⟩
    simp [Compilation.done]

/-- Evaluated along with its circuit, a chip drives and requests what the circuits inside it
answer. -/
theorem answer_of_evaluate (compiled : (engine.compile grid source).outcome = .ok circuit)
    (member : pos ∈ circuit.members) (there : Grid.behavior grid pos = some .chip)
    (inside : Grid.interior grid pos = some interior) (fresh : start.Fresh)
    (upon : start.grid = grid) :
    ∃ outcome, (engine.evaluateEmbedded interior grid pos start.event).outcome = .ok outcome ∧
      (∀ direction, (circuit.evaluate start).values.get?
        (.output ⟨pos, (Grid.orientation grid pos).transform direction⟩) =
          outcome.outputs.get direction) ∧
      ∀ id datum, .replaceBlock pos id datum ∈ (circuit.evaluate start).edits ↔
        start.allowEdits = true ∧ outcome.replacement = some id ∧
          id ≠ Grid.blockId grid pos ∧ datum = Grid.datum grid pos := by
  have made := (Circuit.compile_ok compiled).2
  -- What the chip writes and requests is found at the end as it was at its turn.
  have found : ∀ {current : Effect γ} {earlier : List Target} {now : EvalState γ},
      Circuit.Turn grid circuit start (.block pos) (some current) earlier now →
        (∀ direction, (circuit.evaluate start).values.get?
          (.output ⟨pos, (Grid.orientation grid pos).transform direction⟩) =
            (now.values.setAll (current.response now).writes).get?
              (.output ⟨pos, (Grid.orientation grid pos).transform direction⟩)) ∧
        ∀ id datum, .replaceBlock pos id datum ∈ (circuit.evaluate start).edits ↔
          .replaceBlock pos id datum ∈ (current.response now).edits := by
    intro current earlier now turn
    refine ⟨fun direction => turn.written current rfl _ rfl, fun id datum => ?_⟩
    rw [← turn.requested current rfl pos rfl, List.mem_filter]
    simp [Edit.pos]
  by_cases entered : 0 < engine.options.maxEmbedDepth
  · obtain ⟨nested, deeper, listed⟩ :=
      Circuit.exists_chip_effect compiled member there inside entered
    obtain ⟨earlier, _, now, _, turn⟩ := made.turn_of_mem fresh listed
    obtain ⟨grids, permission, embedding⟩ := turn.setting
    have event : now.event = start.event := by rw [EvalState.event, embedding, EvalState.event]
    obtain ⟨outputs, replacement⟩ := Circuit.published_eq nested interior pos now
    obtain ⟨written, requested⟩ := found turn
    rw [grids, upon, event] at outputs replacement
    refine ⟨_, evaluateEmbedded_ok entered deeper start.event, fun direction => ?_,
      fun id datum => ?_⟩
    · rw [written, Circuit.chip_response, Behavior.get?_chipResponse, outputs]
      exact turn.unwritten made fresh rfl
    · rw [requested, Circuit.chip_response, Behavior.replaceBlock_mem_chipResponse, replacement,
        grids, upon, permission]
  · have none : engine.options.maxEmbedDepth = 0 := by omega
    have listed := Circuit.skipped_chip_effect compiled member there entered
    obtain ⟨earlier, _, now, _, turn⟩ := made.turn_of_mem fresh listed
    obtain ⟨written, requested⟩ := found turn
    refine ⟨.nothing, by rw [evaluateEmbedded, if_pos none]; rfl, fun direction => ?_,
      fun id datum => ?_⟩
    · rw [written, EmbeddedOutcome.nothing, PerFace.get_tabulate]
      exact turn.unwritten made fresh rfl
    · rw [requested]
      simp [Effect.response, Behavior.response, Response.nothing, EmbeddedOutcome.nothing]

variable {ω : Type} [Grid ω]

/-- If the grid inside a chip does not compile, then a circuit that the chip is in does not,
for that reason or for that of a chip that is demanded before. -/
theorem compile_fails (engine : Engine σ) {grid : VoxelGrid (World ω)} {source : Circuit (World ω)}
    {pos : Pos} {interior : World ω} (member : pos ∈ source.members)
    (there : grid.behavior pos = some .chip) (inside : grid.interior pos = some interior)
    {event : Option Signal} {error : CompileError}
    (failed : (engine.evaluateEmbedded interior (.voxel grid) pos event).outcome = .error error) :
    ∃ graph, Grid.trace (World.voxel grid) source.members engine.options.recordTraceEdges =
        .ok graph ∧
      ((engine.compile (.voxel grid) source).outcome = .error (.inside pos error) ∨
        ∃ earlier later place other cause,
          Grid.demandOrder (World.voxel grid) graph source.members =
            earlier ++ .block pos :: later ∧
          .block place ∈ earlier ∧ grid.behavior place = some .chip ∧
          grid.interior place = some other ∧
          (engine.evaluateEmbedded other (.voxel grid) place event).outcome = .error cause ∧
          (engine.compile (.voxel grid) source).outcome = .error (.inside place cause)) := by
  obtain ⟨entered, nested⟩ := evaluateEmbedded_error failed
  obtain ⟨log, traced⟩ := Grid.traceLog_succeeds (Grid.enclosed_voxel grid) source.members
    engine.options.recordTraceEdges
  set graph := Grid.netGraph (World.voxel grid) log with read
  have trace : Grid.trace (World.voxel grid) source.members engine.options.recordTraceEdges =
      .ok graph := by rw [Grid.trace, traced]; rfl
  set compileTarget := Circuit.effectFor engine.options
    (some (Circuit.compileAll engine.options 1)) (World.voxel grid) graph with targets
  have passes : ∀ {cause}, (Compilation.each compileTarget
      (Grid.demandOrder (World.voxel grid) graph source.members)).outcome = .error cause →
        (engine.compile (.voxel grid) source).outcome = .error cause := by
    intro cause fails
    rw [compile, Circuit.compile, if_pos entered, Circuit.compileWith,
      if_neg (Circuit.isEmpty_joined member), trace]
    exact Compilation.andThen_error.mpr (Or.inl fails)
  have chip : (compileTarget (.block pos)).outcome = .error (.inside pos error) := by
    have found : Grid.behavior (World.voxel grid) pos = some .chip := there
    have holds : Grid.interior (World.voxel grid) pos = some interior := inside
    simp only [targets, Circuit.effectFor, found, holds]
    exact Compilation.andThen_error.mpr (Or.inl (Compilation.mapError_error.mpr
      ⟨error, nested, rfl⟩))
  obtain ⟨earlier, later, order⟩ := List.append_of_mem ((Grid.demandOrder_demanded
    (Grid.graphOf_trace trace) source.members).member pos member)
  refine ⟨graph, trace, ?_⟩
  have whole := Compilation.each_fails chip earlier later
  rw [← order] at whole
  rcases whole with own | ⟨target, before, cause, fails, all⟩
  · exact Or.inl (passes own)
  · obtain ⟨place, other, compile, inner, rfl, chips, holds, same, stops, rfl⟩ :=
      Circuit.effectFor_error fails
    cases same
    refine Or.inr ⟨earlier, later, place, other, inner, order, before, chips, holds, ?_,
      passes all⟩
    rw [evaluateEmbedded, if_neg entered.ne', Compilation.andThen_error]
    exact Or.inl stops

/-- **The two ways into a chip agree.** Evaluate a compiled circuit with a chip in it on any
fresh state, and evaluate on its own the grid inside the chip with the same event: the
circuit drives on each turned face of the chip what is answered for that face, and requests
that the chip be replaced exactly if edits are permitted and the answer is another type than
it has. If the grid inside the chip does not compile, then the circuit does not, for that
reason or for that of a chip that is demanded before. -/
theorem evaluateEmbedded_agrees (engine : Engine σ) (grid : VoxelGrid (World ω))
    {source : Circuit (World ω)} {pos : Pos} {interior : World ω} (member : pos ∈ source.members)
    (there : grid.behavior pos = some .chip) (inside : grid.interior pos = some interior) :
    (∀ circuit start, (engine.compile (.voxel grid) source).outcome = .ok circuit →
      start.Fresh → start.grid = .voxel grid →
        ∃ outcome, (engine.evaluateEmbedded interior (.voxel grid) pos start.event).outcome =
            .ok outcome ∧
          (∀ direction, (circuit.evaluate start).values.get?
            (.output ⟨pos, (Grid.orientation (World.voxel grid) pos).transform direction⟩) =
              outcome.outputs.get direction) ∧
          ∀ id datum, .replaceBlock pos id datum ∈ (circuit.evaluate start).edits ↔
            start.allowEdits = true ∧ outcome.replacement = some id ∧
              id ≠ Grid.blockId (World.voxel grid) pos ∧
                datum = Grid.datum (World.voxel grid) pos) ∧
    ∀ event error,
      (engine.evaluateEmbedded interior (.voxel grid) pos event).outcome = .error error →
        ∃ graph, Grid.trace (World.voxel grid) source.members engine.options.recordTraceEdges =
            .ok graph ∧
          ((engine.compile (.voxel grid) source).outcome = .error (.inside pos error) ∨
            ∃ earlier later place other cause,
              Grid.demandOrder (World.voxel grid) graph source.members =
                earlier ++ .block pos :: later ∧
              .block place ∈ earlier ∧ grid.behavior place = some .chip ∧
              grid.interior place = some other ∧
              (engine.evaluateEmbedded other (.voxel grid) place event).outcome = .error cause ∧
              (engine.compile (.voxel grid) source).outcome = .error (.inside place cause)) := by
  refine ⟨fun circuit start compiled fresh upon => ?_, fun event error failed => ?_⟩
  · have joined : pos ∈ circuit.members := (Circuit.compile_ok compiled).1 ▸ member
    exact answer_of_evaluate compiled joined there inside fresh upon
  · exact engine.compile_fails member there inside failed

/-- An engine with the usual options. -/
def usual : Engine EventSink := ⟨{}, by decide, false, .ignore⟩

/-- A grid of one turned chip, with a grid inside. -/
def chipAround (interior : World EndlessChip) : VoxelGrid (World EndlessChip) :=
  ⟨⟨Layout.standardTypes ++ [⟨⟨30⟩, "chip", some .chip, some interior⟩]⟩,
    .clamped 1 1 1, #[⟨⟨30⟩, .ofCodeWrapping 20, 7⟩], rfl⟩

/-- A changer and a chip output on either side of a pad with datum 20. -/
def answering : World EndlessChip :=
  .voxel ⟨⟨Layout.standardTypes⟩, .clamped 3 1 1,
    #[⟨⟨11⟩, .identity, 0⟩, ⟨⟨2⟩, .identity, 20⟩, ⟨⟨12⟩, .identity, 0⟩], rfl⟩

/-- Two pads, seen through bounds that hold the first one alone. -/
def narrow : World EndlessChip :=
  .bounded (.single .origin) (.voxel ⟨⟨Layout.standardTypes⟩, .clamped 2 1 1,
    #[⟨⟨2⟩, .identity, 0⟩, ⟨⟨2⟩, .identity, 0⟩], rfl⟩)

/-- The circuit of a chip drives and requests what the grid inside answers, and does not
compile where that grid does not. -/
theorem chipAround_agrees :
    (∃ circuit, (usual.compile (World.voxel (chipAround answering))
        (Circuit.ofMembers [⟨0, 0, 0⟩])).outcome = .ok circuit ∧
      (circuit.evaluate (.editing (World.voxel (chipAround answering)))).values.get?
        (.output ⟨⟨0, 0, 0⟩, (Grid.orientation (World.voxel (chipAround answering))
          ⟨0, 0, 0⟩).transform .negX⟩) = some (.number (.ofInt 20)) ∧
      .replaceBlock ⟨0, 0, 0⟩ ⟨20⟩ 7 ∈
        (circuit.evaluate (.editing (World.voxel (chipAround answering)))).edits) ∧
    ∃ place cause, (usual.compile (World.voxel (chipAround narrow))
      (Circuit.ofMembers [⟨0, 0, 0⟩])).outcome = .error (.inside place cause) := by
  have member : (⟨0, 0, 0⟩ : Pos) ∈
      (Circuit.ofMembers [⟨0, 0, 0⟩] : Circuit (World EndlessChip)).members :=
    Circuit.mem_ofMembers.mpr List.mem_cons_self
  constructor
  · obtain ⟨agrees, _⟩ :=
      usual.evaluateEmbedded_agrees (chipAround answering) member (by decide +kernel) rfl
    obtain ⟨circuit, compiled, _⟩ := Compilation.exists_ok
      (usual.compile (World.voxel (chipAround answering)) (Circuit.ofMembers [⟨0, 0, 0⟩]))
      (fun _ => ()) () (by decide +kernel)
    obtain ⟨known, answered, look⟩ := Compilation.exists_ok
      (usual.evaluateEmbedded answering (World.voxel (chipAround answering)) ⟨0, 0, 0⟩ none)
      id ⟨⟨none, none, none, some (.number (.ofInt 20)), none, none⟩, some ⟨20⟩⟩
      (by decide +kernel)
    obtain rfl : known = _ := look
    obtain ⟨outcome, again, drives, requests⟩ :=
      agrees circuit (.editing (World.voxel (chipAround answering))) compiled ⟨rfl, rfl⟩ rfl
    obtain rfl := Except.ok.inj (again.symm.trans answered)
    exact ⟨circuit, compiled, drives .negX,
      (requests ⟨20⟩ 7).mpr ⟨rfl, rfl, by decide +kernel, by decide +kernel⟩⟩
  · obtain ⟨_, fails⟩ :=
      usual.evaluateEmbedded_agrees (chipAround narrow) member (by decide +kernel) rfl
    obtain ⟨error, failed⟩ := Compilation.exists_error
      (usual.evaluateEmbedded narrow (World.voxel (chipAround narrow)) ⟨0, 0, 0⟩ none)
      (by decide +kernel)
    obtain ⟨_, _, own | ⟨_, _, place, _, cause, _, _, _, _, _, whole⟩⟩ := fails none error failed
    · exact ⟨_, _, own⟩
    · exact ⟨place, cause, whole⟩

end Engine

end VoxelCircuit

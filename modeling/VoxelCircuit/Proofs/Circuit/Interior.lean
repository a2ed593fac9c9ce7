import VoxelCircuit.Proofs.Circuit.Evaluation

/-! # The circuits inside chips

The effect of a chip that may be entered evaluates the circuits of the grid inside it, as
they were compiled one level deeper (`VoxelCircuit.Circuit.exists_chip_effect`). What these
circuits ask for the chip to become is the signal of an id, and how they ask for it to be
turned is the signal of a rotation (`VoxelCircuit.Circuit.interior_asks`).
-/

namespace VoxelCircuit

/-- The signal of a rotation asks for that rotation. -/
@[simp] theorem Orientation.ofNumber_signal (orientation : Orientation) :
    orientation.signal.asNumber.map ofNumber = some orientation := by
  have each : ∀ orientation ∈ all, orientation.signal.asNumber.map ofNumber = some orientation := by
    decide +kernel
  exact each orientation (mem_all orientation)

/-- The signal of an id asks for that id. -/
@[simp] theorem BlockId.ofNumber_signal (id : BlockId) :
    id.signal.asNumber.map ofNumber = some id := by
  have each : ∀ value : Fin 256, (BlockId.mk ⟨⟨value⟩⟩).signal.asNumber.map ofNumber =
      some ⟨⟨⟨value⟩⟩⟩ := by
    decide +kernel
  exact each id.value.toBitVec.toFin

/-- Orientations that are asked for by one signal are the same. -/
theorem Orientation.signal_injective {first second : Orientation}
    (same : first.signal = second.signal) : first = second := by
  have asked := second.ofNumber_signal
  rw [← same, ofNumber_signal] at asked
  exact Option.some.inj asked

/-- Types that are asked for by one signal are the same. -/
theorem BlockId.signal_injective {first second : BlockId} (same : first.signal = second.signal) :
    first = second := by
  have asked := second.ofNumber_signal
  rw [← same, ofNumber_signal] at asked
  exact Option.some.inj asked

namespace Values

private theorem get?_setAll_some {values : Values} {writes : List (Key × Signal)} {key : Key}
    {signal : Signal} (found : (values.setAll writes).get? key = some signal) :
    values.get? key = some signal ∨ (key, signal) ∈ writes := by
  unfold setAll at found
  induction writes generalizing values with
  | nil => exact Or.inl found
  | cons write rest ih =>
      rw [List.foldl_cons] at found
      rcases ih found with old | later
      · rw [Table.get?_insert] at old
        by_cases same : key = write.1
        · rw [if_pos same] at old
          refine Or.inr (List.mem_cons.mpr (Or.inl ?_))
          rw [same, ← Option.some.inj old]
        · rw [if_neg same] at old
          exact Or.inl old
      · exact Or.inr (List.mem_cons_of_mem _ later)

end Values

/-- A block is asked to take an id and to turn to a rotation, by their signals. -/
def Key.Admits : Key → Signal → Prop
  | replacement, signal => ∃ id : BlockId, signal = id.signal
  | rotation, signal => ∃ orientation : Orientation, signal = orientation.signal
  | output _, _ | net _, _ | published _, _ => True

/-- All that is asked in a table is admitted. -/
def Values.Asking (values : Values) : Prop :=
  ∀ key signal, values.get? key = some signal → key.Admits signal

variable {γ : Type} [Grid γ]

namespace Effect

/-- What an effect asks for is admitted. -/
theorem admits_of_mem_writes {effect : Effect γ} {state : EvalState γ} {key : Key}
    {signal : Signal} (member : (key, signal) ∈ (effect.response state).writes) :
    key.Admits signal := by
  cases effect with
  | merge net drivers =>
      simp only [response, Response.ofWrites, List.mem_singleton, Prod.mk.injEq] at member
      rw [member.1]
      trivial
  | respond pos behavior orientation inputs =>
      simp only [response] at member
      cases Behavior.written_of_mem member with
      | driven | published => trivial
      | replacement id => exact ⟨id, rfl⟩
      | rotation asked => exact ⟨asked, rfl⟩
  | chip pos orientation interior circuits =>
      simp only [response, Behavior.chipResponse, List.mem_filterMap] at member
      obtain ⟨direction, _, found⟩ := member
      obtain ⟨_, _, same⟩ := Option.map_eq_some_iff.mp found
      cases same
      trivial

private theorem asking_runAll (effects : List (Effect γ)) {state : EvalState γ}
    (asking : state.values.Asking) : (runAll effects state).values.Asking := by
  induction effects generalizing state with
  | nil => rwa [runAll]
  | cons effect rest ih =>
      rw [runAll]
      apply ih
      intro key signal found
      rcases Values.get?_setAll_some found with before | written
      · exact asking key signal before
      · exact admits_of_mem_writes written

private theorem runEach_eq (pipelines : List (List (Effect γ))) (state : EvalState γ) :
    runEach pipelines state = pipelines.map fun pipeline => (runAll pipeline state).values := by
  induction pipelines with
  | nil => rw [runEach, List.map_nil]
  | cons pipeline rest ih => rw [runEach, ih, List.map_cons]

private theorem Realizes.of_some {grid : γ} {graph : NetGraph} {target : Target} {first : Effect γ}
    {second : Option (Effect γ)} (has : Realizes grid graph target (some first))
    (other : Realizes grid graph target second) : ∃ effect, second = some effect := by
  cases second with
  | some effect => exact ⟨effect, rfl⟩
  | none =>
      cases other with
      | net absent =>
          cases has with
          | net merges => rw [← merges] at absent; cases absent
      | idle passive =>
          cases has with
          | block there active =>
              rw [Grid.activeBeyondWire, there] at passive
              simp [active] at passive
          | chip there =>
              rw [Grid.activeBeyondWire, there] at passive
              simp [Behavior.isWire] at passive

end Effect

namespace Circuit

/-- What the circuits inside the block at a position publish for it when the grid around
them is in a state. -/
def published (circuits : List (Circuit γ)) (interior : γ) (pos : Pos) (state : EvalState γ) :
    Publication :=
  .ofValues (circuits.map fun circuit =>
    (circuit.evaluate (state.inside interior ⟨state.grid, pos, state.event⟩)).values)

/-- What circuits ask for under a key is a signal that the key admits. -/
theorem admits_of_asked (circuits : List (Circuit γ)) {start : EvalState γ}
    (vacant : start.values = .empty) {key : Key} {wanted : Signal}
    (asked : wanted ∈ (circuits.map fun circuit => (circuit.evaluate start).values).filterMap
      fun values => values.get? key) : key.Admits wanted := by
  obtain ⟨values, listed, found⟩ := List.mem_filterMap.mp asked
  obtain ⟨circuit, _, rfl⟩ := List.mem_map.mp listed
  exact Effect.asking_runAll _ (by simp [Values.Asking, vacant]) key wanted found

/-- What is published asks for an id and a rotation at most. -/
theorem interior_asks (circuits : List (Circuit γ)) (interior : γ) (pos : Pos)
    (state : EvalState γ) {wanted : Signal} :
    ((published circuits interior pos state).replacement = some wanted →
      ∃ id : BlockId, wanted = id.signal) ∧
    ((published circuits interior pos state).rotation = some wanted →
      ∃ orientation : Orientation, wanted = orientation.signal) :=
  ⟨fun last => admits_of_asked circuits rfl (List.mem_of_getLast? last),
    fun last => admits_of_asked circuits rfl (List.mem_of_getLast? last)⟩

/-- The state after the effect of a chip is that after what its circuits publish. -/
theorem chip_response (circuits : List (Circuit γ)) (interior : γ) (pos : Pos)
    (orientation : Orientation) (state : EvalState γ) :
    (Effect.chip pos orientation interior (circuits.map pipeline)).response state =
      Behavior.chipResponse pos orientation (published circuits interior pos state) state := by
  rw [Effect.response, Effect.runEach_eq, List.map_map, published]
  rfl

variable {grid : γ} {circuit : Circuit γ} {options : CompileOptions} {depth : Nat}

private theorem compile_effects {source : Circuit γ}
    (compiled : (compile options depth grid source).outcome = .ok circuit) :
    ∃ effects, List.Forall₂ (fun target effect => (effectFor options
        (if depth < options.maxEmbedDepth then some (compileAll options (depth + 1)) else none)
        grid circuit.graph target).outcome = .ok effect)
      (Grid.demandOrder grid circuit.graph circuit.members) effects ∧
        circuit.pipeline = effects.filterMap id := by
  obtain ⟨_, effects, each, same, _⟩ := compileWith_steps compiled
  rw [← (compile_ok compiled).1] at each
  exact ⟨effects, Compilation.each_ok.mp each, by rw [same]⟩

/-- Each member of a compiled circuit was compiled, and its effect, if it has one, is in the
pipeline. -/
theorem exists_member_effect {source : Circuit γ} {pos : Pos}
    (compiled : (compile options depth grid source).outcome = .ok circuit)
    (member : pos ∈ circuit.members) :
    ∃ effect, (effectFor options
        (if depth < options.maxEmbedDepth then some (compileAll options (depth + 1)) else none)
        grid circuit.graph (.block pos)).outcome = .ok effect ∧
      ∀ current, effect = some current → current ∈ circuit.pipeline := by
  obtain ⟨effects, found, pipeline⟩ := compile_effects compiled
  have listed := (Grid.demandOrder_demanded (Grid.graphOf_trace (compile_ok compiled).2.traced)
    circuit.members).member pos member
  obtain ⟨place, below, same⟩ := List.mem_iff_getElem.mp listed
  obtain ⟨lengths, each⟩ := List.forall₂_iff_get.mp found
  have effect := each place below (lengths ▸ below)
  rw [List.get_eq_getElem, same] at effect
  refine ⟨_, effect, fun current has => ?_⟩
  rw [pipeline, List.mem_filterMap]
  exact ⟨_, List.getElem_mem (lengths ▸ below), has⟩

/-- A chip that may be entered evaluates the circuits of the grid inside it. -/
theorem exists_chip_effect {source : Circuit γ} {pos : Pos} {interior : γ}
    (compiled : (compile options depth grid source).outcome = .ok circuit)
    (member : pos ∈ circuit.members) (there : Grid.behavior grid pos = some .chip)
    (inside : Grid.interior grid pos = some interior) (entered : depth < options.maxEmbedDepth) :
    ∃ nested, (compileAll options (depth + 1) interior).outcome = .ok nested ∧
      .chip pos (Grid.orientation grid pos) interior (nested.map pipeline) ∈ circuit.pipeline := by
  obtain ⟨_, effect, listed⟩ := exists_member_effect compiled member
  rw [if_pos entered, effectFor_entered there inside] at effect
  obtain ⟨nested, deeper, done⟩ := Compilation.andThen_ok.mp effect
  cases done
  exact ⟨nested, Compilation.mapError_ok.mp deeper, listed _ rfl⟩

/-- A chip that is passed over has an effect that adds nothing. -/
theorem skipped_effect {source : Circuit γ} {pos : Pos} {report : Report}
    (compiled : (compile options depth grid source).outcome = .ok circuit)
    (member : pos ∈ circuit.members) (there : Grid.behavior grid pos = some .chip)
    (skips : Skips options
      (if depth < options.maxEmbedDepth then some (compileAll options (depth + 1)) else none)
      grid pos report) :
    .respond pos .chip (Grid.orientation grid pos) (Grid.inputsAt grid circuit.graph pos) ∈
      circuit.pipeline := by
  obtain ⟨_, effect, listed⟩ := exists_member_effect compiled member
  rw [effectFor_skipped there skips] at effect
  cases effect
  exact listed _ rfl

/-- A chip beyond the limit on the depth is passed over. -/
theorem skipped_chip_effect {source : Circuit γ} {pos : Pos}
    (compiled : (compile options depth grid source).outcome = .ok circuit)
    (member : pos ∈ circuit.members) (there : Grid.behavior grid pos = some .chip)
    (beyond : ¬depth < options.maxEmbedDepth) :
    .respond pos .chip (Grid.orientation grid pos) (Grid.inputsAt grid circuit.graph pos) ∈
      circuit.pipeline := by
  cases inside : Grid.interior grid pos with
  | none => exact skipped_effect compiled member there (.hollow inside)
  | some interior => exact skipped_effect compiled member there (.deep inside (if_neg beyond))

/-- Each effect of a pipeline has its turn in an evaluation. -/
theorem Compiled.turn_of_mem {recordEdges : Bool} (compiled : Compiled grid recordEdges circuit)
    {start : EvalState γ} (fresh : start.Fresh) {current : Effect γ}
    (member : current ∈ circuit.pipeline) :
    ∃ earlier later now,
      Grid.demandOrder grid circuit.graph circuit.members = earlier ++ current.target :: later ∧
        Turn grid circuit start current.target (some current) earlier now := by
  obtain ⟨effects, realized, pipeline⟩ := compiled.realized
  obtain ⟨target, listed, realizes⟩ := exists_target_of_mem realized (pipeline ▸ member)
  obtain ⟨effect, earlier, later, now, order, turn⟩ := compiled.turn fresh listed
  obtain ⟨other, rfl⟩ := realizes.of_some turn.realizes
  obtain ⟨before, after, whole, _⟩ := turn.moment
  have present : other ∈ circuit.pipeline := by simp [whole]
  have same : other = current := List.inj_on_of_nodup_map compiled.nodup_targets present member
    (turn.realizes.target_eq.trans realizes.target_eq.symm)
  subst same
  rw [realizes.target_eq]
  exact ⟨earlier, later, now, order, turn⟩

/-- What an effect requests at its turn is requested in the end. -/
theorem Turn.mem_edits {start now : EvalState γ} {current : Effect γ} {earlier : List Target}
    (turn : Turn grid circuit start current.target (some current) earlier now) {edit : Edit}
    (asked : edit ∈ (current.response now).edits) : edit ∈ (circuit.evaluate start).edits := by
  rw [← turn.requested current rfl edit.pos (Effect.target_of_mem_edits asked)] at asked
  exact List.mem_of_mem_filter asked

/-- **What each turn keeps, an evaluation keeps.** If something holds of a fresh state before any
effect, and is kept at the turn of each effect, then it holds of the whole pipeline and the state
at the end. -/
theorem Compiled.evaluate_induction {recordEdges : Bool}
    (compiled : Compiled grid recordEdges circuit) {start : EvalState γ} (fresh : start.Fresh)
    (holds : List (Effect γ) → EvalState γ → Prop) (initial : holds [] start)
    (keeps : ∀ before effect earlier later now,
      Grid.demandOrder grid circuit.graph circuit.members = earlier ++ effect.target :: later →
        Turn grid circuit start effect.target (some effect) earlier now → holds before now →
          holds (before ++ [effect]) (now.add (effect.response now))) :
    holds circuit.pipeline (circuit.evaluate start) := by
  suffices along : ∀ before after, circuit.pipeline = before ++ after →
      holds before (Effect.runAll before start) from
    along circuit.pipeline [] (List.append_nil _).symm
  intro before
  induction before using List.reverseRecOn with
  | nil =>
      intro _ _
      rw [Effect.runAll]
      exact initial
  | append_singleton before effect ih =>
      intro after whole
      rw [List.append_assoc, List.singleton_append] at whole
      have listed : effect ∈ circuit.pipeline := by simp [whole]
      obtain ⟨earlier, later, now, order, turn⟩ := compiled.turn_of_mem fresh listed
      obtain ⟨_, _, again, reached⟩ := turn.moment
      obtain rfl := compiled.split_unique whole again
      rw [Effect.runAll_append, ← reached, Effect.runAll, Effect.runAll]
      exact keeps before effect earlier later now order turn (reached ▸ ih _ whole)

/-- Before the turn of a target nothing is written under its keys. -/
theorem Turn.unwritten {recordEdges : Bool} {start now : EvalState γ} {target : Target}
    {current : Effect γ} {earlier : List Target}
    (turn : Turn grid circuit start target (some current) earlier now)
    (compiled : Compiled grid recordEdges circuit) (fresh : start.Fresh) {key : Key}
    (owner : key.owner? = some target) : now.values.get? key = none := by
  obtain ⟨before, after, whole, rfl⟩ := turn.moment
  have distinct := compiled.nodup_targets
  rw [whole, List.map_append, List.nodup_append] at distinct
  have others : ∀ effect ∈ before, effect.target ≠ target := by
    intro effect member same
    refine distinct.2.2 _ (List.mem_map_of_mem member) current.target (by simp) ?_
    rw [same, turn.realizes.target_eq]
  rw [Effect.get?_runAll_of_owner start owner others, fresh.1, Table.get?_empty]

end Circuit

end VoxelCircuit

import VoxelCircuit.Proofs.Circuit.ShiftedCompilation

/-! # Evaluation in shifted grids

A circuit shifted writes the same signals under the keys shifted, and requests the same edits
of the blocks shifted (`VoxelCircuit.Circuit.evaluate_shifted`). Inside a chip nothing is
shifted but the place of the chip, and so the circuits inside leave the very same values.
-/

namespace VoxelCircuit

/-- An edit of the block that a shift takes a block to. -/
def Edit.shift (offset : Pos) : Edit → Edit
  | .setDatum pos value => .setDatum (offset.shift pos) value
  | .setOrientation pos orientation => .setOrientation (offset.shift pos) orientation
  | .replaceBlock pos id datum => .replaceBlock (offset.shift pos) id datum

/-- A response shifted, with all that it writes and requests. -/
def Response.shift (offset : Pos) (response : Response) : Response :=
  ⟨response.writes.map (Prod.map (Key.shift offset) id), response.edits.map (Edit.shift offset)⟩

namespace Values

variable (offset : Pos) (values : Values)

private theorem get?_shift (key : Key) :
    (values.shift offset).get? (key.shift offset) = values.get? key := by
  rw [shift, Table.get?_map (Key.shift_injective offset), Option.map_id, id]

/-- Shifted values have the same signals on nets. -/
@[simp] theorem get?_shift_net (net : NetId) :
    (values.shift offset).get? (.net net) = values.get? (.net net) :=
  values.get?_shift offset (.net net)

/-- Shifted values have the same published signals. -/
@[simp] theorem get?_shift_published (direction : Direction) :
    (values.shift offset).get? (.published direction) = values.get? (.published direction) :=
  values.get?_shift offset (.published direction)

private theorem setAll_shift (writes : List (Key × Signal)) :
    (values.shift offset).setAll (writes.map (Prod.map (Key.shift offset) id)) =
      (values.setAll writes).shift offset :=
  (Table.map_foldl_insert (Key.shift_injective offset) id writes values).symm

/-- A shift by nothing leaves a state as it is. -/
@[simp] theorem shift_origin : shift .origin = id := by
  have keys : Key.shift .origin = id := by
    funext key
    cases key <;> simp [Key.shift]
  funext values
  rw [shift, keys]
  exact Table.map_id values

end Values

/-- A shift by nothing leaves an effect as it is. -/
@[simp] theorem Effect.shift_origin {γ : Type} :
    shift .origin = (id : Effect γ → Effect γ) := by
  funext effect
  cases effect <;> simp [shift]

variable {γ : Type} [Grid γ] {offset : Pos}

/-- Two grids are embedded in blocks that a shift takes to each other. -/
structure Embedding.Shifted (offset : Pos) (first second : Embedding γ) : Prop where
  outer : Grid.Shifted offset first.outer second.outer
  pos : second.pos = offset.shift first.pos
  event : second.event = first.event

/-- One state is another shifted. Where the grids are embedded may be shifted by another
offset. -/
structure EvalState.Shifted (offset : Pos) (first second : EvalState γ) : Prop where
  grid : Grid.Shifted offset first.grid second.grid
  allowEdits : second.allowEdits = first.allowEdits
  embedding : ∃ around, Option.Rel (Embedding.Shifted around) first.embedding second.embedding
  values : second.values = first.values.shift offset
  requests : second.requests = first.requests.map (Edit.shift offset)

namespace EvalState.Shifted

variable {first second : EvalState γ}

private theorem add (shifted : first.Shifted offset second) (response : Response) :
    (first.add response).Shifted offset (second.add (response.shift offset)) where
  grid := shifted.grid
  allowEdits := shifted.allowEdits
  embedding := shifted.embedding
  values := by
    simp only [EvalState.add, shifted.values, Response.shift]
    exact first.values.setAll_shift offset response.writes
  requests := by
    simp only [EvalState.add, shifted.requests, Response.shift, List.map_append, List.map_reverse]

private theorem embedding_cases (shifted : first.Shifted offset second) :
    (first.embedding = none ∧ second.embedding = none) ∨ ∃ around one other,
      first.embedding = some one ∧ second.embedding = some other ∧
        Embedding.Shifted around one other := by
  obtain ⟨around, embedding⟩ := shifted.embedding
  cases one : first.embedding <;> cases other : second.embedding <;>
    rw [one, other] at embedding <;> cases embedding
  case none.none.none => exact Or.inl ⟨rfl, rfl⟩
  case some.some.some same => exact Or.inr ⟨around, _, _, rfl, rfl, same⟩

private theorem event (shifted : first.Shifted offset second) : second.event = first.event := by
  rcases shifted.embedding_cases with ⟨one, other⟩ | ⟨_, _, _, one, other, same⟩
  · rw [EvalState.event, EvalState.event, one, other]
  · rw [EvalState.event, EvalState.event, one, other]
    exact same.event

private theorem isSome (shifted : first.Shifted offset second) :
    second.embedding.isSome = first.embedding.isSome := by
  rcases shifted.embedding_cases with ⟨one, other⟩ | ⟨_, _, _, one, other, _⟩
  · rw [one, other]
  · rw [one, other]
    rfl

private theorem inputs_signal (shifted : first.Shifted offset second) (inputs : Inputs)
    (direction : Direction) : inputs.signal second direction = inputs.signal first direction := by
  unfold Inputs.signal EvalState.netSignal
  cases inputs.get direction with
  | none => rfl
  | some id => simp only [Values.get, shifted.values, Values.get?_shift_net]

private theorem inputs_any (shifted : first.Shifted offset second) (inputs : Inputs)
    (directions : List Direction) : inputs.any second directions = inputs.any first directions := by
  rw [Inputs.any, Inputs.any,
    List.map_congr_left fun direction _ => shifted.inputs_signal inputs direction]

/-- Fresh states of the grid inside a chip are no different, but for where the chip is. -/
theorem inside (shifted : first.Shifted offset second) (interior : γ) (pos : Pos) :
    (first.inside interior ⟨first.grid, pos, first.event⟩).Shifted .origin
      (second.inside interior ⟨second.grid, offset.shift pos, second.event⟩) where
  grid := .origin interior
  allowEdits := shifted.allowEdits
  embedding := ⟨offset, .some ⟨shifted.grid, rfl, shifted.event⟩⟩
  values := by rw [Values.shift_origin, id]; rfl
  requests := rfl

end EvalState.Shifted

namespace Behavior

variable {first second : EvalState γ}

private theorem sensedDatum_shifted (shifted : first.Shifted offset second) (pos : Pos) :
    sensedDatum (offset.shift pos) second = sensedDatum pos first := by
  rcases shifted.embedding_cases with ⟨one, other⟩ | ⟨_, _, _, one, other, same⟩
  · simp only [sensedDatum, one, other]
    exact shifted.grid.datum pos
  · simp only [sensedDatum, one, other, same.pos]
    exact same.outer.datum _

private theorem sensedId_shifted (shifted : first.Shifted offset second) (pos : Pos)
    (orientation : Orientation) :
    sensedId (offset.shift pos) orientation second = sensedId pos orientation first := by
  rcases shifted.embedding_cases with ⟨one, other⟩ | ⟨_, _, _, one, other, same⟩
  · simp only [sensedId, one, other, Pos.step_shift]
    exact shifted.grid.blockId _
  · simp only [sensedId, one, other, same.pos, same.outer.orientation, Pos.step_shift]
    exact same.outer.blockId _

private theorem drive_shift (behavior : Behavior) (pos : Pos) (orientation : Orientation)
    (signal : Signal) :
    behavior.drive (offset.shift pos) orientation signal =
      (behavior.drive pos orientation signal).shift offset := by
  simp only [drive, Response.ofWrites, Response.shift, List.map_map, List.map_nil]
  rfl

private theorem replaceEdits_shifted {grid other : γ} (shifted : Grid.Shifted offset grid other)
    (pos : Pos) (id : BlockId) :
    replaceEdits other (offset.shift pos) id =
      (replaceEdits grid pos id).map (Edit.shift offset) := by
  simp only [replaceEdits, shifted.blockId, shifted.datum]
  split <;> rfl

private theorem rotateEdits_shifted {grid other : γ} (shifted : Grid.Shifted offset grid other)
    (pos : Pos) (orientation : Orientation) :
    rotateEdits other (offset.shift pos) orientation =
      (rotateEdits grid pos orientation).map (Edit.shift offset) := by
  simp only [rotateEdits, shifted.orientation]
  split <;> rfl

private theorem indicate_shifted (shifted : first.Shifted offset second) (pos : Pos) (lit : Bool) :
    indicate (offset.shift pos) lit second = (indicate pos lit first).shift offset := by
  simp only [indicate, shifted.allowEdits, shifted.grid.datum]
  generalize (if lit then 1 else 0 : Int) = level
  split <;> rfl

private theorem rotate_shifted (shifted : first.Shifted offset second) (pos : Pos)
    (signal : Signal) :
    rotate (offset.shift pos) signal second = (rotate pos signal first).shift offset := by
  unfold rotate
  cases signal.asNumber with
  | none => rfl
  | some number =>
      simp only [shifted.allowEdits, shifted.isSome, rotateEdits_shifted shifted.grid]
      split
      · rfl
      · split <;> rfl

private theorem change_shifted (shifted : first.Shifted offset second) (pos : Pos)
    (signal : Signal) :
    change (offset.shift pos) signal second = (change pos signal first).shift offset := by
  unfold change
  cases signal.asNumber with
  | none => rfl
  | some number =>
      simp only [shifted.allowEdits, shifted.isSome, replaceEdits_shifted shifted.grid]
      split
      · rfl
      · split <;> rfl

private theorem publish_shifted (shifted : first.Shifted offset second) (orientation : Orientation)
    (inputs : Inputs) :
    publish orientation inputs second = (publish orientation inputs first).shift offset := by
  simp only [publish, Response.ofWrites, Response.shift, List.map_filterMap, List.map_nil,
    shifted.values, Values.get?_shift_published, shifted.inputs_signal]
  congr 2
  funext direction
  split <;> rfl

/-- A shifted block responds in a shifted state as the block does, shifted. -/
theorem response_shifted (shifted : first.Shifted offset second) (behavior : Behavior)
    (pos : Pos) (orientation : Orientation) (inputs : Inputs) :
    behavior.response (offset.shift pos) orientation inputs second =
      (behavior.response pos orientation inputs first).shift offset := by
  have merges := shifted.inputs_any inputs
  cases behavior
  case wire | junction | chip => rfl
  case pad => simp only [response, shifted.grid.datum, drive_shift]
  case nor => simp only [response, merges, drive_shift]
  case gate => simp only [response, merges, shifted.inputs_signal, drive_shift]
  case datumSensor => simp only [response, sensedDatum_shifted shifted, drive_shift]
  case neighborSensor => simp only [response, sensedId_shifted shifted, drive_shift]
  case spontaneous => simp only [response, shifted.event, drive_shift]
  case indicator => simp only [response, merges, indicate_shifted shifted]
  case rotator => simp only [response, merges, rotate_shifted shifted]
  case changer => simp only [response, merges, change_shifted shifted]
  case chipOutput => exact publish_shifted shifted orientation inputs

private theorem chipResponse_shifted (shifted : first.Shifted offset second) (pos : Pos)
    (orientation : Orientation) (publication : Publication) :
    chipResponse (offset.shift pos) orientation publication second =
      (chipResponse pos orientation publication first).shift offset := by
  have driven : ∀ direction, Option.map (Prod.map (Key.shift offset) id)
      ((publication.outputs.get direction).map fun signal =>
        (Key.output ⟨pos, orientation.transform direction⟩, signal)) =
      (publication.outputs.get direction).map fun signal =>
        (Key.output ⟨offset.shift pos, orientation.transform direction⟩, signal) := by
    intro direction
    rw [Option.map_map]
    rfl
  simp only [chipResponse, Response.shift, shifted.allowEdits, List.map_filterMap, driven,
    replaceEdits_shifted shifted.grid, rotateEdits_shifted shifted.grid]
  split
  · rw [List.map_append]
    cases publication.replacement.bind Signal.asNumber <;>
      cases publication.rotation.bind Signal.asNumber <;> rfl
  · rfl

end Behavior

namespace Effect

mutual

/-- Effects shifted respond in shifted states as the effects do, shifted. -/
theorem response_shifted : (effect : Effect γ) → ∀ {offset : Pos} {first second : EvalState γ},
    first.Shifted offset second →
      (effect.shift offset).response second = (effect.response first).shift offset
  | .merge net drivers, offset, first, second, shifted => by
      have driven : ∀ face : Face, second.values.get? (.output (face.shift offset)) =
          first.values.get? (.output face) := fun face => by
        rw [shifted.values]
        exact first.values.get?_shift offset (.output face)
      simp only [shift, response, List.filterMap_map, Function.comp_def, driven]
      rfl
  | .respond pos behavior orientation inputs, offset, first, second, shifted => by
      simp only [shift, response]
      exact Behavior.response_shifted shifted behavior pos orientation inputs
  | .chip pos orientation interior circuits, offset, first, second, shifted => by
      have inner := runEach_shifted circuits (shifted.inside interior pos)
      simp only [shift_origin, Values.shift_origin, List.map_id_fun, List.map_id] at inner
      simp only [shift, response, inner]
      exact Behavior.chipResponse_shifted shifted pos orientation _

private theorem runAll_shifted : (effects : List (Effect γ)) → ∀ {offset : Pos}
    {first second : EvalState γ}, first.Shifted offset second →
      (runAll effects first).Shifted offset (runAll (effects.map (shift offset)) second)
  | [], offset, first, second, shifted => by rwa [List.map_nil, runAll, runAll]
  | effect :: rest, offset, first, second, shifted => by
      rw [List.map_cons, runAll, runAll, response_shifted effect shifted]
      exact runAll_shifted rest (shifted.add _)

private theorem runEach_shifted : (pipelines : List (List (Effect γ))) → ∀ {offset : Pos}
    {first second : EvalState γ}, first.Shifted offset second →
      runEach (pipelines.map (List.map (shift offset))) second =
        (runEach pipelines first).map (Values.shift offset)
  | [], offset, first, second, shifted => by rw [List.map_nil, runEach, runEach, List.map_nil]
  | pipeline :: rest, offset, first, second, shifted => by
      rw [List.map_cons, runEach, runEach, List.map_cons, runEach_shifted rest shifted,
        (runAll_shifted pipeline shifted).values]

end

end Effect

/-- Evaluating a circuit shifted in a shifted state leaves the state shifted that evaluating
the circuit leaves. -/
theorem Circuit.evaluate_shifted (circuit : Circuit γ) {first second : EvalState γ}
    (shifted : first.Shifted offset second) :
    (circuit.evaluate first).Shifted offset ((circuit.shift offset).evaluate second) :=
  Effect.runAll_shifted circuit.pipeline shifted

end VoxelCircuit

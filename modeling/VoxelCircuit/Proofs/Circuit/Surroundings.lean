import VoxelCircuit.Proofs.Circuit.Footprint

/-! # What an evaluation can see

A block sees no more of its grid than its own cell and the types of the blocks next to it,
and the circuits inside a chip see that much of the grid around them, at whatever depth.
Whether edits are permitted shows in the edits requested and in the rotation asked of the
block around the grid alone. So evaluations that start in states which are alike that far
leave states which are alike (`VoxelCircuit.Effect.runAll_alike`).
-/

namespace VoxelCircuit

variable {γ : Type} [Grid γ]

/-- What can be seen of a block from inside it is the same in two grids. -/
structure Grid.SameAround (first second : γ) (pos : Pos) : Prop where
  orientation : Grid.orientation first pos = Grid.orientation second pos
  datum : Grid.datum first pos = Grid.datum second pos
  neighbor : ∀ direction,
    Grid.blockId first (pos.step direction) = Grid.blockId second (pos.step direction)

/-- What a block can see of its grid is the same in two grids. -/
structure Grid.SameAt (first second : γ) (pos : Pos) : Prop extends
    Grid.SameAround first second pos where
  blockId : Grid.blockId first pos = Grid.blockId second pos

/-- A grid is the same as itself around each block. -/
theorem Grid.SameAround.refl (grid : γ) (pos : Pos) : Grid.SameAround grid grid pos :=
  ⟨rfl, rfl, fun _ => rfl⟩

/-- A grid is the same as itself at each block. -/
theorem Grid.SameAt.refl (grid : γ) (pos : Pos) : Grid.SameAt grid grid pos :=
  ⟨.refl grid pos, rfl⟩

/-- Two grids are embedded alike: the event, the datum of the block around and the types of
the blocks that its unturned faces look to are the same. -/
structure Embedding.Alike (first second : Embedding γ) : Prop where
  event : first.event = second.event
  datum : Grid.datum first.outer first.pos = Grid.datum second.outer second.pos
  neighbor : ∀ direction,
    Grid.blockId first.outer (first.pos.step
        ((Grid.orientation first.outer first.pos).transform direction)) =
      Grid.blockId second.outer (second.pos.step
        ((Grid.orientation second.outer second.pos).transform direction))

/-- A grid is embedded like itself. -/
theorem Embedding.Alike.refl (embedding : Embedding γ) : embedding.Alike embedding :=
  ⟨rfl, rfl, fun _ => rfl⟩

/-- In grids that are the same around a block, grids are embedded alike in the block. -/
theorem Embedding.Alike.of_sameAround {first second : γ} {pos : Pos} {one other : Option Signal}
    (same : Grid.SameAround first second pos) (events : one = other) :
    (Embedding.mk first pos one).Alike ⟨second, pos, other⟩ where
  event := events
  datum := same.datum
  neighbor direction := by
    rw [← same.orientation]
    exact same.neighbor _

/-- Two tables differ in nothing but the rotation asked for. -/
def Values.SameSignals (first second : Values) : Prop :=
  ∀ key, key ≠ .rotation → first.get? key = second.get? key

/-- Two states differ in nothing that shows in signals, and in nothing at all if both or
neither permit edits; their grids aside. -/
structure EvalState.Alike (first second : EvalState γ) : Prop where
  embedding : Option.Rel Embedding.Alike first.embedding second.embedding
  signal : first.values.SameSignals second.values
  permitted : first.allowEdits = second.allowEdits →
    first.values = second.values ∧ first.requests = second.requests

/-- Two responses drive and publish the same, and are the same if a condition holds. -/
structure Response.Alike (permitted : Prop) (first second : Response) : Prop where
  signals : (first.writes.filter fun write => write.1 ≠ .rotation) =
    second.writes.filter fun write => write.1 ≠ .rotation
  permitted : permitted → first = second

private theorem Response.Alike.of_eq {permitted : Prop} {first second : Response}
    (same : first = second) : Response.Alike permitted first second :=
  ⟨by rw [same], fun _ => same⟩

namespace Values

private theorem get?_setAll_congr {first second : Values} {key : Key}
    (before : first.get? key = second.get? key) (writes : List (Key × Signal)) :
    (first.setAll writes).get? key = (second.setAll writes).get? key := by
  unfold setAll
  induction writes generalizing first second with
  | nil => exact before
  | cons write rest ih =>
      apply ih
      rw [Table.get?_insert, Table.get?_insert, before]

private theorem get?_setAll_signals {key : Key} (apart : key ≠ .rotation) (values : Values)
    (writes : List (Key × Signal)) :
    (values.setAll (writes.filter fun write => write.1 ≠ .rotation)).get? key =
      (values.setAll writes).get? key := by
  induction writes generalizing values with
  | nil => rfl
  | cons write rest ih =>
      rw [List.filter_cons]
      by_cases turns : write.1 = .rotation
      · have kept : values.get? key = (values.insert write.1 write.2).get? key := by
          rw [Table.get?_insert, if_neg (turns ▸ apart)]
        rw [if_neg (by simpa using turns), ih]
        exact get?_setAll_congr kept rest
      · rw [if_pos (by simpa using turns)]
        exact ih _

/-- Tables with the same signals have the same values under each key but the rotation. -/
theorem filterMap_get?_congr {tables others : List Values}
    (same : List.Forall₂ SameSignals tables others) {key : Key} (apart : key ≠ .rotation) :
    (tables.filterMap fun values => values.get? key) =
      others.filterMap fun values => values.get? key := by
  induction same with
  | nil => rfl
  | cons first _ ih => rw [List.filterMap_cons, List.filterMap_cons, first key apart, ih]

/-- Tables with the same signals publish the same outputs. -/
theorem outputs_ofValues_congr {tables others : List Values}
    (same : List.Forall₂ SameSignals tables others) :
    (Publication.ofValues tables).outputs = (Publication.ofValues others).outputs := by
  have published : ∀ direction,
      (tables.filterMap fun values => values.get? (.published direction)) =
        others.filterMap fun values => values.get? (.published direction) :=
    fun direction => filterMap_get?_congr same nofun
  simp only [Publication.ofValues, published]

end Values

namespace EvalState.Alike

variable {first second : EvalState γ}

private theorem add {more others : Response} (alike : first.Alike second)
    (same : Response.Alike (first.allowEdits = second.allowEdits) more others) :
    (first.add more).Alike (second.add others) where
  embedding := alike.embedding
  signal key apart := by
    simp only [EvalState.add]
    rw [← Values.get?_setAll_signals apart, same.signals, Values.get?_setAll_signals apart]
    exact Values.get?_setAll_congr (alike.signal key apart) _
  permitted permitted := by
    obtain ⟨values, requests⟩ := alike.permitted permitted
    simp only [EvalState.add, same.permitted permitted, values, requests, and_self]

private theorem event (alike : first.Alike second) : first.event = second.event := by
  unfold EvalState.event
  have embedding := alike.embedding
  revert embedding
  cases first.embedding <;> cases second.embedding <;> intro embedding <;> cases embedding
  case some.some.some same => exact same.event
  case none.none.none => rfl

private theorem isSome (alike : first.Alike second) :
    first.embedding.isSome = second.embedding.isSome := by
  have embedding := alike.embedding
  revert embedding
  cases first.embedding <;> cases second.embedding <;> intro embedding <;> cases embedding <;> rfl

private theorem inputs_signal (alike : first.Alike second) (inputs : Inputs)
    (direction : Direction) :
    inputs.signal first direction = inputs.signal second direction := by
  unfold Inputs.signal EvalState.netSignal
  cases inputs.get direction with
  | none => rfl
  | some id => simp only [Values.get, alike.signal (.net id) nofun]

private theorem inputs_any (alike : first.Alike second) (inputs : Inputs)
    (directions : List Direction) :
    inputs.any first directions = inputs.any second directions := by
  rw [Inputs.any, Inputs.any,
    List.map_congr_left fun direction _ => alike.inputs_signal inputs direction]

end EvalState.Alike

namespace Behavior

variable {first second : EvalState γ} {pos : Pos}

private theorem sensedDatum_alike (alike : first.Alike second)
    (same : Grid.SameAround first.grid second.grid pos) :
    sensedDatum pos first = sensedDatum pos second := by
  unfold sensedDatum
  have embedding := alike.embedding
  revert embedding
  cases first.embedding <;> cases second.embedding <;> intro embedding <;> cases embedding
  case none.none.none => exact same.datum
  case some.some.some same => exact same.datum

private theorem sensedId_alike (alike : first.Alike second)
    (same : Grid.SameAround first.grid second.grid pos) (orientation : Orientation) :
    sensedId pos orientation first = sensedId pos orientation second := by
  unfold sensedId
  have embedding := alike.embedding
  revert embedding
  cases first.embedding <;> cases second.embedding <;> intro embedding <;> cases embedding
  case none.none.none => exact same.neighbor _
  case some.some.some same => exact same.neighbor _

private theorem rotate_signals (signal : Signal) (state : EvalState γ) :
    ((rotate pos signal state).writes.filter fun write => write.1 ≠ .rotation) = [] := by
  unfold rotate
  cases signal.asNumber with
  | none => rfl
  | some number =>
      cases state.allowEdits <;> cases state.embedding.isSome <;>
        simp [Response.nothing, Response.ofWrites, Response.ofEdits]

private theorem change_writes (alike : first.Alike second) (signal : Signal) :
    (change pos signal first).writes = (change pos signal second).writes := by
  unfold change
  cases signal.asNumber with
  | none => rfl
  | some number =>
      simp only [alike.isSome]
      cases second.embedding.isSome <;> cases first.allowEdits <;> cases second.allowEdits <;>
        simp [Response.nothing, Response.ofEdits]

/-- A block responds alike in states that are alike. -/
theorem response_alike (alike : first.Alike second)
    (same : Grid.SameAt first.grid second.grid pos) (behavior : Behavior)
    (orientation : Orientation) (inputs : Inputs) :
    Response.Alike (first.allowEdits = second.allowEdits)
      (behavior.response pos orientation inputs first)
      (behavior.response pos orientation inputs second) := by
  have merges := alike.inputs_any inputs
  cases behavior
  case wire | junction | chip => exact .of_eq rfl
  case pad => exact .of_eq (by rw [response, response, same.datum])
  case nor => exact .of_eq (by rw [response, response, merges])
  case gate =>
    exact .of_eq (by rw [response, response, merges, alike.inputs_signal inputs .negX])
  case datumSensor =>
    exact .of_eq (by rw [response, response, sensedDatum_alike alike same.toSameAround])
  case neighborSensor =>
    exact .of_eq (by rw [response, response, sensedId_alike alike same.toSameAround])
  case spontaneous => exact .of_eq (by rw [response, response, alike.event])
  case indicator =>
    refine ⟨by simp only [response, indicate_writes], fun permitted => ?_⟩
    simp only [response, indicate, merges, permitted, same.datum]
  case rotator =>
    refine ⟨by rw [response, response, rotate_signals, rotate_signals], fun permitted => ?_⟩
    simp only [response, rotate, rotateEdits, merges, permitted, alike.isSome, same.orientation]
  case changer =>
    refine ⟨by rw [response, response, merges, change_writes alike], fun permitted => ?_⟩
    simp only [response, change, replaceEdits, merges, permitted, alike.isSome, same.blockId,
      same.datum]
  case chipOutput =>
    refine .of_eq ?_
    have before : ∀ direction, first.values.get? (.published direction) =
        second.values.get? (.published direction) := fun direction => alike.signal _ (by simp)
    simp only [response, publish, alike.inputs_signal, before]

private theorem chipResponse_alike {one other : Publication}
    (same : Grid.SameAt first.grid second.grid pos) (orientation : Orientation)
    (outputs : one.outputs = other.outputs)
    (permitted : first.allowEdits = second.allowEdits → one = other) :
    Response.Alike (first.allowEdits = second.allowEdits)
      (chipResponse pos orientation one first) (chipResponse pos orientation other second) := by
  refine ⟨by simp only [chipResponse, outputs], fun allowed => ?_⟩
  simp only [chipResponse, permitted allowed, allowed, replaceEdits, rotateEdits, same.blockId,
    same.datum, same.orientation]

end Behavior

namespace EvalState.Alike

variable {first second : EvalState γ} {pos : Pos}

/-- Fresh states of a grid inside a block are alike if the states around it are. -/
theorem inside (alike : first.Alike second)
    (same : Grid.SameAround first.grid second.grid pos) (interior : γ) :
    (first.inside interior ⟨first.grid, pos, first.event⟩).Alike
      (second.inside interior ⟨second.grid, pos, second.event⟩) where
  embedding := .some (.of_sameAround same alike.event)
  signal _ _ := rfl
  permitted _ := ⟨rfl, rfl⟩

end EvalState.Alike

namespace Effect

/-- Where an effect is for a block, the block sees the same of two grids. -/
def SeesAlike (first second : γ) (effect : Effect γ) : Prop :=
  ∀ pos, effect.target = .block pos → Grid.SameAt first second pos

mutual

/-- Effects respond alike in states that are alike. -/
theorem response_alike : (effect : Effect γ) → ∀ {first second : EvalState γ},
    first.Alike second → effect.SeesAlike first.grid second.grid →
      Response.Alike (first.allowEdits = second.allowEdits) (effect.response first)
        (effect.response second)
  | .merge net drivers, first, second, alike, _ => by
      have outputs : ∀ face, first.values.get? (.output face) =
          second.values.get? (.output face) := fun face => alike.signal _ nofun
      exact .of_eq (by simp only [response, outputs])
  | .respond pos behavior orientation inputs, first, second, alike, sees => by
      simp only [response]
      exact Behavior.response_alike alike (sees pos rfl) behavior orientation inputs
  | .chip pos orientation interior circuits, first, second, alike, sees => by
      have around := sees pos rfl
      obtain ⟨signals, same⟩ :=
        runEach_alike circuits (alike.inside around.toSameAround interior) rfl
      simp only [response]
      exact Behavior.chipResponse_alike around orientation (Values.outputs_ofValues_congr signals)
        fun permitted => by rw [same permitted]

/-- Evaluations leave states that are alike if they start in such states. -/
theorem runAll_alike : (effects : List (Effect γ)) → ∀ {first second : EvalState γ},
    first.Alike second → (∀ effect ∈ effects, effect.SeesAlike first.grid second.grid) →
      (runAll effects first).Alike (runAll effects second)
  | [], first, second, alike, _ => by rwa [runAll, runAll]
  | effect :: rest, first, second, alike, sees => by
      rw [runAll, runAll]
      have here := response_alike effect alike (sees effect List.mem_cons_self)
      exact runAll_alike rest (alike.add here) fun other member =>
        sees other (List.mem_cons_of_mem _ member)

/-- Pipelines that run from states that are alike leave tables with the same signals, and the same
tables if edits are permitted to both or to neither. -/
theorem runEach_alike : (pipelines : List (List (Effect γ))) → ∀ {first second : EvalState γ},
    first.Alike second → first.grid = second.grid →
      List.Forall₂ Values.SameSignals (runEach pipelines first) (runEach pipelines second) ∧
        (first.allowEdits = second.allowEdits →
          runEach pipelines first = runEach pipelines second)
  | [], first, second, alike, grids => by
      rw [runEach, runEach]
      exact ⟨.nil, fun _ => rfl⟩
  | pipeline :: rest, first, second, alike, grids => by
      have sees : ∀ effect ∈ pipeline, effect.SeesAlike first.grid second.grid :=
        fun _ _ pos _ => grids ▸ .refl first.grid pos
      have left := runAll_alike pipeline alike sees
      obtain ⟨others, sames⟩ := runEach_alike rest alike grids
      rw [runEach, runEach]
      refine ⟨.cons left.signal others, fun permitted => ?_⟩
      rw [sames permitted, (left.permitted ?_).1]
      rw [(runAll_setting pipeline first).2.1, (runAll_setting pipeline second).2.1, permitted]

end

/-- Evaluations that start in states which are alike and permit the same leave the same. -/
theorem runAll_eq_of_alike (effects : List (Effect γ)) {first second : EvalState γ}
    (alike : first.Alike second) (permitted : first.allowEdits = second.allowEdits)
    (sees : ∀ effect ∈ effects, effect.SeesAlike first.grid second.grid) :
    (runAll effects first).values = (runAll effects second).values ∧
      (runAll effects first).requests = (runAll effects second).requests := by
  refine (runAll_alike effects alike sees).permitted ?_
  rw [(runAll_setting effects first).2.1, (runAll_setting effects second).2.1, permitted]

end Effect

end VoxelCircuit

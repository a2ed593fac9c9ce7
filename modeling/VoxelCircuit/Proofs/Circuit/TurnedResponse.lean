import VoxelCircuit.Proofs.Circuit.Compile
import VoxelCircuit.Proofs.Circuit.Surroundings
import VoxelCircuit.Proofs.Grid.Turned

/-! # What blocks do in turned grids

A block of a grid turned that reads the same signals drives the same on its faces turned along,
and asks the same of itself, turns aside (`VoxelCircuit.EvalState.Turned.response`). So does a
chip, whose circuits see nothing of how the grid around them is turned
(`VoxelCircuit.EvalState.Turned.chip`).
-/

namespace VoxelCircuit

variable {γ : Type} [Grid γ] {motion : Motion}

/-- Whether an edit turns a block. -/
def Edit.turns : Edit → Bool
  | .setOrientation _ _ => true
  | .setDatum _ _ | .replaceBlock _ _ _ => false

/-- The same edit of the block that a motion takes a block to. -/
def Edit.moved (motion : Motion) : Edit → Edit
  | .setDatum pos value => .setDatum (motion.place pos) value
  | .setOrientation pos orientation => .setOrientation (motion.place pos) orientation
  | .replaceBlock pos id datum => .replaceBlock (motion.place pos) id datum

/-- The edits that do not turn a block. -/
def Edit.plain (edits : List Edit) : List Edit :=
  edits.filter fun edit => !edit.turns

private theorem Edit.plain_append (edits more : List Edit) :
    plain (edits ++ more) = plain edits ++ plain more :=
  List.filter_append ..

/-- What a response drives on faces, in order. -/
def Response.driven (response : Response) : List (Face × Signal) :=
  response.writes.filterMap fun write => write.1.face?.map fun face => (face, write.2)

/-- A response drives on the faces that a motion takes faces to what another drives there, and
requests the same of the block that the motion takes a block to, turns of it aside. -/
structure Response.Moved (motion : Motion) (first second : Response) : Prop where
  driven : second.driven = first.driven.map (Prod.map motion.face id)
  plain : Edit.plain second.edits = (Edit.plain first.edits).map (Edit.moved motion)

namespace Values

/-- On an output there is the last signal that a response drives there, or else what was there
before. -/
theorem get?_setAll_output (values : Values) (response : Response) (face : Face) :
    (values.setAll response.writes).get? (.output face) =
      ((response.driven.reverse.find? fun driven => driven.1 = face).map Prod.snd).or
        (values.get? (.output face)) := by
  obtain ⟨writes, edits⟩ := response
  unfold setAll
  induction writes generalizing values with
  | nil => rfl
  | cons write rest ih =>
      obtain ⟨key, signal⟩ := write
      rw [List.foldl_cons, ih, Table.get?_insert]
      cases key with
      | output own =>
          have driven : Response.driven ⟨(.output own, signal) :: rest, edits⟩ =
              (own, signal) :: Response.driven ⟨rest, edits⟩ := rfl
          rw [driven, List.reverse_cons, List.find?_append]
          by_cases same : face = own
          · subst same
            cases (Response.driven ⟨rest, edits⟩).reverse.find? _ <;> simp
          · simp [same, Ne.symm same]
      | net | published | replacement | rotation =>
          rw [if_neg nofun]
          rfl

/-- Responses of which one drives what the other does on faces moved leave the same there. -/
theorem get?_setAll_moved {one other : Values} {first second : Response}
    (moved : first.Moved motion second) {face : Face}
    (before : one.get? (.output face) = other.get? (.output (motion.face face))) :
    (one.setAll first.writes).get? (.output face) =
      (other.setAll second.writes).get? (.output (motion.face face)) := by
  rw [get?_setAll_output, get?_setAll_output, moved.driven, ← List.map_reverse, List.find?_map,
    before, Option.map_map]
  simp [Function.comp_def]

end Values

namespace Behavior

private theorem driven_drive (behavior : Behavior) (pos : Pos) (orientation : Orientation)
    (signal : Signal) : (behavior.drive pos orientation signal).driven =
      behavior.drivingFaces.map fun direction =>
        (⟨pos, orientation.transform direction⟩, signal) := by
  simp [Response.driven, drive, Response.ofWrites, List.filterMap_map, Key.face?]

omit [Grid γ] in
/-- A chip output writes to the faces of the block around alone. -/
theorem published_of_mem {orientation : Orientation} {inputs : Inputs} {state : EvalState γ}
    {write : Key × Signal} (member : write ∈ (publish orientation inputs state).writes) :
    ∃ direction, write.1 = .published direction := by
  obtain ⟨direction, _, found⟩ := List.mem_filterMap.mp member
  dsimp only at found
  split at found
  · cases found
    exact ⟨direction, rfl⟩
  · cases found

omit [Grid γ] in
/-- A chip output drives no faces and requests no edits. -/
theorem publish_driven (orientation : Orientation) (inputs : Inputs) (state : EvalState γ) :
    (publish orientation inputs state).driven = [] ∧
      (publish orientation inputs state).edits = [] := by
  refine ⟨?_, rfl⟩
  rw [Response.driven, List.filterMap_eq_nil_iff]
  intro write member
  obtain ⟨direction, same⟩ := published_of_mem member
  rw [same]
  rfl

end Behavior

/-- Two states of grids on their own of which one is the other turned, with the same permission. -/
structure EvalState.Turned (motion : Motion) (first second : EvalState γ) : Prop where
  grid : Grid.Turned motion first.grid second.grid
  alone : first.embedding = none ∧ second.embedding = none
  allowed : second.allowEdits = first.allowEdits

namespace Response.Moved

private theorem nothing : Moved motion nothing nothing := ⟨rfl, rfl⟩

private theorem drive (behavior : Behavior) (pos : Pos) (orientation : Orientation)
    (signal : Signal) : Moved motion (behavior.drive pos orientation signal)
      (behavior.drive (motion.place pos) (motion.rotation * orientation) signal) where
  driven := by
    simp only [Behavior.driven_drive, List.map_map, Function.comp_def, Prod.map, id, Motion.face,
      Motion.turn, Orientation.mul_transform]
  plain := rfl

variable {first second : EvalState γ} {pos : Pos}

private theorem indicate (turned : first.Turned motion second)
    (present : Grid.active first.grid pos = true) (lit : Bool) :
    Moved motion (Behavior.indicate pos lit first)
      (Behavior.indicate (motion.place pos) lit second) := by
  unfold Behavior.indicate
  rw [turned.allowed, turned.grid.datum pos present]
  generalize (if lit then 1 else 0 : Int) = level
  dsimp only
  split
  · exact ⟨rfl, rfl⟩
  · exact nothing

private theorem plain_rotateEdits (grid : γ) (pos : Pos) (orientation : Orientation) :
    Edit.plain (Behavior.rotateEdits grid pos orientation) = [] := by
  unfold Behavior.rotateEdits
  split <;> rfl

private theorem rotate (turned : first.Turned motion second) (signal : Signal) :
    Moved motion (Behavior.rotate pos signal first)
      (Behavior.rotate (motion.place pos) signal second) := by
  unfold Behavior.rotate
  rw [turned.allowed, turned.alone.1, turned.alone.2]
  split
  · exact nothing
  · simp only [Option.isSome_none, Bool.false_eq_true, if_false]
    split
    · exact nothing
    · exact ⟨rfl, by simp only [ofEdits, plain_rotateEdits, List.map_nil]⟩

private theorem plain_replaceEdits (turned : first.Turned motion second)
    (present : Grid.active first.grid pos = true) (id : BlockId) :
    Edit.plain (Behavior.replaceEdits second.grid (motion.place pos) id) =
      (Edit.plain (Behavior.replaceEdits first.grid pos id)).map (Edit.moved motion) := by
  unfold Behavior.replaceEdits
  rw [turned.grid.blockId, turned.grid.datum pos present]
  split <;> rfl

private theorem change (turned : first.Turned motion second)
    (present : Grid.active first.grid pos = true) (signal : Signal) :
    Moved motion (Behavior.change pos signal first)
      (Behavior.change (motion.place pos) signal second) := by
  unfold Behavior.change
  rw [turned.allowed, turned.alone.1, turned.alone.2]
  split
  · exact nothing
  · simp only [Option.isSome_none, Bool.false_eq_true, if_false]
    split
    · exact ⟨rfl, plain_replaceEdits turned present _⟩
    · exact nothing

omit [Grid γ] in
private theorem publish (orientation other : Orientation) (inputs others : Inputs) :
    Moved motion (Behavior.publish orientation inputs first)
      (Behavior.publish other others second) := by
  exact ⟨by rw [(Behavior.publish_driven _ _ _).1, (Behavior.publish_driven _ _ _).1]; rfl, rfl⟩

/-- A chip drives on its faces moved what is published on the same faces unturned. -/
theorem chip (turned : first.Turned motion second) (present : Grid.active first.grid pos = true)
    (orientation : Orientation) (publication : Publication) :
    Moved motion (Behavior.chipResponse pos orientation publication first)
      (Behavior.chipResponse (motion.place pos) (motion.rotation * orientation) publication
        second) where
  driven := by
    have each : ∀ (pos : Pos) (orientation : Orientation) (state : EvalState γ),
        (Behavior.chipResponse pos orientation publication state).driven =
          Direction.all.filterMap fun direction => (publication.outputs.get direction).map
            fun signal => (⟨pos, orientation.transform direction⟩, signal) := by
      intro pos orientation state
      rw [Response.driven, Behavior.chipResponse, List.filterMap_filterMap]
      refine List.filterMap_congr fun direction _ => ?_
      cases publication.outputs.get direction <;> rfl
    rw [each, each, List.map_filterMap]
    refine List.filterMap_congr fun direction _ => ?_
    rw [Option.map_map]
    simp only [Function.comp_def, Prod.map, id, Motion.face, Motion.turn, Orientation.mul_transform]
  plain := by
    simp only [Behavior.chipResponse, turned.allowed]
    split
    · rw [Edit.plain_append, Edit.plain_append, List.map_append]
      congr 1
      · cases publication.replacement.bind Signal.asNumber with
        | none => rfl
        | some number => exact plain_replaceEdits turned present _
      · cases publication.rotation.bind Signal.asNumber with
        | none => rfl
        | some number =>
            simp only [Option.map_some, Option.getD_some, plain_rotateEdits, List.map_nil]
    · rfl

end Response.Moved

namespace EvalState.Turned

variable {first second : EvalState γ} {pos : Pos} {inputs others : Inputs}

/-- A block turned that reads the same signals responds the same, moved. -/
theorem response (turned : first.Turned motion second)
    (present : Grid.active first.grid pos = true)
    (signals : ∀ direction, inputs.signal first direction = others.signal second direction)
    (behavior : Behavior) (orientation : Orientation) :
    (behavior.response pos orientation inputs first).Moved motion
      (behavior.response (motion.place pos) (motion.rotation * orientation) others second) := by
  have merges : ∀ directions, others.any second directions = inputs.any first directions := by
    intro directions
    rw [Inputs.any, Inputs.any, List.map_congr_left fun direction _ => (signals direction).symm]
  have datum := turned.grid.datum pos present
  cases behavior
  case wire | junction | chip => exact .nothing
  case pad =>
    simp only [Behavior.response, datum]
    exact .drive _ pos orientation _
  case nor =>
    simp only [Behavior.response, merges]
    exact .drive _ pos orientation _
  case gate =>
    simp only [Behavior.response, merges, ← signals]
    exact .drive _ pos orientation _
  case datumSensor =>
    simp only [Behavior.response, Behavior.sensedDatum, turned.alone, datum]
    exact .drive _ pos orientation _
  case neighborSensor =>
    have sensed : (motion.place pos).step
        ((motion.rotation * orientation).transform .negX) =
          motion.place (pos.step (orientation.transform .negX)) := by
      rw [Orientation.mul_transform, motion.place_step, Motion.turn]
    simp only [Behavior.response, Behavior.sensedId, turned.alone, sensed, turned.grid.blockId]
    exact .drive _ pos orientation _
  case spontaneous =>
    simp only [Behavior.response, EvalState.event, turned.alone]
    exact .drive _ pos orientation _
  case indicator =>
    simp only [Behavior.response, merges]
    exact .indicate turned present _
  case rotator =>
    simp only [Behavior.response, merges]
    exact .rotate turned _
  case changer =>
    simp only [Behavior.response, merges]
    exact .change turned present _
  case chipOutput => exact .publish orientation _ inputs others

/-- The circuits inside a chip see nothing of how the grid around them is turned. -/
theorem inside (turned : first.Turned motion second)
    (present : Grid.active first.grid pos = true) (interior : γ) :
    (first.inside interior ⟨first.grid, pos, first.event⟩).Alike
      (second.inside interior ⟨second.grid, motion.place pos, second.event⟩) where
  embedding := by
    refine .some ⟨?_, (turned.grid.datum pos present).symm, fun direction => ?_⟩
    · simp only [EvalState.event, turned.alone]
    · have looks := motion.place_step pos ((Grid.orientation first.grid pos).transform direction)
      simp only [turned.grid.orientation pos present, Orientation.mul_transform]
      rw [← turned.grid.blockId, looks, Motion.turn]
  signal _ _ := rfl
  permitted _ := ⟨rfl, rfl⟩

private theorem chip (turned : first.Turned motion second)
    (present : Grid.active first.grid pos = true) (orientation : Orientation) (interior : γ)
    (circuits : List (Pipeline γ)) :
    ((Effect.chip pos orientation interior circuits).response first).Moved motion
      ((Effect.chip (motion.place pos) (motion.rotation * orientation) interior circuits).response
        second) := by
  have same := (Effect.runEach_alike circuits (turned.inside present interior) rfl).2
    turned.allowed.symm
  simp only [Effect.response, same]
  exact .chip turned present orientation _

end EvalState.Turned

/-- An effect of a block and one of the block that a motion takes it to, which read some inputs. -/
inductive Effect.Moved (motion : Motion) (inputs others : Inputs) : Effect γ → Effect γ → Prop
  | respond (pos : Pos) (behavior : Behavior) (orientation : Orientation) :
      Moved motion inputs others (.respond pos behavior orientation inputs)
        (.respond (motion.place pos) behavior (motion.rotation * orientation) others)
  | chip (pos : Pos) (orientation : Orientation) (interior : γ) (circuits : List (Pipeline γ)) :
      Moved motion inputs others (.chip pos orientation interior circuits)
        (.chip (motion.place pos) (motion.rotation * orientation) interior circuits)

namespace Effect.Moved

variable {inputs others : Inputs} {one other : Effect γ} {pos : Pos}

/-- Effects of blocks that read the same signals respond the same, moved. -/
theorem response (moved : Effect.Moved motion inputs others one other)
    (mine : one.target = .block pos) {first second : EvalState γ}
    (turned : first.Turned motion second) (present : Grid.active first.grid pos = true)
    (signals : ∀ direction, inputs.signal first direction = others.signal second direction) :
    (one.response first).Moved motion (other.response second) := by
  cases moved with
  | respond _ behavior orientation =>
      cases mine
      simp only [Effect.response]
      exact turned.response present signals behavior orientation
  | chip _ orientation interior circuits =>
      cases mine
      exact turned.chip present orientation interior circuits

end Effect.Moved

/-- Blocks turned have the same effects, moved. -/
theorem Circuit.effectFor_turned {options : CompileOptions}
    {deeper : Option (γ → Compilation (List (Circuit γ)))} {first second : γ}
    (turned : Grid.Turned motion first second) {graph graphs : NetGraph} {pos : Pos}
    {effect other : Option (Effect γ)}
    (found : (effectFor options deeper first graph (.block pos)).outcome = .ok effect)
    (again : (effectFor options deeper second graphs (.block (motion.place pos))).outcome =
      .ok other) :
    Option.Rel (Effect.Moved motion (Grid.inputsAt first graph pos)
      (Grid.inputsAt second graphs (motion.place pos))) effect other := by
  have behavior := turned.behavior pos
  have interior := turned.interior pos
  have orientation : ∀ {kind}, Grid.behavior first pos = some kind →
      Grid.orientation second (motion.place pos) = motion.rotation * Grid.orientation first pos :=
    fun there => turned.orientation pos (by rw [Grid.active, there]; rfl)
  cases targetCase options deeper first (.block pos) with
  | idle passive =>
      rw [effectFor_idle passive] at found
      rw [effectFor_idle ((turned.activeBeyondWire pos).trans passive)] at again
      cases found
      cases again
      exact .none
  | plain there active notChip =>
      rw [effectFor_plain there active notChip] at found
      rw [effectFor_plain (behavior.trans there) active notChip, orientation there] at again
      cases found
      cases again
      exact .some (.respond ..)
  | skipped chip skips =>
      obtain ⟨report, skipsAgain⟩ :
          ∃ report, Skips options deeper second (motion.place pos) report := by
        cases skips with
        | hollow none => exact ⟨_, .hollow (interior.trans none)⟩
        | deep holds limit => exact ⟨_, .deep (interior.trans holds) limit⟩
      rw [effectFor_skipped chip skips] at found
      rw [effectFor_skipped (behavior.trans chip) skipsAgain, orientation chip] at again
      cases found
      cases again
      exact .some (.respond ..)
  | entered chip holds given =>
      subst given
      rw [effectFor_entered chip holds] at found
      rw [effectFor_entered (behavior.trans chip) (interior.trans holds), orientation chip] at again
      obtain ⟨circuits, nested, done⟩ := Compilation.andThen_ok.mp found
      obtain ⟨others, same, doneAgain⟩ := Compilation.andThen_ok.mp again
      rw [Compilation.mapError_ok] at nested same
      rw [nested] at same
      cases same
      cases done
      cases doneAgain
      exact .some (.chip ..)

end VoxelCircuit

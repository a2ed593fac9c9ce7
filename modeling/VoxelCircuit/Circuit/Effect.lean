import VoxelCircuit.Block.Id
import VoxelCircuit.Circuit.State

/-! # Effects

A compiled circuit is a list of effects, run once each in order. An effect merges
the signals on a net, or lets a block respond to the signals on its inputs, or
evaluates the circuits inside a chip. What an effect adds to the state is a
function of the state alone: signals to write and edits to request.

A block looks up its inputs by the faces it would have unturned, and writes its
outputs under the faces where they are.
-/

namespace VoxelCircuit

/-- The nets at the faces of a block, by the faces it would have unturned. -/
abbrev Inputs := PerFace (Option NetId)

namespace Inputs

variable {γ : Type}

/-- The signal at a face; no signal without a net. -/
def signal (inputs : Inputs) (state : EvalState γ) (direction : Direction) : Signal :=
  state.netSignal (inputs.get direction)

/-- The merge of the signals at some faces, with no signal for each that has no
net. -/
def any (inputs : Inputs) (state : EvalState γ) (directions : List Direction) : Signal :=
  Signal.merge (directions.map (inputs.signal state))

end Inputs

/-- What the circuits of a grid publish for the block that the grid is inside of. -/
structure Publication where
  /-- The signal on each face of the unturned block. -/
  outputs : PerFace (Option Signal)
  /-- The type that the block is to have. -/
  replacement : Option Signal
  /-- The rotation that the block is to have. -/
  rotation : Option Signal
deriving DecidableEq

/-- What is published by circuits that left these values, one table each. Signals
on one face merge in the order of the circuits; the last request counts. -/
def Publication.ofValues (tables : List Values) : Publication where
  outputs := .tabulate fun direction =>
    Signal.mergePresent (tables.filterMap fun values => values.get? (.published direction))
  replacement := (tables.filterMap fun values => values.get? .replacement).getLast?
  rotation := (tables.filterMap fun values => values.get? .rotation).getLast?

/-- One step of a compiled circuit. -/
inductive Effect (γ : Type) where
  /-- Merge the signals that were driven on a net. -/
  | merge (net : NetId) (drivers : List Face)
  /-- Let a block respond to its inputs. A chip without circuits does nothing. -/
  | respond (pos : Pos) (behavior : Behavior) (orientation : Orientation) (inputs : Inputs)
  /-- Evaluate the circuits of the grid inside a chip. -/
  | chip (pos : Pos) (orientation : Orientation) (interior : γ) (circuits : List (List (Effect γ)))

/-- The effects of a circuit in the order in which they run. -/
abbrev Pipeline (γ : Type) := List (Effect γ)

/-- What an effect is there for. -/
inductive Target where
  /-- A block. -/
  | block (pos : Pos)
  /-- A net. -/
  | net (id : NetId)
deriving DecidableEq

namespace Target

/-- The text of a target. -/
def text : Target → String
  | block pos => pos.text
  | net id => id.text

/-- The block that a target is, if it is one. -/
def block? : Target → Option Pos
  | block pos => some pos
  | net _ => none

/-- The net that a target is, if it is one. -/
def net? : Target → Option NetId
  | block _ => none
  | net id => some id

/-- Nets come before blocks, each in their own order. -/
instance : Ord Target := ⟨compareLex (compareOn block?) (compareOn net?)⟩

instance : Std.TransOrd Target :=
  inferInstanceAs (Std.TransCmp (compareLex (compareOn block?) (compareOn net?)))

instance : Std.LawfulEqOrd Target where
  eq_of_compare {first second} same := by
    obtain ⟨block, net⟩ := compareLex_eq_eq.mp same
    simp only [compareOn, Std.compare_eq_iff_eq] at block net
    cases first <;> cases second <;> simp_all [block?, net?]

end Target

namespace Behavior

/-- The writes that drive a signal on every driving face of a block. -/
def drive (behavior : Behavior) (pos : Pos) (orientation : Orientation) (signal : Signal) :
    Response :=
  .ofWrites (behavior.drivingFaces.map fun direction =>
    (.output ⟨pos, orientation.transform direction⟩, signal))

variable {γ : Type} [Grid γ]

/-- The datum that a datum sensor reads: that of the block around the grid, or else
its own. -/
def sensedDatum (pos : Pos) (state : EvalState γ) : Int :=
  match state.embedding with
  | some embedding => Grid.datum embedding.outer embedding.pos
  | none => Grid.datum state.grid pos

/-- The id that a neighbor sensor reads: that of the block its -X face looks to, or
that of the block which this face of the block around the grid looks to. -/
def sensedId (pos : Pos) (orientation : Orientation) (state : EvalState γ) : BlockId :=
  let sensed := orientation.transform .negX
  match state.embedding with
  | some embedding =>
    let turned := (Grid.orientation embedding.outer embedding.pos).transform sensed
    Grid.blockId embedding.outer (embedding.pos.step turned)
  | none => Grid.blockId state.grid (pos.step sensed)

/-- The request to give a block another type and keep its datum, unless it has that
type already. -/
def replaceEdits (grid : γ) (pos : Pos) (id : BlockId) : List Edit :=
  if Grid.blockId grid pos = id then [] else [.replaceBlock pos id (Grid.datum grid pos)]

/-- The request to turn a block, unless it is turned that way already. -/
def rotateEdits (grid : γ) (pos : Pos) (orientation : Orientation) : List Edit :=
  if Grid.orientation grid pos = orientation then [] else [.setOrientation pos orientation]

/-- The request that an indicator's datum be 1 or 0, unless it is so already. -/
def indicate (pos : Pos) (lit : Bool) (state : EvalState γ) : Response :=
  let level : Int := if lit then 1 else 0
  if state.allowEdits ∧ Grid.datum state.grid pos ≠ level then .ofEdits [.setDatum pos level]
  else .nothing

/-- How a block is turned by a signal: the block around the grid, when there is
one, or else itself. Without permission for edits nothing is turned. -/
def rotate (pos : Pos) (signal : Signal) (state : EvalState γ) : Response :=
  match signal.asNumber with
  | none => .nothing
  | some number =>
    let orientation := Orientation.ofNumber number
    if !state.allowEdits then .nothing
    else if state.embedding.isSome then .ofWrites [(.rotation, orientation.signal)]
    else .ofEdits (rotateEdits state.grid pos orientation)

/-- How a block is replaced by a signal: the block around the grid, when there is
one, or else itself if edits are permitted. -/
def change (pos : Pos) (signal : Signal) (state : EvalState γ) : Response :=
  match signal.asNumber with
  | none => .nothing
  | some number =>
    let id := BlockId.ofNumber number
    if state.embedding.isSome then .ofWrites [(.replacement, id.signal)]
    else if state.allowEdits then .ofEdits (replaceEdits state.grid pos id)
    else .nothing

/-- The inputs of a block published on the faces where they are, each merged into
what was published there before. -/
def publish (orientation : Orientation) (inputs : Inputs) (state : EvalState γ) : Response :=
  .ofWrites (Direction.all.filterMap fun direction =>
    let face := orientation.untransform direction
    if (inputs.get face).isSome then
      let key := Key.published direction
      let signal := inputs.signal state face
      some (key, ((state.values.get? key).map fun before => before.or signal).getD signal)
    else none)

/-- How a block of each behavior responds to its inputs. -/
def response (behavior : Behavior) (pos : Pos) (orientation : Orientation) (inputs : Inputs)
    (state : EvalState γ) : Response :=
  match behavior with
  | wire | junction | chip => .nothing
  | pad => pad.drive pos orientation (.number (.ofInt (Grid.datum state.grid pos)))
  | indicator => indicate pos (inputs.any state Direction.all).truthy state
  | nor => nor.drive pos orientation (.bool !(inputs.any state [.negX, .posX]).truthy)
  | gate =>
    gate.drive pos orientation <|
      if (inputs.any state [.posY, .posZ, .negY, .negZ]).truthy then inputs.signal state .negX
      else .null
  | datumSensor => datumSensor.drive pos orientation (.number (.ofInt (sensedDatum pos state)))
  | neighborSensor =>
    neighborSensor.drive pos orientation (sensedId pos orientation state).signal
  | spontaneous => spontaneous.drive pos orientation (state.event.getD (.bool false))
  | rotator => rotate pos (inputs.any state Direction.all) state
  | changer => change pos (inputs.any state Direction.all) state
  | chipOutput => publish orientation inputs state

/-- How a chip responds to what the circuits inside it publish: it drives the
outputs on its turned faces and, where edits are permitted, has itself replaced and
turned as requested. -/
def chipResponse (pos : Pos) (orientation : Orientation) (publication : Publication)
    (state : EvalState γ) : Response where
  writes := Direction.all.filterMap fun direction =>
    (publication.outputs.get direction).map fun signal =>
      (.output ⟨pos, orientation.transform direction⟩, signal)
  edits :=
    if state.allowEdits then
      (((publication.replacement.bind Signal.asNumber).map fun number =>
          replaceEdits state.grid pos (.ofNumber number)).getD []) ++
        (((publication.rotation.bind Signal.asNumber).map fun number =>
          rotateEdits state.grid pos (.ofNumber number)).getD [])
    else []

end Behavior

namespace Effect

variable {γ : Type}

/-- What an effect is there for. -/
def target : Effect γ → Target
  | merge net _ => .net net
  | respond pos _ _ _ | chip pos _ _ _ => .block pos

variable [Grid γ]

mutual

/-- What an effect adds to a state. -/
def response : Effect γ → EvalState γ → Response
  | merge net drivers, state =>
    .ofWrites [(.net net,
      Signal.merge (drivers.filterMap fun face => state.values.get? (.output face)))]
  | respond pos behavior orientation inputs, state =>
    behavior.response pos orientation inputs state
  | chip pos orientation interior circuits, state =>
    let fresh := state.inside interior ⟨state.grid, pos, state.event⟩
    Behavior.chipResponse pos orientation (.ofValues (runEach circuits fresh)) state

/-- The state after the effects of a pipeline in order. -/
def runAll : List (Effect γ) → EvalState γ → EvalState γ
  | [], state => state
  | effect :: rest, state => runAll rest (state.add (effect.response state))

/-- The values that pipelines leave, each run on the same state. -/
def runEach : List (List (Effect γ)) → EvalState γ → List Values
  | [], _ => []
  | pipeline :: rest, state => (runAll pipeline state).values :: runEach rest state

end

end Effect

/-- The state after the effects of a pipeline in order. -/
def Pipeline.run {γ : Type} [Grid γ] (pipeline : Pipeline γ) (state : EvalState γ) :
    EvalState γ :=
  Effect.runAll pipeline state

end VoxelCircuit

import VoxelCircuit.Engine.Basic

/-! # Events for blocks with a grid inside

An event for a block is evaluated by the circuits of the grid inside it. They see
the event and the block, and answer with signals on its faces and with the type
that it is to become. Dispatching an event to a block carries this answer out.
-/

namespace VoxelCircuit

/-- The answer of the circuits inside a block. -/
structure EmbeddedOutcome where
  /-- The signal on each face of the unturned block. -/
  outputs : PerFace (Option Signal)
  /-- The type that the block is to become. -/
  replacement : Option BlockId
deriving DecidableEq

namespace EmbeddedOutcome

/-- The answer when nothing is evaluated. -/
def nothing : EmbeddedOutcome := ⟨.tabulate fun _ => none, none⟩

/-- The answer of circuits that left these values, one table each. Signals on one face
merge in the order of the circuits; the last request for a type that is a number counts. -/
def ofValues (tables : List Values) : EmbeddedOutcome where
  outputs := .tabulate fun direction =>
    Signal.mergePresent (tables.filterMap fun values => values.get? (.published direction))
  replacement := ((tables.filterMap fun values =>
    (values.get? .replacement).bind Signal.asNumber).getLast?).map .ofNumber

end EmbeddedOutcome

namespace Engine

/-- The answer of the circuits of a grid inside the block at a position of another
grid. When no nesting is allowed, the block is passed over. -/
def evaluateEmbedded {σ γ : Type} [Grid γ] (engine : Engine σ) (interior outer : γ) (pos : Pos)
    (event : Option Signal) : Compilation EmbeddedOutcome :=
  if engine.options.maxEmbedDepth = 0 then
    (Compilation.report (.depthExceeded pos 0)).andThen fun _ => .done .nothing
  else
    (Circuit.compileAll engine.options 1 interior).andThen fun circuits =>
      let fresh := EvalState.embedded interior ⟨outer, pos, event⟩
      .done (.ofValues (circuits.map fun circuit => (circuit.evaluate fresh).values))

/-- What dispatching an event leaves behind. -/
structure Dispatch (σ γ : Type) where
  /-- The engine after sending what there was to send. -/
  engine : Engine σ
  /-- The grid after the replacement, if there was one. -/
  grid : γ
  /-- The reports of the compilation. -/
  reports : List Report
  /-- The type that the block became, if it became another, or what went wrong. -/
  outcome : Except EngineError (Option BlockId)
  /-- The event that was sent, if there was one, and whether the sink took it. -/
  sent : Option (Event × Bool)

variable {σ γ : Type} [Sink σ] [EditableGrid γ]

/-- Have a block become one of another type, keeping its datum, and send that event. -/
def become (engine : Engine σ) (grid : γ) (pos : Pos) (id : BlockId) (reports : List Report) :
    Dispatch σ γ :=
  let before := Grid.blockId grid pos
  if before = id then ⟨engine, grid, reports, .ok none, none⟩
  else
    match EditableGrid.apply grid (.replaceBlock pos id (Grid.datum grid pos)) with
    | .error error => ⟨engine, grid, reports, .error (.grid error), none⟩
    | .ok after =>
      let event := Event.became pos before id
      let told := Sink.notify engine.events event
      ⟨{ engine with events := told.1 }, after, reports, .ok (some id), some (event, told.2)⟩

/-- Dispatch an event to the block at a position: if it has a grid inside, the
circuits there may have it become a block of another type. -/
def dispatch (engine : Engine σ) (grid : γ) (pos : Pos) (event : Signal) : Dispatch σ γ :=
  match Grid.interior grid pos with
  | none => ⟨engine, grid, [], .ok none, none⟩
  | some interior =>
    let answer := engine.evaluateEmbedded interior grid pos (some event)
    match answer.outcome with
    | .error error => ⟨engine, grid, answer.reports, .error (.compile error), none⟩
    | .ok outcome =>
      match outcome.replacement with
      | none => ⟨engine, grid, answer.reports, .ok none, none⟩
      | some id => engine.become grid pos id answer.reports

end Engine

end VoxelCircuit

import VoxelCircuit.Proofs.Grid.Shift
import VoxelCircuit.Proofs.Net.Consistency
import VoxelCircuit.Proofs.Net.Pairing

/-! # Nets of shifted grids

Every run in a shifted grid is a run shifted, and every step of a trace is a step shifted. So
the net graph of the blocks shifted is their net graph shifted, with the same serial numbers
(`VoxelCircuit.Grid.Shifted.trace`). Whether a run breaks off at the bounds or at a cell of
air just outside them makes no difference.
-/

namespace VoxelCircuit

/-- The steps that a shift takes some steps to. -/
abbrev shiftEdges (offset : Pos) (edges : List (Pos × Pos)) : List (Pos × Pos) :=
  edges.map (Prod.map offset.shift offset.shift)

/-- A run shifted. -/
def Run.shift (offset : Pos) (run : Run) : Run :=
  ⟨run.wires.map offset.shift, run.arrival.map offset.shift⟩

private theorem Run.edges_shift (offset : Pos) (run : Run) (start : Pos) :
    (run.shift offset).edges (offset.shift start) = shiftEdges offset (run.edges start) := by
  have entered : (run.shift offset).entered = run.entered.map offset.shift := by
    rw [Run.entered, Run.entered, List.map_append, Run.shift]
    cases run.arrival <;> rfl
  rw [Run.edges, Run.edges, entered, ← List.map_cons, shiftEdges, List.zip_map]

/-- A member of a net shifted. It keeps its role. -/
def NetMember.shift (offset : Pos) (member : NetMember) : NetMember :=
  ⟨member.face.shift offset, member.role⟩

/-- The net shifted: its faces and its steps, with the same serial number. -/
def Net.shift (offset : Pos) (net : Net) : Net :=
  ⟨net.id, net.members.map (NetMember.shift offset), shiftEdges offset net.edges⟩

/-- The net graph shifted. -/
def NetGraph.shift (offset : Pos) (graph : NetGraph) : NetGraph :=
  ⟨graph.byId.map id (Net.shift offset), graph.attachments.map (Face.shift offset) id⟩

private theorem Net.useful_shift (offset : Pos) (net : Net) :
    (net.shift offset).useful = net.useful := by
  simp only [useful, hasInput, hasOutput, hasBoth, shift, List.any_map]
  rfl

private theorem NetGraph.ofNets_shift (offset : Pos) (nets : List Net)
    (attachments : List (Face × NetId)) :
    ofNets (nets.map (Net.shift offset)) (attachments.map (Prod.map (Face.shift offset) id)) =
      (ofNets nets attachments).shift offset := by
  have byId : Table.ofList ((nets.map (Net.shift offset)).map fun net => (net.id, net)) =
      (Table.ofList (nets.map fun net => (net.id, net))).map id (Net.shift offset) := by
    rw [Table.map_ofList Function.injective_id, List.map_map, List.map_map]
    rfl
  have kept : ∀ net : NetId,
      ((Table.ofList (nets.map fun net => (net.id, net))).map id (Net.shift offset)).contains net =
        (Table.ofList (nets.map fun net => (net.id, net))).contains net :=
    Table.contains_map Function.injective_id (Net.shift offset) _
  simp only [ofNets, NetGraph.shift, byId, List.filter_map, Function.comp_def, Prod.map_snd, id,
    kept, Table.map_ofList (Face.shift_injective offset)]

/-- A log shifted: its claims and its steps, for the same nets. -/
def TraceLog.shift (offset : Pos) (log : TraceLog) : TraceLog :=
  ⟨log.opened, log.claims.map (Face.shift offset) id,
    log.edges.map (Prod.map id (Prod.map offset.shift offset.shift))⟩

/-- A task shifted. -/
def TraceTask.shift (offset : Pos) : TraceTask → TraceTask
  | .follow net face => .follow net (face.shift offset)
  | .branch net pos pending => .branch net (offset.shift pos) pending

/-- A state of a trace shifted. -/
def TraceState.shift (offset : Pos) (state : TraceState) : TraceState :=
  ⟨state.roots.map (Face.shift offset), state.tasks.map (TraceTask.shift offset),
    state.log.shift offset⟩

namespace TraceLog

variable (offset : Pos) (log : TraceLog)

/-- A shifted face is on the net that the face is on. -/
@[simp] theorem claimed?_shift (face : Face) :
    (log.shift offset).claimed? (face.shift offset) = log.claimed? face := by
  rw [claimed?, shift, Table.get?_map (Face.shift_injective offset), Option.map_id, id, claimed?]

/-- A claim in a shifted log is the claim shifted. -/
@[simp] theorem claim_shift (net : NetId) (face : Face) :
    (log.shift offset).claim net (face.shift offset) = (log.claim net face).shift offset := by
  rw [claim, claim, shift, shift, Table.map_insert (Face.shift_injective offset)]
  rfl

/-- To open a net in a shifted log is to open it and shift. -/
@[simp] theorem openAt_shift (face : Face) :
    (log.shift offset).openAt (face.shift offset) = (log.openAt face).shift offset := by
  have next : (log.shift offset).next = log.next := rfl
  rw [openAt, openAt, next, claim_shift]
  rfl

private theorem walked_shift (net : NetId) (steps : List (Pos × Pos)) :
    (log.shift offset).walked net (shiftEdges offset steps) =
      (log.walked net steps).shift offset := by
  simp only [walked, shift, shiftEdges, List.map_append, List.map_reverse, List.map_map]
  rfl

end TraceLog

namespace Grid

variable {γ : Type} [Grid γ] {grid : γ}

section Runs

/-- A run with more steps than the bounds allow goes no further. -/
theorem runWithin_of_enough {direction : Direction} {steps : Nat} {pos : Pos}
    (enough : (bounds grid).reach pos direction ≤ steps) :
    runWithin grid direction steps pos =
      runWithin grid direction ((bounds grid).reach pos direction) pos := by
  induction steps generalizing pos with
  | zero => rw [Nat.le_zero.mp enough]
  | succ steps ih =>
      by_cases inside : pos.step direction ∈ bounds grid
      · have reach := Box.reach_step inside
        rw [reach] at enough ⊢
        simp only [runWithin, ih (Nat.le_of_succ_le_succ enough)]
      · have breaks : ∀ steps, runWithin grid direction steps pos = .broken := by
          intro steps
          cases steps with
          | zero => rfl
          | succ steps => simp only [runWithin, inside, if_false]
        rw [breaks, breaks]

/-- In an enclosed grid, a run that leaves the bounds breaks off for want of a block. -/
theorem runWithin_succ (enclosed : Enclosed grid) (direction : Direction) (steps : Nat)
    (pos : Pos) :
    runWithin grid direction (steps + 1) pos =
      match behavior grid (pos.step direction) with
      | none => .broken
      | some behavior =>
        if behavior.isWire then
          let rest := runWithin grid direction steps (pos.step direction)
          ⟨pos.step direction :: rest.wires, rest.arrival⟩
        else ⟨[], some (pos.step direction)⟩ := by
  rw [runWithin]
  by_cases inside : pos.step direction ∈ bounds grid
  · exact if_pos inside
  · rw [enclosed _ inside]
    exact if_neg inside

end Runs

namespace Shifted

variable {offset : Pos} {first second : γ}

section Runs

private theorem runWithin (shifted : Shifted offset first second) (enclosed : Enclosed first)
    (alsoEnclosed : Enclosed second) (direction : Direction) (steps : Nat) (pos : Pos) :
    Grid.runWithin second direction steps (offset.shift pos) =
      (Grid.runWithin first direction steps pos).shift offset := by
  induction steps generalizing pos with
  | zero => rfl
  | succ steps ih =>
      rw [runWithin_succ alsoEnclosed, runWithin_succ enclosed, Pos.step_shift, shifted.behavior]
      cases Grid.behavior first (pos.step direction) with
      | none => rfl
      | some behavior =>
          by_cases isWire : behavior.isWire = true
          · simp only [isWire, if_true, ih]
            rfl
          · simp only [isWire, Bool.false_eq_true, if_false]
            rfl

private theorem run (shifted : Shifted offset first second) (enclosed : Enclosed first)
    (alsoEnclosed : Enclosed second) (face : Face) :
    Grid.run second (face.shift offset) = (Grid.run first face).shift offset := by
  rw [Grid.run, Grid.run, ← runWithin_of_enough (Nat.le_max_right
    ((bounds first).reach face.pos face.direction) _), ← runWithin_of_enough (Nat.le_max_left _
    ((bounds second).reach (face.shift offset).pos (face.shift offset).direction))]
  exact shifted.runWithin enclosed alsoEnclosed face.direction _ face.pos

private theorem facing? (shifted : Shifted offset first second) (enclosed : Enclosed first)
    (alsoEnclosed : Enclosed second) (face : Face) :
    Grid.facing? second (face.shift offset) =
      (Grid.facing? first face).map (Face.shift offset) := by
  rw [Grid.facing?, Grid.facing?, shifted.run enclosed alsoEnclosed, Run.shift, Option.map_map,
    Option.map_map]
  rfl

private theorem roleAt (shifted : Shifted offset first second) (face : Face) :
    Grid.roleAt second (face.shift offset) = Grid.roleAt first face := by
  rw [Grid.roleAt, Grid.roleAt, Face.shift, shifted.behavior, shifted.orientation]

end Runs

section Trace

variable {recordEdges : Bool}

private theorem noted (shifted : Shifted offset first second) (enclosed : Enclosed first)
    (alsoEnclosed : Enclosed second) (recordEdges : Bool) (net : NetId) (face : Face)
    (log : TraceLog) :
    Grid.noted second recordEdges net (face.shift offset) (log.shift offset) =
      (Grid.noted first recordEdges net face log).shift offset := by
  have edges := Run.edges_shift offset (Grid.run first face) face.pos
  rw [← shifted.run enclosed alsoEnclosed] at edges
  rw [Grid.noted, Grid.noted]
  split
  · rw [← TraceLog.walked_shift, ← edges, Face.shift]
  · rfl

/-- What a task leads to in a grid, it leads to shifted in the shifted grid. -/
theorem traceMove (shifted : Shifted offset first second) (enclosed : Enclosed first)
    (alsoEnclosed : Enclosed second) {log after : TraceLog} {task : TraceTask}
    {tasks : List TraceTask} (move : TraceMove first recordEdges log task tasks after) :
    TraceMove second recordEdges (log.shift offset) (task.shift offset)
      (tasks.map (TraceTask.shift offset)) (after.shift offset) := by
  have faces := shifted.facing? enclosed alsoEnclosed
  have notes := fun net face => shifted.noted enclosed alsoEnclosed recordEdges net face log
  have claims : ∀ pos direction, (log.shift offset).claimed? ⟨offset.shift pos, direction⟩ =
      log.claimed? ⟨pos, direction⟩ :=
    fun pos direction => log.claimed?_shift offset ⟨pos, direction⟩
  cases move with
  | breaksOff looks =>
      rw [← notes]
      exact .breaksOff (by rw [faces, looks]; rfl)
  | returns looks claimed =>
      rw [← notes]
      exact .returns (by rw [faces, looks]; rfl) ((log.claimed?_shift offset _).trans claimed)
  | arrives looks unclaimed =>
      rw [← TraceLog.claim_shift, ← notes]
      exact .arrives (by rw [faces, looks]; rfl) ((log.claimed?_shift offset _).trans unclaimed)
  | settles claimed =>
      exact .settles fun direction member => by
        rw [claims]
        exact claimed direction member
  | prolongs split claimed unclaimed junction =>
      rw [← TraceLog.claim_shift]
      refine .prolongs split (fun other member => ?_) ((claims _ _).trans unclaimed)
        ((shifted.behavior _).trans junction)
      rw [claims]
      exact claimed other member
  | opens split claimed unclaimed junction =>
      rw [← TraceLog.openAt_shift]
      refine .opens split (fun other member => ?_) ((claims _ _).trans unclaimed)
        (shifted.behavior _ ▸ junction)
      rw [claims]
      exact claimed other member

private theorem advances (shifted : Shifted offset first second) (enclosed : Enclosed first)
    (alsoEnclosed : Enclosed second) {before after : TraceState}
    (step : Advances first recordEdges before after) :
    Advances second recordEdges (before.shift offset) (after.shift offset) := by
  cases step with
  | work move =>
      have moved := shifted.traceMove enclosed alsoEnclosed move
      rw [TraceState.shift, TraceState.shift, List.map_append]
      exact .work moved
  | @pass face roots log claimed =>
      exact .pass (by rwa [TraceLog.claimed?_shift])
  | @start face roots log unclaimed =>
      have opened := log.openAt_shift offset face
      rw [TraceState.shift, TraceState.shift, ← opened]
      exact .start (by rwa [TraceLog.claimed?_shift])

private theorem rootFaces (shifted : Shifted offset first second) (members : List Pos) :
    Grid.rootFaces second (members.map offset.shift) =
      (Grid.rootFaces first members).map (Face.shift offset) := by
  simp only [Grid.rootFaces, List.filter_map, List.flatMap_map, List.map_flatMap, List.map_map,
    Function.comp_def, shifted.behavior]
  rfl

/-- The trace of shifted blocks is the trace shifted, to its end. -/
theorem traceLog (shifted : Shifted offset first second) (enclosed : Enclosed first)
    (alsoEnclosed : Enclosed second) (members : List Pos) (recordEdges : Bool) :
    ∃ log, Grid.traceLog first members recordEdges = .ok log ∧
      Grid.traceLog second (members.map offset.shift) recordEdges = .ok (log.shift offset) := by
  obtain ⟨log, logged⟩ := traceLog_succeeds enclosed members recordEdges
  obtain ⟨other, alsoLogged⟩ :=
    traceLog_succeeds alsoEnclosed (members.map offset.shift) recordEdges
  have reached : TraceReaches second recordEdges (members.map offset.shift)
      (TraceState.shift offset ⟨[], [], log⟩) := by
    rw [TraceReaches, shifted.rootFaces]
    exact (traceLog_ok logged).lift (TraceState.shift offset) fun _ _ step =>
      shifted.advances enclosed alsoEnclosed step
  rcases (reached.before_last (traceLog_ok alsoLogged)).cases_head with same | ⟨_, step, _⟩
  · have ended : log.shift offset = other := congrArg TraceState.log same
    exact ⟨log, logged, ended ▸ alsoLogged⟩
  · cases step

private theorem netOf (shifted : Shifted offset first second) (log : TraceLog) (net : NetId) :
    Grid.netOf second (log.shift offset) net = (Grid.netOf first log net).shift offset := by
  simp only [Grid.netOf, Net.shift, TraceLog.shift, shiftEdges,
    Table.entries_map (Face.shift_injective offset), List.filter_map, ← List.map_reverse,
    List.map_map, Function.comp_def, Prod.map_fst, Prod.map_snd, shifted.roleAt, id]
  rfl

private theorem netsOf (shifted : Shifted offset first second) (log : TraceLog) :
    Grid.netsOf second (log.shift offset) = (Grid.netsOf first log).map (Net.shift offset) := by
  rw [netsOf_eq, netsOf_eq, List.map_map]
  exact List.map_congr_left fun count _ => shifted.netOf log (.ofCount count)

/-- The net graph of a log shifted is the net graph shifted. -/
theorem netGraph (shifted : Shifted offset first second) (log : TraceLog) :
    Grid.netGraph second (log.shift offset) = (Grid.netGraph first log).shift offset := by
  rw [Grid.netGraph, Grid.netGraph, shifted.netsOf, List.filter_map, TraceLog.shift,
    Table.entries_map (Face.shift_injective offset), ← NetGraph.ofNets_shift]
  simp only [Function.comp_def, Net.useful_shift]

/-- The net graph of shifted blocks is their net graph shifted, and there always is one. -/
theorem trace (shifted : Shifted offset first second) (enclosed : Enclosed first)
    (alsoEnclosed : Enclosed second) (members : List Pos) (recordEdges : Bool) :
    ∃ graph, Grid.trace first members recordEdges = .ok graph ∧
      Grid.trace second (members.map offset.shift) recordEdges = .ok (graph.shift offset) := by
  obtain ⟨log, logged, alsoLogged⟩ :=
    shifted.traceLog enclosed alsoEnclosed members recordEdges
  refine ⟨Grid.netGraph first log, ?_, ?_⟩
  · rw [Grid.trace, logged]
    rfl
  · rw [Grid.trace, alsoLogged, ← shifted.netGraph]
    rfl

end Trace

end Shifted

end Grid

end VoxelCircuit

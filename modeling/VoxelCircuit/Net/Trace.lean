import VoxelCircuit.Net.Basic
import VoxelCircuit.Net.Run
import VoxelCircuit.Table.Group

/-! # Tracing nets

Tracing claims faces for nets, depth first. Every face of a block that is neither
wire nor junction opens a net, unless it is claimed already; the run from the face
claims the face it comes to for the same net. From a junction the net goes on
through all other faces, and from any other block each other face opens a net of
its own.

Pending work is a stack of tasks, and one step replaces the topmost task by the
tasks it leads to. All that is decided along the way is a log: how many nets were
opened, which face was claimed for which net, and which steps were walked. The
net graph is read off the log at the end.
-/

namespace VoxelCircuit

/-- Two nets that meet in one face. -/
structure NetConflict where
  /-- The face that a run for one net came to. -/
  face : Face
  /-- The net that had claimed the face before. -/
  existing : NetId
  /-- The net that the run was for. -/
  incoming : NetId
deriving DecidableEq

/-- What a trace has decided so far. -/
structure TraceLog where
  /-- The number of nets opened. -/
  opened : Nat
  /-- The faces claimed, each with its net. -/
  claims : Table Face NetId
  /-- The steps walked, each with its net, the latest first. -/
  edges : List (NetId × Pos × Pos)
deriving DecidableEq

namespace TraceLog

/-- The log of a trace that has not begun. -/
def empty : TraceLog := ⟨0, .empty, []⟩

/-- The net that a face was claimed for. -/
def claimed? (log : TraceLog) (face : Face) : Option NetId :=
  log.claims.get? face

/-- The serial number of the next net to be opened. -/
def next (log : TraceLog) : NetId :=
  .ofCount log.opened

/-- Claim a face for a net. -/
def claim (log : TraceLog) (net : NetId) (face : Face) : TraceLog :=
  { log with claims := log.claims.insert face net }

/-- Open a net and claim a face for it. -/
def openAt (log : TraceLog) (face : Face) : TraceLog :=
  { log.claim log.next face with opened := log.opened + 1 }

/-- Note the steps of a run for a net. -/
def walked (log : TraceLog) (net : NetId) (steps : List (Pos × Pos)) : TraceLog :=
  { log with edges := (steps.map fun step => (net, step)).reverse ++ log.edges }

end TraceLog

/-- A piece of pending work of a trace. -/
inductive TraceTask where
  /-- Follow the run from a face claimed for a net. -/
  | follow (net : NetId) (face : Face)
  /-- Go on from a block that a net came to, through the faces still to be looked
  at. -/
  | branch (net : NetId) (pos : Pos) (pending : List Direction)
deriving DecidableEq

namespace Grid

variable {γ : Type} [Grid γ]

/-- Follow the run from a face: claim the face it comes to, unless the same net
has done so already. -/
def follow (grid : γ) (recordEdges : Bool) (net : NetId) (face : Face) (log : TraceLog) :
    Except NetConflict (List TraceTask × TraceLog) :=
  let run := run grid face
  let log := if recordEdges then log.walked net (run.edges face.pos) else log
  match run.arrival with
  | none => .ok ([], log)
  | some pos =>
    let target : Face := ⟨pos, face.direction.opposite⟩
    match log.claimed? target with
    | some existing =>
      if existing = net then .ok ([], log) else .error ⟨target, existing, net⟩
    | none => .ok ([.branch net pos Direction.all], log.claim net target)

/-- Go on from a block through the first face that is still unclaimed: on the same
net at a junction, and on a net of its own elsewhere. -/
def branch (grid : γ) (net : NetId) (pos : Pos) (pending : List Direction) (log : TraceLog) :
    List TraceTask × TraceLog :=
  match pending.dropWhile fun direction => (log.claimed? ⟨pos, direction⟩).isSome with
  | [] => ([], log)
  | direction :: rest =>
    if behavior grid pos = some .junction then
      ([.follow net ⟨pos, direction⟩, .branch net pos rest], log.claim net ⟨pos, direction⟩)
    else
      ([.follow log.next ⟨pos, direction⟩, .branch net pos rest], log.openAt ⟨pos, direction⟩)

/-- One step of a trace: the tasks that a task leads to, and the log after it. -/
def traceStep (grid : γ) (recordEdges : Bool) (log : TraceLog) :
    TraceTask → Except NetConflict (List TraceTask × TraceLog)
  | .follow net face => follow grid recordEdges net face log
  | .branch net pos pending => .ok (branch grid net pos pending log)

/-- Work off a stack of tasks, in at most some number of steps. -/
def traceTasks (grid : γ) (recordEdges : Bool) :
    (steps : Nat) → List TraceTask → TraceLog → Except NetConflict TraceLog
  | _, [], log => .ok log
  | 0, _ :: _, log => .ok log
  | steps + 1, task :: rest, log =>
    match traceStep grid recordEdges log task with
    | .error conflict => .error conflict
    | .ok (tasks, log) => traceTasks grid recordEdges steps (tasks ++ rest) log

/-- A number of steps that suffices to work off what one face leads to. Each step
but the first is paid for by a claim of its own or by one that it shares with one
other step, and only faces of members and of blocks within the bounds are claimed. -/
def traceBudget (grid : γ) (members : List Pos) : Nat :=
  12 * (members.length + (bounds grid).cardinality) + 2

/-- The faces from which tracing starts: all faces of all members that are neither
wire nor junction. -/
def rootFaces (grid : γ) (members : List Pos) : List Face :=
  (members.filter fun pos =>
    (behavior grid pos).any fun behavior => !behavior.isWire && !behavior.isJunction).flatMap
      fun pos => Direction.all.map (Face.mk pos)

/-- Trace from each of a list of faces that is not claimed when its turn comes. -/
def traceRoots (grid : γ) (recordEdges : Bool) (steps : Nat) :
    List Face → TraceLog → Except NetConflict TraceLog
  | [], log => .ok log
  | face :: rest, log =>
    if (log.claimed? face).isSome then traceRoots grid recordEdges steps rest log
    else
      match traceTasks grid recordEdges steps [.follow log.next face] (log.openAt face) with
      | .error conflict => .error conflict
      | .ok log => traceRoots grid recordEdges steps rest log

/-- The nets opened, as a log tells them, in the order of opening. -/
def netsOf (grid : γ) (log : TraceLog) : List Net :=
  let members := Groups.ofList (log.claims.entries.map fun claim =>
    (claim.2, (⟨claim.1, roleAt grid claim.1⟩ : NetMember)))
  let edges := Groups.ofList log.edges.reverse
  (List.range (min log.opened UInt32.size)).map fun count =>
    let id := NetId.ofCount count
    ⟨id, members.get id, edges.get id⟩

/-- The nets of a log that can carry a signal, and the faces attached to them. -/
def netGraph (grid : γ) (log : TraceLog) : NetGraph :=
  .ofNets ((netsOf grid log).filter Net.useful) log.claims.entries

/-- The log of tracing the nets between blocks, in the order of the blocks. -/
def traceLog (grid : γ) (members : List Pos) (recordEdges : Bool) :
    Except NetConflict TraceLog :=
  traceRoots grid recordEdges (traceBudget grid members) (rootFaces grid members) .empty

/-- The nets between blocks; a conflict when a run for one net comes to a face
claimed for another. -/
def trace (grid : γ) (members : List Pos) (recordEdges : Bool) : Except NetConflict NetGraph :=
  (traceLog grid members recordEdges).map (netGraph grid)

end Grid

end VoxelCircuit

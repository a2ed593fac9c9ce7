import VoxelCircuit.Circuit.Basic

/-! # What circuits are made of

Of a grid, clusters, nets and the order of demand depend on the bounds, on the behaviors,
and on how the blocks with a behavior are turned. So they are the same in two grids that
differ in nothing else but data, ids and what else blocks without a behavior are
(`VoxelCircuit.Grid.SameCircuitry.clusters_eq`, `VoxelCircuit.Grid.SameCircuitry.trace_eq`,
`VoxelCircuit.Grid.SameCircuitry.demandOrder_eq`).
-/

namespace VoxelCircuit.Grid

variable {γ : Type} [Grid γ]

/-- Two grids have the same bounds and the same behaviors, turned alike, with the same grids
in their chips. -/
structure SameCircuitry (first second : γ) : Prop where
  bounds : Grid.bounds first = Grid.bounds second
  support : Grid.support first = Grid.support second
  behavior : ∀ pos, Grid.behavior first pos = Grid.behavior second pos
  orientation : ∀ pos, (Grid.behavior first pos).isSome →
    Grid.orientation first pos = Grid.orientation second pos
  interior : ∀ pos, Grid.behavior first pos = some .chip →
    Grid.interior first pos = Grid.interior second pos

namespace SameCircuitry

variable {first second : γ}

section Clusters

private theorem active_eq (same : SameCircuitry first second) : active first = active second := by
  funext pos
  rw [active, active, same.behavior]

private theorem activeBeyondWire_eq (same : SameCircuitry first second) :
    activeBeyondWire first = activeBeyondWire second := by
  funext pos
  rw [activeBeyondWire, activeBeyondWire, same.behavior]

private theorem neighbors_eq (same : SameCircuitry first second) :
    neighbors first = neighbors second := by
  funext pos
  rw [neighbors, neighbors, same.active_eq]

private theorem spread_eq (same : SameCircuitry first second) (levels : Nat) (level : List Pos)
    (found : OrderedSet Pos) :
    spread first levels level found = spread second levels level found := by
  induction levels generalizing level found with
  | zero => rfl
  | succ levels ih =>
      cases level with
      | nil => rfl
      | cons block rest => simp only [spread, same.neighbors_eq, ih]

private theorem groupOf_eq (same : SameCircuitry first second) :
    groupOf first = groupOf second := by
  funext seed
  rw [groupOf, groupOf, same.spread_eq, same.support]

private theorem extend_eq (same : SameCircuitry first second) :
    Grouping.extend first = Grouping.extend second := by
  funext grouping seed
  simp only [Grouping.extend, same.bounds, same.active_eq, same.groupOf_eq]

/-- Grids of the same circuitry have the same clusters. -/
theorem clusters_eq (same : SameCircuitry first second) : clusters first = clusters second := by
  rw [clusters, clusters, groups, groups, same.extend_eq, same.support, same.activeBeyondWire_eq]

end Clusters

section Nets

variable {recordEdges : Bool}

private theorem runWithin_eq (same : SameCircuitry first second) (direction : Direction)
    (steps : Nat) (pos : Pos) :
    runWithin first direction steps pos = runWithin second direction steps pos := by
  induction steps generalizing pos with
  | zero => rfl
  | succ steps ih => simp only [runWithin, same.bounds, same.behavior, ih]

private theorem run_eq (same : SameCircuitry first second) (face : Face) :
    run first face = run second face := by
  rw [run, run, same.runWithin_eq, same.bounds]

/-- Faces of blocks without a behavior play no part, however the blocks are turned. -/
theorem roleAt_eq (same : SameCircuitry first second) : roleAt first = roleAt second := by
  funext face
  rw [roleAt, roleAt, ← same.behavior]
  cases there : Grid.behavior first face.pos with
  | none => rfl
  | some found => rw [same.orientation _ (Option.isSome_of_mem there)]

private theorem traceStep_eq (same : SameCircuitry first second) (log : TraceLog)
    (task : TraceTask) :
    traceStep first recordEdges log task = traceStep second recordEdges log task := by
  cases task with
  | follow net face => simp only [traceStep, follow, same.run_eq]
  | branch net pos pending => simp only [traceStep, branch, same.behavior]

private theorem traceTasks_eq (same : SameCircuitry first second) (steps : Nat)
    (tasks : List TraceTask) (log : TraceLog) :
    traceTasks first recordEdges steps tasks log =
      traceTasks second recordEdges steps tasks log := by
  induction steps generalizing tasks log with
  | zero => cases tasks <;> rfl
  | succ steps ih =>
      cases tasks with
      | nil => rfl
      | cons task rest => simp only [traceTasks, same.traceStep_eq, ih]

private theorem traceRoots_eq (same : SameCircuitry first second) (steps : Nat) (roots : List Face)
    (log : TraceLog) :
    traceRoots first recordEdges steps roots log =
      traceRoots second recordEdges steps roots log := by
  induction roots generalizing log with
  | nil => rfl
  | cons face rest ih => simp only [traceRoots, same.traceTasks_eq, ih]

private theorem rootFaces_eq (same : SameCircuitry first second) (members : List Pos) :
    rootFaces first members = rootFaces second members := by
  simp only [rootFaces, same.behavior]

private theorem netGraph_eq (same : SameCircuitry first second) :
    netGraph first = netGraph second := by
  funext log
  simp only [netGraph, netsOf, same.roleAt_eq]

/-- Grids of the same circuitry are traced to the same graph, or conflict alike. -/
theorem trace_eq (same : SameCircuitry first second) (members : List Pos) (recordEdges : Bool) :
    trace first members recordEdges = trace second members recordEdges := by
  simp only [trace, traceLog, traceBudget, same.traceRoots_eq, same.rootFaces_eq, same.bounds,
    same.netGraph_eq]

end Nets

section Demand

variable {graph : NetGraph}

/-- Blocks of grids of the same circuitry have the same inputs. -/
theorem inputsAt_eq (same : SameCircuitry first second) (pos : Pos) :
    inputsAt first graph pos = inputsAt second graph pos := by
  rw [inputsAt, inputsAt, ← same.behavior]
  cases there : Grid.behavior first pos with
  | none => rfl
  | some found => rw [same.orientation _ (Option.isSome_of_mem there)]

private theorem demands_eq (same : SameCircuitry first second) :
    demands first graph = demands second graph := by
  funext target
  cases target with
  | block pos => rw [demands, demands, same.inputsAt_eq]
  | net id => rfl

/-- Grids of the same circuitry have the same order of demand. -/
theorem demandOrder_eq (same : SameCircuitry first second) (members : List Pos) :
    demandOrder first graph members = demandOrder second graph members := by
  rw [demandOrder, demandOrder, same.demands_eq]

end Demand

end SameCircuitry

end VoxelCircuit.Grid

import VoxelCircuit.Proofs.Net.Graph
import VoxelCircuit.Proofs.Table.Map

/-! # Traces without steps

A trace that keeps the steps it walks decides nothing by them. So a trace that keeps none
goes the same way: it comes to the same conflict, or to the same nets without their steps
(`VoxelCircuit.Grid.trace_withoutEdges`).
-/

namespace VoxelCircuit

/-- The net without the steps that were walked to find it. -/
def Net.withoutEdges (net : Net) : Net :=
  { net with edges := [] }

namespace NetGraph

/-- The net graph without the steps that were walked to find its nets. -/
def withoutEdges (graph : NetGraph) : NetGraph :=
  { graph with byId := graph.byId.map id Net.withoutEdges }

private theorem ofNets_withoutEdges (nets : List Net) (attachments : List (Face × NetId)) :
    ofNets (nets.map Net.withoutEdges) attachments = (ofNets nets attachments).withoutEdges := by
  have byId : Table.ofList ((nets.map Net.withoutEdges).map fun net => (net.id, net)) =
      (Table.ofList (nets.map fun net => (net.id, net))).map id Net.withoutEdges := by
    rw [Table.map_ofList Function.injective_id, List.map_map, List.map_map]
    rfl
  have kept : ∀ net : NetId,
      ((Table.ofList (nets.map fun net => (net.id, net))).map id Net.withoutEdges).contains net =
        (Table.ofList (nets.map fun net => (net.id, net))).contains net :=
    Table.contains_map Function.injective_id Net.withoutEdges _
  simp only [ofNets, withoutEdges, byId, kept]

variable (graph : NetGraph)

/-- A graph without edges has the nets without edges under the same names. -/
theorem net?_withoutEdges (id : NetId) :
    graph.withoutEdges.net? id = (graph.net? id).map Net.withoutEdges :=
  Table.get?_map Function.injective_id Net.withoutEdges graph.byId id

/-- The nets of a graph without edges are the nets without edges. -/
theorem nets_withoutEdges : graph.withoutEdges.nets = graph.nets.map Net.withoutEdges :=
  Table.values_map Function.injective_id Net.withoutEdges graph.byId

/-- A graph without edges has the same names of nets. -/
theorem ids_withoutEdges : graph.withoutEdges.ids = graph.ids :=
  (Table.keys_map Function.injective_id Net.withoutEdges graph.byId).trans (List.map_id _)

/-- A graph without edges has as many nets. -/
theorem size_withoutEdges : graph.withoutEdges.size = graph.size :=
  Table.size_map Function.injective_id Net.withoutEdges graph.byId

end NetGraph

/-- The log without the steps that were walked. -/
def TraceLog.withoutEdges (log : TraceLog) : TraceLog :=
  { log with edges := [] }

namespace Grid

variable {γ : Type} [Grid γ] (grid : γ) (recordEdges : Bool)

section Steps

variable (log : TraceLog)

private theorem noted_withoutEdges (net : NetId) (face : Face) :
    (noted grid recordEdges net face log).withoutEdges =
      noted grid false net face log.withoutEdges := by
  cases recordEdges <;> rfl

private theorem branch_withoutEdges (net : NetId) (pos : Pos) (pending : List Direction) :
    branch grid net pos pending log.withoutEdges =
      Prod.map id TraceLog.withoutEdges (branch grid net pos pending log) := by
  have claimed : ∀ direction, log.withoutEdges.claimed? ⟨pos, direction⟩ =
      log.claimed? ⟨pos, direction⟩ := fun _ => rfl
  unfold branch
  simp only [claimed]
  split
  · rfl
  · split <;> rfl

/-- A step of a trace does not depend on what was walked before. -/
theorem traceStep_withoutEdges (task : TraceTask) :
    traceStep grid false log.withoutEdges task =
      (traceStep grid recordEdges log task).map (Prod.map id TraceLog.withoutEdges) := by
  cases task with
  | branch net pos pending =>
      exact congrArg Except.ok (branch_withoutEdges grid log net pos pending)
  | follow net face =>
      have claimed : ∀ target, log.withoutEdges.claimed? target = log.claimed? target :=
        fun _ => rfl
      have bare := noted_withoutEdges grid recordEdges log net face
      rw [traceStep_follow, traceStep_follow, ← bare]
      cases facing? grid face with
      | none => rfl
      | some target =>
          simp only [claimed]
          cases log.claimed? target with
          | none => rfl
          | some existing =>
              by_cases own : existing = net
              · simp only [own, if_true]
                rfl
              · simp only [own, if_false]
                rfl

private theorem traceTasks_withoutEdges (steps : Nat) (tasks : List TraceTask) :
    traceTasks grid false steps tasks log.withoutEdges =
      (traceTasks grid recordEdges steps tasks log).map TraceLog.withoutEdges := by
  induction steps generalizing tasks log with
  | zero => cases tasks <;> rfl
  | succ steps ih =>
      cases tasks with
      | nil => rfl
      | cons task rest =>
          rw [traceTasks, traceTasks, traceStep_withoutEdges grid recordEdges]
          cases traceStep grid recordEdges log task with
          | error conflict => rfl
          | ok led => exact ih led.2 (led.1 ++ rest)

private theorem traceRoots_withoutEdges (steps : Nat) (roots : List Face) :
    traceRoots grid false steps roots log.withoutEdges =
      (traceRoots grid recordEdges steps roots log).map TraceLog.withoutEdges := by
  induction roots generalizing log with
  | nil => rfl
  | cons face rest ih =>
      have claimed : log.withoutEdges.claimed? face = log.claimed? face := rfl
      have opened : log.withoutEdges.openAt face = (log.openAt face).withoutEdges := rfl
      have next : log.withoutEdges.next = log.next := rfl
      rw [traceRoots, traceRoots, claimed, opened, next, ih,
        traceTasks_withoutEdges grid recordEdges]
      split
      · rfl
      · cases traceTasks grid recordEdges steps [.follow log.next face] (log.openAt face) with
        | error conflict => rfl
        | ok after => exact ih after

end Steps

private theorem netsOf_withoutEdges (log : TraceLog) :
    netsOf grid log.withoutEdges = (netsOf grid log).map Net.withoutEdges := by
  rw [netsOf_eq, netsOf_eq, List.map_map]
  rfl

private theorem netGraph_withoutEdges (log : TraceLog) :
    netGraph grid log.withoutEdges = (netGraph grid log).withoutEdges := by
  rw [netGraph, netGraph, netsOf_withoutEdges, List.filter_map, ← NetGraph.ofNets_withoutEdges]
  rfl

/-- **A trace decides nothing by the steps that it keeps.** -/
theorem trace_withoutEdges (members : List Pos) :
    trace grid members false = (trace grid members recordEdges).map NetGraph.withoutEdges := by
  have logs : traceLog grid members false =
      (traceLog grid members recordEdges).map TraceLog.withoutEdges :=
    traceRoots_withoutEdges grid recordEdges .empty _ _
  rw [trace, trace, logs]
  cases traceLog grid members recordEdges with
  | error conflict => rfl
  | ok log => exact congrArg Except.ok (netGraph_withoutEdges grid log)

end Grid

end VoxelCircuit

import VoxelCircuit.Proofs.Circuit.Demand
import VoxelCircuit.Proofs.Grid.Component
import VoxelCircuit.Proofs.Net.Consistency

/-! # Nets stay among the blocks of a cluster

A run passes through wire alone, and wire has a behavior; so it does not leave the blocks
that paths of blocks with a behavior lead to from its start. Neither does a trace that
starts among these blocks (`VoxelCircuit.Grid.netAt_among`), nor the order in which the
targets of a circuit are demanded (`VoxelCircuit.Grid.demandOrder_among`).
-/

namespace VoxelCircuit

namespace Grid

variable {γ : Type} [Grid γ] {grid : γ} {blocks : List Pos}

/-- A corridor to a block does not leave the blocks joined to its start. -/
theorem Corridor.among {direction : Direction} {pos last : Pos} (closed : Closed grid blocks)
    (corridor : Corridor grid direction pos last) (member : pos ∈ blocks)
    (present : active grid last = true) : last ∈ blocks := by
  induction corridor with
  | step => exact closed pos member _ (mem_neighbors.mpr ⟨⟨direction, rfl⟩, present⟩)
  | @through wire _ inside isWire ih =>
      have passes : active grid wire = true := by rw [active, isWire]; rfl
      exact closed wire (ih passes) _ (mem_neighbors.mpr ⟨⟨direction, rfl⟩, present⟩)

private theorem facing?_among (closed : Closed grid blocks) {face target : Face}
    (faces : facing? grid face = some target) (member : face.pos ∈ blocks) :
    target.pos ∈ blocks := by
  obtain ⟨corridor, _, present, _⟩ := facing?_eq_some_iff.mp faces
  exact corridor.among closed member (active_of_activeBeyondWire present)

/-- The nets of a circuit are at the blocks joined to its members. -/
theorem netAt_among (closed : Closed grid blocks) {members : List Pos} {recordEdges : Bool}
    {graph : NetGraph} (inside : ∀ pos ∈ members, pos ∈ blocks)
    (traced : trace grid members recordEdges = .ok graph) {face : Face} {id : NetId}
    (attached : graph.netAt face = some id) : face.pos ∈ blocks := by
  obtain ⟨log, logged, rfl⟩ := trace_ok traced
  have among : Among (· ∈ blocks) ⟨[], [], log⟩ :=
    (traceLog_ok logged).among (fun _ _ faces => facing?_among closed faces)
      fun face root => inside _ (mem_rootFaces.mp root).1
  exact among.claims face (by rw [(netAt_netGraph.mp attached).1]; rfl)

/-- The blocks demanded in a circuit are joined to its members. -/
theorem demandOrder_among (closed : Closed grid blocks) {members : List Pos} {recordEdges : Bool}
    {graph : NetGraph} (inside : ∀ pos ∈ members, pos ∈ blocks)
    (traced : trace grid members recordEdges = .ok graph) {pos : Pos}
    (demanded : .block pos ∈ demandOrder grid graph members) : pos ∈ blocks := by
  have graphOf := graphOf_trace traced
  refine Search.leavingOrder_among (fun target => ∀ pos, target = .block pos → pos ∈ blocks)
    ?_ ?_ _ _ demanded pos rfl
  · intro target _ next demand other same
    subst same
    cases target with
    | block pos =>
        obtain ⟨id, same, _⟩ := mem_demands_block.mp demand
        cases same
    | net id =>
        obtain ⟨driver, same, direction, attached, _⟩ := (mem_demands_net graphOf).mp demand
        cases same
        exact netAt_among closed inside traced attached
  · intro root listed other same
    subst same
    rcases List.mem_append.mp listed with block | net
    · obtain ⟨pos, member, same⟩ := List.mem_map.mp block
      cases same
      exact inside _ member
    · obtain ⟨id, _, same⟩ := List.mem_map.mp net
      cases same

end Grid

end VoxelCircuit

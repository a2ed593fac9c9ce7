import VoxelCircuit.Proofs.Circuit.Ownership
import VoxelCircuit.Proofs.Circuit.Targets
import VoxelCircuit.Proofs.Circuit.Visits

/-! # How many effects a circuit has

The search for what a circuit demands ends on every net graph, and gives each net that is
kept and each member beyond wire one effect. A circuit of a cluster has no other effects
(`VoxelCircuit.Circuit.Compiled.perm_targets`), so their number can be told from its members
and its nets (`VoxelCircuit.Circuit.one_effect_each`).
-/

namespace VoxelCircuit

variable {γ : Type} [Grid γ] {grid : γ} {graph : NetGraph} {members : List Pos}

namespace Grid

/-- The targets that demands can come to from some blocks and the nets of a graph of which
nothing is known. -/
def mentioned (graph : NetGraph) (members : List Pos) : Finset Target :=
  demandable graph members ∪ (graph.attachments.values.map Target.net).toFinset

private theorem mentioned_closed (grid : γ) {target demanded : Target}
    (demand : demanded ∈ demands grid graph target) : demanded ∈ mentioned graph members := by
  rw [mentioned, Finset.mem_union, demandable, List.mem_toFinset, List.mem_toFinset]
  cases target with
  | block pos =>
      obtain ⟨id, rfl, direction, attached, _⟩ := mem_demands_block.mp demand
      exact Or.inr (List.mem_map_of_mem (Table.mem_values.mpr ⟨_, attached⟩))
  | net id =>
      rw [demands] at demand
      cases found : graph.net? id with
      | none =>
          rw [found] at demand
          cases demand
      | some net =>
          rw [found] at demand
          obtain ⟨face, driver, rfl⟩ := List.mem_map.mp demand
          obtain ⟨member, attached, rfl⟩ := List.mem_map.mp driver
          refine Or.inl (List.mem_append_right _ (List.mem_flatMap.mpr ⟨net, ?_, ?_⟩))
          · exact Table.mem_values.mpr ⟨id, found⟩
          · exact List.mem_map.mpr ⟨member, (List.mem_filter.mp attached).1, rfl⟩

/-- On every net graph, the search for what some blocks and the nets demand comes to exactly
one end. -/
theorem existsUnique_demanded (grid : γ) (graph : NetGraph) (members : List Pos) :
    ∃! search, Search.Visits (demands grid graph)
      (members.map .block ++ graph.ids.map .net) .empty search :=
  Search.existsUnique_visits (fun _ _ _ demand => mentioned_closed grid demand)
    (fun _ listed => Finset.mem_union_left _ (mem_demandable_of_root listed)) .empty

/-- The order of demand is that of the search that goes as far as demands do. -/
theorem demandOrder_eq (graphOf : GraphOf grid graph) {search : Search Target}
    (visits : Search.Visits (demands grid graph) (members.map .block ++ graph.ids.map .net) .empty
      search) : demandOrder grid graph members = search.left.reverse := by
  have enough : (Search.unseen (demandable graph members) .empty).card <
      demandDepth graph members :=
    (Finset.card_filter_le _ _).trans_lt (card_demandable_lt graph members)
  have far := Search.visits_foldl (fun target member demanded => demandable_closed graphOf member)
    (fun root listed => mem_demandable_of_root listed) enough
  rw [demandOrder, Search.leavingOrder, visits.unique far]

end Grid

namespace Circuit

variable {circuit : Circuit γ} {recordEdges : Bool}

private theorem Compiled.count_le_one (compiled : Compiled grid recordEdges circuit)
    (target : Target) :
    (circuit.pipeline.map Effect.target).count target ≤ 1 :=
  List.nodup_iff_count_le_one.mp compiled.nodup_targets target

private theorem Compiled.count_net (compiled : Compiled grid recordEdges circuit) {id : NetId}
    (kept : (circuit.graph.net? id).isSome = true) :
    (circuit.pipeline.map Effect.target).count (.net id) = 1 := by
  have spec := Grid.demandOrder_demanded (Grid.graphOf_trace compiled.traced) circuit.members
  obtain ⟨net, found⟩ := Option.isSome_iff_exists.mp kept
  exact List.count_eq_one_of_mem compiled.nodup_targets
    (compiled.mem_targets.mpr ⟨spec.net id net found, kept⟩)

private theorem Compiled.count_block (compiled : Compiled grid recordEdges circuit) {pos : Pos}
    (member : pos ∈ circuit.members) (active : Grid.activeBeyondWire grid pos = true) :
    (circuit.pipeline.map Effect.target).count (.block pos) = 1 := by
  have spec := Grid.demandOrder_demanded (Grid.graphOf_trace compiled.traced) circuit.members
  exact List.count_eq_one_of_mem compiled.nodup_targets
    (compiled.mem_targets.mpr ⟨spec.member pos member, active⟩)

/-- The effects of a circuit whose nets stay among its members are those of its members
beyond wire and those of its nets. -/
theorem Compiled.perm_targets (compiled : Compiled grid recordEdges circuit)
    (closed : Grid.Closed grid circuit.members) :
    (circuit.pipeline.map Effect.target).Perm
      ((circuit.members.filter (Grid.activeBeyondWire grid)).map .block ++
        circuit.graph.ids.map .net) := by
  have spec := Grid.demandOrder_demanded (Grid.graphOf_trace compiled.traced) circuit.members
  have blocks : ((circuit.members.filter (Grid.activeBeyondWire grid)).map Target.block).Nodup :=
    (circuit.joined.nodup_keys.filter _).map fun _ _ same => Target.block.inj same
  have nets : (circuit.graph.ids.map Target.net).Nodup :=
    circuit.graph.byId.nodup_keys.map fun _ _ same => Target.net.inj same
  have distinct := List.nodup_append.mpr ⟨blocks, nets, fun block listed net other same => by
    obtain ⟨_, _, rfl⟩ := List.mem_map.mp listed
    obtain ⟨_, _, rfl⟩ := List.mem_map.mp other
    cases same⟩
  refine (List.perm_ext_iff_of_nodup compiled.nodup_targets distinct).mpr fun target => ?_
  rw [compiled.mem_targets, List.mem_append]
  cases target with
  | block pos =>
      simp only [Grid.hasEffect, List.mem_map, List.mem_filter, Target.block.injEq, exists_eq_right,
        reduceCtorEq, and_false, exists_false, or_false]
      refine and_congr_left fun _ => ⟨fun demanded => ?_, spec.member pos⟩
      exact Grid.demandOrder_among closed (fun _ member => member) compiled.traced demanded
  | net id =>
      simp only [Grid.hasEffect, List.mem_map, Target.net.injEq, exists_eq_right, reduceCtorEq,
        and_false, exists_false, false_or]
      refine ⟨fun kept => ?_, fun listed => ?_⟩
      · exact Table.mem_keys_iff.mpr (Option.isSome_iff_exists.mp kept.2)
      · obtain ⟨net, found⟩ := Table.mem_keys_iff.mp listed
        exact ⟨spec.net id net found, Option.isSome_iff_exists.mpr ⟨net, found⟩⟩

/-- **One effect each.** In every world, tracing halts and the search for what is demanded
comes to exactly one end, on any net graph. A circuit compiled for a voxel grid has its
effects in the order of this search, no two for one target, and one for each net and each
member beyond wire. When it is the circuit of a cluster it has no others. -/
theorem one_effect_each {ω : Type} [Grid ω] (options : CompileOptions) (depth : Nat) :
    (∀ (world : World ω) (members : List Pos),
      Grid.TraceHalts world options.recordTraceEdges members ∧
        ∀ graph : NetGraph, ∃! search, Search.Visits (Grid.demands world graph)
          (members.map .block ++ graph.ids.map .net) .empty search) ∧
    ∀ grid : VoxelGrid (World ω),
      (∀ source circuit : Circuit (World ω),
        (compile options depth (World.voxel grid) source).outcome = .ok circuit →
          (∀ search, Search.Visits (Grid.demands (World.voxel grid) circuit.graph)
            (source.members.map .block ++ circuit.graph.ids.map .net) .empty search →
              circuit.pipeline.map Effect.target =
                search.left.reverse.filter (Grid.hasEffect (World.voxel grid) circuit.graph)) ∧
          (∀ target, (circuit.pipeline.map Effect.target).count target ≤ 1) ∧
          (∀ id, (circuit.graph.net? id).isSome →
            (circuit.pipeline.map Effect.target).count (.net id) = 1) ∧
          ∀ pos ∈ source.members, Grid.activeBeyondWire (World.voxel grid) pos →
            (circuit.pipeline.map Effect.target).count (.block pos) = 1) ∧
      ∀ circuits, (compileAll options depth (World.voxel grid)).outcome = .ok circuits →
        ∀ circuit ∈ circuits,
          (circuit.pipeline.map Effect.target).Perm
            ((circuit.members.filter (Grid.activeBeyondWire (World.voxel grid))).map .block ++
              circuit.graph.ids.map .net) ∧
          circuit.pipeline.length =
            circuit.members.countP (Grid.activeBeyondWire (World.voxel grid)) +
              circuit.graph.size := by
  refine ⟨fun world members => ⟨Grid.traceHalts _ _ _, fun graph =>
    Grid.existsUnique_demanded world graph members⟩, fun grid => ⟨?_, ?_⟩⟩
  · intro source circuit outcome
    obtain ⟨members, made⟩ := compile_ok outcome
    refine ⟨fun search visits => ?_, made.count_le_one, fun id => made.count_net,
      fun pos member => made.count_block (members ▸ member)⟩
    rw [made.targets_eq, members, Grid.demandOrder_eq (Grid.graphOf_trace made.traced) visits]
  · intro circuits outcome circuit listed
    obtain ⟨place, found⟩ := List.mem_iff_getElem?.mp listed
    obtain ⟨cluster, cell, members, made⟩ := cluster_of_compileAll outcome found
    have closed := (Grid.clusters_closed (List.mem_of_getElem? cell)).1
    have effects := made.perm_targets (closed.congr members)
    refine ⟨effects, ?_⟩
    have lengths := effects.length_eq
    rw [List.length_map, List.length_append, List.length_map, List.length_map,
      ← List.countP_eq_length_filter] at lengths
    rw [lengths, NetGraph.ids, NetGraph.size, Table.size, Table.keys, List.length_reverse]

/-- The blocks of the ring beyond air and the nets between them have one effect each. -/
theorem inverterRing_one_effect_each :
    ∃ circuit circuits, (compile {} 0 (World.voxel inverterRing) (ofMembers ringMembers)).outcome =
        .ok circuit ∧
      (∃ search, Search.Visits (Grid.demands (World.voxel inverterRing) circuit.graph)
          ((ofMembers ringMembers : Circuit (World EndlessChip)).members.map .block ++
            circuit.graph.ids.map .net) .empty search ∧
        circuit.pipeline.map Effect.target = search.left.reverse.filter
          (Grid.hasEffect (World.voxel inverterRing) circuit.graph)) ∧
      (circuit.graph.net? ⟨1⟩).isSome ∧
      (circuit.pipeline.map Effect.target).count (.net ⟨1⟩) = 1 ∧
      (circuit.pipeline.map Effect.target).count (.block ⟨2, 0, 0⟩) = 1 ∧
      (compileAll {} 0 (World.voxel inverterRing)).outcome = .ok circuits ∧
      ∃ whole ∈ circuits, whole.pipeline.length =
        whole.members.countP (Grid.activeBeyondWire (World.voxel inverterRing)) +
          whole.graph.size := by
  obtain ⟨circuit, compiled, kept⟩ := Compilation.exists_ok
    (compile {} 0 (World.voxel inverterRing) (ofMembers ringMembers))
    (fun circuit => (circuit.graph.net? ⟨1⟩).isSome) true (by decide +kernel)
  obtain ⟨circuits, all, some⟩ := Compilation.exists_ok
    (compileAll {} 0 (World.voxel inverterRing)) List.length 1 (by decide +kernel)
  obtain ⟨whole, rfl⟩ := List.length_eq_one_iff.mp some
  obtain ⟨ends, counts⟩ := one_effect_each (ω := EndlessChip) {} 0
  obtain ⟨search, visits, _⟩ := (ends (World.voxel inverterRing)
    (ofMembers ringMembers : Circuit (World EndlessChip)).members).2 circuit.graph
  obtain ⟨ordered, _, nets, blocks⟩ := (counts inverterRing).1 _ circuit compiled
  have member : (⟨2, 0, 0⟩ : Pos) ∈ (ofMembers ringMembers : Circuit (World EndlessChip)).members :=
    mem_ofMembers.mpr List.mem_cons_self
  have single := List.mem_singleton.mpr (Eq.refl whole)
  exact ⟨circuit, [whole], compiled, ⟨search, visits, ordered search visits⟩, kept,
    nets ⟨1⟩ kept, blocks _ member (by decide +kernel), all, whole, single,
    ((counts inverterRing).2 _ all whole single).2⟩

end Circuit

end VoxelCircuit

import VoxelCircuit.Layout.Basic
import VoxelCircuit.Layout.EndlessChip
import VoxelCircuit.Proofs.Net.Completeness
import VoxelCircuit.Proofs.Net.Records

/-! # Net graphs are consistent

A net graph answers two questions, who is on a net and which net is at a face. A tracer with
records answers them from two tables that are filled and pruned apart from each other. The
answers agree for every trace of every grid (`VoxelCircuit.Grid.trace_consistent`): the records
stay in step with the claims, a trace claims faces of blocks other than wire alone, each for one
net, and the nets follow the order of their opening.
-/

namespace VoxelCircuit

private theorem NetId.ofCount_lt {first second : Nat} (before : first < second)
    (below : second < UInt32.size) :
    (NetId.ofCount first).serial < (NetId.ofCount second).serial := by
  rw [UInt32.lt_iff_toNat_lt]
  simp only [NetId.ofCount, Nat.toUInt32_eq, UInt32.toNat_ofNat']
  rwa [Nat.mod_eq_of_lt (before.trans below), Nat.mod_eq_of_lt below]

namespace Grid

variable {γ : Type} [Grid γ]

/-- All that a trace has to do, and all that it has claimed, is at positions with a
property. -/
structure Among (holds : Pos → Prop) (state : TraceState) : Prop where
  roots : ∀ face ∈ state.roots, holds face.pos
  tasks : ∀ task ∈ state.tasks, holds task.pos
  claims : ∀ face, (state.log.claimed? face).isSome → holds face.pos

/-- A property that runs lead on holds of all that a trace comes to. -/
theorem Among.advance {grid : γ} {holds : Pos → Prop}
    (closed : ∀ face target, facing? grid face = some target → holds face.pos → holds target.pos)
    {recordEdges : Bool} {before after : TraceState} (among : Among holds before)
    (step : Advances grid recordEdges before after) : Among holds after := by
  have claimed : ∀ {log : TraceLog} {net : NetId} {face other : Face},
      (∀ face, (log.claimed? face).isSome → holds face.pos) → holds face.pos →
        ((log.claim net face).claimed? other).isSome → holds other.pos := by
    intro log net face other old new claimed
    rcases (isSome_claimed?_claim net).mp claimed with rfl | before
    · exact new
    · exact old other before
  cases step with
  | @work roots task rest tasks log after move =>
      have here := among.tasks task List.mem_cons_self
      have others : ∀ task ∈ rest, holds task.pos := fun task member =>
        among.tasks task (List.mem_cons_of_mem _ member)
      cases move with
      | breaksOff | returns =>
          refine ⟨among.roots, others, fun face held => among.claims face ?_⟩
          rwa [claimed?_noted] at held
      | @arrives net face target faces unclaimed =>
          have there := closed face target faces here
          refine ⟨among.roots, List.forall_mem_cons.mpr ⟨there, others⟩, fun other held => ?_⟩
          refine claimed (fun face held => among.claims face ?_) there held
          rwa [claimed?_noted] at held
      | settles => exact ⟨among.roots, others, among.claims⟩
      | prolongs | opens =>
          refine ⟨among.roots, List.forall_mem_cons.mpr ⟨here, List.forall_mem_cons.mpr
            ⟨here, others⟩⟩, fun other held => claimed among.claims here held⟩
  | pass =>
      exact ⟨fun face member => among.roots face (List.mem_cons_of_mem _ member), among.tasks,
        among.claims⟩
  | @start face roots log unclaimed =>
      have here := among.roots face List.mem_cons_self
      exact ⟨fun face member => among.roots face (List.mem_cons_of_mem _ member),
        List.forall_mem_cons.mpr ⟨here, by simp⟩, fun other held => claimed among.claims here held⟩

/-- A property that the roots have and that runs lead on holds of all that a trace reaches. -/
theorem TraceReaches.among {grid : γ} {holds : Pos → Prop}
    (closed : ∀ face target, facing? grid face = some target → holds face.pos → holds target.pos)
    {recordEdges : Bool} {members : List Pos} {state : TraceState}
    (roots : ∀ face ∈ rootFaces grid members, holds face.pos)
    (reached : TraceReaches grid recordEdges members state) : Among holds state :=
  reached.invariant ⟨roots, by simp, by simp⟩ fun among step => among.advance closed step

/-- Faces of wire, and of what has no behavior, are never claimed. -/
theorem TraceReaches.claims_active {grid : γ} {recordEdges : Bool} {members : List Pos}
    {state : TraceState} (reached : TraceReaches grid recordEdges members state) {face : Face}
    (claimed : (state.log.claimed? face).isSome) : activeBeyondWire grid face.pos = true := by
  have among : Among (fun pos => activeBeyondWire grid pos = true) state :=
    reached.among (fun _ _ faces _ => (facing?_eq_some_iff.mp faces).2.2.1)
      fun _ root => (mem_rootFaces.mp root).2.1
  exact among.claims face claimed

/-- The nets of a graph are those of the log that can carry a signal, in the order in which
they were opened. -/
theorem nets_netGraph (grid : γ) (log : TraceLog) :
    (netGraph grid log).nets = (netsOf grid log).filter Net.useful := by
  have distinct : ((((netsOf grid log).filter Net.useful).map fun net => (net.id, net)).map
      Prod.fst).Nodup := by
    rw [List.map_map]
    exact (nodup_ids_netsOf grid log).sublist (List.filter_sublist.map _)
  rw [NetGraph.nets, netGraph, NetGraph.ofNets, ← Table.map_snd_entries,
    Table.entries_ofList distinct, List.map_map]
  exact List.map_id _

section Log

variable {grid : γ} {log : TraceLog}

private theorem mem_nets_netGraph {net : Net} :
    net ∈ (netGraph grid log).nets ↔
      log.Issued net.id ∧ net = netOf grid log net.id ∧ net.useful = true := by
  rw [nets_netGraph, List.mem_filter, mem_netsOf, and_assoc]

private theorem pairwise_serials_netGraph (grid : γ) (log : TraceLog) :
    (netGraph grid log).nets.Pairwise fun first second => first.id.serial < second.id.serial := by
  rw [nets_netGraph, netsOf_eq]
  apply List.Pairwise.filter
  rw [List.pairwise_map]
  refine (List.pairwise_lt_range (n := min log.opened UInt32.size)).imp_of_mem ?_
  intro first second _ listed before
  exact NetId.ofCount_lt before ((List.mem_range.mp listed).trans_le (Nat.min_le_right ..))

/-- A net lists each of its faces once. -/
theorem nodup_faces_netOf (grid : γ) (log : TraceLog) (id : NetId) :
    ((netOf grid log id).members.map NetMember.face).Nodup := by
  have claims : (log.claims.entries.map Prod.fst).Nodup := by
    rw [Table.map_fst_entries]
    exact log.claims.nodup_keys
  rw [netOf, List.map_map]
  exact claims.sublist (List.filter_sublist.map _)

/-- No two nets share a face, since a face is claimed for one net. -/
theorem nodup_faces_netGraph (grid : γ) (log : TraceLog) :
    (((netGraph grid log).nets.flatMap Net.members).map NetMember.face).Nodup := by
  rw [List.map_flatMap, List.nodup_flatMap]
  constructor
  · intro net listed
    rw [(mem_nets_netGraph.mp listed).2.1]
    exact nodup_faces_netOf grid log net.id
  · refine (pairwise_serials_netGraph grid log).imp_of_mem ?_
    intro first second firstListed secondListed before
    refine List.disjoint_left.mpr fun face onFirst onSecond => ?_
    obtain ⟨_, firstTold, _⟩ := mem_nets_netGraph.mp firstListed
    obtain ⟨_, secondTold, _⟩ := mem_nets_netGraph.mp secondListed
    rw [firstTold] at onFirst
    rw [secondTold] at onSecond
    obtain ⟨member, attached, rfl⟩ := List.mem_map.mp onFirst
    obtain ⟨other, alsoAttached, same⟩ := List.mem_map.mp onSecond
    have claimed := (mem_netOf_members.mp attached).1
    have again := (mem_netOf_members.mp alsoAttached).1
    rw [same, claimed] at again
    rw [Option.some.inj again] at before
    exact UInt32.lt_irrefl _ before

/-- The nets that are found are those listed, each under its serial number. -/
theorem net?_iff_mem_nets {id : NetId} {net : Net} :
    (netGraph grid log).net? id = some net ↔ net ∈ (netGraph grid log).nets ∧ net.id = id := by
  rw [net?_netGraph, mem_nets_netGraph]
  constructor
  · rintro ⟨issued, rfl, useful⟩
    exact ⟨⟨issued, rfl, useful⟩, rfl⟩
  · rintro ⟨kept, rfl⟩
    exact kept

/-- The net at a face is the one that lists the face. -/
theorem netAt_iff_mem_members {face : Face} {id : NetId} :
    (netGraph grid log).netAt face = some id ↔ ∃ net ∈ (netGraph grid log).nets,
      net.id = id ∧ ∃ member ∈ net.members, member.face = face := by
  rw [netAt_netGraph]
  constructor
  · rintro ⟨claimed, net, kept⟩
    obtain ⟨issued, rfl, useful⟩ := net?_netGraph.mp kept
    exact ⟨_, mem_nets_netGraph.mpr ⟨issued, rfl, useful⟩, rfl, ⟨face, roleAt grid face⟩,
      mem_netOf_members.mpr ⟨claimed, rfl⟩, rfl⟩
  · rintro ⟨net, listed, rfl, member, attached, rfl⟩
    obtain ⟨issued, told, useful⟩ := mem_nets_netGraph.mp listed
    rw [told] at attached
    exact ⟨(mem_netOf_members.mp attached).1, net, net?_netGraph.mpr ⟨issued, told, useful⟩⟩

end Log

section Trace

variable {grid : γ} {members : List Pos} {recordEdges : Bool} {graph : NetGraph}

/-- The nets found in the graph of a trace are those listed. -/
theorem net?_iff_listed (traced : trace grid members recordEdges = .ok graph) {id : NetId}
    {net : Net} : graph.net? id = some net ↔ net ∈ graph.nets ∧ net.id = id := by
  obtain ⟨log, _, rfl⟩ := trace_ok traced
  exact net?_iff_mem_nets

/-- A net of a trace lists each of its members once. -/
theorem nodup_members (traced : trace grid members recordEdges = .ok graph) {net : Net}
    (listed : net ∈ graph.nets) : net.members.Nodup := by
  obtain ⟨log, _, rfl⟩ := trace_ok traced
  rw [(mem_nets_netGraph.mp listed).2.1]
  exact (nodup_faces_netOf grid log net.id).of_map _

end Trace

/-- The two tables that a tracer with records keeps agree with each other, and with the grid in
which the nets were traced. -/
structure Consistent (grid : γ) (graph : RecordGraph) : Prop where
  ordered : graph.nets.Pairwise fun first second => first.id.serial < second.id.serial
  listed : ∀ id net, graph.net? id = some net ↔ net ∈ graph.nets ∧ net.id = id
  attached : ∀ face id, graph.netAt face = some id ↔
    ∃ net ∈ graph.nets, net.id = id ∧ ∃ member ∈ net.members, member.face = face
  once : ((graph.nets.flatMap NetRecord.members).map NetMember.face).Nodup
  role : ∀ net ∈ graph.nets, ∀ member ∈ net.members, ∃ found,
    behavior grid member.face.pos = some found ∧ found.isWire = false ∧
      member.role = found.faceRole (orientation grid member.face.pos) member.face.direction
  hasInput : ∀ net ∈ graph.nets,
    net.hasInput = true ↔ ∃ member ∈ net.members, member.role = .input
  hasOutput : ∀ net ∈ graph.nets,
    net.hasOutput = true ↔ ∃ member ∈ net.members, member.role = .output
  hasBoth : ∀ net ∈ graph.nets,
    net.hasBoth = true ↔ ∃ member ∈ net.members, member.role = .both
  useful : ∀ net ∈ graph.nets, net.useful = true

/-- What a trace comes to is consistent, once flags are put to the nets. -/
theorem TraceReaches.consistent {grid : γ} {recordEdges : Bool} {members : List Pos}
    {log : TraceLog} (last : TraceReaches grid recordEdges members ⟨[], [], log⟩) :
    Consistent grid (.ofGraph (netGraph grid log)) := by
  have nets : (RecordGraph.ofGraph (netGraph grid log)).nets =
      (netGraph grid log).nets.map NetRecord.ofNet :=
    Table.values_map Function.injective_id NetRecord.ofNet (netGraph grid log).byId
  have net? : ∀ id, (RecordGraph.ofGraph (netGraph grid log)).net? id =
      ((netGraph grid log).net? id).map NetRecord.ofNet := fun id =>
    Table.get?_map Function.injective_id NetRecord.ofNet (netGraph grid log).byId id
  constructor
  · rw [nets, List.pairwise_map]
    exact pairwise_serials_netGraph grid log
  · intro id record
    simp only [nets, net?, Option.map_eq_some_iff, net?_iff_mem_nets, List.mem_map]
    constructor
    · rintro ⟨net, ⟨listed, rfl⟩, rfl⟩
      exact ⟨⟨net, listed, rfl⟩, rfl⟩
    · rintro ⟨⟨net, listed, rfl⟩, rfl⟩
      exact ⟨net, ⟨listed, rfl⟩, rfl⟩
  · intro face id
    simp only [nets, List.mem_map, exists_exists_and_eq_and]
    exact netAt_iff_mem_members
  · rw [nets, List.flatMap_map]
    exact nodup_faces_netGraph grid log
  all_goals simp only [nets, List.forall_mem_map]
  · intro net listed member attached
    change member ∈ net.members at attached
    rw [(mem_nets_netGraph.mp listed).2.1] at attached
    obtain ⟨claimed, role⟩ := mem_netOf_members.mp attached
    obtain ⟨found, there, beyond⟩ :=
      activeBeyondWire_iff.mp (last.claims_active (by rw [claimed]; rfl))
    exact ⟨found, there, beyond, by rw [role, roleAt, there]⟩
  · simp [NetRecord.ofNet, Net.hasInput]
  · simp [NetRecord.ofNet, Net.hasOutput]
  · simp [NetRecord.ofNet, Net.hasBoth]
  · exact fun net listed => (mem_nets_netGraph.mp listed).2.2

/-- **Net graphs are consistent.** Whatever the grid and the blocks, a tracer that keeps nets with
flags beside the claims comes to the nets of the trace. They are listed by their serial numbers,
a face is on a net exactly when that net is found at the face, no face is on a net twice or on
two, only blocks other than wire are on nets, with the roles that their faces have, the flags
that were set tell which roles there are, and by these flags every net that is kept can carry a
signal. -/
theorem trace_consistent {grid : γ} {members : List Pos} {recordEdges : Bool} {graph : NetGraph}
    (traced : trace grid members recordEdges = .ok graph) :
    ∃ records, traceWithRecords grid members recordEdges = .ok records ∧
      records.forget = graph ∧ Consistent grid records := by
  have together : traceWithRecords grid members recordEdges = .ok (.ofGraph graph) := by
    rw [traceWithRecords_eq, traced]
    rfl
  obtain ⟨log, logged, rfl⟩ := trace_ok traced
  exact ⟨_, together, RecordGraph.forget_ofGraph _, (traceLog_ok logged).consistent⟩

/-- A pad wired to a junction with an indicator behind it, and beside these a turned inverter
and a pad. The bounds leave out the first pad, so that runs come from it and none to it. -/
def croppedRow : World EndlessChip :=
  .bounded ((Box.single ⟨1, 0, 0⟩).extend ⟨3, 1, 0⟩) (.voxel ⟨⟨Layout.standardTypes⟩,
    .clamped 4 2 1, #[⟨⟨2⟩, .identity, 1⟩, ⟨⟨1⟩, .identity, 0⟩, ⟨⟨4⟩, .identity, 0⟩,
      ⟨⟨3⟩, .identity, 0⟩, .air, .air, ⟨⟨5⟩, .ofCodeWrapping 4, 0⟩, ⟨⟨2⟩, .identity, 0⟩], rfl⟩)

/-- The blocks of the row, wire apart. -/
def croppedRowBlocks : List Pos :=
  [⟨0, 0, 0⟩, ⟨2, 0, 0⟩, ⟨3, 0, 0⟩, ⟨2, 1, 0⟩, ⟨3, 1, 0⟩]

/-- The cropped row keeps three of its nets, and its net graph is consistent. -/
theorem croppedRow_consistent :
    ∃ graph records, trace croppedRow croppedRowBlocks true = .ok graph ∧
      graph.ids = [⟨0⟩, ⟨2⟩, ⟨10⟩] ∧
        traceWithRecords croppedRow croppedRowBlocks true = .ok records ∧
          records.forget = graph ∧ Consistent croppedRow records := by
  have ids : (trace croppedRow croppedRowBlocks true).toOption.map NetGraph.ids =
      some [⟨0⟩, ⟨2⟩, ⟨10⟩] := by
    decide +kernel
  cases traced : trace croppedRow croppedRowBlocks true with
  | error conflict => simp [traced, Except.toOption] at ids
  | ok graph =>
      simp only [traced, Except.toOption, Option.map_some, Option.some.injEq] at ids
      obtain ⟨records, together, same, consistent⟩ := trace_consistent traced
      exact ⟨graph, records, rfl, ids, together, same, consistent⟩

end Grid

end VoxelCircuit

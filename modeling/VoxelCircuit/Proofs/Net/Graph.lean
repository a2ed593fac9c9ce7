import Mathlib.Data.List.Nodup
import VoxelCircuit.Proofs.Net.Progress
import VoxelCircuit.Proofs.Table

/-! # The net graph of a trace

What the net graph says follows from the log alone: a net is kept when it was
opened and can carry a signal, its members are the faces claimed for it, and a face
is attached to the net that claimed it when this net is kept
(`VoxelCircuit.Grid.graphOf_trace`).
-/

namespace VoxelCircuit

private theorem NetId.ofCount_mod (count : Nat) :
    NetId.ofCount (count % UInt32.size) = NetId.ofCount count := by
  unfold NetId.ofCount
  congr 1
  apply UInt32.toNat_inj.mp
  simp

/-- Nets opened within a full round of serial numbers have different ones. -/
theorem NetId.ofCount_inj {first second : Nat} (firstBelow : first < UInt32.size)
    (secondBelow : second < UInt32.size) (same : NetId.ofCount first = NetId.ofCount second) :
    first = second := by
  have serials : first.toUInt32.toNat = second.toUInt32.toNat :=
    congrArg (fun id : NetId => id.serial.toNat) same
  have remainders : first % UInt32.size = second % UInt32.size := by simpa using serials
  rwa [Nat.mod_eq_of_lt firstBelow, Nat.mod_eq_of_lt secondBelow] at remainders

/-- A number below the limit of serial numbers is the place that its name names. -/
theorem NetId.ofCount_eq_iff {count : Nat} (below : count < UInt32.size) {net : NetId} :
    NetId.ofCount count = net ↔ net.serial.toNat = count := by
  have small : net.serial.toNat < UInt32.size := net.serial.toNat_lt
  constructor
  · rintro rfl
    exact UInt32.toNat_ofNat_of_lt' below
  · rintro rfl
    exact congrArg NetId.mk (UInt32.ofNat_toNat)

/-- Some net was opened under a serial number. -/
def TraceLog.Issued (log : TraceLog) (id : NetId) : Prop :=
  ∃ count < log.opened, id = .ofCount count

/-- A name that was issued stays issued as more nets are opened. -/
theorem TraceLog.Issued.mono {before after : TraceLog} {id : NetId} (issued : before.Issued id)
    (opened : before.opened ≤ after.opened) : after.Issued id := by
  obtain ⟨count, below, same⟩ := issued
  exact ⟨count, below.trans_le opened, same⟩

private theorem TraceLog.issued_next (log : TraceLog) (face : Face) :
    (log.openAt face).Issued log.next :=
  ⟨log.opened, Nat.lt_succ_self _, rfl⟩

/-- The net that a task is on behalf of. -/
def TraceTask.net : TraceTask → NetId
  | follow net _ => net
  | branch net _ _ => net

namespace Grid

variable {γ : Type} [Grid γ]

/-- The net with a serial number, as a log tells it. -/
def netOf (grid : γ) (log : TraceLog) (id : NetId) : Net where
  id := id
  members := (log.claims.entries.filter fun claim => claim.2 = id).map fun claim =>
    ⟨claim.1, roleAt grid claim.1⟩
  edges := (log.edges.reverse.filter fun edge => edge.1 = id).map Prod.snd

/-- The nets of a log are listed by the count of their names. -/
theorem netsOf_eq (grid : γ) (log : TraceLog) :
    netsOf grid log =
      (List.range (min log.opened UInt32.size)).map fun count =>
        netOf grid log (.ofCount count) := by
  unfold netsOf netOf
  simp only [Groups.get_ofList, List.filter_map, List.map_map]
  rfl

/-- The nets of a log are those of the names issued. -/
theorem mem_netsOf {grid : γ} {log : TraceLog} {net : Net} :
    net ∈ netsOf grid log ↔ log.Issued net.id ∧ net = netOf grid log net.id := by
  rw [netsOf_eq, List.mem_map]
  constructor
  · rintro ⟨count, below, rfl⟩
    rw [List.mem_range] at below
    exact ⟨⟨count, by omega, rfl⟩, rfl⟩
  · rintro ⟨⟨count, below, same⟩, told⟩
    refine ⟨count % UInt32.size, List.mem_range.mpr ?_, ?_⟩
    · have least := Nat.mod_le count UInt32.size
      have small := Nat.mod_lt count (show UInt32.size > 0 by decide)
      omega
    · rw [NetId.ofCount_mod, ← same, ← told]

/-- No two nets of a log have one name. -/
theorem nodup_ids_netsOf (grid : γ) (log : TraceLog) :
    ((netsOf grid log).map Net.id).Nodup := by
  rw [netsOf_eq, List.map_map]
  apply List.Nodup.map_on _ List.nodup_range
  intro first firstBelow second secondBelow same
  rw [List.mem_range] at firstBelow secondBelow
  exact NetId.ofCount_inj (by omega) (by omega) same

/-- The members of a net are the faces claimed for it, with their roles. -/
theorem mem_netOf_members {grid : γ} {log : TraceLog} {id : NetId} {member : NetMember} :
    member ∈ (netOf grid log id).members ↔
      log.claimed? member.face = some id ∧ member.role = roleAt grid member.face := by
  simp only [netOf, List.mem_map, List.mem_filter, decide_eq_true_eq]
  constructor
  · rintro ⟨⟨face, held⟩, ⟨listed, rfl⟩, rfl⟩
    exact ⟨Table.mem_entries.mp listed, rfl⟩
  · rintro ⟨claimed, role⟩
    refine ⟨(member.face, id), ⟨Table.mem_entries.mpr claimed, rfl⟩, ?_⟩
    rw [← role]

/-- The edges of a net are those recorded for it. -/
theorem mem_netOf_edges {grid : γ} {log : TraceLog} {id : NetId} {step : Pos × Pos} :
    step ∈ (netOf grid log id).edges ↔ (id, step) ∈ log.edges := by
  simp [netOf]

/-- The nets that a graph keeps are those of the log that can carry a signal. -/
theorem net?_netGraph {grid : γ} {log : TraceLog} {id : NetId} {net : Net} :
    (netGraph grid log).net? id = some net ↔
      log.Issued id ∧ net = netOf grid log id ∧ net.useful = true := by
  have distinct : ((((netsOf grid log).filter Net.useful).map fun net => (net.id, net)).map
      Prod.fst).Nodup := by
    rw [List.map_map]
    exact ((nodup_ids_netsOf grid log).sublist (List.filter_sublist.map _))
  rw [netGraph, NetGraph.ofNets, NetGraph.net?, Table.get?_ofList distinct, List.mem_map]
  constructor
  · rintro ⟨kept, member, same⟩
    obtain ⟨listed, useful⟩ := List.mem_filter.mp member
    obtain ⟨issued, told⟩ := mem_netsOf.mp listed
    simp only [Prod.mk.injEq] at same
    obtain ⟨rfl, rfl⟩ := same
    exact ⟨issued, told, useful⟩
  · rintro ⟨issued, rfl, useful⟩
    exact ⟨_, List.mem_filter.mpr ⟨mem_netsOf.mpr ⟨issued, rfl⟩, useful⟩, rfl⟩

/-- A face is attached to the net that claimed it, if that net is kept. -/
theorem netAt_netGraph {grid : γ} {log : TraceLog} {face : Face} {id : NetId} :
    (netGraph grid log).netAt face = some id ↔
      log.claimed? face = some id ∧ ∃ net, (netGraph grid log).net? id = some net := by
  have distinct : (log.claims.entries.map Prod.fst).Nodup := by
    rw [Table.map_fst_entries]
    exact log.claims.nodup_keys
  have kept := distinct.sublist (List.filter_sublist (p := fun attachment =>
    (netGraph grid log).byId.contains attachment.2).map Prod.fst)
  rw [← Option.isSome_iff_exists]
  rw [NetGraph.net?, ← Table.contains_eq_isSome]
  change (Table.ofList _).get? face = some id ↔ _
  exact (Table.get?_ofList kept).trans (List.mem_filter.trans (and_congr_left' Table.mem_entries))

/-- What the graph of a trace says about a grid: which net is at which face, and
which faces are on a net. -/
structure GraphOf (grid : γ) (graph : NetGraph) : Prop where
  net_id : ∀ {id net}, graph.net? id = some net → net.id = id
  kept : ∀ {face id}, graph.netAt face = some id → ∃ net, graph.net? id = some net
  mem_members : ∀ {id net member}, graph.net? id = some net →
    (member ∈ net.members ↔
      graph.netAt member.face = some id ∧ member.role = roleAt grid member.face)
  useful : ∀ {id net}, graph.net? id = some net → net.useful = true

/-- The graph of a log is one of its grid. -/
theorem graphOf_netGraph (grid : γ) (log : TraceLog) : GraphOf grid (netGraph grid log) where
  net_id found := by
    obtain ⟨_, rfl, _⟩ := net?_netGraph.mp found
    rfl
  kept attached := (netAt_netGraph.mp attached).2
  mem_members {id net member} found := by
    obtain ⟨_, rfl, _⟩ := net?_netGraph.mp found
    rw [mem_netOf_members, netAt_netGraph]
    exact ⟨fun ⟨claimed, role⟩ => ⟨⟨claimed, _, found⟩, role⟩,
      fun ⟨⟨claimed, _⟩, role⟩ => ⟨claimed, role⟩⟩
  useful found := (net?_netGraph.mp found).2.2

/-- The net graph of a trace is that of its log. -/
theorem trace_ok {grid : γ} {members : List Pos} {recordEdges : Bool} {graph : NetGraph}
    (traced : trace grid members recordEdges = .ok graph) :
    ∃ log, traceLog grid members recordEdges = .ok log ∧ netGraph grid log = graph := by
  unfold trace at traced
  cases logged : traceLog grid members recordEdges with
  | error conflict => simp [logged, Except.map] at traced
  | ok log =>
      simp only [logged, Except.map, Except.ok.injEq] at traced
      exact ⟨log, rfl, traced⟩

/-- What a trace comes to is a graph of its grid. -/
theorem graphOf_trace {grid : γ} {members : List Pos} {recordEdges : Bool} {graph : NetGraph}
    (traced : trace grid members recordEdges = .ok graph) : GraphOf grid graph := by
  obtain ⟨log, _, rfl⟩ := trace_ok traced
  exact graphOf_netGraph grid log

namespace GraphOf

variable {grid : γ} {graph : NetGraph}

/-- A face drives a net when it is attached to it and its role is to drive. -/
theorem mem_drivers (graphOf : GraphOf grid graph) {id : NetId} {net : Net} {face : Face}
    (found : graph.net? id = some net) :
    face ∈ net.drivers ↔ graph.netAt face = some id ∧ (roleAt grid face).drives = true := by
  simp only [Net.drivers, List.mem_map, List.mem_filter]
  constructor
  · rintro ⟨member, ⟨listed, drives⟩, rfl⟩
    obtain ⟨attached, role⟩ := (graphOf.mem_members found).mp listed
    exact ⟨attached, role ▸ drives⟩
  · rintro ⟨attached, drives⟩
    exact ⟨⟨face, roleAt grid face⟩, ⟨(graphOf.mem_members found).mpr ⟨attached, rfl⟩, drives⟩, rfl⟩

end GraphOf

/-- No step closes a net. -/
theorem Advances.opened_le {grid : γ} {recordEdges : Bool} {before after : TraceState}
    (step : Advances grid recordEdges before after) : before.log.opened ≤ after.log.opened := by
  cases step with
  | work move => cases move <;> simp [TraceLog.openAt, TraceLog.claim]
  | pass => exact Nat.le_refl _
  | start => exact Nat.le_succ _

/-- Every net that faces are claimed for, or that a task is on behalf of, was opened. -/
structure Numbered (state : TraceState) : Prop where
  claims : ∀ face id, state.log.claimed? face = some id → state.log.Issued id
  tasks : ∀ task ∈ state.tasks, state.log.Issued task.net

private theorem Numbered.grow {before after : TraceState} (numbered : Numbered before)
    (opened : before.log.opened ≤ after.log.opened)
    (claims : ∀ face id, after.log.claimed? face = some id →
      before.log.claimed? face = some id ∨ after.log.Issued id)
    (tasks : ∀ task ∈ after.tasks, task ∈ before.tasks ∨ after.log.Issued task.net) :
    Numbered after := by
  constructor
  · intro face id claimed
    rcases claims face id claimed with old | new
    · exact (numbered.claims face id old).mono opened
    · exact new
  · intro task member
    rcases tasks task member with old | new
    · exact (numbered.tasks task old).mono opened
    · exact new

/-- Advancing keeps the nets numbered. -/
theorem Numbered.advance {grid : γ} {recordEdges : Bool} {before after : TraceState}
    (numbered : Numbered before) (step : Advances grid recordEdges before after) :
    Numbered after := by
  have newClaim : ∀ {log : TraceLog} {face other : Face} {net id : NetId},
      (log.claim net face).claimed? other = some id →
        log.claimed? other = some id ∨ id = net := by
    intro log face other net id claimed
    rw [TraceLog.claimed?_claim] at claimed
    by_cases same : other = face
    · rw [if_pos same] at claimed
      exact Or.inr (Option.some.inj claimed).symm
    · rw [if_neg same] at claimed
      exact Or.inl claimed
  have opened := step.opened_le
  cases step with
  | @work roots task rest tasks log after move =>
      have issued := TraceLog.Issued.mono (numbered.tasks task List.mem_cons_self) opened
      cases move with
      | breaksOff | returns =>
          apply numbered.grow opened
          · exact fun face id claimed => Or.inl (by rwa [claimed?_noted] at claimed)
          · exact fun other member => Or.inl (List.mem_cons_of_mem _ member)
      | arrives =>
          apply numbered.grow opened
          · intro other id claimed
            rcases newClaim claimed with old | rfl
            · exact Or.inl (by rwa [claimed?_noted] at old)
            · exact Or.inr issued
          · rintro other (_ | ⟨_, member⟩)
            · exact Or.inr issued
            · exact Or.inl (List.mem_cons_of_mem _ member)
      | settles =>
          apply numbered.grow opened
          · exact fun face id claimed => Or.inl claimed
          · exact fun other member => Or.inl (List.mem_cons_of_mem _ member)
      | prolongs =>
          apply numbered.grow opened
          · intro other id claimed
            rcases newClaim claimed with old | rfl
            · exact Or.inl old
            · exact Or.inr issued
          · rintro other (_ | ⟨_, _ | ⟨_, member⟩⟩)
            · exact Or.inr issued
            · exact Or.inr issued
            · exact Or.inl (List.mem_cons_of_mem _ member)
      | @opens net pos pending skipped left direction =>
          have next := TraceLog.issued_next log ⟨pos, direction⟩
          apply numbered.grow opened
          · intro other id claimed
            rcases newClaim claimed with old | rfl
            · exact Or.inl old
            · exact Or.inr next
          · rintro other (_ | ⟨_, _ | ⟨_, member⟩⟩)
            · exact Or.inr next
            · exact Or.inr issued
            · exact Or.inl (List.mem_cons_of_mem _ member)
  | pass => exact numbered.grow opened (fun _ _ claimed => Or.inl claimed) fun _ => Or.inl
  | @start face roots log =>
      have next := TraceLog.issued_next log face
      apply numbered.grow opened
      · intro other id claimed
        rcases newClaim claimed with old | rfl
        · exact Or.inl old
        · exact Or.inr next
      · intro task member
        rw [List.mem_singleton.mp member]
        exact Or.inr next

/-- In each state of a trace the nets are numbered. -/
theorem TraceReaches.numbered {grid : γ} {recordEdges : Bool} {members : List Pos}
    {state : TraceState} (reached : TraceReaches grid recordEdges members state) :
    Numbered state := by
  refine reached.invariant ⟨?_, ?_⟩ fun numbered step => numbered.advance step
  · intro face id claimed
    simp at claimed
  · intro task member
    simp at member

end Grid

end VoxelCircuit

import VoxelCircuit.Proofs.Net.Graph
import VoxelCircuit.Proofs.Net.Opening

/-! # Serial numbers are places

A net is found by taking its serial number, a word of thirty-two bits, for its place in the list
of the nets opened. In a voxel grid this is sound throughout a trace: so few nets are opened
that no serial number comes around (`VoxelCircuit.Grid.voxelGrid_serials`), although six faces
for each of the cells of the largest grid are more than there are words.
-/

namespace VoxelCircuit

open Relation

/-- The serial number of a net opened within the first round is the number of those before it. -/
theorem NetId.toNat_ofCount {count : Nat} (below : count < UInt32.size) :
    (NetId.ofCount count).serial.toNat = count := by
  simp only [NetId.ofCount, Nat.toUInt32_eq, UInt32.toNat_ofNat']
  exact Nat.mod_eq_of_lt below

/-- A net that goes on from another: the same serial number, and all that was attached and
walked, in its order. -/
structure Net.Continues (before after : Net) : Prop where
  id : after.id = before.id
  members : before.members <+: after.members
  edges : before.edges <+: after.edges

/-- A log that goes on from another: no net is lost, and what was claimed and walked stays. -/
structure TraceLog.Continues (before after : TraceLog) : Prop where
  opened : before.opened ≤ after.opened
  claims : before.claims.entries <+: after.claims.entries
  edges : before.edges <:+ after.edges

namespace TraceLog.Continues

/-- A log continues itself. -/
protected theorem refl (log : TraceLog) : log.Continues log :=
  ⟨Nat.le_refl _, List.prefix_rfl, List.suffix_rfl⟩

/-- To continue a log is transitive. -/
protected theorem trans {first second third : TraceLog} (before : first.Continues second)
    (after : second.Continues third) : first.Continues third :=
  ⟨before.opened.trans after.opened, before.claims.trans after.claims,
    before.edges.trans after.edges⟩

private theorem claim {log : TraceLog} {face : Face} (unclaimed : log.claimed? face = none)
    (net : NetId) : log.Continues (log.claim net face) where
  opened := Nat.le_refl _
  claims := by
    have absent : face ∉ log.claims.keys := by
      rw [Table.mem_keys_iff]
      rintro ⟨net, claimed⟩
      rw [TraceLog.claimed?, claimed] at unclaimed
      cases unclaimed
    change _ <+: (log.claims.insert face net).entries
    rw [Table.entries_insert_of_not_mem absent]
    exact List.prefix_append _ _
  edges := List.suffix_rfl

private theorem openAt {log : TraceLog} {face : Face} (unclaimed : log.claimed? face = none) :
    log.Continues (log.openAt face) :=
  ⟨Nat.le_succ _, (claim unclaimed log.next).claims, List.suffix_rfl⟩

private theorem noted {γ : Type} [Grid γ] (grid : γ) (recordEdges : Bool) (net : NetId)
    (face : Face) (log : TraceLog) : log.Continues (Grid.noted grid recordEdges net face log) := by
  unfold Grid.noted
  split
  · exact ⟨Nat.le_refl _, List.prefix_rfl, List.suffix_append _ _⟩
  · exact .refl log

end TraceLog.Continues

namespace Grid

variable {γ : Type} [Grid γ] {grid : γ} {recordEdges : Bool}

private theorem Advances.continues {before after : TraceState}
    (step : Advances grid recordEdges before after) : before.log.Continues after.log := by
  cases step with
  | work move =>
      cases move with
      | breaksOff | returns => exact .noted grid recordEdges _ _ _
      | arrives faces unclaimed =>
          exact (TraceLog.Continues.noted grid recordEdges _ _ _).trans
            (.claim (by rwa [claimed?_noted]) _)
      | settles => exact .refl _
      | prolongs split claimed unclaimed => exact .claim unclaimed _
      | opens split claimed unclaimed => exact .openAt unclaimed
  | pass => exact .refl _
  | start unclaimed => exact .openAt unclaimed

/-- The log goes on from what it was at every earlier state of a trace. -/
theorem continues_of_advances {before after : TraceState}
    (steps : ReflTransGen (Advances grid recordEdges) before after) :
    before.log.Continues after.log := by
  induction steps with
  | refl => exact .refl _
  | tail _ step ih => exact ih.trans step.continues

/-- What a log tells of a net goes on with the log. -/
theorem netOf_continues {before after : TraceLog} (later : before.Continues after) (id : NetId) :
    (netOf grid before id).Continues (netOf grid after id) where
  id := rfl
  members := (later.claims.filter _).map _
  edges := by
    have walked : before.edges.reverse <+: after.edges.reverse :=
      List.reverse_prefix.mpr later.edges
    exact (walked.filter _).map _

/-- While the serial numbers last, the net at a place is the one with its number. -/
theorem getElem?_netsOf {log : TraceLog} (few : log.opened < UInt32.size) {place : Nat}
    {net : Net} : (netsOf grid log)[place]? = some net ↔
      place < log.opened ∧ net = netOf grid log (.ofCount place) := by
  rw [netsOf_eq, Nat.min_eq_left few.le, List.getElem?_eq_some_iff]
  simp only [List.length_map, List.length_range, List.getElem_map, List.getElem_range,
    exists_prop, eq_comm]

/-- Serial numbers stand for the places of nets. The next one is the number of nets opened; there
are as many nets as were opened, each at the place of its serial number and none with that of
another; and where a face was claimed for a net, or a task is left to do for it, this net is at
the place of its serial number, with the face. -/
structure SerialsPlaced (grid : γ) (log : TraceLog) (tasks : List TraceTask) : Prop where
  next : log.next.serial.toNat = log.opened
  opened : (netsOf grid log).length = log.opened
  place : ∀ (place : Nat) (net : Net), (netsOf grid log)[place]? = some net →
    net.id.serial.toNat = place
  distinct : ((netsOf grid log).map Net.id).Nodup
  claims : ∀ face id, log.claimed? face = some id →
    ∃ net : Net, (netsOf grid log)[id.serial.toNat]? = some net ∧ net.id = id ∧
      ⟨face, roleAt grid face⟩ ∈ net.members
  tasks : ∀ task ∈ tasks, ∃ net : Net,
    (netsOf grid log)[task.net.serial.toNat]? = some net ∧ net.id = task.net

/-- Where fewer nets were opened than there are serial numbers, these stand for places. -/
theorem TraceReaches.serialsPlaced {members : List Pos} {state : TraceState}
    (reached : TraceReaches grid recordEdges members state)
    (few : state.log.opened < UInt32.size) : SerialsPlaced grid state.log state.tasks := by
  have issued : ∀ {id}, state.log.Issued id →
      (netsOf grid state.log)[id.serial.toNat]? = some (netOf grid state.log id) := by
    rintro id ⟨count, below, rfl⟩
    rw [NetId.toNat_ofCount (below.trans few)]
    exact (getElem?_netsOf few).mpr ⟨below, rfl⟩
  constructor
  · exact NetId.toNat_ofCount few
  · rw [netsOf_eq, List.length_map, List.length_range, Nat.min_eq_left few.le]
  · intro place net found
    obtain ⟨below, rfl⟩ := (getElem?_netsOf few).mp found
    exact NetId.toNat_ofCount (below.trans few)
  · exact nodup_ids_netsOf grid state.log
  · intro face id claimed
    exact ⟨_, issued (reached.numbered.claims face id claimed), rfl,
      mem_netOf_members.mpr ⟨claimed, rfl⟩⟩
  · intro task pending
    exact ⟨_, issued (reached.numbered.tasks task pending), rfl⟩

/-- While the serial numbers last, the net at a place stays there. -/
theorem getElem?_netsOf_of_advances {before after : TraceState}
    (steps : ReflTransGen (Advances grid recordEdges) before after)
    (few : after.log.opened < UInt32.size) {place : Nat} {net : Net}
    (found : (netsOf grid before.log)[place]? = some net) :
    ∃ later : Net, (netsOf grid after.log)[place]? = some later ∧ net.Continues later := by
  have onward := continues_of_advances steps
  obtain ⟨below, rfl⟩ := (getElem?_netsOf (onward.opened.trans_lt few)).mp found
  exact ⟨_, (getElem?_netsOf few).mpr ⟨below.trans_le onward.opened, rfl⟩,
    netOf_continues onward _⟩

/-- **Serial numbers do not come around.** A trace of a voxel grid comes to its end. It opens at
most one net for each square on and between the cells, which are fewer than there are serial
numbers; in all its states the serial numbers stand for places, and the net at a place is the
same from then on. -/
theorem voxelGrid_serials {ω : Type} [Grid ω] (grid : VoxelGrid (World ω)) (members : List Pos)
    (recordEdges : Bool) :
    grid.extent.squares < 2 ^ 32 ∧
      (∀ state, TraceReaches (World.voxel grid) recordEdges members state →
        state.log.opened ≤ grid.extent.squares ∧
          SerialsPlaced (World.voxel grid) state.log state.tasks) ∧
      (∀ before after, TraceReaches (World.voxel grid) recordEdges members before →
        ReflTransGen (Advances (World.voxel grid) recordEdges) before after →
          ∀ (place : Nat) (net : Net), (netsOf (World.voxel grid) before.log)[place]? = some net →
            ∃ later : Net, (netsOf (World.voxel grid) after.log)[place]? = some later ∧
              net.Continues later) ∧
      ∃ log, traceLog (World.voxel grid) members recordEdges = .ok log ∧
        TraceReaches (World.voxel grid) recordEdges members ⟨[], [], log⟩ := by
  refine ⟨grid.extent.squares_lt, fun state reached => ?_, fun before after reached steps => ?_, ?_⟩
  · exact ⟨reached.opened_le, reached.serialsPlaced reached.opened_lt_serials⟩
  · intro place net found
    have reachedAfter : TraceReaches _ _ _ after := reached.trans steps
    exact getElem?_netsOf_of_advances steps reachedAfter.opened_lt_serials found
  · obtain ⟨log, logged⟩ := traceLog_succeeds (enclosed_voxel grid) members recordEdges
    exact ⟨log, logged, traceLog_ok logged⟩

end Grid

end VoxelCircuit

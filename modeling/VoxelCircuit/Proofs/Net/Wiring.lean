import VoxelCircuit.Proofs.Net.Consistency
import VoxelCircuit.Proofs.Net.Coverage

/-! # Nets join what is wired

Whatever the grid, a net is one piece: between any two faces that a trace claims for it there
is a chain of joins, and each face on the way is claimed for it too
(`VoxelCircuit.Grid.trace_members_wired`). So no block reads what is not wired to it. Each
claim continues the net from a face that it holds already, or is the first of a net with a
serial number that is new; the latter takes that serial numbers have not come around.
-/

namespace VoxelCircuit.Grid

open Relation

variable {γ : Type} [Grid γ]

/-- Two faces that are joined are on a net. -/
def JoinedOn (grid : γ) (netAt : Face → Option NetId) (id : NetId) (first second : Face) : Prop :=
  Joined grid first second ∧ netAt first = some id ∧ netAt second = some id

private theorem Joined.symm {grid : γ} {first second : Face} (joined : Joined grid first second) :
    Joined grid second first := by
  rcases joined with forward | backward | ⟨same, junction⟩
  · exact Or.inr (Or.inl forward)
  · exact Or.inl backward
  · exact Or.inr (Or.inr ⟨same.symm, same ▸ junction⟩)

private theorem JoinedOn.mono {grid : γ} {before after : Face → Option NetId} {id : NetId}
    {first second : Face} (kept : ∀ face, before face = some id → after face = some id)
    (joined : JoinedOn grid before id first second) : JoinedOn grid after id first second :=
  ⟨joined.1, kept first joined.2.1, kept second joined.2.2⟩

/-- The faces claimed for each net are wired together, and all pending work goes on from a
claimed face of its net. -/
structure Wired (grid : γ) (state : TraceState) : Prop where
  follows : ∀ net face, .follow net face ∈ state.tasks → state.log.claimed? face = some net
  branches : ∀ net pos pending, .branch net pos pending ∈ state.tasks →
    ∃ direction, state.log.claimed? ⟨pos, direction⟩ = some net
  wired : ∀ net first second, state.log.claimed? first = some net →
    state.log.claimed? second = some net →
      ReflTransGen (JoinedOn grid state.log.claimed? net) first second

private theorem wired_initial (grid : γ) (members : List Pos) :
    Wired grid ⟨rootFaces grid members, [], .empty⟩ where
  follows _ _ member := by simp at member
  branches _ _ _ member := by simp at member
  wired _ _ _ claimed := by simp at claimed

/-- One more claim keeps nets wired when the face is joined to one that its net holds, or when
its net holds no other face. -/
theorem Wired.claim {grid : γ} {roots left : List Face} {tasks rest : List TraceTask}
    {log after : TraceLog} {net : NetId} {face : Face} (wired : Wired grid ⟨roots, tasks, log⟩)
    (unclaimed : log.claimed? face = none)
    (found : ∀ other, after.claimed? other = (log.claim net face).claimed? other)
    (joins : (∃ other, log.claimed? other = some net ∧ Joined grid other face) ∨
      ∀ other, log.claimed? other ≠ some net)
    (follows : ∀ held other, .follow held other ∈ rest →
      .follow held other ∈ tasks ∨ (held = net ∧ other = face))
    (branches : ∀ held pos pending, .branch held pos pending ∈ rest →
      (∃ before, .branch held pos before ∈ tasks) ∨ (held = net ∧ pos = face.pos)) :
    Wired grid ⟨left, rest, after⟩ := by
  have own : after.claimed? face = some net := by rw [found, TraceLog.claimed?_claim_self]
  have kept : ∀ other held, log.claimed? other = some held → after.claimed? other = some held := by
    intro other held claimed
    rw [found]
    exact TraceLog.claimed?_claim_of_some unclaimed claimed
  have cases : ∀ other held, after.claimed? other = some held →
      (other = face ∧ held = net) ∨ log.claimed? other = some held := by
    intro other held claimed
    rw [found, TraceLog.claimed?_claim] at claimed
    by_cases same : other = face
    · rw [if_pos same] at claimed
      exact Or.inl ⟨same, (Option.some.inj claimed).symm⟩
    · rw [if_neg same] at claimed
      exact Or.inr claimed
  have before : ∀ held first second, log.claimed? first = some held →
      log.claimed? second = some held →
        ReflTransGen (JoinedOn grid after.claimed? held) first second :=
    fun held first second firstClaimed secondClaimed =>
      ReflTransGen.mono (fun _ _ joined => JoinedOn.mono (fun other => kept other held) joined) _ _
        (wired.wired held first second firstClaimed secondClaimed)
  -- A face that the net held before is wired to the new one in both directions.
  have both : ∀ other, log.claimed? other = some net →
      ReflTransGen (JoinedOn grid after.claimed? net) other face ∧
        ReflTransGen (JoinedOn grid after.claimed? net) face other := by
    intro other claimed
    rcases joins with ⟨near, held, joined⟩ | none
    · exact ⟨(before net other near claimed held).tail ⟨joined, kept near net held, own⟩,
        (before net near other held claimed).head ⟨joined.symm, own, kept near net held⟩⟩
    · exact (none other claimed).elim
  constructor
  · intro held other member
    rcases follows held other member with old | ⟨rfl, rfl⟩
    · exact kept other held (wired.follows held other old)
    · exact own
  · intro held pos pending member
    rcases branches held pos pending member with ⟨earlier, old⟩ | ⟨rfl, rfl⟩
    · obtain ⟨direction, claimed⟩ := wired.branches held pos earlier old
      exact ⟨direction, kept _ held claimed⟩
    · exact ⟨face.direction, own⟩
  · intro held first second firstClaimed secondClaimed
    rcases cases first held firstClaimed with ⟨rfl, rfl⟩ | firstBefore
    · rcases cases second held secondClaimed with ⟨rfl, _⟩ | secondBefore
      · exact .refl
      · exact (both second secondBefore).2
    · rcases cases second held secondClaimed with ⟨rfl, rfl⟩ | secondBefore
      · exact (both first firstBefore).1
      · exact before held first second firstBefore secondBefore

/-- Work that claims nothing keeps nets wired. -/
theorem Wired.drop {grid : γ} {roots left : List Face} {tasks rest : List TraceTask}
    {log after : TraceLog} (wired : Wired grid ⟨roots, tasks, log⟩)
    (same : ∀ face, after.claimed? face = log.claimed? face)
    (subset : ∀ task ∈ rest, task ∈ tasks) : Wired grid ⟨left, rest, after⟩ := by
  have same : after.claimed? = log.claimed? := funext same
  constructor
  · intro net face member
    rw [same]
    exact wired.follows net face (subset _ member)
  · intro net pos pending member
    rw [same]
    exact wired.branches net pos pending (subset _ member)
  · simp only [same]
    exact wired.wired

/-- A net that is opened within the first round of serial numbers holds no face yet. -/
theorem Numbered.next_unclaimed {roots : List Face} {tasks : List TraceTask} {log : TraceLog}
    (numbered : Numbered ⟨roots, tasks, log⟩) (few : log.opened < UInt32.size) (face : Face) :
    log.claimed? face ≠ some log.next := by
  intro claimed
  obtain ⟨count, below, same⟩ := numbered.claims face _ claimed
  have equal : log.opened = count := NetId.ofCount_inj few (below.trans few) same
  exact Nat.lt_irrefl _ (equal ▸ below)

/-- Every step within the first round of serial numbers keeps nets wired. -/
theorem Wired.advance {grid : γ} {recordEdges : Bool} {before after : TraceState}
    (wired : Wired grid before) (numbered : Numbered before)
    (few : after.log.opened ≤ UInt32.size) (step : Advances grid recordEdges before after) :
    Wired grid after := by
  cases step with
  | @work roots task rest tasks log after move =>
      cases move with
      | breaksOff | returns =>
          exact wired.drop (fun other => claimed?_noted ..) fun _ => List.mem_cons_of_mem _
      | settles => exact wired.drop (fun _ => rfl) fun _ => List.mem_cons_of_mem _
      | @arrives net face target faces unclaimed =>
          have held := wired.follows net face List.mem_cons_self
          have found : ∀ other,
              ((noted grid recordEdges net face log).claim net target).claimed? other =
                (log.claim net target).claimed? other := fun other => by
            rw [TraceLog.claimed?_claim, TraceLog.claimed?_claim, claimed?_noted]
          apply wired.claim unclaimed found
          · exact Or.inl ⟨face, held, Or.inl faces⟩
          · rintro other place (_ | ⟨_, member⟩)
            exact Or.inl (List.mem_cons_of_mem _ member)
          · rintro other pos pending (_ | ⟨_, member⟩)
            · exact Or.inr ⟨rfl, rfl⟩
            · exact Or.inl ⟨pending, List.mem_cons_of_mem _ member⟩
      | @prolongs net pos pending skipped left direction split claimed unclaimed junction =>
          obtain ⟨known, held⟩ := wired.branches net pos pending List.mem_cons_self
          apply wired.claim unclaimed fun _ => rfl
          · exact Or.inl ⟨⟨pos, known⟩, held, Or.inr (Or.inr ⟨rfl, junction⟩)⟩
          · rintro other place (_ | ⟨_, _ | ⟨_, member⟩⟩)
            · exact Or.inr ⟨rfl, rfl⟩
            · exact Or.inl (List.mem_cons_of_mem _ member)
          · rintro other place later (_ | ⟨_, _ | ⟨_, member⟩⟩)
            · exact Or.inl ⟨pending, List.mem_cons_self⟩
            · exact Or.inl ⟨later, List.mem_cons_of_mem _ member⟩
      | @opens net pos pending skipped left direction split claimed unclaimed junction =>
          apply wired.claim unclaimed (TraceLog.claimed?_openAt log _)
          · exact Or.inr (numbered.next_unclaimed few)
          · rintro other place (_ | ⟨_, _ | ⟨_, member⟩⟩)
            · exact Or.inr ⟨rfl, rfl⟩
            · exact Or.inl (List.mem_cons_of_mem _ member)
          · rintro other place later (_ | ⟨_, _ | ⟨_, member⟩⟩)
            · exact Or.inl ⟨pending, List.mem_cons_self⟩
            · exact Or.inl ⟨later, List.mem_cons_of_mem _ member⟩
  | pass => exact wired.drop (fun _ => rfl) fun _ member => member
  | @start face roots log unclaimed =>
      apply wired.claim unclaimed (TraceLog.claimed?_openAt log _)
      · exact Or.inr (numbered.next_unclaimed few)
      · intro other place member
        cases List.mem_singleton.mp member
        exact Or.inr ⟨rfl, rfl⟩
      · intro other pos pending member
        simp at member

/-- Nets stay wired as long as serial numbers have not come around. -/
theorem TraceReaches.wired {grid : γ} {recordEdges : Bool} {members : List Pos}
    {state : TraceState} (reached : TraceReaches grid recordEdges members state)
    (few : state.log.opened ≤ UInt32.size) : Wired grid state := by
  induction reached with
  | refl => exact wired_initial grid members
  | tail before step ih =>
      exact (ih (step.opened_le.trans few)).advance (TraceReaches.numbered before) few step

/-- **Nets join what is wired and nothing else.** Whatever the grid and the blocks, when fewer
nets were opened than there are serial numbers, any two members of a net are connected by joins
between members of it. So a face that reads a net is connected by joins to each that drives
it. -/
theorem trace_members_wired {grid : γ} {members : List Pos} {recordEdges : Bool}
    {graph : NetGraph} {log : TraceLog} (traced : trace grid members recordEdges = .ok graph)
    (logged : traceLog grid members recordEdges = .ok log) (few : log.opened < UInt32.size) :
    (∀ id net, graph.net? id = some net → ∀ first ∈ net.members, ∀ second ∈ net.members,
      ReflTransGen (JoinedOn grid graph.netAt id) first.face second.face) ∧
    ∀ reader id net, graph.netAt reader = some id → graph.net? id = some net →
      ∀ driver ∈ net.drivers, ReflTransGen (Joined grid) driver reader := by
  obtain rfl : netGraph grid log = graph := by
    simpa [trace, logged, Except.map] using traced
  have wired := (traceLog_ok logged).wired few.le
  have attached : ∀ {id net}, (netGraph grid log).net? id = some net → ∀ first second,
      (netGraph grid log).netAt first = some id → (netGraph grid log).netAt second = some id →
        ReflTransGen (JoinedOn grid (netGraph grid log).netAt id) first second := by
    intro id net kept first second firstAt secondAt
    have path := wired.wired id first second (netAt_netGraph.mp firstAt).1
      (netAt_netGraph.mp secondAt).1
    refine ReflTransGen.mono (fun _ _ joined => JoinedOn.mono (fun face claimed => ?_) joined)
      _ _ path
    exact netAt_netGraph.mpr ⟨claimed, net, kept⟩
  have graphOf := graphOf_netGraph grid log
  constructor
  · intro id net kept first firstMember second secondMember
    exact attached kept _ _ ((graphOf.mem_members kept).mp firstMember).1
      ((graphOf.mem_members kept).mp secondMember).1
  · intro reader id net readerAt kept driver drives
    have driverAt := ((graphOf.mem_drivers kept).mp drives).1
    exact ReflTransGen.mono (fun _ _ joined => And.left joined) _ _
      (attached kept driver reader driverAt readerAt)

/-- The nets of the cropped row join what is wired: the indicator behind the junction reads the
pad out of bounds. -/
theorem croppedRow_members_wired :
    ∃ graph log, trace croppedRow croppedRowBlocks true = .ok graph ∧
      traceLog croppedRow croppedRowBlocks true = .ok log ∧ log.opened < UInt32.size ∧
        (∀ id net, graph.net? id = some net → ∀ first ∈ net.members, ∀ second ∈ net.members,
          ReflTransGen (JoinedOn croppedRow graph.netAt id) first.face second.face) ∧
        ReflTransGen (Joined croppedRow) ⟨⟨0, 0, 0⟩, .posX⟩ ⟨⟨3, 0, 0⟩, .negX⟩ := by
  have looks : (traceLog croppedRow croppedRowBlocks true).toOption.map (fun log =>
      (log.opened, (netGraph croppedRow log).netAt ⟨⟨3, 0, 0⟩, .negX⟩,
        ((netGraph croppedRow log).net? ⟨0⟩).map Net.drivers)) =
      some (21, some ⟨0⟩, some [⟨⟨0, 0, 0⟩, .posX⟩, ⟨⟨2, 0, 0⟩, .negX⟩, ⟨⟨2, 0, 0⟩, .posX⟩]) := by
    decide +kernel
  cases logged : traceLog croppedRow croppedRowBlocks true with
  | error conflict => simp [logged, Except.toOption] at looks
  | ok log =>
      simp only [logged, Except.toOption, Option.map_some, Option.some.injEq,
        Prod.mk.injEq] at looks
      obtain ⟨opened, reader, drivers⟩ := looks
      obtain ⟨net, kept, drives⟩ := Option.map_eq_some_iff.mp drivers
      have traced : trace croppedRow croppedRowBlocks true = .ok (netGraph croppedRow log) := by
        rw [trace, logged]
        rfl
      have few : log.opened < UInt32.size := by rw [opened]; decide
      obtain ⟨wired, received⟩ := trace_members_wired traced logged few
      refine ⟨_, log, traced, rfl, few, wired, received _ ⟨0⟩ net reader kept _ ?_⟩
      rw [drives]
      exact List.mem_cons_self

end VoxelCircuit.Grid

import VoxelCircuit.Proofs.Net.Progress

/-! # Facing faces share a net

In an enclosed grid a trace keeps faces that look at each other on one net: a
claimed face whose partner is not claimed for the same net is the face that the
topmost task is about to follow (`VoxelCircuit.Grid.Paired`). So no run ever comes
to a face of another net, and no trace fails.
-/

namespace VoxelCircuit.Grid

variable {γ : Type} [Grid γ]

/-- The face whose run is to be followed next. -/
def inFlight : List TraceTask → Option Face
  | .follow _ face :: _ => some face
  | _ => none

/-- Where no task follows a face, none is in flight. -/
theorem inFlight_eq_none {tasks : List TraceTask}
    (branches : ∀ net face, TraceTask.follow net face ∉ tasks) : inFlight tasks = none := by
  cases tasks with
  | nil => rfl
  | cons task rest =>
      cases task with
      | follow net face => exact (branches net face List.mem_cons_self).elim
      | branch => rfl

/-- What holds between the steps of a trace in an enclosed grid. Only the topmost task
follows a run, from a face claimed for its net; and each claimed face but this one has
its partner claimed for the same net. -/
structure Paired (grid : γ) (state : TraceState) : Prop where
  roots_active : ∀ face ∈ state.roots, activeBeyondWire grid face.pos = true
  claims_active : ∀ face net, state.log.claimed? face = some net →
    activeBeyondWire grid face.pos = true
  branches_active : ∀ net pos pending, .branch net pos pending ∈ state.tasks →
    activeBeyondWire grid pos = true
  follows_top : ∀ net face, .follow net face ∉ state.tasks.tail
  flying : ∀ net face, .follow net face ∈ state.tasks → state.log.claimed? face = some net
  partners : ∀ face net target, state.log.claimed? face = some net →
    inFlight state.tasks ≠ some face → facing? grid face = some target →
      state.log.claimed? target = some net

/-- The roots are the faces of the members that are neither wire nor junction. -/
theorem mem_rootFaces {grid : γ} {members : List Pos} {face : Face} :
    face ∈ rootFaces grid members ↔ face.pos ∈ members ∧
      activeBeyondWire grid face.pos = true ∧ behavior grid face.pos ≠ some .junction := by
  have logical : ∀ pos, ((behavior grid pos).any fun found => !found.isWire && !found.isJunction) =
      true ↔ activeBeyondWire grid pos = true ∧ behavior grid pos ≠ some .junction := by
    intro pos
    unfold activeBeyondWire
    cases behavior grid pos with
    | none => simp
    | some found => cases found <;> simp [Behavior.isWire, Behavior.isJunction]
  rw [rootFaces, List.mem_flatMap]
  constructor
  · rintro ⟨pos, kept, listed⟩
    obtain ⟨direction, _, rfl⟩ := List.mem_map.mp listed
    obtain ⟨member, holds⟩ := List.mem_filter.mp kept
    exact ⟨member, (logical pos).mp holds⟩
  · rintro ⟨member, holds⟩
    refine ⟨face.pos, List.mem_filter.mpr ⟨member, (logical face.pos).mpr holds⟩, ?_⟩
    exact List.mem_map.mpr ⟨face.direction, Direction.mem_all _, rfl⟩

private theorem paired_initial (grid : γ) (members : List Pos) :
    Paired grid ⟨rootFaces grid members, [], .empty⟩ where
  roots_active _ root := (mem_rootFaces.mp root).2.1
  claims_active _ _ claimed := by simp at claimed
  branches_active _ _ _ member := by simp at member
  follows_top _ _ member := by simp at member
  flying _ _ member := by simp at member
  partners _ _ _ claimed := by simp at claimed

/-- Claiming a face for the net of a run that is to be followed from it keeps faces
paired. -/
theorem Paired.launch {grid : γ} {roots left : List Face} {tasks rest : List TraceTask}
    {log after : TraceLog} {net : NetId} {face : Face} (paired : Paired grid ⟨roots, tasks, log⟩)
    (subset : ∀ face ∈ left, face ∈ roots)
    (grounded : inFlight tasks = none) (active : activeBeyondWire grid face.pos = true)
    (unclaimed : log.claimed? face = none) (claims : after.claims = (log.claim net face).claims)
    (branches : ∀ task ∈ rest, ∃ net pos pending, task = .branch net pos pending ∧
      activeBeyondWire grid pos = true) :
    Paired grid ⟨left, .follow net face :: rest, after⟩ := by
  have found : ∀ other, after.claimed? other = (log.claim net face).claimed? other := by
    intro other
    unfold TraceLog.claimed?
    rw [claims]
  constructor
  · exact fun face member => paired.roots_active face (subset face member)
  · intro other held claimed
    rw [found, TraceLog.claimed?_claim] at claimed
    by_cases same : other = face
    · rwa [same]
    · rw [if_neg same] at claimed
      exact paired.claims_active other held claimed
  · rintro held pos pending (_ | ⟨_, member⟩)
    obtain ⟨_, _, _, same, active⟩ := branches _ member
    cases same
    exact active
  · intro held other member
    obtain ⟨_, _, _, same, _⟩ := branches _ member
    cases same
  · rintro held other (_ | ⟨_, member⟩)
    · rw [found, TraceLog.claimed?_claim_self]
    · obtain ⟨_, _, _, same, _⟩ := branches _ member
      cases same
  · intro other held target claimed landed faces
    have different : other ≠ face := fun same => landed (same ▸ rfl)
    rw [found, TraceLog.claimed?_claim_of_ne _ _ different] at claimed
    rw [found]
    apply TraceLog.claimed?_claim_of_some unclaimed
    refine paired.partners other held target claimed ?_ faces
    simp [grounded]

/-- Working on the topmost task keeps faces paired. -/
theorem Paired.move {grid : γ} {recordEdges : Bool} (enclosed : Enclosed grid)
    {roots : List Face} {task : TraceTask} {rest tasks : List TraceTask} {log after : TraceLog}
    (paired : Paired grid ⟨roots, task :: rest, log⟩)
    (move : TraceMove grid recordEdges log task tasks after) :
    Paired grid ⟨roots, tasks ++ rest, after⟩ := by
  have restBranches : ∀ other ∈ rest, ∃ net pos pending, other = .branch net pos pending ∧
      activeBeyondWire grid pos = true := by
    intro other member
    cases other with
    | follow net face => exact (paired.follows_top net face member).elim
    | branch net pos pending =>
        exact ⟨net, pos, pending, rfl,
          paired.branches_active net pos pending (List.mem_cons_of_mem _ member)⟩
  have landed : inFlight rest = none := inFlight_eq_none fun net face => paired.follows_top net face
  -- A run that claims nothing leaves its own face paired, and all others as they were.
  have settled : ∀ {net : NetId} {face : Face}, task = .follow net face →
      (∀ target, facing? grid face = some target → log.claimed? target = some net) →
        Paired grid ⟨roots, rest, noted grid recordEdges net face log⟩ := by
    rintro net face rfl partner
    constructor
    · exact paired.roots_active
    · intro other held claimed
      rw [claimed?_noted] at claimed
      exact paired.claims_active other held claimed
    · intro held pos pending member
      exact paired.branches_active held pos pending (List.mem_cons_of_mem _ member)
    · intro held other member
      exact paired.follows_top held other (List.mem_of_mem_tail member)
    · intro held other member
      exact (paired.follows_top held other member).elim
    · intro other held target claimed _ faces
      rw [claimed?_noted] at claimed ⊢
      by_cases same : other = face
      · subst same
        have own := paired.flying net other List.mem_cons_self
        rw [partner target faces, ← own, claimed]
      · refine paired.partners other held target claimed ?_ faces
        exact fun equal => same (Option.some.inj equal).symm
  cases move with
  | breaksOff faces =>
      apply settled rfl
      intro target other
      rw [faces] at other
      cases other
  | returns faces claimed =>
      apply settled rfl
      intro target other
      rw [faces] at other
      cases other
      exact claimed
  | @arrives net face target faces unclaimed =>
      have own := paired.flying net face List.mem_cons_self
      have ownActive := paired.claims_active face net own
      have active := (facing?_eq_some_iff.mp faces).2.2.1
      have back := facing?_symm faces (enclosed.inside ownActive) ownActive
      have fresh : (noted grid recordEdges net face log).claimed? target = none := by
        rwa [claimed?_noted]
      constructor
      · exact paired.roots_active
      · intro other held claimed
        rw [TraceLog.claimed?_claim] at claimed
        by_cases same : other = target
        · rwa [same]
        · rw [if_neg same, claimed?_noted] at claimed
          exact paired.claims_active other held claimed
      · rintro held pos pending (_ | ⟨_, member⟩)
        · exact active
        · exact paired.branches_active held pos pending (List.mem_cons_of_mem _ member)
      · intro held other member
        exact paired.follows_top held other member
      · rintro held other (_ | ⟨_, member⟩)
        exact (paired.follows_top held other member).elim
      · intro other held third claimed _ faces'
        rw [TraceLog.claimed?_claim] at claimed
        by_cases same : other = target
        · subst same
          rw [if_pos rfl] at claimed
          rw [back] at faces'
          cases faces'
          rw [← claimed]
          apply TraceLog.claimed?_claim_of_some fresh
          rwa [claimed?_noted]
        · rw [if_neg same, claimed?_noted] at claimed
          by_cases mine : other = face
          · subst mine
            rw [faces] at faces'
            cases faces'
            rw [TraceLog.claimed?_claim_self, ← own, claimed]
          · apply TraceLog.claimed?_claim_of_some fresh
            rw [claimed?_noted]
            refine paired.partners other held third claimed ?_ faces'
            exact fun equal => mine (Option.some.inj equal).symm
  | settles claimed =>
      constructor
      · exact paired.roots_active
      · exact paired.claims_active
      · intro held pos pending member
        exact paired.branches_active held pos pending (List.mem_cons_of_mem _ member)
      · intro held other member
        exact paired.follows_top held other (List.mem_of_mem_tail member)
      · intro held other member
        exact (paired.follows_top held other member).elim
      · intro other held target claimed _ faces
        exact paired.partners other held target claimed (by simp [inFlight]) faces
  | @prolongs net pos pending skipped left direction split claimed unclaimed junction =>
      have active := paired.branches_active net pos pending List.mem_cons_self
      refine paired.launch (fun _ member => member) rfl active unclaimed rfl ?_
      rintro other (_ | ⟨_, member⟩)
      · exact ⟨net, pos, left, rfl, active⟩
      · exact restBranches other member
  | @opens net pos pending skipped left direction split claimed unclaimed junction =>
      have active := paired.branches_active net pos pending List.mem_cons_self
      refine paired.launch (fun _ member => member) rfl active unclaimed rfl ?_
      rintro other (_ | ⟨_, member⟩)
      · exact ⟨net, pos, left, rfl, active⟩
      · exact restBranches other member

/-- Every step keeps faces paired. -/
theorem Paired.advance {grid : γ} {recordEdges : Bool} (enclosed : Enclosed grid)
    {before after : TraceState} (paired : Paired grid before)
    (step : Advances grid recordEdges before after) : Paired grid after := by
  cases step with
  | work move => exact paired.move enclosed move
  | @pass face roots log claimed =>
      exact ⟨fun other member => paired.roots_active other (List.mem_cons_of_mem _ member),
        paired.claims_active, paired.branches_active, paired.follows_top, paired.flying,
        paired.partners⟩
  | @start face roots log unclaimed =>
      refine paired.launch (fun _ member => List.mem_cons_of_mem _ member) rfl
        (paired.roots_active face List.mem_cons_self) unclaimed rfl ?_
      simp

/-- In each state of a trace of an enclosed grid the claims are paired. -/
theorem TraceReaches.paired {grid : γ} {recordEdges : Bool} {members : List Pos}
    {state : TraceState} (enclosed : Enclosed grid)
    (reached : TraceReaches grid recordEdges members state) : Paired grid state :=
  reached.invariant (paired_initial grid members) fun paired step => paired.advance enclosed step

/-- A run never comes to a face that another net has claimed. -/
theorem Paired.same_net {grid : γ} (enclosed : Enclosed grid) {roots : List Face}
    {net existing : NetId} {face target : Face} {rest : List TraceTask} {log : TraceLog}
    (paired : Paired grid ⟨roots, .follow net face :: rest, log⟩)
    (faces : facing? grid face = some target) (claimed : log.claimed? target = some existing) :
    existing = net := by
  have own := paired.flying net face List.mem_cons_self
  have ownActive := paired.claims_active face net own
  have back := facing?_symm faces (enclosed.inside ownActive) ownActive
  have landed : inFlight (.follow net face :: rest) ≠ some target := fun same =>
    facing?_ne faces (Option.some.inj same).symm
  have shared := paired.partners target existing face claimed landed back
  rw [own] at shared
  exact (Option.some.inj shared).symm

/-- No trace of an enclosed grid fails. -/
theorem traceLog_succeeds {grid : γ} (enclosed : Enclosed grid) (members : List Pos)
    (recordEdges : Bool) : ∃ log, traceLog grid members recordEdges = .ok log := by
  cases traced : traceLog grid members recordEdges with
  | ok log => exact ⟨log, rfl⟩
  | error conflict =>
      obtain ⟨roots, task, rest, log, reached, failed⟩ := traceLog_error traced
      obtain ⟨net, face, target, existing, rfl, faces, claimed, different, _⟩ :=
        traceStep_eq_error_iff.mp failed
      exact (different ((reached.paired enclosed).same_net enclosed faces claimed)).elim

end VoxelCircuit.Grid

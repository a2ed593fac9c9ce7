import VoxelCircuit.Proofs.Net.Pairing

/-! # Every face is claimed

A trace claims every face of its roots, and of a block that it comes to it claims
all faces (`VoxelCircuit.Grid.TraceReaches.complete`). In between, a face that is
still unclaimed is a root to be tried, or a branch has it pending.
-/

namespace VoxelCircuit.Grid

variable {γ : Type} [Grid γ]

/-- No face is forgotten. A root is claimed or still to be tried; and once a face of a
block that is not a root is claimed, each of its faces is claimed or pending. -/
structure Accounted (grid : γ) (members : List Pos) (state : TraceState) : Prop where
  left : ∀ face ∈ state.roots, face ∈ rootFaces grid members
  roots : ∀ face ∈ rootFaces grid members,
    (state.log.claimed? face).isSome ∨ face ∈ state.roots
  branches : ∀ net pos pending, .branch net pos pending ∈ state.tasks →
    ∀ direction, direction ∈ pending ∨ (state.log.claimed? ⟨pos, direction⟩).isSome
  blocks : ∀ face, (state.log.claimed? face).isSome → face ∈ rootFaces grid members ∨
    ∀ direction, (state.log.claimed? ⟨face.pos, direction⟩).isSome ∨
      ∃ net pending, .branch net face.pos pending ∈ state.tasks ∧ direction ∈ pending

private theorem accounted_initial (grid : γ) (members : List Pos) :
    Accounted grid members ⟨rootFaces grid members, [], .empty⟩ where
  left _ member := member
  roots _ member := Or.inr member
  branches _ _ _ member := by simp at member
  blocks _ claimed := by simp at claimed

/-- The faces claimed after a claim are those before and the one claimed. -/
theorem isSome_claimed?_claim {log : TraceLog} (net : NetId) {face other : Face} :
    ((log.claim net face).claimed? other).isSome = true ↔
      other = face ∨ (log.claimed? other).isSome = true := by
  rw [TraceLog.claimed?_claim]
  by_cases same : other = face <;> simp [same]

/-- Dropping a task that branches do not depend on keeps faces accounted for. -/
theorem Accounted.drop {grid : γ} {members : List Pos} {roots : List Face} {task : TraceTask}
    {rest : List TraceTask} {log after : TraceLog}
    (accounted : Accounted grid members ⟨roots, task :: rest, log⟩)
    (same : ∀ face, after.claimed? face = log.claimed? face)
    (settled : ∀ net pos pending, task = .branch net pos pending →
      ∀ direction ∈ pending, (log.claimed? ⟨pos, direction⟩).isSome) :
    Accounted grid members ⟨roots, rest, after⟩ := by
  constructor
  · exact accounted.left
  · intro face root
    rw [same]
    exact accounted.roots face root
  · intro net pos pending member direction
    rw [same]
    exact accounted.branches net pos pending (List.mem_cons_of_mem _ member) direction
  · intro face claimed
    rw [same] at claimed
    rcases accounted.blocks face claimed with root | all
    · exact Or.inl root
    · refine Or.inr fun direction => ?_
      rw [same]
      rcases all direction with held | ⟨net, pending, _ | ⟨_, member⟩, pends⟩
      · exact Or.inl held
      · exact Or.inl (settled net face.pos pending rfl direction pends)
      · exact Or.inr ⟨net, pending, member, pends⟩

/-- A branch that goes on through one more face keeps faces accounted for. -/
theorem Accounted.branchOut {grid : γ} {members : List Pos} {roots : List Face}
    {rest : List TraceTask} {log after : TraceLog} {net other : NetId} {pos : Pos}
    {pending skipped left : List Direction} {direction : Direction}
    (accounted : Accounted grid members ⟨roots, .branch net pos pending :: rest, log⟩)
    (split : pending = skipped ++ direction :: left)
    (skips : ∀ other ∈ skipped, (log.claimed? ⟨pos, other⟩).isSome)
    (claims : after.claims = (log.claim other ⟨pos, direction⟩).claims) :
    Accounted grid members
      ⟨roots, .follow other ⟨pos, direction⟩ :: .branch net pos left :: rest, after⟩ := by
  have found : ∀ face, (after.claimed? face).isSome = true ↔
      face = ⟨pos, direction⟩ ∨ (log.claimed? face).isSome = true := by
    intro face
    rw [← isSome_claimed?_claim other]
    unfold TraceLog.claimed?
    rw [claims]
  have pendsOrHeld : ∀ turn, turn ∈ pending →
      turn ∈ left ∨ (after.claimed? ⟨pos, turn⟩).isSome = true := by
    intro turn pends
    rw [split, List.mem_append, List.mem_cons] at pends
    rcases pends with skips' | rfl | later
    · exact Or.inr ((found _).mpr (Or.inr (skips turn skips')))
    · exact Or.inr ((found _).mpr (Or.inl rfl))
    · exact Or.inl later
  constructor
  · exact accounted.left
  · intro face root
    rw [found]
    exact (accounted.roots face root).imp_left Or.inr
  · rintro held place pends (_ | ⟨_, _ | ⟨_, member⟩⟩) turn
    · rcases accounted.branches net pos pending List.mem_cons_self turn with pends | claimed
      · exact pendsOrHeld turn pends
      · exact Or.inr ((found _).mpr (Or.inr claimed))
    · rw [found]
      exact (accounted.branches held place pends (List.mem_cons_of_mem _ member) turn).imp_right
        Or.inr
  · intro face claimed
    rcases (found face).mp claimed with rfl | old
    · refine Or.inr fun turn => ?_
      rcases accounted.branches net pos pending List.mem_cons_self turn with pends | held
      · rcases pendsOrHeld turn pends with later | held
        · exact Or.inr ⟨net, left, by simp, later⟩
        · exact Or.inl held
      · exact Or.inl ((found _).mpr (Or.inr held))
    · rcases accounted.blocks face old with root | all
      · exact Or.inl root
      · refine Or.inr fun turn => ?_
        rcases all turn with held | ⟨net', pends', member, pends⟩
        · exact Or.inl ((found _).mpr (Or.inr held))
        · rcases List.mem_cons.mp member with same | below
          · cases same
            rcases pendsOrHeld turn pends with later | held
            · exact Or.inr ⟨net, left, by simp, later⟩
            · exact Or.inl held
          · exact Or.inr ⟨net', pends', by simp [below], pends⟩

private theorem Accounted.advance {grid : γ} {recordEdges : Bool} {members : List Pos}
    {before after : TraceState} (accounted : Accounted grid members before)
    (step : Advances grid recordEdges before after) : Accounted grid members after := by
  cases step with
  | @work roots task rest tasks log after move =>
      cases move with
      | breaksOff | returns =>
          exact accounted.drop (fun other => claimed?_noted ..) fun _ _ _ other => by cases other
      | settles claimed =>
          refine accounted.drop (fun _ => rfl) ?_
          rintro net pos pending same direction pends
          cases same
          exact claimed direction pends
      | @arrives net face target faces unclaimed =>
          have kept : Accounted grid members ⟨roots, rest, noted grid recordEdges net face log⟩ :=
            accounted.drop (fun other => claimed?_noted ..) fun _ _ _ other => by cases other
          constructor
          · exact kept.left
          · intro other root
            rw [isSome_claimed?_claim]
            exact (kept.roots other root).imp_left Or.inr
          · rintro held pos pending (_ | ⟨_, member⟩) direction
            · exact Or.inl (Direction.mem_all direction)
            · rw [isSome_claimed?_claim]
              exact (kept.branches held pos pending member direction).imp_right Or.inr
          · intro other claimed
            rcases (isSome_claimed?_claim _).mp claimed with rfl | old
            · exact Or.inr fun direction =>
                Or.inr ⟨net, Direction.all, by simp, Direction.mem_all direction⟩
            · rcases kept.blocks other old with root | all
              · exact Or.inl root
              · refine Or.inr fun direction => ?_
                rcases all direction with held | ⟨net', pending, member, pends⟩
                · exact Or.inl ((isSome_claimed?_claim _).mpr (Or.inr held))
                · exact Or.inr ⟨net', pending, List.mem_cons_of_mem _ member, pends⟩
      | prolongs split claimed => exact accounted.branchOut split claimed rfl
      | opens split claimed => exact accounted.branchOut split claimed rfl
  | @pass face roots log claimed =>
      constructor
      · exact fun other member => accounted.left other (List.mem_cons_of_mem _ member)
      · intro other root
        rcases accounted.roots other root with held | _ | ⟨_, later⟩
        · exact Or.inl held
        · exact Or.inl claimed
        · exact Or.inr later
      · exact accounted.branches
      · exact accounted.blocks
  | @start face roots log unclaimed =>
      have root := accounted.left face List.mem_cons_self
      constructor
      · exact fun other member => accounted.left other (List.mem_cons_of_mem _ member)
      · intro other root
        change ((log.claim log.next face).claimed? other).isSome = true ∨ _
        rw [isSome_claimed?_claim]
        rcases accounted.roots other root with held | _ | ⟨_, later⟩
        · exact Or.inl (Or.inr held)
        · exact Or.inl (Or.inl rfl)
        · exact Or.inr later
      · intro net pos pending member
        simp at member
      · intro other claimed
        change ((log.claim log.next face).claimed? other).isSome = true at claimed
        rcases (isSome_claimed?_claim _).mp claimed with rfl | old
        · exact Or.inl root
        · refine (accounted.blocks other old).imp_right fun all direction => ?_
          rcases all direction with held | ⟨_, _, member, _⟩
          · exact Or.inl ((isSome_claimed?_claim _).mpr (Or.inr held))
          · simp at member

/-- In each state of a trace all faces are accounted for. -/
theorem TraceReaches.accounted {grid : γ} {recordEdges : Bool} {members : List Pos}
    {state : TraceState} (reached : TraceReaches grid recordEdges members state) :
    Accounted grid members state :=
  reached.invariant (accounted_initial grid members) fun accounted step => accounted.advance step

/-- A trace claims all its roots, and all faces of each block of which it claims one. -/
theorem TraceReaches.complete {grid : γ} {recordEdges : Bool} {members : List Pos}
    {log : TraceLog} (reached : TraceReaches grid recordEdges members ⟨[], [], log⟩) :
    (∀ face ∈ rootFaces grid members, (log.claimed? face).isSome) ∧
      ∀ face, (log.claimed? face).isSome →
        ∀ direction, (log.claimed? ⟨face.pos, direction⟩).isSome := by
  have accounted := reached.accounted
  have roots : ∀ face ∈ rootFaces grid members, (log.claimed? face).isSome := fun face root =>
    (accounted.roots face root).resolve_right List.not_mem_nil
  refine ⟨roots, fun face claimed direction => ?_⟩
  rcases accounted.blocks face claimed with root | all
  · obtain ⟨member, kept⟩ := mem_rootFaces.mp root
    exact roots ⟨face.pos, direction⟩ (mem_rootFaces.mpr ⟨member, kept⟩)
  · exact (all direction).resolve_right fun ⟨_, _, member, _⟩ => List.not_mem_nil member

end VoxelCircuit.Grid

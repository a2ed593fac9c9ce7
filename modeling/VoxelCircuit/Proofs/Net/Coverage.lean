import VoxelCircuit.Proofs.Net.Completeness
import VoxelCircuit.Proofs.Net.Graph

/-! # What the nets of a trace cover

Whether a net covers all that is joined to it is a question of junctions. The faces
of a junction are claimed one after another, and what lies behind one of them is
traced before the next is claimed. If a run comes back meanwhile on behalf of another
net, the junction falls to two nets. This is the only way for joined faces to be on
different nets (`VoxelCircuit.Grid.netsCover_iff`).
-/

namespace VoxelCircuit.Grid

open Relation

variable {γ : Type} [Grid γ]

/-- Two faces are joined when the run from one of them comes to the other, or when
they are faces of the same junction. -/
def Joined (grid : γ) (first second : Face) : Prop :=
  facing? grid first = some second ∨ facing? grid second = some first ∨
    (first.pos = second.pos ∧ behavior grid first.pos = some .junction)

/-- The nets between some blocks cover what is joined: a driving and a reading face of
these blocks that are joined in any number of steps are on one net, and so are the
attached faces of each junction. -/
structure NetsCover (grid : γ) (members : List Pos) (graph : NetGraph) : Prop where
  connected : ∀ driver reader, driver.pos ∈ members → reader.pos ∈ members →
    roleAt grid driver = .output → roleAt grid reader = .input →
      ReflTransGen (Joined grid) driver reader →
        ∃ id net, graph.net? id = some net ∧ graph.netAt driver = some id ∧
          graph.netAt reader = some id
  junctions : ∀ pos, behavior grid pos = some .junction → ∀ first second firstId secondId,
    graph.netAt ⟨pos, first⟩ = some firstId → graph.netAt ⟨pos, second⟩ = some secondId →
      firstId = secondId

/-- The run to be followed next comes to a junction of which another net holds a
face. -/
def SplitsJunction (grid : γ) (state : TraceState) : Prop :=
  ∃ net face rest target direction held, state.tasks = .follow net face :: rest ∧
    facing? grid face = some target ∧ behavior grid target.pos = some .junction ∧
      state.log.claimed? ⟨target.pos, direction⟩ = some held ∧ held ≠ net

/-- All claimed faces of each junction are claimed for one net, which is that of every
branch that goes on from it. -/
structure Undivided (grid : γ) (state : TraceState) : Prop where
  roots : ∀ face ∈ state.roots, behavior grid face.pos ≠ some .junction
  whole : ∀ pos, behavior grid pos = some .junction → ∀ first second firstNet secondNet,
    state.log.claimed? ⟨pos, first⟩ = some firstNet →
      state.log.claimed? ⟨pos, second⟩ = some secondNet → firstNet = secondNet
  branches : ∀ net pos pending, .branch net pos pending ∈ state.tasks →
    ∃ direction, state.log.claimed? ⟨pos, direction⟩ = some net

/-- The first state of a trace is undivided. -/
theorem undivided_initial (grid : γ) (members : List Pos) :
    Undivided grid ⟨rootFaces grid members, [], .empty⟩ where
  roots _ root := (mem_rootFaces.mp root).2.2
  whole _ _ _ _ _ _ claimed := by simp at claimed
  branches _ _ _ member := by simp at member

/-- One more claim leaves junctions undivided when it agrees with the claims on the
same block, or is no claim on a junction. -/
theorem Undivided.claim {grid : γ} {roots left : List Face} {tasks rest : List TraceTask}
    {log after : TraceLog} {net : NetId} {face : Face}
    (undivided : Undivided grid ⟨roots, tasks, log⟩) (subset : ∀ face ∈ left, face ∈ roots)
    (unclaimed : log.claimed? face = none)
    (found : ∀ other, after.claimed? other = (log.claim net face).claimed? other)
    (agrees : behavior grid face.pos = some .junction → ∀ direction held,
      log.claimed? ⟨face.pos, direction⟩ = some held → held = net)
    (branches : ∀ held pos pending, .branch held pos pending ∈ rest →
      (∃ before, .branch held pos before ∈ tasks) ∨ (held = net ∧ pos = face.pos)) :
    Undivided grid ⟨left, rest, after⟩ := by
  -- On a junction, a claim that is found now is the new one or agrees with it.
  have one : ∀ pos, behavior grid pos = some .junction → ∀ direction held,
      after.claimed? ⟨pos, direction⟩ = some held →
        (pos = face.pos ∧ held = net) ∨
          (pos ≠ face.pos ∧ log.claimed? ⟨pos, direction⟩ = some held) := by
    intro pos junction direction held claimed
    rw [found, TraceLog.claimed?_claim] at claimed
    by_cases same : (⟨pos, direction⟩ : Face) = face
    · rw [if_pos same] at claimed
      exact Or.inl ⟨congrArg Face.pos same, (Option.some.inj claimed).symm⟩
    · rw [if_neg same] at claimed
      by_cases here : pos = face.pos
      · subst here
        exact Or.inl ⟨rfl, agrees junction direction held claimed⟩
      · exact Or.inr ⟨here, claimed⟩
  constructor
  · exact fun face member => undivided.roots face (subset face member)
  · intro pos junction first second firstNet secondNet firstClaimed secondClaimed
    rcases one pos junction first firstNet firstClaimed with ⟨here, rfl⟩ | ⟨away, old⟩
    · rcases one pos junction second secondNet secondClaimed with ⟨_, rfl⟩ | ⟨away, _⟩
      · rfl
      · exact (away here).elim
    · rcases one pos junction second secondNet secondClaimed with ⟨here, _⟩ | ⟨_, older⟩
      · exact (away here).elim
      · exact undivided.whole pos junction first second firstNet secondNet old older
  · intro held pos pending member
    rcases branches held pos pending member with ⟨before, old⟩ | ⟨rfl, rfl⟩
    · obtain ⟨direction, claimed⟩ := undivided.branches held pos before old
      refine ⟨direction, ?_⟩
      rw [found]
      exact TraceLog.claimed?_claim_of_some unclaimed claimed
    · refine ⟨face.direction, ?_⟩
      rw [found]
      exact TraceLog.claimed?_claim_self ..

/-- A step that splits no junction leaves junctions undivided. -/
theorem Undivided.advance {grid : γ} {recordEdges : Bool} {before after : TraceState}
    (undivided : Undivided grid before) (intact : ¬SplitsJunction grid before)
    (step : Advances grid recordEdges before after) : Undivided grid after := by
  cases step with
  | @work roots task rest tasks log after move =>
      cases move with
      | breaksOff | returns =>
          refine ⟨undivided.roots, ?_, ?_⟩
          · intro pos junction first second firstNet secondNet
            simp only [claimed?_noted]
            exact undivided.whole pos junction first second firstNet secondNet
          · intro held pos pending member
            simp only [claimed?_noted]
            exact undivided.branches held pos pending (List.mem_cons_of_mem _ member)
      | settles =>
          exact ⟨undivided.roots, undivided.whole, fun held pos pending member =>
            undivided.branches held pos pending (List.mem_cons_of_mem _ member)⟩
      | @arrives net face target faces unclaimed =>
          apply undivided.claim (fun _ member => member) unclaimed
          · intro other
            rw [TraceLog.claimed?_claim, TraceLog.claimed?_claim, claimed?_noted]
          · intro junction direction held claimed
            by_contra different
            exact intact ⟨net, face, rest, target, direction, held, rfl, faces, junction, claimed,
              different⟩
          · rintro held pos pending (_ | ⟨_, member⟩)
            · exact Or.inr ⟨rfl, rfl⟩
            · exact Or.inl ⟨pending, List.mem_cons_of_mem _ member⟩
      | @prolongs net pos pending skipped left direction split claimed unclaimed junction =>
          apply undivided.claim (fun _ member => member) unclaimed (fun _ => rfl)
          · intro junction turn held other
            obtain ⟨known, own⟩ := undivided.branches net pos pending List.mem_cons_self
            exact undivided.whole pos junction turn known held net other own
          · rintro held place later (_ | ⟨_, _ | ⟨_, member⟩⟩)
            · exact Or.inl ⟨pending, List.mem_cons_self⟩
            · exact Or.inl ⟨later, List.mem_cons_of_mem _ member⟩
      | @opens net pos pending skipped left direction split claimed unclaimed junction =>
          apply undivided.claim (fun _ member => member) unclaimed
            (TraceLog.claimed?_openAt log _)
          · exact fun other => (junction other).elim
          · rintro held place later (_ | ⟨_, _ | ⟨_, member⟩⟩)
            · exact Or.inl ⟨pending, List.mem_cons_self⟩
            · exact Or.inl ⟨later, List.mem_cons_of_mem _ member⟩
  | @pass face roots log claimed =>
      exact ⟨fun other member => undivided.roots other (List.mem_cons_of_mem _ member),
        undivided.whole, undivided.branches⟩
  | @start face roots log unclaimed =>
      apply undivided.claim (fun _ member => List.mem_cons_of_mem _ member) unclaimed
        (TraceLog.claimed?_openAt log _)
      · exact fun junction => (undivided.roots face List.mem_cons_self junction).elim
      · intro held pos pending member
        simp at member

private theorem TraceReaches.undivided {grid : γ} {recordEdges : Bool} {members : List Pos}
    {state : TraceState} (reached : TraceReaches grid recordEdges members state)
    (intact : ∀ state, TraceReaches grid recordEdges members state → ¬SplitsJunction grid state) :
    Undivided grid state := by
  induction reached with
  | refl => exact undivided_initial grid members
  | tail before step ih => exact ih.advance (intact _ before) step

/-- A junction of an enclosed grid that is split once stays split. -/
theorem SplitsJunction.divided {grid : γ} {recordEdges : Bool} {members : List Pos}
    {state : TraceState} {log : TraceLog} (enclosed : Enclosed grid)
    (reached : TraceReaches grid recordEdges members state)
    (last : TraceReaches grid recordEdges members ⟨[], [], log⟩)
    (splits : SplitsJunction grid state) :
    ∃ pos first second firstNet secondNet, behavior grid pos = some .junction ∧
      log.claimed? ⟨pos, first⟩ = some firstNet ∧ log.claimed? ⟨pos, second⟩ = some secondNet ∧
        firstNet ≠ secondNet := by
  obtain ⟨roots, tasks, current⟩ := state
  obtain ⟨net, face, rest, target, direction, held, rfl, faces, junction, claimed, different⟩ :=
    splits
  have later := reached.before_last last
  have paired := reached.paired enclosed
  have reaches : log.claimed? target = some net := by
    cases there : current.claimed? target with
    | some existing =>
        have same := paired.same_net enclosed faces there
        subst same
        exact claimed_of_advances later there
    | none =>
        have first : Advances grid recordEdges ⟨roots, .follow net face :: rest, current⟩
            ⟨roots, .branch net target.pos Direction.all :: rest,
              (noted grid recordEdges net face current).claim net target⟩ :=
          .work (.arrives faces there)
        rcases later.cases_head with same | ⟨next, step, onward⟩
        · cases same
        · rw [Advances.unique step first] at onward
          exact claimed_of_advances onward (TraceLog.claimed?_claim_self ..)
  exact ⟨target.pos, direction, target.direction, held, net, junction,
    claimed_of_advances later claimed, reaches, different⟩

/-- A face with a role is one of a block that is more than wire. -/
theorem roleAt_ne_none {grid : γ} {face : Face} (role : roleAt grid face ≠ .none) :
    activeBeyondWire grid face.pos = true := by
  rw [activeBeyondWire_iff]
  unfold roleAt at role
  cases there : behavior grid face.pos with
  | none => simp [there] at role
  | some found =>
      refine ⟨found, rfl, ?_⟩
      cases found <;> first | rfl | simp [there, Behavior.faceRole, Behavior.role] at role

private theorem roleAt_junction {grid : γ} {face : Face}
    (junction : behavior grid face.pos = some .junction) : roleAt grid face = .both := by
  simp [roleAt, junction, Behavior.faceRole, Behavior.role]

/-- What joining preserves at the end of a trace that leaves junctions undivided: the
net of a face, and of the face that a face of wire or air looks at. -/
theorem claimed_of_joined {grid : γ} {recordEdges : Bool} {members : List Pos} {log : TraceLog}
    (enclosed : Enclosed grid) (last : TraceReaches grid recordEdges members ⟨[], [], log⟩)
    (undivided : Undivided grid ⟨[], [], log⟩) {start face : Face} {net : NetId}
    (startActive : activeBeyondWire grid start.pos = true)
    (claimed : log.claimed? start = some net) (joined : ReflTransGen (Joined grid) start face) :
    (activeBeyondWire grid face.pos = true → log.claimed? face = some net) ∧
      (activeBeyondWire grid face.pos = false →
        ∀ target, facing? grid face = some target → log.claimed? target = some net) := by
  have paired := last.paired enclosed
  have partner : ∀ {first second : Face}, log.claimed? first = some net →
      facing? grid first = some second → log.claimed? second = some net :=
    fun held faces => paired.partners _ net _ held (by simp [inFlight]) faces
  induction joined with
  | refl => exact ⟨fun _ => claimed, fun inactive => by simp [startActive] at inactive⟩
  | @tail middle next _ join ih =>
      obtain ⟨own, ahead⟩ := ih
      rcases join with forward | backward | ⟨samePos, junction⟩
      · have active := (facing?_eq_some_iff.mp forward).2.2.1
        refine ⟨fun _ => ?_, fun inactive => by simp [active] at inactive⟩
        cases middleActive : activeBeyondWire grid middle.pos with
        | true => exact partner (own middleActive) forward
        | false => exact ahead middleActive next forward
      · have middleActive := (facing?_eq_some_iff.mp backward).2.2.1
        constructor
        · intro active
          exact partner (own middleActive) (facing?_symm backward (enclosed.inside active) active)
        · intro _ target faces
          rw [backward] at faces
          cases faces
          exact own middleActive
      · have active : activeBeyondWire grid middle.pos = true :=
          activeBeyondWire_iff.mpr ⟨.junction, junction, rfl⟩
        rw [← samePos]
        refine ⟨fun _ => ?_, fun inactive => by simp [active] at inactive⟩
        have held := own active
        obtain ⟨other, found⟩ := Option.isSome_iff_exists.mp
          (last.complete.2 middle (by rw [held]; rfl) next.direction)
        have same := undivided.whole middle.pos junction middle.direction next.direction net other
          held found
        have place : next = ⟨middle.pos, next.direction⟩ := by rw [samePos]
        rw [place, found, same]

/-- A net with a driving and a reading face is kept, and so is one with a face of a
junction. -/
theorem useful_netOf {grid : γ} {log : TraceLog} {id : NetId} :
    (∀ driver reader, log.claimed? driver = some id → log.claimed? reader = some id →
      roleAt grid driver = .output → roleAt grid reader = .input →
        (netOf grid log id).useful = true) ∧
      ∀ face, log.claimed? face = some id → behavior grid face.pos = some .junction →
        (netOf grid log id).useful = true := by
  have member : ∀ face role, log.claimed? face = some id → roleAt grid face = role →
      (⟨face, role⟩ : NetMember) ∈ (netOf grid log id).members := fun face role claimed same =>
    mem_netOf_members.mpr ⟨claimed, same.symm⟩
  refine ⟨fun driver reader driverClaimed readerClaimed drives reads => ?_,
    fun face claimed junction => ?_⟩
  · simp only [Net.useful, Net.hasInput, Net.hasOutput, Bool.or_eq_true, Bool.and_eq_true,
      List.any_eq_true]
    exact Or.inl ⟨⟨_, member reader .input readerClaimed reads, by simp⟩,
      ⟨_, member driver .output driverClaimed drives, by simp⟩⟩
  · simp only [Net.useful, Net.hasBoth, Bool.or_eq_true, List.any_eq_true]
    exact Or.inr ⟨_, member face .both claimed (roleAt_junction junction), by simp⟩

/-- A claimed face is attached to its net if that can carry a signal. -/
theorem TraceReaches.attached {grid : γ} {members : List Pos} {recordEdges : Bool}
    {log : TraceLog} (last : TraceReaches grid recordEdges members ⟨[], [], log⟩) {face : Face}
    {id : NetId} (claimed : log.claimed? face = some id)
    (useful : (netOf grid log id).useful = true) :
    (netGraph grid log).net? id = some (netOf grid log id) ∧
      (netGraph grid log).netAt face = some id := by
  have found := net?_netGraph.mpr ⟨last.numbered.claims face id claimed, rfl, useful⟩
  exact ⟨found, netAt_netGraph.mpr ⟨claimed, _, found⟩⟩

/-- **Nets cover what is joined unless a junction is split.** In an enclosed grid the
nets of a trace cover all joins between the traced blocks exactly when no run, on its
way, comes to a junction of which another net holds a face. -/
theorem netsCover_iff {grid : γ} {members : List Pos} {recordEdges : Bool} {graph : NetGraph}
    (enclosed : Enclosed grid) (traced : trace grid members recordEdges = .ok graph) :
    NetsCover grid members graph ↔
      ∀ state, TraceReaches grid recordEdges members state → ¬SplitsJunction grid state := by
  obtain ⟨log, logged, rfl⟩ := trace_ok traced
  have last := traceLog_ok logged
  constructor
  · intro cover state reached splits
    obtain ⟨pos, first, second, firstNet, secondNet, junction, firstClaimed, secondClaimed,
      different⟩ := splits.divided enclosed reached last
    have firstAt := (last.attached firstClaimed
      (useful_netOf.2 ⟨pos, first⟩ firstClaimed junction)).2
    have secondAt := (last.attached secondClaimed
      (useful_netOf.2 ⟨pos, second⟩ secondClaimed junction)).2
    exact different
      (cover.junctions pos junction first second firstNet secondNet firstAt secondAt)
  · intro intact
    have undivided := last.undivided intact
    constructor
    · intro driver reader driverMember readerMember drives reads joined
      have driverActive : activeBeyondWire grid driver.pos = true :=
        roleAt_ne_none (by simp [drives])
      have readerActive : activeBeyondWire grid reader.pos = true :=
        roleAt_ne_none (by simp [reads])
      have root : driver ∈ rootFaces grid members :=
        mem_rootFaces.mpr ⟨driverMember, driverActive, fun junction => by
          rw [roleAt_junction junction] at drives
          cases drives⟩
      obtain ⟨id, driverClaimed⟩ := Option.isSome_iff_exists.mp (last.complete.1 driver root)
      have readerClaimed := (claimed_of_joined enclosed last undivided driverActive
        driverClaimed joined).1 readerActive
      have useful := useful_netOf.1 driver reader driverClaimed readerClaimed drives reads
      exact ⟨id, _, (last.attached driverClaimed useful).1,
        (last.attached driverClaimed useful).2, (last.attached readerClaimed useful).2⟩
    · intro pos junction first second firstId secondId firstAt secondAt
      exact undivided.whole pos junction first second firstId secondId
        (netAt_netGraph.mp firstAt).1 (netAt_netGraph.mp secondAt).1

end VoxelCircuit.Grid

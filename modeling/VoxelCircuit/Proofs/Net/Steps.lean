import VoxelCircuit.Proofs.Grid.Component
import VoxelCircuit.Proofs.Net.Consistency

/-! # Every step is walked once

A run through wire can be entered from either of its ends, and a wire is crossed along three
axes by different nets. But in an enclosed grid a run that is followed leads to a face that was
unclaimed before (`VoxelCircuit.Grid.TraceReaches.outbound`), and claims it; so no run is
followed from its other end as well. A step lies on no other run than these two, so it is
recorded once (`VoxelCircuit.Grid.voxelGrid_steps`).
-/

namespace VoxelCircuit

/-- How far a cell is along a direction. -/
def Pos.advance (pos : Pos) : Direction → Int
  | .posX => pos.x
  | .posY => pos.y
  | .posZ => pos.z
  | .negX => -pos.x
  | .negY => -pos.y
  | .negZ => -pos.z

private theorem Pos.advance_step (pos : Pos) (direction : Direction) :
    (pos.step direction).advance direction = pos.advance direction + 1 := by
  cases direction <;> simp only [step, Direction.vector, advance] <;> omega

private theorem Pos.step_injective (direction : Direction) :
    Function.Injective fun pos : Pos => pos.step direction := fun first second same => by
  rw [← Pos.step_opposite first direction, ← Pos.step_opposite second direction]
  exact congrArg (fun pos : Pos => pos.step direction.opposite) same

/-- Steps from one cell to one cell are along one direction. -/
theorem Pos.eq_of_step_eq {pos : Pos} {direction other : Direction}
    (same : pos.step direction = pos.step other) : direction = other := by
  have vectors : direction.vector = other.vector := by
    simp only [step, mk.injEq, Int.add_right_inj] at same
    exact Prod.ext same.1 (Prod.ext same.2.1 same.2.2)
  revert vectors
  cases direction <;> cases other <;> decide

/-- Steps that are not the same, in whichever direction they are taken. -/
def Apart (step other : Pos × Pos) : Prop :=
  step ≠ other ∧ step ≠ other.swap

private theorem Apart.symm {step other : Pos × Pos} (apart : Apart step other) : Apart other step :=
  ⟨apart.1.symm, fun same => apart.2 (by rw [same, Prod.swap_swap])⟩

/-- The steps of a straight walk, taken from its other end. -/
def backward (steps : List (Pos × Pos)) : List (Pos × Pos) :=
  (steps.map Prod.swap).reverse

namespace Grid

variable {γ : Type} [Grid γ] {grid : γ}

/-- A straight walk from one cell to another through wire alone, with its steps in order. -/
inductive StraightWalk (grid : γ) (direction : Direction) : Pos → Pos → List (Pos × Pos) → Prop
  | single (pos : Pos) :
      StraightWalk grid direction pos (pos.step direction) [(pos, pos.step direction)]
  | through {pos last : Pos} {steps : List (Pos × Pos)}
      (isWire : behavior grid (pos.step direction) = some .wire)
      (onward : StraightWalk grid direction (pos.step direction) last steps) :
      StraightWalk grid direction pos last ((pos, pos.step direction) :: steps)

/-- What the nets of a list record of the steps that were walked: a step joins two blocks that
lie face to face and both have a behavior; no step is recorded twice, by one net or by two, in
one direction or in both; and between two faces of a net at the ends of a straight walk through
wire, the steps are recorded together, in order from one of the ends. -/
structure StepsRecorded (grid : γ) (nets : List Net) : Prop where
  adjacent : ∀ net ∈ nets, ∀ step ∈ net.edges, Adjacent grid step.1 step.2
  once : (nets.flatMap Net.edges).Pairwise Apart
  between : ∀ net ∈ nets, ∀ first ∈ net.members, ∀ second ∈ net.members,
    second.face.direction = first.face.direction.opposite →
      ∀ steps, StraightWalk grid first.face.direction first.face.pos second.face.pos steps →
        steps <:+: net.edges ∨ backward steps <:+: net.edges

/-- The steps of the run from a face. -/
def runSteps (grid : γ) (face : Face) : List (Pos × Pos) :=
  (run grid face).edges face.pos

section Runs

variable {direction : Direction} {pos next last : Pos}

/-- Corridors along one direction to one cell that do not begin at wire begin at one cell. -/
theorem Corridor.unique_start {first second : Pos} (corridor : Corridor grid direction first last)
    (other : Corridor grid direction second last) (firstBlock : activeBeyondWire grid first = true)
    (secondBlock : activeBeyondWire grid second = true) : first = second := by
  have noWire : ∀ {pos : Pos}, activeBeyondWire grid pos = true →
      behavior grid pos ≠ some .wire := by
    intro pos block isWire
    rw [activeBeyondWire, isWire] at block
    cases block
  induction corridor with
  | step =>
      generalize reached : Pos.step first direction = last at other
      cases other with
      | step => exact Pos.step_injective direction reached
      | through before inside isWire =>
          obtain rfl := Pos.step_injective direction reached
          exact (noWire firstBlock isWire).elim
  | @through wire before inside isWire ih =>
      generalize reached : Pos.step wire direction = last at other
      cases other with
      | step =>
          obtain rfl := Pos.step_injective direction reached
          exact (noWire secondBlock isWire).elim
      | through alsoBefore =>
          obtain rfl := Pos.step_injective direction reached
          exact ih alsoBefore

private theorem runSteps_of_nothing
    (nothing : pos.step direction ∈ bounds grid → behavior grid (pos.step direction) = none) :
    runSteps grid ⟨pos, direction⟩ = [] := by
  rw [runSteps, run_of_nothing nothing]
  rfl

private theorem runSteps_of_wire (inside : pos.step direction ∈ bounds grid)
    (isWire : behavior grid (pos.step direction) = some .wire) :
    runSteps grid ⟨pos, direction⟩ =
      (pos, pos.step direction) :: runSteps grid ⟨pos.step direction, direction⟩ := by
  rw [runSteps, run_of_wire inside isWire]
  rfl

private theorem runSteps_of_block (inside : pos.step direction ∈ bounds grid) {found : Behavior}
    (there : behavior grid (pos.step direction) = some found) (notWire : found.isWire = false) :
    runSteps grid ⟨pos, direction⟩ = [(pos, pos.step direction)] := by
  rw [runSteps, run_of_block inside there notWire]
  rfl

/-- A step of a run goes on along it, in a corridor from the start, to a cell within the bounds
that has a behavior. -/
theorem mem_runSteps {step : Pos × Pos} (member : step ∈ runSteps grid ⟨pos, direction⟩) :
    step.2 = step.1.step direction ∧ Corridor grid direction pos step.2 ∧
      step.2 ∈ bounds grid ∧ active grid step.2 = true := by
  induction pos using run_induction grid direction with
  | nothing pos nothing =>
      rw [runSteps_of_nothing nothing] at member
      cases member
  | wire pos inside isWire ih =>
      rw [runSteps_of_wire inside isWire] at member
      rcases List.mem_cons.mp member with rfl | later
      · exact ⟨rfl, .step pos, inside, by rw [active, isWire]; rfl⟩
      · obtain ⟨step, corridor, within, present⟩ := ih later
        exact ⟨step, .cons inside isWire corridor, within, present⟩
  | block pos found inside there notWire =>
      rw [runSteps_of_block inside there notWire] at member
      obtain rfl := List.mem_singleton.mp member
      exact ⟨rfl, .step pos, inside, by rw [active, there]; rfl⟩

/-- A step of a run begins at the start of the run or at wire. -/
theorem start_of_mem_runSteps {step : Pos × Pos}
    (member : step ∈ runSteps grid ⟨pos, direction⟩) :
    step.1 = pos ∨ behavior grid step.1 = some .wire := by
  obtain ⟨onward, corridor, _, _⟩ := mem_runSteps member
  obtain ⟨first, second⟩ := step
  obtain rfl : second = first.step direction := onward
  generalize reached : first.step direction = last at corridor
  cases corridor with
  | step => exact Or.inl (Pos.step_injective direction reached)
  | through _ _ isWire =>
      obtain rfl := Pos.step_injective direction reached
      exact Or.inr isWire

private theorem adjacent_of_mem_runSteps {step : Pos × Pos} (present : active grid pos = true)
    (member : step ∈ runSteps grid ⟨pos, direction⟩) : Adjacent grid step.1 step.2 := by
  obtain ⟨onward, _, _, active⟩ := mem_runSteps member
  refine ⟨?_, active, direction, onward.symm⟩
  rcases start_of_mem_runSteps member with same | isWire
  · rwa [same]
  · rw [Grid.active, isWire]
    rfl

/-- The steps of a run are apart from each other, for each begins further along. -/
theorem runSteps_pairwise (grid : γ) (pos : Pos) (direction : Direction) :
    (runSteps grid ⟨pos, direction⟩).Pairwise Apart := by
  have further : (∀ step ∈ runSteps grid ⟨pos, direction⟩,
      pos.advance direction ≤ step.1.advance direction) ∧
        (runSteps grid ⟨pos, direction⟩).Pairwise
          fun step later => step.1.advance direction < later.1.advance direction := by
    induction pos using run_induction grid direction with
    | nothing pos nothing => simp [runSteps_of_nothing nothing]
    | wire pos inside isWire ih =>
        have next := pos.advance_step direction
        rw [runSteps_of_wire inside isWire]
        refine ⟨?_, List.pairwise_cons.mpr ⟨fun step later => ?_, ih.2⟩⟩
        · rintro step (_ | ⟨_, later⟩)
          · exact Int.le_refl _
          · have := ih.1 step later
            omega
        · have := ih.1 step later
          simp only
          omega
    | block pos found inside there notWire => simp [runSteps_of_block inside there notWire]
  refine further.2.imp_of_mem fun {step later} _ listed before => ⟨?_, ?_⟩
  · rintro rfl
    exact Int.lt_irrefl _ before
  · intro same
    have onward := (mem_runSteps listed).1
    have next := later.1.advance_step direction
    rw [← onward, ← show step.1 = later.2 from congrArg Prod.fst same] at next
    omega

end Runs

/-- Steps of the runs from two blocks are apart, unless the runs are from one face or from two
that look at each other. -/
theorem apart_of_mem_runSteps {face other : Face} {step otherStep : Pos × Pos}
    (member : step ∈ runSteps grid face) (otherMember : otherStep ∈ runSteps grid other)
    (block : activeBeyondWire grid face.pos = true)
    (otherBlock : activeBeyondWire grid other.pos = true)
    (inside : other.pos ∈ bounds grid) (different : other ≠ face)
    (unseen : facing? grid face ≠ some other) : Apart step otherStep := by
  obtain ⟨pos, direction⟩ := face
  obtain ⟨otherPos, otherDirection⟩ := other
  obtain ⟨onward, corridor, within, _⟩ := mem_runSteps member
  obtain ⟨otherOnward, otherCorridor, _, _⟩ := mem_runSteps otherMember
  obtain ⟨first, second⟩ := step
  simp only at onward corridor within
  constructor
  · rintro rfl
    simp only at otherOnward otherCorridor
    obtain rfl : direction = otherDirection := by
      rw [onward] at otherOnward
      exact Pos.eq_of_step_eq otherOnward
    apply different
    rw [corridor.unique_start otherCorridor block otherBlock]
  · intro same
    obtain rfl : otherStep = (second, first) := by rw [← Prod.swap_swap otherStep, ← same]; rfl
    simp only at otherOnward otherCorridor
    obtain rfl : otherDirection = direction.opposite := by
      have back : second.step direction.opposite = second.step otherDirection := by
        rw [← otherOnward, onward, Pos.step_opposite]
      exact (Pos.eq_of_step_eq back).symm
    apply unseen
    refine facing?_eq_some_iff.mpr ⟨?_, inside, otherBlock, rfl⟩
    have back := otherCorridor.reverse
    rw [Direction.opposite_opposite] at back
    rcases back.head with same | ⟨_, isWire, rest⟩
    · rw [show otherPos = second by rw [same, onward]]
      exact corridor
    · rw [← onward] at isWire rest
      exact corridor.trans within isWire rest

namespace StraightWalk

variable {direction : Direction} {pos last : Pos} {steps : List (Pos × Pos)}

private theorem snoc (walk : StraightWalk grid direction pos last steps)
    (isWire : behavior grid last = some .wire) :
    StraightWalk grid direction pos (last.step direction)
      (steps ++ [(last, last.step direction)]) := by
  induction walk with
  | single pos => exact .through isWire (.single _)
  | through passes _ ih => exact .through passes (ih isWire)

/-- A straight walk can be taken from its other end. -/
theorem back (walk : StraightWalk grid direction pos last steps) :
    StraightWalk grid direction.opposite last pos (backward steps) := by
  induction walk with
  | single pos =>
      have single : StraightWalk grid direction.opposite (pos.step direction) _ _ :=
        .single (pos.step direction)
      rwa [Pos.step_opposite] at single
  | @through pos last steps isWire onward ih =>
      have longer := ih.snoc isWire
      rw [Pos.step_opposite] at longer
      simpa only [backward, List.map_cons, List.reverse_cons, Prod.swap_prod_mk] using longer

variable (enclosed : Enclosed grid) (walk : StraightWalk grid direction pos last steps)
  (block : activeBeyondWire grid last = true)
include enclosed walk block

/-- A straight walk to a block is the run from its start. -/
theorem runSteps_eq : runSteps grid ⟨pos, direction⟩ = steps := by
  induction walk with
  | single pos =>
      obtain ⟨found, there, notWire⟩ := activeBeyondWire_iff.mp block
      exact runSteps_of_block (enclosed.inside block) there notWire
  | through isWire onward ih =>
      rw [runSteps_of_wire (enclosed.mem_bounds (by rw [active, isWire]; rfl)) isWire, ih block]

private theorem facing?_eq : facing? grid ⟨pos, direction⟩ = some ⟨last, direction.opposite⟩ := by
  refine facing?_eq_some_iff.mpr ⟨?_, enclosed.inside block, block, rfl⟩
  induction walk with
  | single pos => exact .step pos
  | through isWire onward ih =>
      exact .cons (enclosed.mem_bounds (by rw [active, isWire]; rfl)) isWire (ih block)

end StraightWalk

/-- A run that is to be followed leads to an unclaimed face, if to any. -/
def Outbound (grid : γ) (state : TraceState) : Prop :=
  ∀ net face target, .follow net face ∈ state.tasks → facing? grid face = some target →
    state.log.claimed? target = none

/-- A face that was unclaimed when no run was to be followed looks at an unclaimed face. -/
theorem Paired.unclaimed_target (enclosed : Enclosed grid) {roots : List Face}
    {tasks : List TraceTask} {log : TraceLog} (paired : Paired grid ⟨roots, tasks, log⟩)
    (grounded : inFlight tasks = none) {face target : Face}
    (block : activeBeyondWire grid face.pos = true) (unclaimed : log.claimed? face = none)
    (faces : facing? grid face = some target) (net : NetId) :
    (log.claim net face).claimed? target = none := by
  rw [TraceLog.claimed?_claim_of_ne _ _ (facing?_ne faces)]
  refine Option.eq_none_iff_forall_ne_some.mpr fun held claimed => ?_
  have partner := paired.partners target held face claimed (by simp [grounded])
    (facing?_symm faces (enclosed.inside block) block)
  rw [unclaimed] at partner
  cases partner

private theorem TraceReaches.outbound (enclosed : Enclosed grid) {recordEdges : Bool}
    {members : List Pos} {state : TraceState}
    (reached : TraceReaches grid recordEdges members state) : Outbound grid state := by
  induction reached with
  | refl => exact fun _ _ _ member => by cases member
  | @tail before after reached step _ =>
      have paired := TraceReaches.paired enclosed reached
      intro net face target pending faces
      cases step with
      | @work roots task rest tasks log after move =>
          have others : ∀ {net face}, .follow net face ∉ rest := paired.follows_top _ _
          cases move with
          | breaksOff | returns | settles => exact (others pending).elim
          | arrives =>
              rcases pending with _ | ⟨_, pending⟩
              exact (others pending).elim
          | prolongs split claimed unclaimed | opens split claimed unclaimed =>
              rcases pending with _ | ⟨_, _ | ⟨_, pending⟩⟩
              · exact paired.unclaimed_target enclosed rfl
                  (paired.branches_active _ _ _ List.mem_cons_self) unclaimed faces _
              · exact (others pending).elim
      | pass => cases pending
      | start unclaimed =>
          obtain same := List.mem_singleton.mp pending
          cases same
          exact paired.unclaimed_target enclosed rfl
            (paired.roots_active _ List.mem_cons_self) unclaimed faces _

/-- The steps of the run from a face stand together in a log, for a net. -/
def Kept (grid : γ) (log : TraceLog) (net : NetId) (face : Face) : Prop :=
  ((runSteps grid face).map fun step => (net, step)).reverse <:+: log.edges

/-- What holds of the recorded steps between the steps of a trace. Each lies on the run from a
claimed face that was followed; none is recorded twice; and of a claimed face that looks at
another, the run was followed from the one or the other. -/
structure Recorded (grid : γ) (state : TraceState) : Prop where
  origin : ∀ net step, (net, step) ∈ state.log.edges →
    ∃ face, state.log.claimed? face = some net ∧ inFlight state.tasks ≠ some face ∧
      step ∈ runSteps grid face
  once : (state.log.edges.map Prod.snd).Pairwise Apart
  between : ∀ face net target, state.log.claimed? face = some net →
    inFlight state.tasks ≠ some face → facing? grid face = some target →
      Kept grid state.log net face ∨ Kept grid state.log net target

/-- Claiming a face whose run is to be followed records nothing. -/
theorem Recorded.launch {roots left : List Face} {tasks rest : List TraceTask}
    {log after : TraceLog} {net : NetId} {face : Face}
    (recorded : Recorded grid ⟨roots, tasks, log⟩) (grounded : inFlight tasks = none)
    (unclaimed : log.claimed? face = none)
    (claims : ∀ other, after.claimed? other = (log.claim net face).claimed? other)
    (edges : after.edges = log.edges) :
    Recorded grid ⟨left, .follow net face :: rest, after⟩ := by
  constructor
  · intro held step member
    rw [edges] at member
    obtain ⟨other, claimed, _, onRun⟩ := recorded.origin held step member
    refine ⟨other, ?_, ?_, onRun⟩
    · rw [claims]
      exact TraceLog.claimed?_claim_of_some unclaimed claimed
    · rintro same
      cases same
      rw [unclaimed] at claimed
      cases claimed
  · rw [edges]
    exact recorded.once
  · intro other held target claimed landed faces
    have different : other ≠ face := fun same => landed (same ▸ rfl)
    rw [claims, TraceLog.claimed?_claim_of_ne _ _ different] at claimed
    have kept := recorded.between other held target claimed (by simp [grounded]) faces
    unfold Kept at kept ⊢
    rwa [edges]

/-- The steps of the run to be followed were not recorded, on this run or on that from its other
end. -/
theorem Recorded.fresh (enclosed : Enclosed grid) {roots : List Face} {rest : List TraceTask}
    {log : TraceLog} {net held : NetId} {face : Face} {step other : Pos × Pos}
    (recorded : Recorded grid ⟨roots, .follow net face :: rest, log⟩)
    (paired : Paired grid ⟨roots, .follow net face :: rest, log⟩)
    (outbound : Outbound grid ⟨roots, .follow net face :: rest, log⟩)
    (onRun : step ∈ runSteps grid face) (old : (held, other) ∈ log.edges) : Apart step other := by
  obtain ⟨origin, claimed, landed, onOther⟩ := recorded.origin held other old
  have block := paired.claims_active face net (paired.flying net face List.mem_cons_self)
  have originBlock := paired.claims_active origin held claimed
  refine apart_of_mem_runSteps onRun onOther block originBlock (enclosed.inside originBlock)
    (fun same => landed (same ▸ rfl)) fun faces => ?_
  rw [outbound net face origin List.mem_cons_self faces] at claimed
  cases claimed

/-- Following a run records its steps, which were not recorded before. -/
theorem Recorded.follow (enclosed : Enclosed grid) {roots : List Face} {rest tasks : List TraceTask}
    {log after : TraceLog} {net : NetId} {face : Face}
    (paired : Paired grid ⟨roots, .follow net face :: rest, log⟩)
    (outbound : Outbound grid ⟨roots, .follow net face :: rest, log⟩)
    (recorded : Recorded grid ⟨roots, .follow net face :: rest, log⟩)
    (grounded : inFlight tasks = none)
    (kept : ∀ other held, log.claimed? other = some held → after.claimed? other = some held)
    (claims : ∀ other held, after.claimed? other = some held →
      log.claimed? other = some held ∨ (facing? grid face = some other ∧ held = net))
    (edges : after.edges = (noted grid true net face log).edges) :
    Recorded grid ⟨roots, tasks, after⟩ := by
  have longer : after.edges =
      ((runSteps grid face).map fun step => (net, step)).reverse ++ log.edges := edges
  have own := paired.flying net face List.mem_cons_self
  have block := paired.claims_active face net own
  have before : ∀ {other held}, Kept grid log held other → Kept grid after held other := by
    intro other held infixed
    unfold Kept at infixed ⊢
    rw [longer]
    exact infixed.trans (List.suffix_append _ _).isInfix
  have now : Kept grid after net face := by
    unfold Kept
    rw [longer]
    exact (List.prefix_append _ _).isInfix
  constructor
  · intro held step member
    rw [longer, List.mem_append, List.mem_reverse, List.mem_map] at member
    rcases member with ⟨walked, onRun, same⟩ | old
    · cases same
      exact ⟨face, kept face net own, by simp [grounded], onRun⟩
    · obtain ⟨other, claimed, _, onRun⟩ := recorded.origin held step old
      exact ⟨other, kept other held claimed, by simp [grounded], onRun⟩
  · rw [longer, List.map_append, List.map_reverse, List.map_map]
    refine List.pairwise_append.mpr ⟨?_, recorded.once, ?_⟩
    · rw [List.pairwise_reverse]
      simpa [Function.comp_def] using
        (runSteps_pairwise grid face.pos face.direction).imp Apart.symm
    · intro step new other old
      obtain ⟨⟨held, _⟩, listed, rfl⟩ := List.mem_map.mp old
      exact recorded.fresh enclosed paired outbound (by simpa [Function.comp_def] using new) listed
  · intro other held target claimed _ faces
    rcases claims other held claimed with old | ⟨reached, rfl⟩
    · by_cases same : other = face
      · subst same
        rw [own] at old
        cases old
        exact Or.inl now
      · refine (recorded.between other held target old ?_ faces).imp before before
        exact fun flying => same (Option.some.inj flying).symm
    · have back := facing?_symm reached (enclosed.inside block) block
      rw [back] at faces
      cases faces
      exact Or.inr now

private theorem TraceReaches.recorded (enclosed : Enclosed grid) {members : List Pos}
    {state : TraceState} (reached : TraceReaches grid true members state) :
    Recorded grid state := by
  induction reached with
  | refl =>
      refine ⟨fun _ _ member => ?_, .nil, fun face net _ claimed => ?_⟩
      · cases member
      · simp at claimed
  | @tail before after reached step ih =>
      have paired := TraceReaches.paired enclosed reached
      have outbound := TraceReaches.outbound enclosed reached
      cases step with
      | @work roots task rest tasks log after move =>
          have landed : inFlight rest = none := inFlight_eq_none paired.follows_top
          cases move with
          | breaksOff | returns =>
              refine ih.follow enclosed paired outbound landed ?_ ?_ rfl
              · exact fun other held claimed => by rwa [claimed?_noted]
              · exact fun other held claimed => Or.inl (by rwa [claimed?_noted] at claimed)
          | @arrives net face target faces unclaimed =>
              have fresh : (noted grid true net face log).claimed? target = none := by
                rwa [claimed?_noted]
              refine ih.follow enclosed paired outbound rfl ?_ ?_ rfl
              · intro other held claimed
                exact TraceLog.claimed?_claim_of_some fresh (by rwa [claimed?_noted])
              · intro other held claimed
                rw [TraceLog.claimed?_claim, claimed?_noted] at claimed
                by_cases same : other = target
                · rw [if_pos same] at claimed
                  exact Or.inr ⟨same ▸ faces, (Option.some.inj claimed).symm⟩
                · rw [if_neg same] at claimed
                  exact Or.inl claimed
          | settles =>
              refine ⟨fun net step member => ?_, ih.once, fun face net target claimed _ faces => ?_⟩
              · obtain ⟨face, claimed, _, onRun⟩ := ih.origin net step member
                exact ⟨face, claimed, by simp [landed], onRun⟩
              · exact ih.between face net target claimed (by simp [inFlight]) faces
          | prolongs split claimed unclaimed | opens split claimed unclaimed =>
              exact ih.launch rfl unclaimed (fun _ => rfl) rfl
      | pass => exact ⟨ih.origin, ih.once, ih.between⟩
      | start unclaimed => exact ih.launch rfl unclaimed (fun _ => rfl) rfl

/-- Steps that stand together in a log stand together on their net, in order. -/
theorem Kept.infix_edges {log : TraceLog} {net : NetId} {face : Face}
    (kept : Kept grid log net face) : runSteps grid face <:+: (netOf grid log net).edges := by
  have forward : ((runSteps grid face).map fun step => (net, step)) <:+: log.edges.reverse := by
    rw [← List.reverse_infix, List.reverse_reverse]
    exact kept
  have chosen := (forward.filter fun edge => edge.1 = net).map Prod.snd
  simpa [netOf, List.filter_map, Function.comp_def] using chosen

/-- Steps that were recorded once stand on one net, once. -/
theorem Recorded.nets_once {state : TraceState} (recorded : Recorded grid state) :
    ((netsOf grid state.log).flatMap Net.edges).Pairwise Apart := by
  have once : state.log.edges.Pairwise fun edge other => Apart edge.2 other.2 :=
    List.pairwise_map.mp recorded.once
  have : Std.Symm fun edge other : NetId × Pos × Pos => Apart edge.2 other.2 :=
    ⟨fun _ _ => Apart.symm⟩
  refine List.pairwise_flatMap.mpr ⟨fun net opened => ?_, ?_⟩
  · rw [(mem_netsOf.mp opened).2, netOf, List.pairwise_map]
    refine List.Pairwise.filter _ (List.pairwise_reverse.mpr ?_)
    exact once.imp Apart.symm
  · refine (List.pairwise_map.mp (nodup_ids_netsOf grid state.log)).imp_of_mem ?_
    intro first second firstOpened secondOpened different step onFirst other onSecond
    rw [(mem_netsOf.mp firstOpened).2, mem_netOf_edges] at onFirst
    rw [(mem_netsOf.mp secondOpened).2, mem_netOf_edges] at onSecond
    exact once.forall onFirst onSecond fun same => different (congrArg Prod.fst same)

private theorem stepsRecorded_netsOf (enclosed : Enclosed grid) {members : List Pos}
    {log : TraceLog} (logged : traceLog grid members true = .ok log) :
    StepsRecorded grid (netsOf grid log) := by
  have last := traceLog_ok logged
  have recorded := last.recorded enclosed
  refine ⟨?_, recorded.nets_once, ?_⟩
  · intro net opened step member
    rw [(mem_netsOf.mp opened).2, mem_netOf_edges] at member
    obtain ⟨face, claimed, _, onRun⟩ := recorded.origin _ _ member
    exact adjacent_of_mem_runSteps
      (active_of_activeBeyondWire (last.claims_active (by rw [claimed]; rfl))) onRun
  · intro net opened first firstOn second secondOn turned steps walk
    rw [(mem_netsOf.mp opened).2] at firstOn secondOn ⊢
    have firstAt := (mem_netOf_members.mp firstOn).1
    have secondAt := (mem_netOf_members.mp secondOn).1
    have firstBlock := last.claims_active (by rw [firstAt]; rfl)
    have secondBlock := last.claims_active (by rw [secondAt]; rfl)
    have faces : facing? grid first.face = some second.face := by
      rw [walk.facing?_eq enclosed secondBlock, ← turned]
    have forward : runSteps grid first.face = steps := walk.runSteps_eq enclosed secondBlock
    have reverse : runSteps grid second.face = backward steps := by
      have back := walk.back.runSteps_eq enclosed firstBlock
      rwa [← turned] at back
    rw [← reverse, ← forward]
    exact (recorded.between _ _ _ firstAt (by simp [inFlight]) faces).imp Kept.infix_edges
      Kept.infix_edges

/-- **Every step is walked once.** In a voxel grid, whatever the blocks, the nets of a trace that
records steps have recorded each step between two blocks once at most, by one net in one
direction; and between two of its faces with nothing but wire between them a net has recorded
all steps in a row. -/
theorem voxelGrid_steps {ω : Type} [Grid ω] (grid : VoxelGrid (World ω)) (members : List Pos) :
    ∃ graph, trace (World.voxel grid) members true = .ok graph ∧
      StepsRecorded (World.voxel grid) graph.nets := by
  have enclosed := enclosed_voxel grid
  obtain ⟨log, logged⟩ := traceLog_succeeds enclosed members true
  have all := stepsRecorded_netsOf enclosed logged
  have kept : (netGraph (World.voxel grid) log).nets.Sublist (netsOf (World.voxel grid) log) := by
    rw [nets_netGraph]
    exact List.filter_sublist
  refine ⟨netGraph (World.voxel grid) log, by rw [trace, logged]; rfl, ?_, ?_, ?_⟩
  · exact fun net listed => all.adjacent net (kept.subset listed)
  · exact all.once.sublist (List.Sublist.flatMap kept _)
  · exact fun net listed => all.between net (kept.subset listed)

end Grid

end VoxelCircuit

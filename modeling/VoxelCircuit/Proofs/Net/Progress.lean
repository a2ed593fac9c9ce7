import Mathlib.Data.Finset.Card
import Mathlib.Data.Finset.Prod
import VoxelCircuit.Proofs.Net.Machine

/-! # Progress of a trace

A trace takes the machine from the roots to the end, or to the task that fails: the
number of steps it allows itself always suffices
(`VoxelCircuit.Grid.traceLog_ok`, `VoxelCircuit.Grid.traceLog_error`). Each move
drops a task, or pays for a new one with a claim, and only faces of members and of
blocks within the bounds are ever claimed.
-/

namespace VoxelCircuit.Grid

open Relation Relator

variable {γ : Type} [Grid γ]

/-- One step of the tracing machine: work on the topmost task, or pass over a root
that is claimed already, or open a net at the next root. -/
inductive Advances (grid : γ) (recordEdges : Bool) : TraceState → TraceState → Prop
  | work {roots : List Face} {task : TraceTask} {rest tasks : List TraceTask}
      {log after : TraceLog} (move : TraceMove grid recordEdges log task tasks after) :
      Advances grid recordEdges ⟨roots, task :: rest, log⟩ ⟨roots, tasks ++ rest, after⟩
  | pass {face : Face} {roots : List Face} {log : TraceLog}
      (claimed : (log.claimed? face).isSome) :
      Advances grid recordEdges ⟨face :: roots, [], log⟩ ⟨roots, [], log⟩
  | start {face : Face} {roots : List Face} {log : TraceLog}
      (unclaimed : log.claimed? face = none) :
      Advances grid recordEdges ⟨face :: roots, [], log⟩
        ⟨roots, [.follow log.next face], log.openAt face⟩

/-- The states that a trace of the nets between some blocks goes through. -/
def TraceReaches (grid : γ) (recordEdges : Bool) (members : List Pos) (state : TraceState) :
    Prop :=
  ReflTransGen (Advances grid recordEdges) ⟨rootFaces grid members, [], .empty⟩ state

/-- A property of the first state that every step keeps holds of every state that a
trace goes through. -/
theorem TraceReaches.invariant {grid : γ} {recordEdges : Bool} {members : List Pos}
    {holds : TraceState → Prop} (initial : holds ⟨rootFaces grid members, [], .empty⟩)
    (kept : ∀ {before after : TraceState}, holds before → Advances grid recordEdges before after →
      holds after)
    {state : TraceState} (reached : TraceReaches grid recordEdges members state) :
    holds state := by
  induction reached with
  | refl => exact initial
  | tail _ step ih => exact kept ih step

/-- A task makes one move. -/
theorem TraceMove.unique {grid : γ} {recordEdges : Bool} {log after other : TraceLog}
    {task : TraceTask} {tasks others : List TraceTask}
    (first : TraceMove grid recordEdges log task tasks after)
    (second : TraceMove grid recordEdges log task others other) :
    others = tasks ∧ other = after := by
  have same := (traceStep_eq_ok_iff.mpr second).symm.trans (traceStep_eq_ok_iff.mpr first)
  simpa using same

/-- The machine has one next state at most. -/
theorem Advances.unique {grid : γ} {recordEdges : Bool} :
    RightUnique (Advances grid recordEdges) := by
  intro before first second toFirst toSecond
  cases toFirst with
  | work move =>
      cases toSecond with
      | work other =>
          obtain ⟨rfl, rfl⟩ := move.unique other
          rfl
  | pass claimed =>
      cases toSecond with
      | pass => rfl
      | start unclaimed => simp [unclaimed] at claimed
  | start unclaimed =>
      cases toSecond with
      | pass claimed => simp [unclaimed] at claimed
      | start => rfl

/-- Every state of a trace comes before its last one. -/
theorem TraceReaches.before_last {grid : γ} {recordEdges : Bool} {members : List Pos}
    {state : TraceState} {log : TraceLog}
    (reached : TraceReaches grid recordEdges members state)
    (last : TraceReaches grid recordEdges members ⟨[], [], log⟩) :
    ReflTransGen (Advances grid recordEdges) state ⟨[], [], log⟩ := by
  rcases ReflTransGen.total_of_right_unique Advances.unique reached last with before | after
  · exact before
  · rcases after.cases_head with same | ⟨next, step, _⟩
    · rw [same]
    · cases step

/-- A step keeps all claims. -/
theorem Advances.claimed {grid : γ} {recordEdges : Bool} {before after : TraceState} {face : Face}
    {net : NetId} (step : Advances grid recordEdges before after)
    (claimed : before.log.claimed? face = some net) : after.log.claimed? face = some net := by
  cases step with
  | work move =>
      cases move with
      | breaksOff | returns => rwa [claimed?_noted]
      | arrives _ unclaimed =>
          apply TraceLog.claimed?_claim_of_some
          · rwa [claimed?_noted]
          · rwa [claimed?_noted]
      | settles => exact claimed
      | prolongs _ _ unclaimed => exact TraceLog.claimed?_claim_of_some unclaimed claimed
      | opens _ _ unclaimed => exact TraceLog.claimed?_claim_of_some unclaimed claimed
  | pass => exact claimed
  | start unclaimed => exact TraceLog.claimed?_claim_of_some unclaimed claimed

/-- A face that is claimed stays on its net. -/
theorem claimed_of_advances {grid : γ} {recordEdges : Bool} {before after : TraceState}
    {face : Face} {net : NetId} (steps : ReflTransGen (Advances grid recordEdges) before after)
    (claimed : before.log.claimed? face = some net) : after.log.claimed? face = some net := by
  induction steps with
  | refl => exact claimed
  | tail _ step ih => exact step.claimed ih

section Budget

/-- The faces that a trace may claim at most: those of the members and those of the
cells within the bounds. -/
def claimable (grid : γ) (members : List Pos) : Finset Face :=
  ((members ++ (bounds grid).positions).flatMap fun pos => Direction.all.map (Face.mk pos)).toFinset

/-- All faces within the bounds may be claimed. -/
theorem mem_claimable {grid : γ} (members : List Pos) {face : Face}
    (inside : face.pos ∈ bounds grid) : face ∈ claimable grid members := by
  rw [claimable, List.mem_toFinset, List.mem_flatMap]
  refine ⟨face.pos, List.mem_append_right _ (Box.mem_positions.mpr inside), ?_⟩
  exact List.mem_map.mpr ⟨face.direction, Direction.mem_all _, rfl⟩

/-- All faces of members may be claimed. -/
theorem mem_claimable_of_member (grid : γ) {members : List Pos} {face : Face}
    (member : face.pos ∈ members) : face ∈ claimable grid members := by
  rw [claimable, List.mem_toFinset, List.mem_flatMap]
  refine ⟨face.pos, List.mem_append_left _ member, ?_⟩
  exact List.mem_map.mpr ⟨face.direction, Direction.mem_all _, rfl⟩

/-- Each cell has six faces. -/
theorem length_faces (cells : List Pos) :
    (cells.flatMap fun pos => Direction.all.map (Face.mk pos)).length = 6 * cells.length := by
  induction cells with
  | nil => rfl
  | cons cell rest ih =>
      rw [List.flatMap_cons, List.length_append, ih, List.length_map, List.length_cons]
      change 6 + _ = _
      omega

/-- There are at most six faces to claim for each member and each cell. -/
theorem card_claimable_le (grid : γ) (members : List Pos) :
    (claimable grid members).card ≤ 6 * (members.length + (bounds grid).cardinality) := by
  apply (List.toFinset_card_le _).trans
  rw [length_faces, List.length_append, Box.length_positions]

/-- What is left to do, as a number: the pending tasks, and two for each face that
may still be claimed. -/
def workLeft (faces : Finset Face) (tasks : List TraceTask) (log : TraceLog) : Nat :=
  tasks.length + 2 * (faces.filter fun face => log.claimed? face = none).card

/-- Branches of pending work go on from blocks within the bounds. -/
def Confined (grid : γ) (tasks : List TraceTask) : Prop :=
  ∀ net pos pending, TraceTask.branch net pos pending ∈ tasks → pos ∈ bounds grid

/-- A claim leaves one face fewer to claim. -/
theorem card_unclaimed_claim {faces : Finset Face} {log : TraceLog} (net : NetId) {face : Face}
    (claimable : face ∈ faces) (unclaimed : log.claimed? face = none) :
    (faces.filter fun other => (log.claim net face).claimed? other = none).card + 1 =
      (faces.filter fun other => log.claimed? other = none).card := by
  have erased : (faces.filter fun other => (log.claim net face).claimed? other = none) =
      (faces.filter fun other => log.claimed? other = none).erase face := by
    ext other
    rw [Finset.mem_erase, Finset.mem_filter, Finset.mem_filter, TraceLog.claimed?_claim]
    by_cases same : other = face
    · simp [same]
    · simp [same]
  rw [erased]
  exact Finset.card_erase_add_one (Finset.mem_filter.mpr ⟨claimable, unclaimed⟩)

/-- A move leaves less to do. -/
theorem TraceMove.workLeft_lt {grid : γ} {recordEdges : Bool} (members : List Pos)
    {log after : TraceLog} {task : TraceTask} {rest tasks : List TraceTask}
    (move : TraceMove grid recordEdges log task tasks after)
    (confined : Confined grid (task :: rest)) :
    Confined grid (tasks ++ rest) ∧
      workLeft (claimable grid members) (tasks ++ rest) after <
        workLeft (claimable grid members) (task :: rest) log := by
  have others : Confined grid rest := fun net pos pending member =>
    confined net pos pending (List.mem_cons_of_mem _ member)
  cases move with
  | breaksOff | returns =>
      refine ⟨others, ?_⟩
      simp only [workLeft, claimed?_noted, List.nil_append, List.length_cons]
      omega
  | settles =>
      refine ⟨others, ?_⟩
      simp only [workLeft, List.nil_append, List.length_cons]
      omega
  | @arrives net face target faces unclaimed =>
      have inside := (facing?_eq_some_iff.mp faces).2.1
      constructor
      · rintro net pos pending (_ | ⟨_, member⟩)
        · exact inside
        · exact others net pos pending member
      · have fresh : (noted grid recordEdges net face log).claimed? target = none := by
          rwa [claimed?_noted]
        have fewer := card_unclaimed_claim net (mem_claimable members inside) fresh
        simp only [claimed?_noted] at fewer
        simp only [workLeft, List.cons_append, List.nil_append, List.length_cons]
        omega
  | @prolongs net pos pending skipped left direction split claimed unclaimed junction =>
      have inside := confined net pos pending List.mem_cons_self
      constructor
      · rintro net pos pending (_ | ⟨_, _ | ⟨_, member⟩⟩)
        · exact inside
        · exact others net pos pending member
      · have fewer := card_unclaimed_claim net (mem_claimable members inside) unclaimed
        simp only [workLeft, List.cons_append, List.nil_append, List.length_cons]
        omega
  | @opens net pos pending skipped left direction split claimed unclaimed junction =>
      have inside := confined net pos pending List.mem_cons_self
      constructor
      · rintro net pos pending (_ | ⟨_, _ | ⟨_, member⟩⟩)
        · exact inside
        · exact others net pos pending member
      · have fewer : ((claimable grid members).filter fun other =>
            (log.openAt ⟨pos, direction⟩).claimed? other = none).card + 1 = _ :=
          card_unclaimed_claim log.next (mem_claimable members inside) unclaimed
        simp only [workLeft, List.cons_append, List.nil_append, List.length_cons]
        omega

/-- With as many steps as there is work left, the tasks are worked off, or up to
one that fails. -/
theorem traceTasks_spec {grid : γ} (recordEdges : Bool) {members : List Pos} {steps : Nat}
    {tasks : List TraceTask} {log : TraceLog} (roots : List Face) (confined : Confined grid tasks)
    (enough : workLeft (claimable grid members) tasks log ≤ steps) :
    match traceTasks grid recordEdges steps tasks log with
    | .ok final =>
        ReflTransGen (Advances grid recordEdges) ⟨roots, tasks, log⟩ ⟨roots, [], final⟩
    | .error conflict => ∃ task rest at_,
        ReflTransGen (Advances grid recordEdges) ⟨roots, tasks, log⟩ ⟨roots, task :: rest, at_⟩ ∧
          traceStep grid recordEdges at_ task = .error conflict := by
  induction steps generalizing tasks log with
  | zero =>
      cases tasks with
      | nil => exact .refl
      | cons task rest => simp [workLeft] at enough
  | succ steps ih =>
      cases tasks with
      | nil => exact .refl
      | cons task rest =>
          rw [traceTasks]
          cases stepped : traceStep grid recordEdges log task with
          | error conflict => exact ⟨task, rest, log, .refl, stepped⟩
          | ok result =>
              obtain ⟨next, after⟩ := result
              have move := traceStep_eq_ok_iff.mp stepped
              obtain ⟨kept, fewer⟩ := move.workLeft_lt members confined
              have later := @ih (next ++ rest) after kept (by omega)
              have first : Advances grid recordEdges ⟨roots, task :: rest, log⟩
                  ⟨roots, next ++ rest, after⟩ := .work move
              simp only
              cases ended : traceTasks grid recordEdges steps (next ++ rest) after with
              | ok final =>
                  rw [ended] at later
                  exact .head first later
              | error conflict =>
                  rw [ended] at later
                  obtain ⟨failing, below, at_, reached, fails⟩ := later
                  exact ⟨failing, below, at_, .head first reached, fails⟩

/-- From each root in turn, with the budget of the trace, the machine comes to the
end, or to a task that fails. -/
theorem traceRoots_spec (grid : γ) (recordEdges : Bool) (members : List Pos) (roots : List Face)
    (log : TraceLog) :
    match traceRoots grid recordEdges (traceBudget grid members) roots log with
    | .ok final => ReflTransGen (Advances grid recordEdges) ⟨roots, [], log⟩ ⟨[], [], final⟩
    | .error conflict => ∃ left task rest at_,
        ReflTransGen (Advances grid recordEdges) ⟨roots, [], log⟩ ⟨left, task :: rest, at_⟩ ∧
          traceStep grid recordEdges at_ task = .error conflict := by
  induction roots generalizing log with
  | nil => exact .refl
  | cons face rest ih =>
      rw [traceRoots]
      by_cases claimed : (log.claimed? face).isSome = true
      · have later := ih log
        have first : Advances grid recordEdges ⟨face :: rest, [], log⟩ ⟨rest, [], log⟩ :=
          .pass claimed
        simp only [claimed, ↓reduceIte]
        cases ended : traceRoots grid recordEdges (traceBudget grid members) rest log with
        | ok final =>
            rw [ended] at later
            exact .head first later
        | error conflict =>
            rw [ended] at later
            obtain ⟨left, task, below, at_, reached, fails⟩ := later
            exact ⟨left, task, below, at_, .head first reached, fails⟩
      · have unclaimed : log.claimed? face = none := by simpa using claimed
        have first : Advances grid recordEdges ⟨face :: rest, [], log⟩
            ⟨rest, [.follow log.next face], log.openAt face⟩ := .start unclaimed
        have confined : Confined grid [.follow log.next face] := by
          intro net pos pending member
          simp at member
        have enough : workLeft (claimable grid members) [.follow log.next face]
            (log.openAt face) ≤ traceBudget grid members := by
          have few := card_claimable_le grid members
          have fewer := Finset.card_filter_le (claimable grid members)
            fun other => (log.openAt face).claimed? other = none
          simp only [workLeft, List.length_cons, List.length_nil, traceBudget]
          omega
        have worked := traceTasks_spec recordEdges rest confined enough
        simp only [claimed, ↓reduceIte, Bool.false_eq_true]
        cases ended : traceTasks grid recordEdges (traceBudget grid members)
            [.follow log.next face] (log.openAt face) with
        | error conflict =>
            rw [ended] at worked
            obtain ⟨task, below, at_, reached, fails⟩ := worked
            exact ⟨rest, task, below, at_, .head first reached, fails⟩
        | ok middle =>
            rw [ended] at worked
            have later := ih middle
            simp only
            cases final : traceRoots grid recordEdges (traceBudget grid members) rest middle with
            | ok log =>
                rw [final] at later
                exact .head first (worked.trans later)
            | error conflict =>
                rw [final] at later
                obtain ⟨left, task, below, at_, reached, fails⟩ := later
                exact ⟨left, task, below, at_, .head first (worked.trans reached), fails⟩

end Budget

/-- A trace that succeeds has come to its end. -/
theorem traceLog_ok {grid : γ} {members : List Pos} {recordEdges : Bool} {log : TraceLog}
    (traced : traceLog grid members recordEdges = .ok log) :
    TraceReaches grid recordEdges members ⟨[], [], log⟩ := by
  have spec := traceRoots_spec grid recordEdges members (rootFaces grid members) .empty
  unfold traceLog at traced
  rwa [traced] at spec

/-- A trace that fails has come to a task that fails. -/
theorem traceLog_error {grid : γ} {members : List Pos} {recordEdges : Bool}
    {conflict : NetConflict} (failed : traceLog grid members recordEdges = .error conflict) :
    ∃ roots task rest log,
      TraceReaches grid recordEdges members ⟨roots, task :: rest, log⟩ ∧
        traceStep grid recordEdges log task = .error conflict := by
  have spec := traceRoots_spec grid recordEdges members (rootFaces grid members) .empty
  unfold traceLog at failed
  rwa [failed] at spec

/-- A trace comes to a state without a next one. -/
def TraceHalts (grid : γ) (recordEdges : Bool) (members : List Pos) : Prop :=
  ∃ state, TraceReaches grid recordEdges members state ∧
    ∀ next, ¬Advances grid recordEdges state next

/-- Every trace halts, at its end or at a task that fails. -/
theorem traceHalts (grid : γ) (recordEdges : Bool) (members : List Pos) :
    TraceHalts grid recordEdges members := by
  cases traced : traceLog grid members recordEdges with
  | ok log =>
      refine ⟨_, traceLog_ok traced, fun next step => ?_⟩
      cases step
  | error conflict =>
      obtain ⟨roots, task, rest, log, reached, fails⟩ := traceLog_error traced
      refine ⟨_, reached, fun next step => ?_⟩
      cases step with
      | work move =>
          have moves := traceStep_eq_ok_iff.mpr move
          rw [fails] at moves
          cases moves

end VoxelCircuit.Grid

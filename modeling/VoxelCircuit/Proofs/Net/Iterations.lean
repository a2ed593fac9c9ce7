import VoxelCircuit.Proofs.Net.Consistency

/-! # The work of a trace

A trace works off a stack of frames: walks from claimed faces, and fans of blocks that were come
to. Here each step of it is told by its deed, and a fan by the face at which its block was come
to. A run is the list of its deeds. Each deed takes from a measure of the state what it costs
(`VoxelCircuit.Grid.Performed.countP_le`), and so the iterations of the stack loop are no more than
twice the claims, whatever loops the layout has (`VoxelCircuit.Grid.trace_iterations`).
-/

namespace VoxelCircuit

/-- The number of cells of a box along an axis. -/
def Box.extent (box : Box) : Axis → Nat
  | .x => box.width
  | .y => box.height
  | .z => box.depth

/-- Inside a box fewer steps are left than there are cells along the axis. -/
theorem Box.reach_lt_extent {box : Box} {pos : Pos} (inside : pos ∈ box) (direction : Direction) :
    box.reach pos direction < box.extent direction.axis := by
  rw [mem_def] at inside
  cases direction <;>
    simp only [reach, extent, Direction.axis, width, height, depth] <;> omega

/-- Pending work of the stack loop. -/
inductive Frame where
  /-- Walk from a face claimed for a net. -/
  | walk (net : NetId) (face : Face)
  /-- Go on from a block that a net came to at a face, through the faces still to be looked
  at. -/
  | fan (net : NetId) (arrived : Face) (pending : List Direction)

namespace Frame

/-- The task that a frame stands for. -/
def task : Frame → TraceTask
  | walk net face => .follow net face
  | fan net arrived pending => .branch net arrived.pos pending

/-- The face that a walk starts from. -/
def walk? : Frame → Option Face
  | walk _ face => some face
  | fan .. => none

/-- How often the fan of a face can still be resumed, if a frame is it. -/
def room (face : Face) : Frame → Nat
  | walk .. => 0
  | fan _ arrived pending => if arrived = face then pending.length + 1 else 0

end Frame

/-- How often a fan can be resumed that is yet to come: a claimed face gets no new one. -/
def TraceLog.ahead (log : TraceLog) (face : Face) : Nat :=
  if log.claimed? face = none then 7 else 0

/-- A state of the stack loop: the roots still to be tried, the pending frames with the topmost
first, and the log. -/
structure LoopState where
  roots : List Face
  stack : List Frame
  log : TraceLog

/-- What one step of a trace does. -/
inductive Deed where
  /-- A root is passed over, for it is claimed. -/
  | passes (root : Face)
  /-- A root is claimed for a net of its own, to be walked from. -/
  | starts (root : Face)
  /-- A walk is made, and may claim the face that it comes to and leave a fan there. -/
  | walks (face : Face) (arrived : Option Face)
  /-- A fan is resumed, and may claim a face to be walked from. -/
  | resumes (fan : Face) (launched : Option Face)
deriving DecidableEq

namespace Deed

/-- The face that a deed claims. -/
def claimed? : Deed → Option Face
  | passes _ => none
  | starts root => some root
  | walks _ arrived => arrived
  | resumes _ launched => launched

/-- The face claimed by a root or a fan. -/
def launched? : Deed → Option Face
  | passes _ | walks _ _ => none
  | starts root => some root
  | resumes _ launched => launched

/-- The face that is walked from. -/
def walked? : Deed → Option Face
  | walks face _ => some face
  | passes _ | starts _ | resumes _ _ => none

/-- Whether a deed is an iteration of the stack loop. -/
def isIteration : Deed → Bool
  | walks _ _ | resumes _ _ => true
  | passes _ | starts _ => false

/-- Whether a deed resumes the fan of a face. -/
def isResumption (fan : Face) : Deed → Bool
  | resumes other _ => other = fan
  | passes _ | starts _ | walks _ _ => false

/-- A face that is to be walked from is claimed. -/
theorem claimed?_of_launched? {deed : Deed} {face : Face} (launched : deed.launched? = some face) :
    deed.claimed? = some face := by
  cases deed with
  | passes | walks => cases launched
  | starts | resumes => exact launched

private theorem launched_sublist (deeds : List Deed) :
    (deeds.filterMap launched?).Sublist (deeds.filterMap claimed?) := by
  induction deeds with
  | nil => exact .slnil
  | cons deed rest ih =>
      cases launched : deed.launched? with
      | none =>
          rw [List.filterMap_cons_none launched]
          exact ih.trans ((List.sublist_cons_self deed rest).filterMap claimed?)
      | some face =>
          rw [List.filterMap_cons_some launched,
            List.filterMap_cons_some (claimed?_of_launched? launched)]
          exact ih.cons_cons face

end Deed

namespace LoopState

/-- The state of the tracing machine that a state of the stack loop stands for. -/
def machine (state : LoopState) : TraceState :=
  ⟨state.roots, state.stack.map Frame.task, state.log⟩

/-- The face to be walked from next. -/
def walking? (state : LoopState) : Option Face :=
  state.stack.head?.bind Frame.walk?

/-- How often the fan of a face can still be resumed, also before there is one. -/
def room (state : LoopState) (face : Face) : Nat :=
  state.log.ahead face + state.stack.foldr (fun frame below => frame.room face + below) 0

/-- Walks are pending on top only. -/
def WalksFirst (state : LoopState) : Prop :=
  ∀ frame ∈ state.stack.tail, frame.walk? = none

end LoopState

namespace Grid

open Relation

variable {γ : Type} [Grid γ] {grid : γ} {recordEdges : Bool}

section Walks

/-- A walk from a position along a direction looks at some number of cells, one after another,
and comes to a block, or to nothing. -/
inductive Walks (grid : γ) (direction : Direction) : Pos → (steps : Nat) → Option Pos → Prop
  | breaksOff {pos : Pos} (nothing : pos.step direction ∈ bounds grid →
      behavior grid (pos.step direction) = none) : Walks grid direction pos 1 none
  | arrives {pos : Pos} {found : Behavior} (inside : pos.step direction ∈ bounds grid)
      (there : behavior grid (pos.step direction) = some found) (notWire : found.isWire = false) :
      Walks grid direction pos 1 (some (pos.step direction))
  | passes {pos : Pos} {steps : Nat} {last : Option Pos}
      (inside : pos.step direction ∈ bounds grid)
      (isWire : behavior grid (pos.step direction) = some .wire)
      (rest : Walks grid direction (pos.step direction) steps last) :
      Walks grid direction pos (steps + 1) last

variable {direction : Direction} {pos : Pos}

private theorem Walks.unique {steps count : Nat} {last other : Option Pos}
    (first : Walks grid direction pos steps last) (second : Walks grid direction pos count other) :
    count = steps ∧ other = last := by
  induction first generalizing count with
  | breaksOff nothing =>
      cases second with
      | breaksOff => exact ⟨rfl, rfl⟩
      | arrives inside there => rw [nothing inside] at there; cases there
      | passes inside isWire => rw [nothing inside] at isWire; cases isWire
  | arrives inside there notWire =>
      cases second with
      | breaksOff nothing => rw [nothing inside] at there; cases there
      | arrives => exact ⟨rfl, rfl⟩
      | passes _ isWire => rw [there] at isWire; cases isWire; cases notWire
  | passes inside isWire _ ih =>
      cases second with
      | breaksOff nothing => rw [nothing inside] at isWire; cases isWire
      | arrives _ there notWire => rw [isWire] at there; cases there; cases notWire
      | passes _ _ rest =>
          obtain ⟨rfl, rfl⟩ := ih rest
          exact ⟨rfl, rfl⟩

/-- A walk comes to where the run comes, and looks at one cell more than the reach of the bounds
at most. -/
theorem walks_run (grid : γ) (direction : Direction) (pos : Pos) :
    ∃ steps ≤ (bounds grid).reach pos direction + 1,
      Walks grid direction pos steps (run grid ⟨pos, direction⟩).arrival := by
  induction pos using run_induction grid direction with
  | nothing pos nothing =>
      rw [run_of_nothing nothing]
      exact ⟨1, Nat.le_add_left 1 _, .breaksOff nothing⟩
  | wire pos inside isWire ih =>
      obtain ⟨steps, few, walks⟩ := ih
      rw [run_of_wire inside isWire, Box.reach_step inside]
      exact ⟨steps + 1, Nat.succ_le_succ few, .passes inside isWire walks⟩
  | block pos found inside there notWire =>
      rw [run_of_block inside there notWire]
      exact ⟨1, Nat.le_add_left 1 _, .arrives inside there notWire⟩

/-- A walk takes at most one step more than there are cells within the bounds along its axis. -/
theorem walks_within_extent (grid : γ) (face : Face) :
    ∃ steps ≤ (bounds grid).extent face.direction.axis + 1, ∀ count last,
      Walks grid face.direction face.pos count last ↔
        count = steps ∧ last = (run grid face).arrival := by
  obtain ⟨steps, few, walks⟩ := walks_run grid face.direction face.pos
  refine ⟨steps, ?_, fun count last => ⟨walks.unique, ?_⟩⟩
  · by_cases inside : face.pos.step face.direction ∈ bounds grid
    · have near := Box.reach_lt_extent inside face.direction
      rw [Box.reach_step inside] at few
      omega
    · obtain ⟨rfl, _⟩ := walks.unique (.breaksOff fun within => (inside within).elim)
      exact Nat.le_add_left 1 _
  · rintro ⟨rfl, rfl⟩
    exact walks

end Walks

/-- One step of the stack loop, or of the loop through the roots around it, with its deed. -/
inductive Performs (grid : γ) (recordEdges : Bool) : LoopState → Deed → LoopState → Prop
  | passes {root : Face} {roots : List Face} {log : TraceLog}
      (claimed : (log.claimed? root).isSome) :
      Performs grid recordEdges ⟨root :: roots, [], log⟩ (.passes root) ⟨roots, [], log⟩
  | starts {root : Face} {roots : List Face} {log : TraceLog}
      (unclaimed : log.claimed? root = none) :
      Performs grid recordEdges ⟨root :: roots, [], log⟩ (.starts root)
        ⟨roots, [.walk log.next root], log.openAt root⟩
  | ends {roots : List Face} {net : NetId} {face : Face} {stack : List Frame}
      {log after : TraceLog} (move : TraceMove grid recordEdges log (.follow net face) [] after) :
      Performs grid recordEdges ⟨roots, .walk net face :: stack, log⟩ (.walks face none)
        ⟨roots, stack, after⟩
  | arrives {roots : List Face} {net : NetId} {face target : Face} {stack : List Frame}
      {log : TraceLog} (faces : facing? grid face = some target)
      (unclaimed : log.claimed? target = none) :
      Performs grid recordEdges ⟨roots, .walk net face :: stack, log⟩ (.walks face (some target))
        ⟨roots, .fan net target Direction.all :: stack,
          (noted grid recordEdges net face log).claim net target⟩
  | settles {roots : List Face} {net : NetId} {arrived : Face} {pending : List Direction}
      {stack : List Frame} {log after : TraceLog}
      (move : TraceMove grid recordEdges log (.branch net arrived.pos pending) [] after) :
      Performs grid recordEdges ⟨roots, .fan net arrived pending :: stack, log⟩
        (.resumes arrived none) ⟨roots, stack, after⟩
  | launches {roots : List Face} {net branch : NetId} {arrived face : Face}
      {pending rest : List Direction} {stack : List Frame} {log after : TraceLog}
      (move : TraceMove grid recordEdges log (.branch net arrived.pos pending)
        [.follow branch face, .branch net arrived.pos rest] after) :
      Performs grid recordEdges ⟨roots, .fan net arrived pending :: stack, log⟩
        (.resumes arrived (some face))
        ⟨roots, .walk branch face :: .fan net arrived rest :: stack, after⟩

section Moves

variable {log after : TraceLog}

private theorem claims_noted (grid : γ) (recordEdges : Bool) (net : NetId) (face : Face)
    (log : TraceLog) :
    (noted grid recordEdges net face log).claims = log.claims := by
  unfold noted
  split <;> rfl

/-- A task that is dropped claims nothing. -/
theorem TraceMove.claims_of_dropped {task : TraceTask}
    (move : TraceMove grid recordEdges log task [] after) : after.claims = log.claims := by
  cases move with
  | breaksOff | returns => exact claims_noted ..
  | settles => rfl

/-- A fan that goes on claims an unclaimed face and has fewer faces left to look at. -/
theorem TraceMove.launched {net branch : NetId} {pos : Pos} {face : Face}
    {pending rest : List Direction}
    (move : TraceMove grid recordEdges log (.branch net pos pending)
      [.follow branch face, .branch net pos rest] after) :
    log.claimed? face = none ∧ after.claims = log.claims.insert face branch ∧
      rest.length < pending.length := by
  cases move with
  | prolongs split claimed unclaimed junction | opens split claimed unclaimed junction =>
      refine ⟨unclaimed, rfl, ?_⟩
      rw [split, List.length_append, List.length_cons]
      omega

end Moves

/-- Claiming an unclaimed face lists it after all others. -/
theorem keys_claim {log : TraceLog} {face : Face} (unclaimed : log.claimed? face = none)
    (net : NetId) : (log.claims.insert face net).keys = log.claims.keys ++ [face] := by
  have absent : log.claims.contains face ≠ true := by
    rw [Table.contains_eq_isSome]
    change ¬(log.claimed? face).isSome = true
    simp [unclaimed]
  rw [Table.keys_insert, if_neg absent]

namespace Performs

variable {before after : LoopState} {deed : Deed}

private theorem advances (step : Performs grid recordEdges before deed after) :
    Advances grid recordEdges before.machine after.machine := by
  cases step with
  | passes claimed => exact .pass claimed
  | starts unclaimed => exact .start unclaimed
  | ends move => exact .work move
  | arrives faces unclaimed => exact .work (.arrives faces unclaimed)
  | settles move => exact .work move
  | launches move => exact .work move

/-- Each step of the tracing machine is a deed of the stack loop. -/
theorem exists_of_advances {next : TraceState}
    (step : Advances grid recordEdges before.machine next) :
    ∃ deed after, Performs grid recordEdges before deed after ∧ after.machine = next := by
  obtain ⟨roots, stack, log⟩ := before
  cases stack with
  | nil =>
      change Advances grid recordEdges ⟨roots, [], log⟩ next at step
      cases step with
      | pass claimed => exact ⟨_, _, .passes claimed, rfl⟩
      | start unclaimed => exact ⟨_, _, .starts unclaimed, rfl⟩
  | cons frame stack =>
      cases frame with
      | walk net face =>
          change Advances grid recordEdges
            ⟨roots, .follow net face :: stack.map Frame.task, log⟩ next at step
          cases step with
          | work move =>
              cases move with
              | breaksOff faces => exact ⟨_, _, .ends (.breaksOff faces), rfl⟩
              | returns faces claimed => exact ⟨_, _, .ends (.returns faces claimed), rfl⟩
              | arrives faces unclaimed => exact ⟨_, _, .arrives faces unclaimed, rfl⟩
      | fan net arrived pending =>
          change Advances grid recordEdges
            ⟨roots, .branch net arrived.pos pending :: stack.map Frame.task, log⟩ next at step
          cases step with
          | work move =>
              cases move with
              | settles claimed => exact ⟨_, _, .settles (.settles claimed), rfl⟩
              | prolongs split claimed unclaimed junction =>
                  exact ⟨_, _, .launches (.prolongs split claimed unclaimed junction), rfl⟩
              | opens split claimed unclaimed junction =>
                  exact ⟨_, _, .launches (.opens split claimed unclaimed junction), rfl⟩

/-- The stack loop has one next step at most. -/
theorem unique {other : LoopState} {another : Deed}
    (first : Performs grid recordEdges before deed after)
    (second : Performs grid recordEdges before another other) :
    another = deed ∧ other = after := by
  cases first with
  | passes claimed =>
      cases second with
      | passes => exact ⟨rfl, rfl⟩
      | starts unclaimed => simp [unclaimed] at claimed
  | starts unclaimed =>
      cases second with
      | passes claimed => simp [unclaimed] at claimed
      | starts => exact ⟨rfl, rfl⟩
  | ends move =>
      cases second with
      | ends again =>
          obtain ⟨_, rfl⟩ := move.unique again
          exact ⟨rfl, rfl⟩
      | arrives faces unclaimed => cases (move.unique (.arrives faces unclaimed)).1
  | arrives faces unclaimed =>
      cases second with
      | ends again => cases (again.unique (.arrives faces unclaimed)).1
      | arrives again =>
          rw [faces] at again
          cases again
          exact ⟨rfl, rfl⟩
  | settles move =>
      cases second with
      | settles again =>
          obtain ⟨_, rfl⟩ := move.unique again
          exact ⟨rfl, rfl⟩
      | launches again => cases (move.unique again).1
  | launches move =>
      cases second with
      | settles again => cases (again.unique move).1
      | launches again =>
          obtain ⟨same, rfl⟩ := move.unique again
          cases same
          exact ⟨rfl, rfl⟩

/-- A deed claims its own face and no other, after all that was claimed before. -/
theorem claims (step : Performs grid recordEdges before deed after) :
    after.log.claims.keys = before.log.claims.keys ++ deed.claimed?.toList := by
  cases step with
  | passes => exact (List.append_nil _).symm
  | starts unclaimed => exact keys_claim unclaimed _
  | ends move | settles move =>
      rw [move.claims_of_dropped]
      exact (List.append_nil _).symm
  | @arrives _ net face target _ log faces unclaimed =>
      rw [TraceLog.claim, claims_noted]
      exact keys_claim unclaimed net
  | launches move =>
      obtain ⟨unclaimed, inserted, _⟩ := move.launched
      rw [inserted]
      exact keys_claim unclaimed _

private theorem walksFirst (first : before.WalksFirst)
    (step : Performs grid recordEdges before deed after) : after.WalksFirst := by
  cases step with
  | passes | starts => exact fun _ deeper => (List.not_mem_nil deeper).elim
  | ends | settles => exact fun frame deeper => first frame (List.mem_of_mem_tail deeper)
  | arrives => exact first
  | launches => exact List.forall_mem_cons.mpr ⟨rfl, first⟩

/-- What is walked from is what was claimed for it just before. -/
theorem walking (first : before.WalksFirst)
    (step : Performs grid recordEdges before deed after) :
    before.walking?.toList ++ deed.launched?.toList =
      deed.walked?.toList ++ after.walking?.toList := by
  have beneath : ∀ {roots : List Face} {stack : List Frame} {log : TraceLog},
      (∀ frame ∈ stack, frame.walk? = none) → (LoopState.mk roots stack log).walking? = none := by
    intro roots stack log fans
    cases stack with
    | nil => rfl
    | cons frame stack => exact fans frame List.mem_cons_self
  cases step with
  | passes | starts | arrives | launches => rfl
  | @ends roots _ _ stack _ after | @settles roots _ _ _ stack _ after =>
      have none : (LoopState.mk roots stack after).walking? = none := beneath first
      rw [none]
      rfl

/-- Each iteration takes a frame from the stack, and claims a face for any two that it puts
there. -/
theorem stack_le (step : Performs grid recordEdges before deed after) :
    (if deed.isIteration then 1 else 0) + after.stack.length +
        2 * before.log.claims.keys.length ≤
      before.stack.length + 2 * after.log.claims.keys.length := by
  rw [step.claims, List.length_append]
  cases step <;>
    simp only [Deed.isIteration, Deed.claimed?, Option.toList_none, Option.toList_some,
      List.length_cons, List.length_nil, Bool.false_eq_true, if_true, if_false] <;>
    omega

/-- All other steps take a root. -/
theorem roots_eq (step : Performs grid recordEdges before deed after) :
    (if !deed.isIteration then 1 else 0) + after.roots.length = before.roots.length := by
  cases step <;>
    simp only [Deed.isIteration, List.length_cons, Bool.not_true, Bool.not_false,
      Bool.false_eq_true, if_true, if_false] <;>
    omega

/-- Resuming a fan leaves less room for that. -/
theorem room_le (face : Face) (step : Performs grid recordEdges before deed after) :
    (if deed.isResumption face then 1 else 0) + after.room face ≤ before.room face := by
  have kept : after.log.ahead face ≤ before.log.ahead face := by
    unfold TraceLog.ahead
    by_cases unclaimed : before.log.claimed? face = none
    · rw [if_pos unclaimed]
      split <;> omega
    · obtain ⟨net, claimed⟩ := Option.ne_none_iff_exists'.mp unclaimed
      have later : after.log.claimed? face = some net := step.advances.claimed claimed
      simp [later]
  unfold LoopState.room
  cases step with
  | passes => simp [Deed.isResumption]
  | starts | ends => simpa [Deed.isResumption, Frame.room] using kept
  | @arrives _ net _ target stack log faces unclaimed =>
      by_cases own : target = face
      · subst own
        simp [Deed.isResumption, Frame.room, TraceLog.ahead, unclaimed, Direction.all]
      · simpa [Deed.isResumption, Frame.room, own] using kept
  | @settles _ net arrived pending stack log after move =>
      by_cases own : arrived = face
      · simp only [Deed.isResumption, Frame.room, own, List.foldr_cons, decide_true, if_true]
          at kept ⊢
        omega
      · simpa [Deed.isResumption, Frame.room, own] using kept
  | @launches _ net branch arrived launched pending rest stack log after move =>
      obtain ⟨_, _, fewer⟩ := move.launched
      by_cases own : arrived = face
      · simp only [Deed.isResumption, Frame.room, own, List.foldr_cons, decide_true, if_true]
          at kept ⊢
        omega
      · simpa [Deed.isResumption, Frame.room, own] using kept

end Performs

/-- A run of the trace from one state to another, with its deeds in order. -/
inductive Performed (grid : γ) (recordEdges : Bool) :
    LoopState → List Deed → LoopState → Prop
  | nil (state : LoopState) : Performed grid recordEdges state [] state
  | cons {first second last : LoopState} {deed : Deed} {deeds : List Deed}
      (step : Performs grid recordEdges first deed second)
      (rest : Performed grid recordEdges second deeds last) :
      Performed grid recordEdges first (deed :: deeds) last

namespace Performed

variable {first last : LoopState} {deeds : List Deed}

private theorem concat {next : LoopState} {deed : Deed}
    (run : Performed grid recordEdges first deeds last)
    (step : Performs grid recordEdges last deed next) :
    Performed grid recordEdges first (deeds ++ [deed]) next := by
  induction run with
  | nil => exact .cons step (.nil next)
  | cons earlier _ ih => exact .cons earlier (ih step)

private theorem advances (run : Performed grid recordEdges first deeds last) :
    ReflTransGen (Advances grid recordEdges) first.machine last.machine := by
  induction run with
  | nil => exact .refl
  | cons step _ ih => exact .head step.advances ih

/-- All runs from a state are initial parts of one that cannot go on. -/
theorem prefix_of_stuck {whole : List Deed} {final : LoopState}
    (run : Performed grid recordEdges first deeds last)
    (longest : Performed grid recordEdges first whole final)
    (stuck : ∀ deed next, ¬Performs grid recordEdges final deed next) : deeds <+: whole := by
  induction run generalizing whole with
  | nil => exact List.nil_prefix
  | cons step _ ih =>
      cases longest with
      | nil => exact (stuck _ _ step).elim
      | cons other rest =>
          obtain ⟨rfl, rfl⟩ := step.unique other
          exact List.cons_prefix_cons.mpr ⟨rfl, ih rest⟩

private theorem claims (run : Performed grid recordEdges first deeds last) :
    last.log.claims.keys = first.log.claims.keys ++ deeds.filterMap Deed.claimed? := by
  rw [List.filterMap_eq_flatMap_toList]
  induction run with
  | nil => exact (List.append_nil _).symm
  | cons step _ ih => rw [ih, step.claims, List.append_assoc, List.flatMap_cons]

/-- The faces to be walked from are walked from, each once and in their order. -/
theorem walking (run : Performed grid recordEdges first deeds last) (fans : first.WalksFirst) :
    first.walking?.toList ++ deeds.filterMap Deed.launched? =
      deeds.filterMap Deed.walked? ++ last.walking?.toList := by
  rw [List.filterMap_eq_flatMap_toList, List.filterMap_eq_flatMap_toList]
  induction run with
  | nil => exact List.append_nil _
  | cons step _ ih =>
      rw [List.flatMap_cons, List.flatMap_cons, ← List.append_assoc, step.walking fans,
        List.append_assoc, ih (step.walksFirst fans), List.append_assoc]

/-- What is paid for by a measure of the states, and by what each step adds to another, happens
no more often than these allow. -/
theorem countP_le (counted : Deed → Bool) (level credit : LoopState → Nat)
    (paid : ∀ {before after : LoopState} {deed : Deed},
      Performs grid recordEdges before deed after →
        (if counted deed then 1 else 0) + level after + credit before ≤
          level before + credit after)
    (run : Performed grid recordEdges first deeds last) :
    deeds.countP counted + level last + credit first ≤ level first + credit last := by
  induction run with
  | nil => simp
  | @cons first second last deed deeds step _ ih =>
      have one := paid step
      rw [List.countP_cons]
      omega

/-- The iterations, and the frames that are still pending, are no more than twice the claims. -/
theorem iterations_le (run : Performed grid recordEdges first deeds last) :
    deeds.countP Deed.isIteration + last.stack.length + 2 * first.log.claims.keys.length ≤
      first.stack.length + 2 * last.log.claims.keys.length :=
  run.countP_le Deed.isIteration (fun state => state.stack.length)
    (fun state => 2 * state.log.claims.keys.length) Performs.stack_le

private theorem resumptions_le (run : Performed grid recordEdges first deeds last) (face : Face) :
    deeds.countP (Deed.isResumption face) ≤ first.room face := by
  have paid := run.countP_le (Deed.isResumption face) (fun state => state.room face) (fun _ => 0)
    fun step => step.room_le face
  omega

private theorem roots_le (run : Performed grid recordEdges first deeds last) :
    deeds.countP (fun deed => !deed.isIteration) ≤ first.roots.length := by
  have paid := run.countP_le (fun deed => !deed.isIteration) (fun state => state.roots.length)
    (fun _ => 0) fun step => step.roots_eq.le
  omega

end Performed

/-- The state in which a trace begins. -/
def loopStart (grid : γ) (members : List Pos) : LoopState :=
  ⟨rootFaces grid members, [], .empty⟩

/-- A trace comes to its end, or to a walk that fails. -/
inductive Ends (grid : γ) (recordEdges : Bool) : LoopState → Except NetConflict TraceLog → Prop
  | done {log : TraceLog} : Ends grid recordEdges ⟨[], [], log⟩ (.ok log)
  | fails {roots : List Face} {net : NetId} {face : Face} {stack : List Frame} {log : TraceLog}
      {conflict : NetConflict}
      (stops : traceStep grid recordEdges log (.follow net face) = .error conflict) :
      Ends grid recordEdges ⟨roots, .walk net face :: stack, log⟩ (.error conflict)

private theorem Ends.stuck {state next : LoopState} {result : Except NetConflict TraceLog}
    {deed : Deed} (ends : Ends grid recordEdges state result) :
    ¬Performs grid recordEdges state deed next := by
  intro step
  cases ends with
  | done => cases step
  | fails stops =>
      cases step with
      | ends move => cases stops.symm.trans (traceStep_eq_ok_iff.mpr move)
      | arrives faces unclaimed =>
          cases stops.symm.trans (traceStep_eq_ok_iff.mpr (.arrives faces unclaimed))

variable {members : List Pos}

/-- Each state of the tracing machine is come to by a run of the stack loop. -/
theorem TraceReaches.performed {state : TraceState}
    (reached : TraceReaches grid recordEdges members state) :
    ∃ deeds last, Performed grid recordEdges (loopStart grid members) deeds last ∧
      last.machine = state := by
  induction reached with
  | refl => exact ⟨[], _, .nil _, rfl⟩
  | tail _ step ih =>
      obtain ⟨deeds, last, run, rfl⟩ := ih
      obtain ⟨deed, next, performs, rfl⟩ := Performs.exists_of_advances step
      exact ⟨_, next, run.concat performs, rfl⟩

/-- The stack loop comes to an end with what tracing results in. -/
theorem exists_run (grid : γ) (recordEdges : Bool) (members : List Pos) :
    ∃ deeds last, Performed grid recordEdges (loopStart grid members) deeds last ∧
      Ends grid recordEdges last (traceLog grid members recordEdges) := by
  cases traced : traceLog grid members recordEdges with
  | ok log =>
      obtain ⟨deeds, ⟨roots, stack, at_⟩, run, same⟩ := (traceLog_ok traced).performed
      rw [LoopState.machine, TraceState.mk.injEq, List.map_eq_nil_iff] at same
      obtain ⟨rfl, rfl, rfl⟩ := same
      exact ⟨deeds, _, run, .done⟩
  | error conflict =>
      obtain ⟨_, _, _, _, reached, fails⟩ := traceLog_error traced
      obtain ⟨_, _, _, _, rfl, _⟩ := traceStep_eq_error_iff.mp fails
      obtain ⟨deeds, ⟨roots, stack, at_⟩, run, same⟩ := reached.performed
      rw [LoopState.machine, TraceState.mk.injEq, List.map_eq_cons_iff] at same
      obtain ⟨rfl, ⟨frame, below, rfl, task, rfl⟩, rfl⟩ := same
      cases frame with
      | fan => cases task
      | walk net face =>
          cases task
          exact ⟨deeds, _, run, .fails fails⟩

/-- Only faces of members and of blocks within the bounds are claimed. -/
theorem TraceReaches.claims_le {state : TraceState}
    (reached : TraceReaches grid recordEdges members state) :
    state.log.claims.keys.length ≤ 6 * (members.length + (bounds grid).cardinality) := by
  have among : Among (fun pos => pos ∈ members ∨ pos ∈ bounds grid) state :=
    reached.among (fun _ _ faces _ => Or.inr (facing?_eq_some_iff.mp faces).2.1)
      fun _ root => Or.inl (mem_rootFaces.mp root).1
  have claimable : state.log.claims.keys.toFinset ⊆ claimable grid members := by
    intro face listed
    have claimed : (state.log.claimed? face).isSome :=
      Option.isSome_iff_exists.mpr (Table.mem_keys_iff.mp (List.mem_toFinset.mp listed))
    rcases among.claims face claimed with member | inside
    · exact mem_claimable_of_member grid member
    · exact mem_claimable members inside
  rw [← List.toFinset_card_of_nodup state.log.claims.nodup_keys]
  exact (Finset.card_le_card claimable).trans (card_claimable_le grid members)

private theorem length_rootFaces_le (grid : γ) (members : List Pos) :
    (rootFaces grid members).length ≤ 6 * members.length := by
  rw [rootFaces, length_faces]
  exact Nat.mul_le_mul_left 6 (List.length_filter_le _ members)

/-- What the deeds of a trace come to until some state. -/
structure BoundedWork (grid : γ) (members : List Pos) (deeds : List Deed) (state : LoopState) :
    Prop where
  /-- The claims are those of the deeds, and no face is claimed twice. -/
  claimed : deeds.filterMap Deed.claimed? = state.log.claims.keys ∧
    (deeds.filterMap Deed.claimed?).Nodup
  /-- Each face that a root or a fan claims is walked from once, if it is not the next. -/
  walked : deeds.filterMap Deed.launched? =
      deeds.filterMap Deed.walked? ++ state.walking?.toList ∧
    (deeds.filterMap Deed.launched?).Nodup
  /-- No fan is resumed more than seven times. -/
  resumed : ∀ face, deeds.countP (Deed.isResumption face) ≤ 7
  /-- The iterations of the stack loop, made and pending, are at most twice the claims. -/
  iterations : deeds.countP Deed.isIteration + state.stack.length ≤
    2 * state.log.claims.keys.length
  /-- All other deeds are for the faces of members. -/
  deeds : deeds.length ≤ 6 * members.length + 2 * state.log.claims.keys.length
  /-- There are not more claims than faces of members and of cells within the bounds. -/
  claims : state.log.claims.keys.length ≤ 6 * (members.length + (bounds grid).cardinality)

private theorem Performed.boundedWork {deeds : List Deed} {state : LoopState}
    (run : Performed grid recordEdges (loopStart grid members) deeds state) :
    BoundedWork grid members deeds state := by
  have none : (loopStart grid members).log.claims.keys = [] := Table.keys_empty
  have claims := run.claims
  have iterations := run.iterations_le
  have others := run.roots_le.trans (length_rootFaces_le grid members)
  have total := List.length_eq_countP_add_countP Deed.isIteration (l := deeds)
  simp only [decide_not, Bool.decide_eq_true] at total
  rw [none, List.nil_append] at claims
  rw [none] at iterations
  simp only [loopStart, List.length_nil, Nat.mul_zero, Nat.add_zero, Nat.zero_add] at iterations
  have once : (deeds.filterMap Deed.claimed?).Nodup := claims ▸ state.log.claims.nodup_keys
  refine ⟨⟨claims.symm, once⟩, ⟨run.walking fun _ deeper => (List.not_mem_nil deeper).elim, ?_⟩,
    fun face => ?_, iterations, by omega, ?_⟩
  · exact once.sublist (Deed.launched_sublist deeds)
  · exact run.resumptions_le face
  · exact TraceReaches.claims_le run.advances

/-- **The work of a trace.** For any blocks of any grid there is one run of the stack loop that
all others are initial parts of. It comes to its end or to a walk that fails, as the trace does.
In each state until then no face is claimed twice, each claim of a root or a fan starts one
walk, no fan is resumed more than seven times, and the iterations are at most twice the claims,
the pending ones included. A walk takes at most one step more than there are cells within the
bounds along its axis. -/
theorem trace_iterations (grid : γ) (recordEdges : Bool) (members : List Pos) :
    (∃ whole last, Performed grid recordEdges (loopStart grid members) whole last ∧
      Ends grid recordEdges last (traceLog grid members recordEdges) ∧
      ∀ deeds state, Performed grid recordEdges (loopStart grid members) deeds state →
        deeds <+: whole ∧ BoundedWork grid members deeds state) ∧
    ∀ face : Face, ∃ steps ≤ (bounds grid).extent face.direction.axis + 1, ∀ count last,
      Walks grid face.direction face.pos count last ↔
        count = steps ∧ last = (run grid face).arrival := by
  obtain ⟨whole, last, longest, ends⟩ := exists_run grid recordEdges members
  refine ⟨⟨whole, last, longest, ends, fun deeds state run => ⟨?_, run.boundedWork⟩⟩,
    walks_within_extent grid⟩
  exact run.prefix_of_stuck longest fun _ _ => ends.stuck

/-- A pad beside a square of four junctions. -/
def junctionSquare : World EndlessChip :=
  .voxel ⟨⟨Layout.standardTypes⟩, .clamped 3 2 1, #[⟨⟨2⟩, .identity, 5⟩, ⟨⟨4⟩, .identity, 0⟩,
    ⟨⟨4⟩, .identity, 0⟩, .air, ⟨⟨4⟩, .identity, 0⟩, ⟨⟨4⟩, .identity, 0⟩], rfl⟩

/-- The blocks of the square. -/
def junctionSquareBlocks : List Pos :=
  [.origin, ⟨1, 0, 0⟩, ⟨2, 0, 0⟩, ⟨1, 1, 0⟩, ⟨2, 1, 0⟩]

/-- Around the square of junctions all thirty faces are claimed, in sixty iterations at most. -/
theorem junctionSquare_iterations :
    ∃ whole log, Performed junctionSquare true (loopStart junctionSquare junctionSquareBlocks)
        whole ⟨[], [], log⟩ ∧
      traceLog junctionSquare junctionSquareBlocks true = .ok log ∧
      log.claims.keys.length = 30 ∧ whole.countP Deed.isIteration ≤ 60 ∧
      whole.filterMap Deed.launched? = whole.filterMap Deed.walked? := by
  have claimed : (traceLog junctionSquare junctionSquareBlocks true).toOption.map
      (fun log => log.claims.keys.length) = some 30 := by
    decide +kernel
  obtain ⟨whole, last, run, ends, all⟩ :=
    (trace_iterations junctionSquare true junctionSquareBlocks).1
  obtain ⟨_, bounded⟩ := all whole last run
  cases traced : traceLog junctionSquare junctionSquareBlocks true with
  | error conflict => simp [traced, Except.toOption] at claimed
  | ok log =>
      rw [traced] at ends claimed
      cases ends
      have thirty : log.claims.keys.length = 30 := by simpa [Except.toOption] using claimed
      have few := bounded.iterations
      have walked := bounded.walked.1
      simp only [List.length_nil, Nat.add_zero, thirty] at few
      exact ⟨whole, log, run, rfl, thirty, few, by simpa [LoopState.walking?] using walked⟩

end Grid

end VoxelCircuit

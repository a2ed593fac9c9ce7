import VoxelCircuit.Proofs.Net.Progress

/-! # Tracing by recursion

A trace can be told without a stack of pending work: walk from a block one cell at a time,
straight through wire; at the block that the walk comes to go on through each other face in
order, unless it is claimed when its turn comes, and walk from it to the end before the next
one is looked at. Here such a recursion has a result only when it stays within some depth. It
always does so at some depth: the machine with its stack comes to the same end or to the same
conflict, whatever work is pending below (`VoxelCircuit.Grid.walksBelow`), and so every trace
has the result of the recursion (`VoxelCircuit.Grid.recursiveTrace_eq`).
-/

namespace VoxelCircuit.Grid

open Relation

variable {γ : Type} [Grid γ]

/-- Walk for a net from a block along a direction, one cell at a time. The walk goes on through
wire, and ends where there is no behavior, out of bounds and at a face that the net holds. Of
an unclaimed face it goes on through the other faces of the block: each in its turn, if it is
still unclaimed, is claimed and walked from to the end, for the same net at a junction and for
a new one elsewhere. There is no result when the walks go deeper than some number. -/
def walk (grid : γ) (recordEdges : Bool) : (depth : Nat) → NetId → Direction → Pos → TraceLog →
    ExceptT NetConflict Option TraceLog
  | 0, _, _, _, _ => .mk none
  | depth + 1, net, direction, pos, log =>
    let here := pos.step direction
    if here ∈ bounds grid then
      match behavior grid here with
      | none => pure log
      | some found =>
        let log := if recordEdges then log.walked net [(pos, here)] else log
        if found.isWire then walk grid recordEdges depth net direction here log
        else
          let arrived : Face := ⟨here, direction.opposite⟩
          match log.claimed? arrived with
          | some existing =>
            if existing = net then pure log else throw ⟨arrived, existing, net⟩
          | none =>
            (Direction.all.filter (· ≠ arrived.direction)).foldlM (fun log next =>
              if (log.claimed? ⟨here, next⟩).isSome then pure log
              else if found.isJunction then
                walk grid recordEdges depth net next here (log.claim net ⟨here, next⟩)
              else walk grid recordEdges depth log.next next here (log.openAt ⟨here, next⟩))
              (log.claim net arrived)
    else pure log

/-- Go on from a block through one of its faces, unless it is claimed. -/
def goOn (grid : γ) (recordEdges : Bool) (depth : Nat) (net : NetId) (pos : Pos) (log : TraceLog)
    (direction : Direction) : ExceptT NetConflict Option TraceLog :=
  if (log.claimed? ⟨pos, direction⟩).isSome then pure log
  else if behavior grid pos = some .junction then
    walk grid recordEdges depth net direction pos (log.claim net ⟨pos, direction⟩)
  else walk grid recordEdges depth log.next direction pos (log.openAt ⟨pos, direction⟩)

/-- Open a net at a face and walk from it, unless the face is claimed. -/
def walkRoot (grid : γ) (recordEdges : Bool) (depth : Nat) (log : TraceLog) (face : Face) :
    ExceptT NetConflict Option TraceLog :=
  if (log.claimed? face).isSome then pure log
  else walk grid recordEdges depth log.next face.direction face.pos (log.openAt face)

/-- Open nets at the faces of a block in order, unless the block is wire or a junction. -/
def walkMember (grid : γ) (recordEdges : Bool) (depth : Nat) (log : TraceLog) (pos : Pos) :
    ExceptT NetConflict Option TraceLog :=
  match behavior grid pos with
  | none => pure log
  | some found =>
    if found.isWire || found.isJunction then pure log
    else Direction.all.foldlM (fun log direction =>
      walkRoot grid recordEdges depth log ⟨pos, direction⟩) log

/-- The nets between blocks, walked from one block after another, if no walks go deeper than
some number. -/
def recursiveTrace (grid : γ) (members : List Pos) (recordEdges : Bool) (depth : Nat) :
    ExceptT NetConflict Option NetGraph := do
  let log ← members.foldlM (walkMember grid recordEdges depth) .empty
  pure (netGraph grid log)

private theorem noted_of_broken {grid : γ} {face : Face} (breaks : run grid face = .broken)
    (recordEdges : Bool) (net : NetId) (log : TraceLog) :
    noted grid recordEdges net face log = log := by
  unfold noted
  rw [breaks]
  split <;> rfl

private theorem noted_of_wire {grid : γ} {pos : Pos} {direction : Direction}
    (inside : pos.step direction ∈ bounds grid)
    (isWire : behavior grid (pos.step direction) = some .wire) (recordEdges : Bool) (net : NetId)
    (log : TraceLog) :
    noted grid recordEdges net ⟨pos, direction⟩ log =
      noted grid recordEdges net ⟨pos.step direction, direction⟩
        (if recordEdges then log.walked net [(pos, pos.step direction)] else log) := by
  unfold noted
  rw [run_of_wire inside isWire]
  cases recordEdges
  · rfl
  · simp [TraceLog.walked, Run.edges, Run.entered]

section Walk

variable {grid : γ} (recordEdges : Bool) (depth : Nat) (net : NetId) {direction : Direction}
  {pos : Pos} (log : TraceLog)

private theorem walk_of_nothing
    (nothing : pos.step direction ∈ bounds grid → behavior grid (pos.step direction) = none) :
    walk grid recordEdges (depth + 1) net direction pos log = pure log := by
  rw [walk]
  by_cases inside : pos.step direction ∈ bounds grid
  · simp only [inside, if_true, nothing inside]
  · simp only [inside, if_false]

section Inside

variable (inside : pos.step direction ∈ bounds grid)
include inside

private theorem walk_of_wire (isWire : behavior grid (pos.step direction) = some .wire) :
    walk grid recordEdges (depth + 1) net direction pos log =
      walk grid recordEdges depth net direction (pos.step direction)
        (if recordEdges then log.walked net [(pos, pos.step direction)] else log) := by
  rw [walk]
  simp only [inside, if_true, isWire]
  rfl

private theorem walk_of_block {found : Behavior}
    (there : behavior grid (pos.step direction) = some found) (notWire : found.isWire = false) :
    walk grid recordEdges (depth + 1) net direction pos log =
      match log.claimed? ⟨pos.step direction, direction.opposite⟩ with
      | some existing =>
        if existing = net then pure (noted grid recordEdges net ⟨pos, direction⟩ log)
        else throw ⟨⟨pos.step direction, direction.opposite⟩, existing, net⟩
      | none => (Direction.all.filter (· ≠ direction.opposite)).foldlM
          (goOn grid recordEdges depth net (pos.step direction))
          ((noted grid recordEdges net ⟨pos, direction⟩ log).claim net
            ⟨pos.step direction, direction.opposite⟩) := by
  have step : noted grid recordEdges net ⟨pos, direction⟩ log =
      if recordEdges then log.walked net [(pos, pos.step direction)] else log := by
    rw [noted, run_of_block inside there notWire]
    rfl
  have claims : (noted grid recordEdges net ⟨pos, direction⟩ log).claimed?
      ⟨pos.step direction, direction.opposite⟩ =
        log.claimed? ⟨pos.step direction, direction.opposite⟩ := claimed?_noted ..
  have junction : found.isJunction = true ↔
      behavior grid (pos.step direction) = some .junction := by
    rw [there, Option.some.injEq]
    exact decide_eq_true_iff
  rw [step] at claims ⊢
  rw [walk]
  simp only [inside, if_true, there, notWire, Bool.false_eq_true, if_false, claims]
  simp only [junction]
  rfl

end Inside

/-- A walk makes the run from its face in single steps, and goes on from what the run comes to. -/
theorem walk_eq (grid : γ) (recordEdges : Bool) (depth : Nat) (net : NetId)
    (direction : Direction) (pos : Pos) (log : TraceLog) :
    walk grid recordEdges (depth + ((run grid ⟨pos, direction⟩).wires.length + 1)) net direction
        pos log =
      match facing? grid ⟨pos, direction⟩ with
      | none => pure (noted grid recordEdges net ⟨pos, direction⟩ log)
      | some target =>
        match log.claimed? target with
        | some existing =>
          if existing = net then pure (noted grid recordEdges net ⟨pos, direction⟩ log)
          else throw ⟨target, existing, net⟩
        | none => (Direction.all.filter (· ≠ target.direction)).foldlM
            (goOn grid recordEdges depth net target.pos)
            ((noted grid recordEdges net ⟨pos, direction⟩ log).claim net target) := by
  induction pos using run_induction grid direction generalizing log with
  | nothing pos nothing =>
      have broken := run_of_nothing nothing
      have faces : facing? grid ⟨pos, direction⟩ = none := by
        rw [facing?, broken]
        rfl
      rw [← Nat.add_assoc, walk_of_nothing recordEdges _ net log nothing, noted_of_broken broken,
        faces]
  | wire pos inside isWire ih =>
      have longer : (run grid ⟨pos, direction⟩).wires.length =
          (run grid ⟨pos.step direction, direction⟩).wires.length + 1 := by
        rw [run_of_wire inside isWire]
        rfl
      have faces : facing? grid ⟨pos, direction⟩ =
          facing? grid ⟨pos.step direction, direction⟩ := by
        rw [facing?, run_of_wire inside isWire]
        rfl
      have claims : ∀ target, (if recordEdges then
          log.walked net [(pos, pos.step direction)] else log).claimed? target =
            log.claimed? target := fun target => by
        split <;> rfl
      rw [longer, ← Nat.add_assoc, walk_of_wire recordEdges _ net log inside isWire,
        noted_of_wire inside isWire, faces, ih]
      simp only [claims]
  | block pos found inside there notWire =>
      have none : (run grid ⟨pos, direction⟩).wires.length = 0 := by
        rw [run_of_block inside there notWire]
        rfl
      have faces : facing? grid ⟨pos, direction⟩ =
          some ⟨pos.step direction, direction.opposite⟩ := by
        rw [facing?, run_of_block inside there notWire]
        rfl
      rw [none, walk_of_block recordEdges _ net log inside there notWire, faces]

end Walk

/-- What the machine comes to from a state: another state, or a conflict at a task that
fails. -/
def Comes (grid : γ) (recordEdges : Bool) (start : TraceState) :
    Except NetConflict TraceState → Prop
  | .ok last => ReflTransGen (Advances grid recordEdges) start last
  | .error conflict => ∃ roots task rest log,
      ReflTransGen (Advances grid recordEdges) start ⟨roots, task :: rest, log⟩ ∧
        traceStep grid recordEdges log task = .error conflict

/-- A recursion has a result when it may go deep enough, and the machine comes to the same: to the
conflict, or to the state that belongs to the log. -/
def Mirrored (grid : γ) (recordEdges : Bool)
    (recursion : Nat → ExceptT NetConflict Option TraceLog) (start : TraceState)
    (last : TraceLog → TraceState) : Prop :=
  ∃ result, (∃ enough, ∀ depth ≥ enough, (recursion depth).run = some result) ∧
    Comes grid recordEdges start (result.map last)

section Machine

variable {grid : γ} {recordEdges : Bool} {start middle : TraceState}

private theorem Comes.after {result : Except NetConflict TraceState}
    (steps : ReflTransGen (Advances grid recordEdges) start middle)
    (comes : Comes grid recordEdges middle result) : Comes grid recordEdges start result := by
  cases result with
  | ok last => exact steps.trans comes
  | error conflict =>
      obtain ⟨roots, task, rest, log, reached, failed⟩ := comes
      exact ⟨roots, task, rest, log, steps.trans reached, failed⟩

/-- A branch passes over a claimed face within the step that it makes next. -/
theorem Comes.skip {roots : List Face} {net : NetId} {pos : Pos} {direction : Direction}
    {pending : List Direction} {rest : List TraceTask} {log : TraceLog}
    {result : Except NetConflict TraceLog} (claimed : (log.claimed? ⟨pos, direction⟩).isSome)
    (comes : Comes grid recordEdges ⟨roots, .branch net pos pending :: rest, log⟩
      (result.map (⟨roots, rest, ·⟩))) :
    Comes grid recordEdges ⟨roots, .branch net pos (direction :: pending) :: rest, log⟩
      (result.map (⟨roots, rest, ·⟩)) := by
  have same : traceStep grid recordEdges log (.branch net pos (direction :: pending)) =
      traceStep grid recordEdges log (.branch net pos pending) := by
    simp only [traceStep, branch, List.dropWhile_cons_of_pos, claimed]
  have onward : ∀ {next}, Advances grid recordEdges
      ⟨roots, .branch net pos pending :: rest, log⟩ next → Advances grid recordEdges
        ⟨roots, .branch net pos (direction :: pending) :: rest, log⟩ next := by
    intro next step
    cases step with
    | work move => exact .work (traceStep_eq_ok_iff.mp (same ▸ traceStep_eq_ok_iff.mpr move))
  cases result with
  | ok after =>
      rcases comes.cases_head with stays | ⟨next, step, later⟩
      · cases stays
      · exact .head (onward step) later
  | error conflict =>
      obtain ⟨left, task, below, at_, reached, failed⟩ := comes
      rcases reached.cases_head with stays | ⟨next, step, later⟩
      · cases stays
        simp [traceStep] at failed
      · exact ⟨left, task, below, at_, .head (onward step) later, failed⟩

namespace Mirrored

variable {first : Nat → ExceptT NetConflict Option TraceLog} {last : TraceLog → TraceState}

private theorem pure {log : TraceLog}
    (steps : ReflTransGen (Advances grid recordEdges) start (last log)) :
    Mirrored grid recordEdges (fun _ => pure log) start last :=
  ⟨.ok log, ⟨0, fun _ _ => rfl⟩, steps⟩

private theorem after (steps : ReflTransGen (Advances grid recordEdges) start middle)
    (mirrored : Mirrored grid recordEdges first middle last) :
    Mirrored grid recordEdges first start last := by
  obtain ⟨result, deep, comes⟩ := mirrored
  exact ⟨result, deep, comes.after steps⟩

/-- A recursion that is another one some levels down. -/
theorem below (levels : Nat) {whole : Nat → ExceptT NetConflict Option TraceLog}
    (same : ∀ depth, whole (depth + levels) = first depth)
    (mirrored : Mirrored grid recordEdges first start last) :
    Mirrored grid recordEdges whole start last := by
  obtain ⟨result, ⟨enough, ran⟩, comes⟩ := mirrored
  refine ⟨result, ⟨enough + levels, fun depth deep => ?_⟩, comes⟩
  obtain ⟨rest, rfl⟩ := Nat.exists_eq_add_of_le deep
  rw [show enough + levels + rest = enough + rest + levels by omega, same]
  exact ran _ (Nat.le_add_right _ _)

/-- One recursion and then another, as one run of the machine goes on where the other ended. -/
theorem bind {between : TraceLog → TraceState}
    {next : Nat → TraceLog → ExceptT NetConflict Option TraceLog}
    (mirrored : Mirrored grid recordEdges first start between)
    (onward : ∀ log, ReflTransGen (Advances grid recordEdges) start (between log) →
      Mirrored grid recordEdges (next · log) (between log) last) :
    Mirrored grid recordEdges (fun depth => first depth >>= next depth) start last := by
  obtain ⟨result, ⟨enough, ran⟩, comes⟩ := mirrored
  cases result with
  | error conflict =>
      refine ⟨.error conflict, ⟨enough, fun depth deep => ?_⟩, comes⟩
      rw [ExceptT.run_bind, ran depth deep]
      rfl
  | ok log =>
      obtain ⟨result, ⟨alsoEnough, alsoRan⟩, later⟩ := onward log comes
      refine ⟨result, ⟨max enough alsoEnough, fun depth deep => ?_⟩, later.after comes⟩
      rw [ExceptT.run_bind, ran depth (le_of_max_le_left deep)]
      exact alsoRan depth (le_of_max_le_right deep)

end Mirrored

end Machine

/-- How many faces of cells within the bounds are still unclaimed. -/
def unclaimed (grid : γ) (log : TraceLog) : Nat :=
  ((claimable grid []).filter fun face => log.claimed? face = none).card

/-- A walk that follows when fewer than some number of faces are unclaimed has a result, and with
any work pending below the machine comes to the same. -/
def WalksBelow (grid : γ) (recordEdges : Bool) (count : Nat) : Prop :=
  ∀ (net : NetId) (direction : Direction) (pos : Pos) (log : TraceLog) (roots : List Face)
    (rest : List TraceTask), unclaimed grid log < count →
      Mirrored grid recordEdges (walk grid recordEdges · net direction pos log)
        ⟨roots, .follow net ⟨pos, direction⟩ :: rest, log⟩ (⟨roots, rest, ·⟩)

/-- Going on through an unclaimed face is a walk from it, and the machine makes a step to this. -/
theorem goOn_of_unclaimed (grid : γ) (recordEdges : Bool) (net : NetId) {pos : Pos}
    {direction : Direction} {log : TraceLog} (free : log.claimed? ⟨pos, direction⟩ = none) :
    ∃ branch after,
      (∀ face, after.claimed? face = (log.claim branch ⟨pos, direction⟩).claimed? face) ∧
      (∀ depth, goOn grid recordEdges depth net pos log direction =
        walk grid recordEdges depth branch direction pos after) ∧
      ∀ roots pending rest, Advances grid recordEdges
        ⟨roots, .branch net pos (direction :: pending) :: rest, log⟩
        ⟨roots, .follow branch ⟨pos, direction⟩ :: .branch net pos pending :: rest, after⟩ := by
  have notClaimed : ¬(log.claimed? ⟨pos, direction⟩).isSome = true := by simp [free]
  by_cases junction : behavior grid pos = some .junction
  · refine ⟨net, log.claim net ⟨pos, direction⟩, fun _ => rfl, fun _ => ?_, fun _ _ _ => ?_⟩
    · rw [goOn, if_neg notClaimed, if_pos junction]
    · exact .work (.prolongs (List.nil_append _).symm (by simp) free junction)
  · refine ⟨log.next, log.openAt ⟨pos, direction⟩, fun _ => rfl, fun _ => ?_, fun _ _ _ => ?_⟩
    · rw [goOn, if_neg notClaimed, if_neg junction]
    · exact .work (.opens (List.nil_append _).symm (by simp) free junction)

section Walks

variable {grid : γ} {recordEdges : Bool} (net : NetId) {pos : Pos} {direction : Direction}
  {log : TraceLog}

private theorem unclaimed_le_of_advances {before after : TraceState}
    (steps : ReflTransGen (Advances grid recordEdges) before after) :
    unclaimed grid after.log ≤ unclaimed grid before.log := by
  apply Finset.card_le_card
  intro face member
  rw [Finset.mem_filter] at member ⊢
  refine ⟨member.1, Option.eq_none_iff_forall_ne_some.mpr fun net held => ?_⟩
  rw [claimed_of_advances steps held] at member
  cases member.2

private theorem unclaimed_claim_lt {face : Face} (inside : face.pos ∈ bounds grid)
    (free : log.claimed? face = none) :
    unclaimed grid (log.claim net face) < unclaimed grid log := by
  have counted := card_unclaimed_claim net (mem_claimable [] inside) free
  unfold unclaimed
  omega

private theorem goOn_mirrored {count : Nat} (walks : WalksBelow grid recordEdges count)
    (inside : pos ∈ bounds grid) (arrived : Direction) (roots : List Face)
    (rest : List TraceTask) (pending : List Direction) (few : unclaimed grid log ≤ count)
    (held : (log.claimed? ⟨pos, arrived⟩).isSome) :
    Mirrored grid recordEdges
      (fun depth => (pending.filter (· ≠ arrived)).foldlM (goOn grid recordEdges depth net pos) log)
      ⟨roots, .branch net pos pending :: rest, log⟩ (⟨roots, rest, ·⟩) := by
  induction pending generalizing log with
  | nil => exact .pure (.single (.work (.settles (by simp))))
  | cons direction pending ih =>
      by_cases claimed : (log.claimed? ⟨pos, direction⟩).isSome = true
      · obtain ⟨result, ⟨enough, ran⟩, comes⟩ := ih few held
        refine ⟨result, ⟨enough, fun depth deep => ?_⟩, comes.skip claimed⟩
        rw [← ran depth deep, List.filter_cons]
        split
        · simp only [List.foldlM_cons, goOn, if_pos claimed, pure_bind]
        · rfl
      · have free : log.claimed? ⟨pos, direction⟩ = none := by simpa using claimed
        have other : direction ≠ arrived := fun same => claimed (same ▸ held)
        obtain ⟨branch, after, claims, goes, step⟩ := goOn_of_unclaimed grid recordEdges net free
        have fewer : unclaimed grid after < count := by
          have counted := unclaimed_claim_lt branch inside free
          unfold unclaimed at counted few ⊢
          simp only [claims]
          omega
        have looked : (direction :: pending).filter (· ≠ arrived) =
            direction :: pending.filter (· ≠ arrived) :=
          List.filter_cons_of_pos (by simpa using other)
        simp only [looked, List.foldlM_cons, goes]
        refine ((walks branch direction pos after roots (.branch net pos pending :: rest)
          fewer).after (.single (step roots pending rest))).bind fun middle reached => ih ?_ ?_
        · exact (unclaimed_le_of_advances reached).trans few
        · obtain ⟨id, held⟩ := Option.isSome_iff_exists.mp held
          exact Option.isSome_iff_exists.mpr ⟨id, claimed_of_advances reached held⟩

end Walks

/-- Walks have results, whatever is claimed, and the machine comes to the same. -/
theorem walksBelow (grid : γ) (recordEdges : Bool) (count : Nat) :
    WalksBelow grid recordEdges count := by
  induction count with
  | zero => exact fun _ _ _ _ _ _ few => absurd few (Nat.not_lt_zero _)
  | succ count walks =>
      intro net direction pos log roots rest few
      refine .below _ (fun depth => walk_eq grid recordEdges depth net direction pos log) ?_
      cases faces : facing? grid ⟨pos, direction⟩ with
      | none => exact .pure (.single (.work (.breaksOff faces)))
      | some target =>
          cases claimed : log.claimed? target with
          | some existing =>
              by_cases same : existing = net
              · subst same
                simp only [claimed, if_true]
                exact .pure (.single (.work (.returns faces claimed)))
              · simp only [claimed, same, if_false]
                exact ⟨.error ⟨target, existing, net⟩, ⟨0, fun _ _ => rfl⟩, roots, _, rest, log,
                  .refl, traceStep_eq_error_iff.mpr
                    ⟨net, _, target, existing, rfl, faces, claimed, same, rfl⟩⟩
          | none =>
              have inside := (facing?_eq_some_iff.mp faces).2.1
              have fresh : (noted grid recordEdges net ⟨pos, direction⟩ log).claimed? target =
                  none := by
                rwa [claimed?_noted]
              have counted := unclaimed_claim_lt net inside fresh
              have stays : unclaimed grid (noted grid recordEdges net ⟨pos, direction⟩ log) =
                  unclaimed grid log := by
                simp only [unclaimed, claimed?_noted]
              have arrives : Advances grid recordEdges
                  ⟨roots, .follow net ⟨pos, direction⟩ :: rest, log⟩
                  ⟨roots, .branch net target.pos Direction.all :: rest,
                    (noted grid recordEdges net ⟨pos, direction⟩ log).claim net target⟩ :=
                .work (.arrives faces claimed)
              simp only [claimed]
              exact (goOn_mirrored net walks inside target.direction roots rest Direction.all
                (by omega) (by simp)).after (.single arrives)

/-- From the roots in turn, each walked from to the end, the recursion has a result, and the
machine comes to the same. -/
theorem walkRoot_mirrored (grid : γ) (recordEdges : Bool) (roots : List Face) (log : TraceLog) :
    Mirrored grid recordEdges (fun depth => roots.foldlM (walkRoot grid recordEdges depth) log)
      ⟨roots, [], log⟩ (⟨[], [], ·⟩) := by
  induction roots generalizing log with
  | nil => exact .pure .refl
  | cons face roots ih =>
      simp only [List.foldlM_cons, walkRoot]
      by_cases claimed : (log.claimed? face).isSome = true
      · simp only [if_pos claimed, pure_bind]
        exact (ih log).after (.single (.pass claimed))
      · have start : Advances grid recordEdges ⟨face :: roots, [], log⟩
            ⟨roots, [.follow log.next face], log.openAt face⟩ := .start (by simpa using claimed)
        have walked := walksBelow grid recordEdges _ log.next face.direction face.pos
          (log.openAt face) roots [] (Nat.lt_succ_self _)
        simp only [if_neg claimed]
        exact (walked.after (.single start)).bind fun middle _ => ih middle

private theorem rootFaces_cons (grid : γ) (pos : Pos) (members : List Pos) :
    rootFaces grid (pos :: members) = rootFaces grid [pos] ++ rootFaces grid members := by
  rw [rootFaces, ← List.singleton_append, List.filter_append, List.flatMap_append]
  rfl

/-- A block is walked from through its roots in order. -/
theorem walkMember_eq (grid : γ) (recordEdges : Bool) (depth : Nat) (log : TraceLog) (pos : Pos) :
    walkMember grid recordEdges depth log pos =
      (rootFaces grid [pos]).foldlM (walkRoot grid recordEdges depth) log := by
  unfold walkMember rootFaces
  rw [List.filter_singleton]
  cases behavior grid pos with
  | none => rfl
  | some found =>
      cases wire : found.isWire <;> cases junction : found.isJunction <;>
        simp only [Option.any_some, wire, junction] <;> rfl

private theorem foldlM_walkMember (grid : γ) (recordEdges : Bool) (depth : Nat) (members : List Pos)
    (log : TraceLog) :
    members.foldlM (walkMember grid recordEdges depth) log =
      (rootFaces grid members).foldlM (walkRoot grid recordEdges depth) log := by
  induction members generalizing log with
  | nil => rfl
  | cons pos members ih =>
      rw [List.foldlM_cons, rootFaces_cons grid pos members, List.foldlM_append, walkMember_eq]
      simp only [ih]

/-- A state without a next one, with what a trace has come to there. -/
inductive EndsWith (grid : γ) (recordEdges : Bool) :
    TraceState → Except NetConflict TraceLog → Prop
  | finished (log : TraceLog) : EndsWith grid recordEdges ⟨[], [], log⟩ (.ok log)
  | stuck {roots : List Face} {task : TraceTask} {rest : List TraceTask} {log : TraceLog}
      {conflict : NetConflict} (failed : traceStep grid recordEdges log task = .error conflict) :
      EndsWith grid recordEdges ⟨roots, task :: rest, log⟩ (.error conflict)

private theorem EndsWith.not_advances {grid : γ} {recordEdges : Bool} {last next : TraceState}
    {result : Except NetConflict TraceLog} (ends : EndsWith grid recordEdges last result) :
    ¬Advances grid recordEdges last next := by
  intro step
  cases ends with
  | finished => cases step
  | stuck failed =>
      cases step with
      | work move =>
          rw [traceStep_eq_ok_iff.mpr move] at failed
          cases failed

private theorem EndsWith.unique {grid : γ} {recordEdges : Bool} {last : TraceState}
    {first second : Except NetConflict TraceLog} (ends : EndsWith grid recordEdges last first)
    (other : EndsWith grid recordEdges last second) : first = second := by
  cases ends with
  | finished =>
      cases other
      rfl
  | stuck failed =>
      cases other with
      | stuck again =>
          rw [failed] at again
          injection again with same
          rw [same]

private theorem Comes.exists_end {grid : γ} {recordEdges : Bool} {start : TraceState}
    {result : Except NetConflict TraceLog}
    (comes : Comes grid recordEdges start (result.map (⟨[], [], ·⟩))) :
    ∃ last, ReflTransGen (Advances grid recordEdges) start last ∧
      EndsWith grid recordEdges last result := by
  cases result with
  | ok log => exact ⟨_, comes, .finished log⟩
  | error conflict =>
      obtain ⟨roots, task, rest, log, reached, failed⟩ := comes
      exact ⟨_, reached, .stuck failed⟩

/-- The machine comes to one end only. -/
theorem Comes.unique {grid : γ} {recordEdges : Bool} {start : TraceState}
    {first second : Except NetConflict TraceLog}
    (comes : Comes grid recordEdges start (first.map (⟨[], [], ·⟩)))
    (other : Comes grid recordEdges start (second.map (⟨[], [], ·⟩))) : first = second := by
  obtain ⟨last, reached, ends⟩ := comes.exists_end
  obtain ⟨also, alsoReached, alsoEnds⟩ := other.exists_end
  have same : last = also := by
    rcases ReflTransGen.total_of_right_unique Advances.unique reached alsoReached with
      onward | back
    · exact onward.cases_head.resolve_right fun ⟨_, step, _⟩ => ends.not_advances step
    · exact (back.cases_head.resolve_right fun ⟨_, step, _⟩ => alsoEnds.not_advances step).symm
  subst same
  exact ends.unique alsoEnds

private theorem traceLog_comes (grid : γ) (members : List Pos) (recordEdges : Bool) :
    Comes grid recordEdges ⟨rootFaces grid members, [], .empty⟩
      ((traceLog grid members recordEdges).map (⟨[], [], ·⟩)) := by
  cases traced : traceLog grid members recordEdges with
  | ok log => exact traceLog_ok traced
  | error conflict => exact traceLog_error traced

/-- Whatever one recursion results in, another one results in. -/
def Within {α : Type} (first second : ExceptT NetConflict Option α) : Prop :=
  ∀ result, first.run = some result → second.run = some result

namespace Within

variable {α β : Type}

/-- A recursion is within itself. -/
protected theorem refl (recursion : ExceptT NetConflict Option α) : Within recursion recursion :=
  fun _ ran => ran

private theorem bind {first second : ExceptT NetConflict Option α}
    {next after : α → ExceptT NetConflict Option β} (within : Within first second)
    (onward : ∀ value, Within (next value) (after value)) :
    Within (first >>= next) (second >>= after) := by
  intro result ran
  rw [ExceptT.run_bind] at ran ⊢
  cases head : first.run with
  | none =>
      rw [head] at ran
      cases ran
  | some ended =>
      rw [head] at ran
      rw [within ended head]
      cases ended with
      | error conflict => exact ran
      | ok value => exact onward value result ran

private theorem foldlM {step other : α → β → ExceptT NetConflict Option α}
    (within : ∀ value element, Within (step value element) (other value element))
    (elements : List β) (value : α) :
    Within (elements.foldlM step value) (elements.foldlM other value) := by
  induction elements generalizing value with
  | nil => exact .refl _
  | cons element rest ih =>
      rw [List.foldlM_cons, List.foldlM_cons]
      exact (within value element).bind ih

end Within

private theorem goOn_within {grid : γ} {recordEdges : Bool} {depth deeper : Nat} {pos : Pos}
    {direction : Direction}
    (walks : ∀ net log, Within (walk grid recordEdges depth net direction pos log)
      (walk grid recordEdges deeper net direction pos log)) (net : NetId) (log : TraceLog) :
    Within (goOn grid recordEdges depth net pos log direction)
      (goOn grid recordEdges deeper net pos log direction) := by
  unfold goOn
  split
  · exact .refl _
  · split
    · exact walks _ _
    · exact walks _ _

/-- A walk that stays within some depth stays within one more level. -/
theorem walk_within (grid : γ) (recordEdges : Bool) (depth : Nat) (net : NetId)
    (direction : Direction) (pos : Pos) (log : TraceLog) :
    Within (walk grid recordEdges depth net direction pos log)
      (walk grid recordEdges (depth + 1) net direction pos log) := by
  induction depth generalizing net direction pos log with
  | zero => exact fun _ ran => by cases ran
  | succ depth ih =>
      induction pos using run_induction grid direction with
      | nothing pos nothing =>
          rw [walk_of_nothing _ _ _ _ nothing, walk_of_nothing _ _ _ _ nothing]
          exact .refl _
      | wire pos inside isWire =>
          rw [walk_of_wire _ _ _ _ inside isWire, walk_of_wire _ _ _ _ inside isWire]
          exact ih _ _ _ _
      | block pos found inside there notWire =>
          rw [walk_of_block _ _ _ _ inside there notWire,
            walk_of_block _ _ _ _ inside there notWire]
          split
          · exact .refl _
          · exact .foldlM (fun log next => goOn_within (fun net => ih net next _) net log) _ _

/-- A trace that stays within some depth stays within every larger one. -/
theorem recursiveTrace_within (grid : γ) (members : List Pos) (recordEdges : Bool)
    {depth deeper : Nat} (le : depth ≤ deeper) :
    Within (recursiveTrace grid members recordEdges depth)
      (recursiveTrace grid members recordEdges deeper) := by
  induction le with
  | refl => exact .refl _
  | step le ih =>
      refine fun result ran => Within.bind (.foldlM (fun log pos => ?_) _ _)
        (fun _ => .refl _) result (ih result ran)
      rw [walkMember_eq, walkMember_eq]
      refine .foldlM (fun log face => ?_) _ _
      unfold walkRoot
      split
      · exact .refl _
      · exact walk_within grid recordEdges _ _ _ _ _

/-- **A trace is the recursive walk.** Whatever the grid and the blocks, the recursion comes to
an end at some depth, and wherever it does, then with the conflict of the trace or with its nets:
the same serial numbers, members, steps and attachments, all in the same order. -/
theorem recursiveTrace_eq (grid : γ) (members : List Pos) (recordEdges : Bool) :
    (∃ enough, ∀ depth ≥ enough, (recursiveTrace grid members recordEdges depth).run =
      some (trace grid members recordEdges)) ∧
      ∀ depth result, (recursiveTrace grid members recordEdges depth).run = some result →
        result = trace grid members recordEdges := by
  have deep : ∃ enough, ∀ depth ≥ enough, (recursiveTrace grid members recordEdges depth).run =
      some (trace grid members recordEdges) := by
    obtain ⟨result, ⟨enough, ran⟩, comes⟩ :=
      walkRoot_mirrored grid recordEdges (rootFaces grid members) .empty
    obtain rfl := comes.unique (traceLog_comes grid members recordEdges)
    refine ⟨enough, fun depth deep => ?_⟩
    rw [recursiveTrace, ExceptT.run_bind, foldlM_walkMember, ran depth deep, trace]
    cases traceLog grid members recordEdges <;> rfl
  refine ⟨deep, fun depth result ran => ?_⟩
  obtain ⟨enough, ends⟩ := deep
  have also := recursiveTrace_within grid members recordEdges (Nat.le_max_left depth enough)
    result ran
  rw [ends _ (Nat.le_max_right depth enough)] at also
  exact (Option.some.inj also).symm

end VoxelCircuit.Grid

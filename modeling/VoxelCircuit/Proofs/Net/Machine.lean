import Mathlib.Data.List.TakeWhile
import Mathlib.Logic.Relation
import VoxelCircuit.Net.Trace
import VoxelCircuit.Proofs.Net.Corridor

/-! # The tracing machine

Tracing as a machine of small steps. A state has the faces still to be tried as
roots, the stack of tasks and the log. `VoxelCircuit.Grid.TraceMove` says all that
one task can lead to, so a property of every trace is a property kept by its six
cases.
-/

namespace VoxelCircuit

/-- A state of a trace: the roots still to be tried, the pending tasks with the
topmost first, and the log. -/
structure TraceState where
  roots : List Face
  tasks : List TraceTask
  log : TraceLog

/-- The block that a task is at. -/
def TraceTask.pos : TraceTask → Pos
  | follow _ face => face.pos
  | branch _ pos _ => pos

namespace TraceLog

/-- A claim is for its face, and leaves the others as they are. -/
theorem claimed?_claim (log : TraceLog) (net : NetId) (face other : Face) :
    (log.claim net face).claimed? other = if other = face then some net else log.claimed? other :=
  Table.get?_insert ..

/-- A face that was claimed is on the net that it was claimed for. -/
@[simp] theorem claimed?_claim_self (log : TraceLog) (net : NetId) (face : Face) :
    (log.claim net face).claimed? face = some net := by
  rw [claimed?_claim, if_pos rfl]

/-- A claim leaves other faces as they are. -/
theorem claimed?_claim_of_ne (log : TraceLog) (net : NetId) {face other : Face}
    (different : other ≠ face) : (log.claim net face).claimed? other = log.claimed? other := by
  rw [claimed?_claim, if_neg different]

/-- Claiming an unclaimed face keeps all claims. -/
theorem claimed?_claim_of_some {log : TraceLog} {net held : NetId} {face other : Face}
    (unclaimed : log.claimed? face = none) (claimed : log.claimed? other = some held) :
    (log.claim net face).claimed? other = some held := by
  rw [claimed?_claim_of_ne _ _ ?_, claimed]
  rintro rfl
  exact Option.some_ne_none held (claimed.symm.trans unclaimed)

/-- To open a net at a face is to claim the face for the next name. -/
@[simp] theorem claimed?_openAt (log : TraceLog) (face other : Face) :
    (log.openAt face).claimed? other = (log.claim log.next face).claimed? other :=
  rfl

/-- At first no face is claimed. -/
@[simp] theorem claimed?_empty (face : Face) : TraceLog.empty.claimed? face = none :=
  Table.get?_empty face

end TraceLog

namespace Grid

variable {γ : Type} [Grid γ]

/-- The log after a run was followed, before anything is claimed at its end. -/
def noted (grid : γ) (recordEdges : Bool) (net : NetId) (face : Face) (log : TraceLog) :
    TraceLog :=
  if recordEdges then log.walked net ((run grid face).edges face.pos) else log

/-- Noting a run claims nothing. -/
@[simp] theorem claimed?_noted (grid : γ) (recordEdges : Bool) (net : NetId) (face other : Face)
    (log : TraceLog) :
    (noted grid recordEdges net face log).claimed? other = log.claimed? other := by
  unfold noted
  split <;> rfl

/-- Noting a run opens no net. -/
@[simp] theorem opened_noted (grid : γ) (recordEdges : Bool) (net : NetId) (face : Face)
    (log : TraceLog) : (noted grid recordEdges net face log).opened = log.opened := by
  unfold noted
  split <;> rfl

/-- What a task leads to: the tasks that take its place, and the log after it. -/
inductive TraceMove (grid : γ) (recordEdges : Bool) (log : TraceLog) :
    TraceTask → List TraceTask → TraceLog → Prop
  | breaksOff {net : NetId} {face : Face} (faces : facing? grid face = none) :
      TraceMove grid recordEdges log (.follow net face) [] (noted grid recordEdges net face log)
  | returns {net : NetId} {face target : Face} (faces : facing? grid face = some target)
      (claimed : log.claimed? target = some net) :
      TraceMove grid recordEdges log (.follow net face) [] (noted grid recordEdges net face log)
  | arrives {net : NetId} {face target : Face} (faces : facing? grid face = some target)
      (unclaimed : log.claimed? target = none) :
      TraceMove grid recordEdges log (.follow net face) [.branch net target.pos Direction.all]
        ((noted grid recordEdges net face log).claim net target)
  | settles {net : NetId} {pos : Pos} {pending : List Direction}
      (claimed : ∀ direction ∈ pending, (log.claimed? ⟨pos, direction⟩).isSome) :
      TraceMove grid recordEdges log (.branch net pos pending) [] log
  | prolongs {net : NetId} {pos : Pos} {pending skipped rest : List Direction}
      {direction : Direction} (split : pending = skipped ++ direction :: rest)
      (claimed : ∀ other ∈ skipped, (log.claimed? ⟨pos, other⟩).isSome)
      (unclaimed : log.claimed? ⟨pos, direction⟩ = none)
      (junction : behavior grid pos = some .junction) :
      TraceMove grid recordEdges log (.branch net pos pending)
        [.follow net ⟨pos, direction⟩, .branch net pos rest] (log.claim net ⟨pos, direction⟩)
  | opens {net : NetId} {pos : Pos} {pending skipped rest : List Direction}
      {direction : Direction} (split : pending = skipped ++ direction :: rest)
      (claimed : ∀ other ∈ skipped, (log.claimed? ⟨pos, other⟩).isSome)
      (unclaimed : log.claimed? ⟨pos, direction⟩ = none)
      (junction : behavior grid pos ≠ some .junction) :
      TraceMove grid recordEdges log (.branch net pos pending)
        [.follow log.next ⟨pos, direction⟩, .branch net pos rest] (log.openAt ⟨pos, direction⟩)

/-- To follow a face is to look at the face that it comes to, note the run and claim that face,
unless it was claimed before. -/
theorem traceStep_follow (grid : γ) (recordEdges : Bool) (net : NetId) (face : Face)
    (log : TraceLog) :
    traceStep grid recordEdges log (.follow net face) =
      match facing? grid face with
      | none => .ok ([], noted grid recordEdges net face log)
      | some target =>
        match log.claimed? target with
        | some existing =>
          if existing = net then .ok ([], noted grid recordEdges net face log)
          else .error ⟨target, existing, net⟩
        | none => .ok ([.branch net target.pos Direction.all],
            (noted grid recordEdges net face log).claim net target) := by
  simp only [traceStep, follow, facing?]
  cases (run grid face).arrival with
  | none => rfl
  | some last =>
      have same := claimed?_noted grid recordEdges net face ⟨last, face.direction.opposite⟩ log
      unfold noted at same
      simp only [Option.map_some, same]
      rfl

/-- A step of the trace makes the moves of the machine and no others. -/
theorem traceStep_eq_ok_iff {grid : γ} {recordEdges : Bool} {log after : TraceLog}
    {task : TraceTask} {tasks : List TraceTask} :
    traceStep grid recordEdges log task = .ok (tasks, after) ↔
      TraceMove grid recordEdges log task tasks after := by
  constructor
  · intro stepped
    cases task with
    | follow net face =>
        rw [traceStep_follow] at stepped
        cases faces : facing? grid face with
        | none =>
            simp only [faces, Except.ok.injEq, Prod.mk.injEq] at stepped
            obtain ⟨rfl, rfl⟩ := stepped
            exact .breaksOff faces
        | some target =>
            simp only [faces] at stepped
            cases claimed : log.claimed? target with
            | none =>
                simp only [claimed, Except.ok.injEq, Prod.mk.injEq] at stepped
                obtain ⟨rfl, rfl⟩ := stepped
                exact .arrives faces claimed
            | some existing =>
                by_cases same : existing = net
                · simp only [claimed, same, ↓reduceIte, Except.ok.injEq, Prod.mk.injEq] at stepped
                  obtain ⟨rfl, rfl⟩ := stepped
                  exact .returns faces (claimed.trans (congrArg some same))
                · simp [claimed, same] at stepped
    | branch net pos pending =>
        simp only [traceStep, Except.ok.injEq] at stepped
        unfold branch at stepped
        cases found : pending.dropWhile
            fun direction => (log.claimed? ⟨pos, direction⟩).isSome with
        | nil =>
            simp only [found, Prod.mk.injEq] at stepped
            obtain ⟨rfl, rfl⟩ := stepped
            exact .settles (List.dropWhile_eq_nil_iff.mp found)
        | cons direction rest =>
            have split := List.takeWhile_append_dropWhile
              (p := fun direction => (log.claimed? ⟨pos, direction⟩).isSome) (l := pending)
            have unclaimed : log.claimed? ⟨pos, direction⟩ = none := by
              have first := List.head?_dropWhile_not
                (fun direction => (log.claimed? ⟨pos, direction⟩).isSome) pending
              simpa [found] using first
            rw [found] at split stepped
            by_cases junction : behavior grid pos = some .junction
            · simp only [junction, ↓reduceIte, Prod.mk.injEq] at stepped
              obtain ⟨rfl, rfl⟩ := stepped
              exact .prolongs split.symm (fun _ => List.mem_takeWhile_imp) unclaimed junction
            · simp only [junction, ↓reduceIte, Prod.mk.injEq] at stepped
              obtain ⟨rfl, rfl⟩ := stepped
              exact .opens split.symm (fun _ => List.mem_takeWhile_imp) unclaimed junction
  · intro move
    have dropped : ∀ {pos : Pos} {skipped rest : List Direction} {direction : Direction},
        (∀ other ∈ skipped, (log.claimed? ⟨pos, other⟩).isSome = true) →
        log.claimed? ⟨pos, direction⟩ = none →
          (skipped ++ direction :: rest).dropWhile
            (fun direction => (log.claimed? ⟨pos, direction⟩).isSome) = direction :: rest := by
      intro pos skipped rest direction claimed unclaimed
      rw [List.dropWhile_append_of_pos claimed, List.dropWhile_cons_of_neg (by simp [unclaimed])]
    cases move with
    | breaksOff faces => simp only [traceStep_follow, faces]
    | returns faces claimed => simp only [traceStep_follow, faces, claimed, ↓reduceIte]
    | arrives faces unclaimed => simp only [traceStep_follow, faces, unclaimed]
    | settles claimed =>
        simp only [traceStep, branch, List.dropWhile_eq_nil_iff.mpr claimed]
    | prolongs split claimed unclaimed junction =>
        simp only [traceStep, branch, split, dropped claimed unclaimed, junction, ↓reduceIte]
    | opens split claimed unclaimed junction =>
        simp only [traceStep, branch, split, dropped claimed unclaimed, junction, ↓reduceIte]

/-- A step fails when a run comes to a face that another net has claimed. -/
theorem traceStep_eq_error_iff {grid : γ} {recordEdges : Bool} {log : TraceLog}
    {task : TraceTask} {conflict : NetConflict} :
    traceStep grid recordEdges log task = .error conflict ↔
      ∃ net face target existing, task = .follow net face ∧ facing? grid face = some target ∧
        log.claimed? target = some existing ∧ existing ≠ net ∧
          conflict = ⟨target, existing, net⟩ := by
  constructor
  · intro failed
    cases task with
    | branch net pos pending => simp [traceStep] at failed
    | follow net face =>
        rw [traceStep_follow] at failed
        cases faces : facing? grid face with
        | none => simp [faces] at failed
        | some target =>
            cases claimed : log.claimed? target with
            | none => simp [faces, claimed] at failed
            | some existing =>
                by_cases same : existing = net
                · simp [faces, claimed, same] at failed
                · simp only [faces, claimed, same, ↓reduceIte, Except.error.injEq] at failed
                  exact ⟨net, face, target, existing, rfl, faces, claimed, same, failed.symm⟩
  · rintro ⟨net, face, target, existing, rfl, faces, claimed, different, rfl⟩
    simp only [traceStep_follow, faces, claimed, different, ↓reduceIte]

end Grid

end VoxelCircuit

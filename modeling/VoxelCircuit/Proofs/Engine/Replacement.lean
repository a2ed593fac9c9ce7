import VoxelCircuit.Proofs.Circuit.RefreshEdits
import VoxelCircuit.Proofs.Engine.Embedded

/-! # What an event does to a block

An event for a block ends in one of five ways, and only one of them touches anything
(`VoxelCircuit.Engine.ends`): the block holds no grid, or that grid does not compile, or its
circuits ask for nothing new, or for a type that there is not; or else the block is replaced,
and then the event that tells of it is sent. So a block is replaced and told of, or neither
(`VoxelCircuit.Engine.dispatch_all_or_nothing`).
-/

namespace VoxelCircuit

variable {ω : Type} {grid : VoxelGrid (World ω)} {pos : Pos} {id : BlockId}

/-- Only blocks within the bounds hold a grid. -/
theorem VoxelGrid.mem_bounds_of_interior {interior : World ω}
    (holds : grid.interior pos = some interior) : pos ∈ grid.bounds := by
  by_contra outside
  rw [VoxelGrid.interior, cell_of_not_mem outside, Cell.air, Catalog.interior_air] at holds
  cases holds

namespace Engine

variable [EditableGrid ω] {σ : Type} [Sink σ] {engine : Engine σ} {event : Signal}
  {reports : List Report}

/-- What is left when a block of some type became one of another, and the event that tells of it
was sent. -/
def replacedBy (engine : Engine σ) (pos : Pos) (before id : BlockId) (after : VoxelGrid (World ω))
    (reports : List Report) : Dispatch σ (World ω) :=
  let told := Sink.notify engine.events (.became pos before id)
  ⟨{ engine with events := told.1 }, .voxel after, reports, .ok (some id),
    some (.became pos before id, told.2)⟩

/-- The ways in which an event for a block of a voxel grid can end. -/
inductive Ends (engine : Engine σ) (grid : VoxelGrid (World ω)) (pos : Pos) (event : Signal) :
    Dispatch σ (World ω) → Prop
  | hollow (empty : grid.interior pos = none) :
      Ends engine grid pos event ⟨engine, .voxel grid, [], .ok none, none⟩
  | uncompiled {interior : World ω} {reports : List Report} {error : CompileError}
      (holds : grid.interior pos = some interior)
      (answer : engine.evaluateEmbedded interior (.voxel grid) pos (some event) =
        ⟨reports, .error error⟩) :
      Ends engine grid pos event ⟨engine, .voxel grid, reports, .error (.compile error), none⟩
  | content {interior : World ω} {reports : List Report} {outcome : EmbeddedOutcome}
      (holds : grid.interior pos = some interior)
      (answer : engine.evaluateEmbedded interior (.voxel grid) pos (some event) =
        ⟨reports, .ok outcome⟩)
      (same : ∀ id, outcome.replacement = some id → (grid.cell pos).id = id) :
      Ends engine grid pos event ⟨engine, .voxel grid, reports, .ok none, none⟩
  | unknown {interior : World ω} {reports : List Report} {outcome : EmbeddedOutcome}
      {id : BlockId} (holds : grid.interior pos = some interior)
      (answer : engine.evaluateEmbedded interior (.voxel grid) pos (some event) =
        ⟨reports, .ok outcome⟩)
      (asked : outcome.replacement = some id) (missing : grid.catalog.contains id = false) :
      Ends engine grid pos event
        ⟨engine, .voxel grid, reports, .error (.grid (.unknownBlock id)), none⟩
  | replaced {interior : World ω} {reports : List Report} {outcome : EmbeddedOutcome}
      {id : BlockId} {after : VoxelGrid (World ω)} (holds : grid.interior pos = some interior)
      (answer : engine.evaluateEmbedded interior (.voxel grid) pos (some event) =
        ⟨reports, .ok outcome⟩)
      (asked : outcome.replacement = some id) (other : (grid.cell pos).id ≠ id)
      (known : grid.catalog.contains id = true)
      (edited : grid.Edited [.replaceBlock pos id (grid.cell pos).datum] after) :
      Ends engine grid pos event (replacedBy engine pos (grid.cell pos).id id after reports)

private theorem become_of_same (same : (grid.cell pos).id = id) :
    engine.become (World.voxel grid) pos id reports =
      ⟨engine, .voxel grid, reports, .ok none, none⟩ :=
  if_pos same

private theorem become_of_refused {error : GridError} (other : (grid.cell pos).id ≠ id)
    (refused : grid.apply (.replaceBlock pos id (grid.cell pos).datum) = .error error) :
    engine.become (World.voxel grid) pos id reports =
      ⟨engine, .voxel grid, reports, .error (.grid error), none⟩ := by
  have stays : EditableGrid.apply (World.voxel grid)
      (.replaceBlock pos id (Grid.datum (World.voxel grid) pos)) = .error error :=
    congrArg (Except.map World.voxel) refused
  refine (if_neg other).trans ?_
  rw [stays]

private theorem become_of_applied {after : VoxelGrid (World ω)} (other : (grid.cell pos).id ≠ id)
    (applied : grid.apply (.replaceBlock pos id (grid.cell pos).datum) = .ok after) :
    engine.become (World.voxel grid) pos id reports =
      replacedBy engine pos (grid.cell pos).id id after reports := by
  have made : EditableGrid.apply (World.voxel grid)
      (.replaceBlock pos id (Grid.datum (World.voxel grid) pos)) = .ok (.voxel after) :=
    congrArg (Except.map World.voxel) applied
  refine (if_neg other).trans ?_
  rw [made]
  rfl

private theorem ends (engine : Engine σ) (grid : VoxelGrid (World ω)) (pos : Pos) (event : Signal) :
    Ends engine grid pos event (engine.dispatch (World.voxel grid) pos event) := by
  have seen : Grid.interior (World.voxel grid) pos = grid.interior pos := rfl
  unfold dispatch
  rw [seen]
  cases holds : grid.interior pos with
  | none => exact .hollow holds
  | some interior =>
      cases answer : engine.evaluateEmbedded interior (.voxel grid) pos (some event) with
      | mk reports found =>
          simp only [answer]
          cases found with
          | error error => exact .uncompiled holds answer
          | ok outcome =>
              cases asked : outcome.replacement with
              | none =>
                  simp only [asked]
                  exact .content holds answer (by simp [asked])
              | some id =>
                  simp only [asked]
                  by_cases same : (grid.cell pos).id = id
                  · rw [become_of_same same]
                    exact .content holds answer (by simp [asked, same])
                  · cases applied : grid.apply (.replaceBlock pos id (grid.cell pos).datum) with
                    | ok after =>
                        rw [become_of_applied same applied]
                        obtain ⟨⟨_, known⟩, edited⟩ := VoxelGrid.apply_ok applied
                        exact .replaced holds answer asked same (known _ _ _ rfl) edited
                    | error error =>
                        rw [become_of_refused same applied]
                        obtain ⟨_, _, _, this, missing, rfl⟩ := VoxelGrid.apply_error applied
                          (VoxelGrid.mem_bounds_of_interior holds)
                        cases this
                        exact .unknown holds answer asked missing

/-- **A block is replaced and told of, or neither.** If dispatching an event to a block of a voxel
grid says that the block became one of another type, then it had another type before, it is an
unturned block of the new type with its old datum, nothing else in the grid has changed, and the
one event sent is that it became so. In all other cases the grid is as it was and no event is
sent. The block becomes one of a type exactly if it holds a grid whose circuits compile and, told
of the event, ask for that type, and it is another type than the block has and one in the
catalog. -/
theorem dispatch_all_or_nothing (engine : Engine σ) (grid : VoxelGrid (World ω)) (pos : Pos)
    (event : Signal) :
    let dispatched := engine.dispatch (World.voxel grid) pos event
    (∀ id, dispatched.outcome = .ok (some id) → (grid.cell pos).id ≠ id ∧
      (let told := Sink.notify engine.events (.became pos (grid.cell pos).id id)
      dispatched.engine = { engine with events := told.1 } ∧
        dispatched.sent = some (.became pos (grid.cell pos).id id, told.2)) ∧
      ∃ after, dispatched.grid = .voxel after ∧ after.catalog = grid.catalog ∧
        after.extent = grid.extent ∧ after.cell pos = ⟨id, .identity, (grid.cell pos).datum⟩ ∧
          ∀ other, other ≠ pos → after.cell other = grid.cell other) ∧
    ((∀ id, dispatched.outcome ≠ .ok (some id)) →
      dispatched.grid = .voxel grid ∧ dispatched.engine = engine ∧ dispatched.sent = none) ∧
    ∀ id, dispatched.outcome = .ok (some id) ↔
      ∃ interior outcome, grid.interior pos = some interior ∧
        (engine.evaluateEmbedded interior (.voxel grid) pos (some event)).outcome = .ok outcome ∧
          outcome.replacement = some id ∧ (grid.cell pos).id ≠ id ∧
            grid.catalog.contains id = true := by
  intro dispatched
  have how : Ends engine grid pos event dispatched := ends engine grid pos event
  clear_value dispatched
  refine ⟨fun id became => ?_, fun stays => ?_, fun id => ⟨fun became => ?_, fun found => ?_⟩⟩
  · cases how with
    | replaced holds answer asked other known edited =>
        cases became
        refine ⟨other, ⟨rfl, rfl⟩, _, rfl, edited.catalog, edited.extent, edited.cell_of_single, ?_⟩
        intro place apart
        exact edited.cell_of_others fun edit member =>
          List.mem_singleton.mp member ▸ apart.symm
    | hollow | uncompiled | content | unknown => cases became
  · cases how with
    | replaced => exact (stays _ rfl).elim
    | hollow | uncompiled | content | unknown => exact ⟨rfl, rfl, rfl⟩
  · cases how with
    | replaced holds answer asked other known =>
        cases became
        exact ⟨_, _, holds, congrArg Compilation.outcome answer, asked, other, known⟩
    | hollow | uncompiled | content | unknown => cases became
  · obtain ⟨interior, outcome, holds, answered, asked, other, known⟩ := found
    have unique : ∀ {other reports result}, grid.interior pos = some other →
        engine.evaluateEmbedded other (.voxel grid) pos (some event) = ⟨reports, result⟩ →
          result = .ok outcome := by
      intro other reports result also answer
      cases also.symm.trans holds
      rw [← answered, answer]
    cases how with
    | hollow empty => cases empty.symm.trans holds
    | uncompiled also answer => cases unique also answer
    | content also answer same =>
        cases unique also answer
        exact (other (same id asked)).elim
    | unknown also answer wanted missing =>
        cases unique also answer
        cases wanted.symm.trans asked
        cases missing.symm.trans known
    | replaced also answer wanted =>
        cases unique also answer
        cases wanted.symm.trans asked
        rfl

/-- A block that drives the event, and a changer beside it. -/
def obeying : World EndlessChip :=
  .voxel ⟨⟨Layout.standardTypes⟩, .clamped 2 1 1,
    #[⟨⟨9⟩, .identity, 0⟩, ⟨⟨11⟩, .identity, 0⟩], rfl⟩

/-- An engine that records its events. -/
def recording : Engine EventSink := { usual with events := .record [] }

/-- An event has the chip become stone and is told of, and one that asks for a type that there
is not leaves the chip and the record as they were. -/
theorem chipAround_obeying_dispatched :
    let obeyed := recording.dispatch (World.voxel (chipAround obeying)) ⟨0, 0, 0⟩
      (.number (.ofInt 20))
    let refused := recording.dispatch (World.voxel (chipAround obeying)) ⟨0, 0, 0⟩
      (.number (.ofInt 99))
    obeyed.outcome = .ok (some ⟨20⟩) ∧
      obeyed.engine.events = .record [.became ⟨0, 0, 0⟩ ⟨30⟩ ⟨20⟩] ∧
      (∃ after, obeyed.grid = .voxel after ∧ after.cell ⟨0, 0, 0⟩ = ⟨⟨20⟩, .identity, 7⟩) ∧
      refused.outcome = .error (.grid (.unknownBlock ⟨99⟩)) ∧
      refused.grid = .voxel (chipAround obeying) ∧ refused.engine = recording ∧
      refused.sent = none := by
  have became : (recording.dispatch (World.voxel (chipAround obeying)) ⟨0, 0, 0⟩
      (.number (.ofInt 20))).outcome = .ok (some ⟨20⟩) := by decide +kernel
  have unknown : (recording.dispatch (World.voxel (chipAround obeying)) ⟨0, 0, 0⟩
      (.number (.ofInt 99))).outcome = .error (.grid (.unknownBlock ⟨99⟩)) := by decide +kernel
  have chip : (chipAround obeying).cell ⟨0, 0, 0⟩ = ⟨⟨30⟩, .ofCodeWrapping 20, 7⟩ := by
    decide +kernel
  obtain ⟨done, _, _⟩ :=
    recording.dispatch_all_or_nothing (chipAround obeying) ⟨0, 0, 0⟩ (.number (.ofInt 20))
  obtain ⟨_, kept, _⟩ :=
    recording.dispatch_all_or_nothing (chipAround obeying) ⟨0, 0, 0⟩ (.number (.ofInt 99))
  obtain ⟨_, ⟨told, _⟩, after, left, _, _, cell, _⟩ := done ⟨20⟩ became
  obtain ⟨still, silent, unsent⟩ := kept fun id same => by cases unknown.symm.trans same
  rw [chip] at told cell
  exact ⟨became, congrArg Engine.events told, ⟨after, left, cell⟩, unknown, still, silent, unsent⟩

end Engine

end VoxelCircuit

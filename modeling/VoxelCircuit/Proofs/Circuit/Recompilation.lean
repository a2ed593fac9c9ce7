import VoxelCircuit.Layout.Basic
import VoxelCircuit.Layout.EndlessChip
import VoxelCircuit.Proofs.Circuit.Compile
import VoxelCircuit.Proofs.Grid.Circuitry
import VoxelCircuit.Proofs.Grid.Edits

/-! # When circuits need no new compilation

Compiling takes from a grid what its circuits are made of and nothing else. So voxel grids
that agree on this have equal circuits (`VoxelCircuit.Circuit.compile_once`). Changes of
data keep it, and so do changes between blocks without a behavior
(`VoxelCircuit.VoxelGrid.applyAll_sameCircuitry`).
-/

namespace VoxelCircuit

namespace Circuit

variable {γ : Type} [Grid γ] {first second : γ} {options : CompileOptions}
  {deeper : Option (γ → Compilation (List (Circuit γ)))}

private theorem effectFor_congr (same : Grid.SameCircuitry first second) (graph : NetGraph) :
    effectFor options deeper first graph = effectFor options deeper second graph := by
  funext target
  cases target with
  | net id => rfl
  | block pos =>
      simp only [effectFor, ← same.behavior, same.inputsAt_eq]
      cases there : Grid.behavior first pos with
      | none => rfl
      | some behavior =>
          rw [same.orientation pos (Option.isSome_of_mem there)]
          cases behavior
          case chip => rw [same.interior pos there]
          all_goals rfl

private theorem compileWith_congr (same : Grid.SameCircuitry first second) (depth : Nat)
    (circuit : Circuit γ) :
    compileWith options deeper depth first circuit =
      compileWith options deeper depth second circuit := by
  simp only [compileWith, same.trace_eq, same.demandOrder_eq, effectFor_congr same]

/-- Grids inside chips are the same grids, so compiling them is no different. -/
theorem compileAll_congr (same : Grid.SameCircuitry first second) (depth : Nat) :
    compileAll options depth first = compileAll options depth second := by
  rw [compileAll, compileAll]
  cases options.maxEmbedDepth - depth with
  | zero => simp only [compileLevels, same.clusters_eq, compileWith_congr same]
  | succ levels => simp only [compileLevels, same.clusters_eq, compileWith_congr same]

end Circuit

namespace VoxelGrid

variable {γ : Type} {first second third grid after : VoxelGrid γ} {edit : Edit}

/-- Two voxel grids have the same bounds and the same behaviors; blocks with a behavior are
turned alike, and chips hold the same grids. -/
structure SameCircuitry (first second : VoxelGrid γ) : Prop where
  bounds : first.bounds = second.bounds
  behavior : ∀ pos, first.behavior pos = second.behavior pos
  orientation : ∀ pos, (first.behavior pos).isSome →
    (first.cell pos).orientation = (second.cell pos).orientation
  interior : ∀ pos, first.behavior pos = some .chip → first.interior pos = second.interior pos

private theorem SameCircuitry.refl (grid : VoxelGrid γ) : grid.SameCircuitry grid :=
  ⟨rfl, fun _ => rfl, fun _ _ => rfl, fun _ _ => rfl⟩

private theorem SameCircuitry.trans (before : first.SameCircuitry second)
    (later : second.SameCircuitry third) : first.SameCircuitry third where
  bounds := before.bounds.trans later.bounds
  behavior pos := (before.behavior pos).trans (later.behavior pos)
  orientation pos present := (before.orientation pos present).trans
    (later.orientation pos (before.behavior pos ▸ present))
  interior pos chip := (before.interior pos chip).trans
    (later.interior pos (before.behavior pos ▸ chip))

private theorem SameCircuitry.world {ω : Type} [Grid ω] {first second : VoxelGrid (World ω)}
    (same : first.SameCircuitry second) :
    Grid.SameCircuitry (World.voxel first) (World.voxel second) :=
  ⟨same.bounds, same.bounds, same.behavior, same.orientation, same.interior⟩

/-- With one catalog it is enough to compare behaviors, and the cells that have one. -/
theorem sameCircuitry_of_cells (catalog : first.catalog = second.catalog)
    (extent : first.extent = second.extent)
    (cells : ∀ pos ∈ first.bounds.positions, first.behavior pos = second.behavior pos ∧
      ((first.behavior pos).isSome → (first.cell pos).id = (second.cell pos).id ∧
        (first.cell pos).orientation = (second.cell pos).orientation)) :
    first.SameCircuitry second := by
  have bounds : first.bounds = second.bounds := congrArg GridExtent.box extent
  have everywhere : ∀ pos, first.behavior pos = second.behavior pos ∧
      ((first.behavior pos).isSome → (first.cell pos).id = (second.cell pos).id ∧
        (first.cell pos).orientation = (second.cell pos).orientation) := by
    intro pos
    by_cases inside : pos ∈ first.bounds
    · exact cells pos (Box.mem_positions.mpr inside)
    · have outside := behavior_of_not_mem (bounds ▸ inside : pos ∉ second.bounds)
      rw [behavior_of_not_mem inside, outside]
      exact ⟨rfl, nofun⟩
  refine ⟨bounds, fun pos => (everywhere pos).1, fun pos present => ((everywhere pos).2 present).2,
    fun pos chip => ?_⟩
  rw [interior, interior, catalog, ((everywhere pos).2 (Option.isSome_of_mem chip)).1]

/-- An edit changes a datum alone, or a block without a behavior that stays one. -/
def Spares (grid : VoxelGrid γ) : Edit → Prop
  | .setDatum _ _ => True
  | .setOrientation pos _ => grid.behavior pos = none
  | .replaceBlock pos id _ => grid.behavior pos = none ∧ grid.catalog.behavior id = none

private theorem Spares.congr (spares : grid.Spares edit) (catalog : after.catalog = grid.catalog)
    (same : grid.SameCircuitry after) : after.Spares edit := by
  cases edit with
  | setDatum => exact trivial
  | setOrientation pos _ => exact (same.behavior pos).symm.trans spares
  | replaceBlock pos id _ =>
      exact ⟨(same.behavior pos).symm.trans spares.1, catalog ▸ spares.2⟩

/-- What such an edit leaves does as the block did, and is that block if it did anything. -/
theorem Spares.cellAfter (spares : grid.Spares edit) :
    grid.behavior edit.pos = grid.catalog.behavior (edit.cellAfter (grid.cell edit.pos)).id ∧
      ((grid.behavior edit.pos).isSome →
        (grid.cell edit.pos).id = (edit.cellAfter (grid.cell edit.pos)).id ∧
          (grid.cell edit.pos).orientation =
            (edit.cellAfter (grid.cell edit.pos)).orientation) := by
  cases edit with
  | setDatum pos value => exact ⟨rfl, fun _ => ⟨rfl, rfl⟩⟩
  | setOrientation pos orientation =>
      have passive : grid.behavior pos = none := spares
      refine ⟨rfl, fun present => ?_⟩
      rw [Edit.pos, passive] at present
      cases present
  | replaceBlock pos id datum =>
      obtain ⟨passive, still⟩ := spares
      refine ⟨passive.trans still.symm, fun present => ?_⟩
      rw [Edit.pos, passive] at present
      cases present

private theorem sameCircuitry_of_apply (spares : grid.Spares edit)
    (applied : grid.apply edit = .ok after) :
    after.catalog = grid.catalog ∧ grid.SameCircuitry after := by
  have edited := (apply_ok applied).2
  refine ⟨edited.catalog, sameCircuitry_of_cells edited.catalog.symm edited.extent.symm ?_⟩
  intro pos _
  have others : after.behavior pos = grid.catalog.behavior (after.cell pos).id := by
    rw [behavior, edited.catalog]
  rw [others]
  by_cases here : edit.pos = pos
  · subst here
    rw [edited.cell_of_single]
    exact spares.cellAfter
  · have kept : after.cell pos = grid.cell pos :=
      edited.cell_of_others fun other member => List.mem_singleton.mp member ▸ here
    rw [kept]
    exact ⟨rfl, fun _ => ⟨rfl, rfl⟩⟩

/-- Edits that spare the circuits keep what these are made of, whether or not they are all
carried out. -/
theorem applyAll_sameCircuitry {ω : Type} [EditableGrid ω] {grid : VoxelGrid (World ω)}
    {edits : List Edit} (spare : ∀ edit ∈ edits, grid.Spares edit) :
    ∃ after, (EditableGrid.applyAll (World.voxel grid) edits).1 = .voxel after ∧
      grid.SameCircuitry after := by
  induction edits generalizing grid with
  | nil => exact ⟨grid, rfl, .refl grid⟩
  | cons edit rest ih =>
      cases applied : grid.apply edit with
      | error error =>
          rw [applyAll_cons_error applied]
          exact ⟨grid, rfl, .refl grid⟩
      | ok middle =>
          rw [applyAll_cons_ok applied]
          obtain ⟨catalog, same⟩ :=
            sameCircuitry_of_apply (spare edit List.mem_cons_self) applied
          obtain ⟨after, done, later⟩ := ih fun other member =>
            (spare other (List.mem_cons_of_mem _ member)).congr catalog same
          exact ⟨after, done, same.trans later⟩

end VoxelGrid

namespace Circuit

/-- **Compile once, evaluate many.** Two voxel grids that agree on bounds, behaviors, the turn
of blocks with a behavior and the grids in chips compile alike: with the same reports, to the
same circuits or the same error, and so to circuits that write and request the same in every
state. Edits of data and of what has no behavior thus leave nothing to compile anew. -/
theorem compile_once {ω : Type} [EditableGrid ω] {first second : VoxelGrid (World ω)}
    (same : first.SameCircuitry second) (options : CompileOptions) (depth : Nat) :
    compileAll options depth (World.voxel first) = compileAll options depth (World.voxel second) ∧
    (∀ circuits others, (compileAll options depth (World.voxel first)).outcome = .ok circuits →
      (compileAll options depth (World.voxel second)).outcome = .ok others →
        List.Forall₂ (fun circuit other => ∀ state,
          (circuit.evaluate state).written = (other.evaluate state).written) circuits others) ∧
    ∀ edits, (∀ edit ∈ edits, first.Spares edit) →
      compileAll options depth (EditableGrid.applyAll (World.voxel first) edits).1 =
        compileAll options depth (World.voxel first) := by
  have alike : compileAll options depth (World.voxel first) =
      compileAll options depth (World.voxel second) := compileAll_congr same.world depth
  refine ⟨alike, fun circuits others compiled again => ?_, fun edits spare => ?_⟩
  · rw [alike, again] at compiled
    cases compiled
    exact List.forall₂_same.mpr fun _ _ _ => rfl
  · obtain ⟨after, done, kept⟩ := VoxelGrid.applyAll_sameCircuitry spare
    rw [done]
    exact (compileAll_congr kept.world depth).symm

/-- A pad wired to a chip that publishes what a pad inside it drives, and an indicator; beside
them a cell without a behavior. -/
def padAndChip (datum : Int) (scenery : Cell) : VoxelGrid (World EndlessChip) :=
  ⟨⟨Layout.standardTypes ++ [⟨⟨30⟩, "chip", some .chip, some (.voxel ⟨⟨Layout.standardTypes⟩,
      .clamped 2 1 1, #[⟨⟨2⟩, .identity, 3⟩, ⟨⟨12⟩, .identity, 0⟩], rfl⟩)⟩]⟩, .clamped 5 1 1,
    #[⟨⟨2⟩, .identity, datum⟩, ⟨⟨1⟩, .identity, datum⟩, ⟨⟨30⟩, .identity, datum⟩,
      ⟨⟨3⟩, .identity, datum⟩, scenery], rfl⟩

/-- With other data and turned stone in place of air, the circuit of the chip is the same. -/
theorem padAndChip_compiles_once :
    (padAndChip 1 .air).SameCircuitry (padAndChip 0 ⟨⟨20⟩, .ofCodeWrapping 5, 9⟩) ∧
      ∃ circuits, circuits.length = 1 ∧
        (compileAll {} 0 (World.voxel (padAndChip 1 .air))).outcome = .ok circuits ∧
        (compileAll {} 0 (World.voxel (padAndChip 0 ⟨⟨20⟩, .ofCodeWrapping 5, 9⟩))).outcome =
          .ok circuits ∧
        List.Forall₂ (fun circuit other => ∀ state,
          (circuit.evaluate state).written = (other.evaluate state).written) circuits circuits ∧
        (padAndChip 1 .air).Spares (.replaceBlock ⟨4, 0, 0⟩ ⟨20⟩ 7) ∧
        (compileAll {} 0 (EditableGrid.applyAll (World.voxel (padAndChip 1 .air))
          [.replaceBlock ⟨4, 0, 0⟩ ⟨20⟩ 7]).1).outcome = .ok circuits := by
  have same : (padAndChip 1 .air).SameCircuitry
      (padAndChip 0 ⟨⟨20⟩, .ofCodeWrapping 5, 9⟩) :=
    VoxelGrid.sameCircuitry_of_cells rfl rfl (by decide +kernel)
  obtain ⟨circuits, compiled, single⟩ := Compilation.exists_ok
    (compileAll {} 0 (World.voxel (padAndChip 1 .air))) List.length 1 (by decide +kernel)
  obtain ⟨alike, evaluate, edited⟩ := compile_once same {} 0
  have again := compiled
  rw [alike] at again
  have spares : (padAndChip 1 .air).Spares (.replaceBlock ⟨4, 0, 0⟩ ⟨20⟩ 7) :=
    ⟨by decide +kernel, by decide +kernel⟩
  have after := edited [.replaceBlock ⟨4, 0, 0⟩ ⟨20⟩ 7] fun edit member =>
    List.mem_singleton.mp member ▸ spares
  refine ⟨same, circuits, single, compiled, again, evaluate circuits circuits compiled again,
    spares, ?_⟩
  rw [after, compiled]

end Circuit

end VoxelCircuit

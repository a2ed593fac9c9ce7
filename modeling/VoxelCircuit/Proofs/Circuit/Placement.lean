import VoxelCircuit.Layout.Basic
import VoxelCircuit.Layout.EndlessChip
import VoxelCircuit.Proofs.Circuit.ShiftedEvaluation
import VoxelCircuit.Proofs.Circuit.ShiftedReports

/-! # Room around a layout

How much room there is around a layout, and where in it the layout lies, makes no difference
to its circuits (`VoxelCircuit.Circuit.placedIn_alike`).
-/

namespace VoxelCircuit

/-- Placement can be checked cell by cell. -/
theorem VoxelGrid.placedIn_of_cells {γ : Type} {offset : Pos} {grid world : VoxelGrid γ}
    (catalog : world.catalog = grid.catalog)
    (cells : ∀ pos ∈ grid.bounds.positions, offset.shift pos ∈ world.bounds ∧
      world.cell (offset.shift pos) = grid.cell pos)
    (around : ∀ pos ∈ world.bounds.positions, pos ∉ grid.bounds.positions.map offset.shift →
      world.cell pos = .air) : PlacedIn offset grid world where
  catalog := catalog
  fits pos inside := (cells pos (Box.mem_positions.mpr inside)).1
  cells pos inside := (cells pos (Box.mem_positions.mpr inside)).2
  around pos outside := by
    by_cases within : offset.shift pos ∈ world.bounds
    · refine around _ (Box.mem_positions.mpr within) ?_
      rwa [List.mem_map_of_injective offset.shift_injective, Box.mem_positions]
    · exact cell_of_not_mem within

namespace Circuit

/-- **Room around a layout changes nothing.** If a voxel grid is placed in another at some
offset, with nothing but air around it, then the clusters are the same shifted, and compiling
comes to the same circuits or the same error, shifted: with the same serial numbers, members,
steps and effects in the same order. What compiling reports of either grid comes in parts, each
a report about the grid itself or all that is reported of the grid inside one of its chips, and
the parts are the same, shifted. Evaluating a circuit, and the circuit shifted in its place,
writes the same values and requests the same edits, shifted, also when the two grids were edited
alike in the meantime. The grids inside chips are not shifted. -/
theorem placedIn_alike {ω : Type} [Grid ω] {offset : Pos} {grid world : VoxelGrid (World ω)}
    (placed : VoxelGrid.PlacedIn offset grid world) (options : CompileOptions) (depth : Nat) :
    Grid.clusters (World.voxel world) =
        (Grid.clusters (World.voxel grid)).map (List.map offset.shift) ∧
      Compilation.Shifted offset (List.map (shift offset))
        (compileAll options depth (World.voxel grid))
        (compileAll options depth (World.voxel world)) ∧
      (compileAll options depth (World.voxel grid)).reports =
        (reportParts options depth (World.voxel grid)).flatMap ReportPart.reports ∧
      (compileAll options depth (World.voxel world)).reports =
        (reportParts options depth (World.voxel world)).flatMap ReportPart.reports ∧
      reportParts options depth (World.voxel world) =
        (reportParts options depth (World.voxel grid)).map (ReportPart.shift offset) ∧
      ∀ (circuit : Circuit (World ω)) (now later : VoxelGrid (World ω)),
        VoxelGrid.PlacedIn offset now later → ∀ allowEdits embedding,
          ((circuit.shift offset).evaluate
              ⟨.voxel later, allowEdits, embedding, .empty, []⟩).written =
            Prod.map (Values.shift offset) (List.map (Edit.shift offset))
              (circuit.evaluate ⟨.voxel now, allowEdits, embedding, .empty, []⟩).written := by
  have enclosed := Grid.enclosed_voxel grid
  have alsoEnclosed := Grid.enclosed_voxel world
  refine ⟨placed.shifted.clusters enclosed alsoEnclosed,
    compileAll_shifted placed.shifted enclosed alsoEnclosed depth, reports_parts, reports_parts,
    reportParts_shifted placed.shifted enclosed alsoEnclosed, ?_⟩
  intro circuit now later stillPlaced allowEdits embedding
  have start : EvalState.Shifted offset ⟨World.voxel now, allowEdits, embedding, .empty, []⟩
      ⟨World.voxel later, allowEdits, embedding, .empty, []⟩ := by
    refine ⟨stillPlaced.shifted, rfl, ⟨.origin, ?_⟩, rfl, rfl⟩
    cases embedding with
    | none => exact .none
    | some embedding => exact .some ⟨.origin embedding.outer, by simp, rfl⟩
  have last := circuit.evaluate_shifted start
  simp only [EvalState.written, EvalState.edits, last.values, last.requests, Prod.map_apply,
    List.map_reverse]

/-- The types of the standard catalog, and a chip without a grid inside. -/
def hollowTypes : Catalog (World EndlessChip) :=
  ⟨Layout.standardTypes ++ [⟨⟨31⟩, "hollow", some .chip, none⟩]⟩

/-- These types, and a chip that publishes what a pad inside it drives, and holds a hollow chip
beside the pad. -/
def chipTypes : Catalog (World EndlessChip) :=
  ⟨hollowTypes.added ++ [⟨⟨30⟩, "chip", some .chip, some (.voxel ⟨hollowTypes, .clamped 4 1 1,
    #[⟨⟨2⟩, .identity, 7⟩, ⟨⟨12⟩, .identity, 0⟩, .air, ⟨⟨31⟩, .identity, 0⟩], rfl⟩)⟩]⟩

/-- A chip and an inverter that reads what it drives, over three junctions, and an indicator.
Beside them is a hollow chip. -/
def chipAndLoop : VoxelGrid (World EndlessChip) :=
  ⟨chipTypes, .clamped 5 2 1,
    #[⟨⟨30⟩, .identity, 0⟩, ⟨⟨4⟩, .identity, 0⟩, ⟨⟨5⟩, .identity, 0⟩, .air, ⟨⟨31⟩, .identity, 0⟩,
      ⟨⟨3⟩, .identity, 0⟩, ⟨⟨4⟩, .identity, 0⟩, ⟨⟨4⟩, .identity, 0⟩, .air, .air], rfl⟩

/-- The chips and the loop with room before and below them. -/
def roomyChipAndLoop : VoxelGrid (World EndlessChip) :=
  ⟨chipTypes, .clamped 6 3 2, Array.replicate 25 .air ++
    #[⟨⟨30⟩, .identity, 0⟩, ⟨⟨4⟩, .identity, 0⟩, ⟨⟨5⟩, .identity, 0⟩, .air, ⟨⟨31⟩, .identity, 0⟩,
      .air, ⟨⟨3⟩, .identity, 0⟩, ⟨⟨4⟩, .identity, 0⟩, ⟨⟨4⟩, .identity, 0⟩, .air, .air], rfl⟩

/-- What compiling the grid inside the chip reports, wherever the chip is. -/
def chipAndLoopInside : List Report :=
  [.compiled 1 2 1 3, .missingInterior ⟨3, 0, 0⟩, .compiled 1 1 0 1]

/-- In both places the indicator is lit by its circuit. What is reported of the hollow chip
beside the loop names its place, and what is reported of the one inside the chip does not
change. -/
theorem chipAndLoop_alike :
    VoxelGrid.PlacedIn ⟨1, 1, 1⟩ chipAndLoop roomyChipAndLoop ∧
      (∃ circuit hollow,
        (compileAll {} 0 (World.voxel chipAndLoop)).outcome = .ok [circuit, hollow] ∧
        (compileAll {} 0 (World.voxel roomyChipAndLoop)).outcome =
          .ok [circuit.shift ⟨1, 1, 1⟩, hollow.shift ⟨1, 1, 1⟩] ∧
        (circuit.evaluate (.editing (World.voxel chipAndLoop))).edits =
          [.setDatum ⟨0, 1, 0⟩ 1] ∧
        ((circuit.shift ⟨1, 1, 1⟩).evaluate (.editing (World.voxel roomyChipAndLoop))).edits =
          [.setDatum ⟨1, 2, 1⟩ 1]) ∧
      (compileAll {} 0 (World.voxel chipAndLoop)).reports = chipAndLoopInside ++
        [.compiled 0 6 3 9, .missingInterior ⟨4, 0, 0⟩, .compiled 0 1 0 1] ∧
      (compileAll {} 0 (World.voxel roomyChipAndLoop)).reports = chipAndLoopInside ++
        [.compiled 0 6 3 9, .missingInterior ⟨5, 1, 1⟩, .compiled 0 1 0 1] := by
  have placed : VoxelGrid.PlacedIn ⟨1, 1, 1⟩ chipAndLoop roomyChipAndLoop :=
    VoxelGrid.placedIn_of_cells rfl (by decide +kernel) (by decide +kernel)
  obtain ⟨circuits, compiled, look⟩ := Compilation.exists_ok
    (compileAll {} 0 (World.voxel chipAndLoop))
    (List.map fun circuit => (circuit.evaluate (.editing (World.voxel chipAndLoop))).edits)
    [[.setDatum ⟨0, 1, 0⟩ 1], []] (by decide +kernel)
  obtain ⟨circuit, hollow, rfl, edits⟩ : ∃ circuit hollow, circuits = [circuit, hollow] ∧
      (circuit.evaluate (.editing (World.voxel chipAndLoop))).edits =
        [.setDatum ⟨0, 1, 0⟩ 1] := by
    obtain ⟨circuit, _, rfl, same, later⟩ := List.map_eq_cons_iff.mp look
    obtain ⟨hollow, _, rfl, _, none⟩ := List.map_eq_cons_iff.mp later
    rw [List.map_eq_nil_iff.mp none]
    exact ⟨circuit, hollow, rfl, same⟩
  have parts : reportParts {} 0 (World.voxel chipAndLoop) =
      [.inside ⟨0, 0, 0⟩ chipAndLoopInside, .own (.compiled 0 6 3 9),
        .own (.missingInterior ⟨4, 0, 0⟩), .own (.compiled 0 1 0 1)] := by
    decide +kernel
  obtain ⟨_, shifted, reports, alsoReports, shiftedParts, evaluates⟩ := placedIn_alike placed {} 0
  refine ⟨placed, ⟨circuit, hollow, compiled, ?_, edits, ?_⟩, ?_, ?_⟩
  · rw [shifted, compiled]
    rfl
  · have written := congrArg Prod.snd
      (evaluates circuit chipAndLoop roomyChipAndLoop placed true none)
    exact written.trans (congrArg (List.map (Edit.shift ⟨1, 1, 1⟩)) edits)
  · rw [reports, parts]
    rfl
  · rw [alsoReports, shiftedParts, parts]
    rfl

end Circuit

end VoxelCircuit

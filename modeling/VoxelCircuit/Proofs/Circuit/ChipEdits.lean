import VoxelCircuit.Layout.Basic
import VoxelCircuit.Layout.EndlessChip
import VoxelCircuit.Proofs.Circuit.Interior
import VoxelCircuit.Proofs.Circuit.Refresh

/-! # How chips are replaced and turned

The circuits inside a chip may ask for it to become a block of another type, to be turned,
or both. Each request is compared with the chip as it was before the evaluation and left
out if it asks for nothing new; but a replacement puts an unturned block in place of the
chip. So a chip that is turned as requested already loses that rotation to a replacement
(`VoxelCircuit.Circuit.refresh_turns_chip_iff`).
-/

namespace VoxelCircuit

variable {ω : Type} [EditableGrid ω] {now : VoxelGrid (World ω)} {pos : Pos}

/-- A request for another type leaves an unturned block, and one for the type that is there
leaves the block. -/
theorem cell_after_replaceEdits (id : BlockId) :
    (Behavior.replaceEdits (World.voxel now) pos id).foldl Edit.cellAfter (now.cell pos) =
      if (now.cell pos).id = id then now.cell pos else ⟨id, .identity, (now.cell pos).datum⟩ := by
  unfold Behavior.replaceEdits
  have read : Grid.blockId (World.voxel now) pos = (now.cell pos).id := rfl
  rw [read]
  by_cases same : (now.cell pos).id = id
  · rw [if_pos same, if_pos same, List.foldl_nil]
  · rw [if_neg same, if_neg same]
    rfl

/-- A request for a rotation turns what is there by then, unless the block had that rotation
before. -/
theorem cell_after_rotateEdits (orientation : Orientation) (cell : Cell) :
    (Behavior.rotateEdits (World.voxel now) pos orientation).foldl Edit.cellAfter cell =
      if (now.cell pos).orientation = orientation then cell
      else { cell with orientation := orientation } := by
  unfold Behavior.rotateEdits
  have read : Grid.orientation (World.voxel now) pos = (now.cell pos).orientation := rfl
  rw [read]
  by_cases same : (now.cell pos).orientation = orientation
  · rw [if_pos same, if_pos same, List.foldl_nil]
  · rw [if_neg same, if_neg same]
    rfl

private theorem cell_after_chip (now : VoxelGrid (World ω)) (pos : Pos) {publication : Publication}
    {asked : Orientation} (rotation : publication.rotation = some asked.signal)
    (orientation : Orientation) :
    (publication.replacement = none →
      (Behavior.chipResponse pos orientation publication
        (.editing (World.voxel now))).edits.foldl Edit.cellAfter (now.cell pos) =
          { now.cell pos with orientation := asked }) ∧
    ∀ id : BlockId, publication.replacement = some id.signal →
      (Behavior.chipResponse pos orientation publication
        (.editing (World.voxel now))).edits.foldl Edit.cellAfter (now.cell pos) =
          ⟨id, if (now.cell pos).orientation = asked ∧ (now.cell pos).id ≠ id then .identity
            else asked, (now.cell pos).datum⟩ := by
  have edits : (Behavior.chipResponse pos orientation publication
      (.editing (World.voxel now))).edits =
        (((publication.replacement.bind Signal.asNumber).map fun number =>
          Behavior.replaceEdits (World.voxel now) pos (.ofNumber number)).getD []) ++
            Behavior.rotateEdits (World.voxel now) pos asked := by
    obtain ⟨number, carried, same⟩ := Option.map_eq_some_iff.mp asked.ofNumber_signal
    simp [Behavior.chipResponse, EvalState.editing, rotation, carried, same]
  refine ⟨fun none => ?_, fun id wanted => ?_⟩
  · rw [edits, none, Option.bind_none, Option.map_none, Option.getD_none, List.nil_append,
      cell_after_rotateEdits]
    by_cases turned : (now.cell pos).orientation = asked
    · rw [if_pos turned, ← turned]
    · rw [if_neg turned]
  · obtain ⟨number, carried, same⟩ := Option.map_eq_some_iff.mp id.ofNumber_signal
    rw [edits, wanted, Option.bind_some, carried, Option.map_some, Option.getD_some, same,
      List.foldl_append, cell_after_replaceEdits, cell_after_rotateEdits]
    generalize now.cell pos = cell
    obtain ⟨type, turned, datum⟩ := cell
    by_cases kept : type = id
    · subst kept
      by_cases before : turned = asked <;> simp [before]
    · by_cases before : turned = asked <;> simp [before, kept]

namespace Circuit

variable {options : CompileOptions} {depth : Nat} {grid : VoxelGrid (World ω)}
  {source circuit : Circuit (World ω)} {interior : World ω} {edits : List Edit}

/-- A refresh leaves in the cell of a chip what is requested there by what the circuits
inside it publish. -/
theorem refresh_chip_cell
    (compiled : (compile options depth (World.voxel grid) source).outcome = .ok circuit)
    (member : pos ∈ circuit.members) (there : grid.behavior pos = some .chip)
    (inside : grid.interior pos = some interior) (entered : depth < options.maxEmbedDepth)
    (done : (circuit.refresh (.voxel now)).outcome = .ok edits) :
    ∃ nested after, (compileAll options (depth + 1) interior).outcome = .ok nested ∧
      (circuit.refresh (.voxel now)).grid = .voxel after ∧
        after.cell pos = (Behavior.chipResponse pos (Grid.orientation (World.voxel grid) pos)
          (published nested interior pos (.editing (.voxel now)))
          (.editing (World.voxel now))).edits.foldl Edit.cellAfter (now.cell pos) := by
  obtain ⟨nested, deeper, listed⟩ := exists_chip_effect compiled member there inside entered
  obtain ⟨_, _, after, left, _⟩ := refresh_ok done
  have fresh : (EvalState.editing (World.voxel now)).Fresh := ⟨rfl, rfl⟩
  obtain ⟨earlier, _, moment, _, turn⟩ := (compile_ok compiled).2.turn_of_mem fresh listed
  obtain ⟨grids, permission, embedding⟩ := turn.setting
  refine ⟨nested, after, deeper, left, ?_⟩
  have event : moment.event = none := by rw [EvalState.event, embedding]; rfl
  rw [turn.refresh_cell done left, chip_response]
  simp only [published, Behavior.chipResponse, EvalState.inside, grids, permission, event]
  rfl

/-- **When a chip ends up turned as requested.** Suppose that a refresh of a compiled circuit
succeeds and that the circuits inside a chip ask for a rotation. The chip has that rotation
afterwards exactly if it had another one before, or the rotation is the identity, or no
other type is asked for at the same time. It has the type that is asked for, if there is one,
in each case. -/
theorem refresh_turns_chip_iff
    (compiled : (compile options depth (World.voxel grid) source).outcome = .ok circuit)
    (member : pos ∈ circuit.members) (there : grid.behavior pos = some .chip)
    (inside : grid.interior pos = some interior) (entered : depth < options.maxEmbedDepth)
    (done : (circuit.refresh (.voxel now)).outcome = .ok edits) :
    ∃ nested, (compileAll options (depth + 1) interior).outcome = .ok nested ∧
      ∀ asked, (published nested interior pos (.editing (.voxel now))).rotation = some asked →
        ∃ orientation : Orientation, asked = orientation.signal ∧
          (Grid.orientation (circuit.refresh (.voxel now)).grid pos = orientation ↔
            Grid.orientation (World.voxel now) pos ≠ orientation ∨ orientation = .identity ∨
              ∀ id : BlockId, (published nested interior pos (.editing (.voxel now))).replacement =
                some id.signal → id = Grid.blockId (World.voxel now) pos) ∧
          ∀ wanted, (published nested interior pos (.editing (.voxel now))).replacement =
            some wanted → ∃ id : BlockId, wanted = id.signal ∧
              Grid.blockId (circuit.refresh (.voxel now)).grid pos = id := by
  obtain ⟨nested, after, deeper, left, cell⟩ :=
    refresh_chip_cell compiled member there inside entered done
  refine ⟨nested, deeper, fun asked rotation => ?_⟩
  obtain ⟨orientation, rfl⟩ := (interior_asks nested interior pos _).2 rotation
  have orientations : Grid.orientation (circuit.refresh (.voxel now)).grid pos =
      (after.cell pos).orientation := by rw [left]; rfl
  have types : Grid.blockId (circuit.refresh (.voxel now)).grid pos = (after.cell pos).id := by
    rw [left]; rfl
  have turned : (now.cell pos).orientation = Grid.orientation (World.voxel now) pos := rfl
  have typed : (now.cell pos).id = Grid.blockId (World.voxel now) pos := rfl
  obtain ⟨alone, both⟩ := cell_after_chip now pos rotation (Grid.orientation (World.voxel grid) pos)
  refine ⟨orientation, rfl, ?_⟩
  rw [orientations, types, cell, ← turned, ← typed]
  cases wanted : (published nested interior pos (.editing (.voxel now))).replacement with
  | none => exact ⟨by simp [alone wanted], nofun⟩
  | some signal =>
      obtain ⟨id, rfl⟩ := (interior_asks nested interior pos _).1 wanted
      rw [both id wanted]
      have only : ∀ other : BlockId, some id.signal = some other.signal → other = id :=
        fun other same => (BlockId.signal_injective (Option.some.inj same)).symm
      refine ⟨?_, fun other same => ⟨id, (Option.some.inj same).symm, rfl⟩⟩
      constructor
      · intro shown
        by_cases kept : (now.cell pos).orientation = orientation ∧ (now.cell pos).id ≠ id
        · exact Or.inr (Or.inl (by simpa [kept] using shown.symm))
        · rcases not_and_or.mp kept with other | same
          · exact Or.inl other
          · refine Or.inr (Or.inr fun asked equal => ?_)
            rw [only asked equal, not_not.mp same]
      · rintro (other | straight | same)
        · simp [other]
        · simp [straight]
        · simp [same id rfl]

/-- A changer and a rotator on either side of a pad with datum 20. -/
def askingGrid : VoxelGrid (World EndlessChip) :=
  ⟨⟨Layout.standardTypes⟩, .clamped 3 1 1,
    #[⟨⟨11⟩, .identity, 0⟩, ⟨⟨2⟩, .identity, 20⟩, ⟨⟨10⟩, .identity, 0⟩], rfl⟩

/-- A chip with that grid inside, turned. -/
def askingChip (orientation : Orientation) : VoxelGrid (World EndlessChip) :=
  ⟨⟨Layout.standardTypes ++ [⟨⟨30⟩, "chip", some .chip, some (.voxel askingGrid)⟩]⟩,
    .clamped 1 1 1, #[⟨⟨30⟩, orientation, 0⟩], rfl⟩

private theorem askingGrid_asks (orientation : Orientation) (listed : orientation = .identity ∨
    orientation = ⟨20⟩) :
    ∃ nested, (compileAll {} 1 (World.voxel askingGrid)).outcome = .ok nested ∧
      (published nested (World.voxel askingGrid) ⟨0, 0, 0⟩
        (.editing (.voxel (askingChip orientation)))).replacement =
          some (BlockId.signal ⟨20⟩) ∧
      (published nested (World.voxel askingGrid) ⟨0, 0, 0⟩
        (.editing (.voxel (askingChip orientation)))).rotation =
          some (Orientation.signal ⟨20⟩) := by
  obtain ⟨nested, compiled, look⟩ := Compilation.exists_ok
    (compileAll {} 1 (World.voxel askingGrid))
    (fun nested => ((published nested (World.voxel askingGrid) ⟨0, 0, 0⟩
        (.editing (.voxel (askingChip orientation)))).replacement,
      (published nested (World.voxel askingGrid) ⟨0, 0, 0⟩
        (.editing (.voxel (askingChip orientation)))).rotation))
    (some (BlockId.signal ⟨20⟩), some (Orientation.signal ⟨20⟩))
    (by rcases listed with rfl | rfl <;> decide +kernel)
  simp only [Prod.mk.injEq] at look
  exact ⟨nested, compiled, look⟩

/-- An unturned chip ends up turned as requested. -/
theorem askingChip_turned :
    ∃ circuit, (compile {} 0 (World.voxel (askingChip .identity))
        (ofMembers [⟨0, 0, 0⟩])).outcome = .ok circuit ∧
      Grid.orientation (circuit.refresh (.voxel (askingChip .identity))).grid ⟨0, 0, 0⟩ = ⟨20⟩ ∧
        Grid.blockId (circuit.refresh (.voxel (askingChip .identity))).grid ⟨0, 0, 0⟩ = ⟨20⟩ := by
  obtain ⟨circuit, compiled, edits⟩ := Compilation.exists_ok
    (compile {} 0 (World.voxel (askingChip .identity)) (ofMembers [⟨0, 0, 0⟩]))
    (fun circuit => (circuit.evaluate (.editing (.voxel (askingChip .identity)))).edits)
    [.replaceBlock ⟨0, 0, 0⟩ ⟨20⟩ 0, .setOrientation ⟨0, 0, 0⟩ ⟨20⟩] (by decide +kernel)
  have accepts : ∀ edit ∈ (circuit.evaluate (.editing (.voxel (askingChip .identity)))).edits,
      (askingChip .identity).Accepts edit := by
    rw [edits]
    intro edit member
    rcases List.mem_pair.mp member with rfl | rfl
    · refine ⟨by decide, fun _ id _ same => ?_⟩
      cases same
      decide
    · exact ⟨by decide, nofun⟩
  have members : (⟨0, 0, 0⟩ : Pos) ∈ circuit.members := by
    rw [(compile_ok compiled).1]
    decide +kernel
  obtain ⟨nested, deeper, turns⟩ := refresh_turns_chip_iff compiled members (by decide +kernel) rfl
    (by decide) (refresh_succeeds accepts)
  obtain ⟨others, known, replacement, rotation⟩ := askingGrid_asks .identity (Or.inl rfl)
  obtain rfl : nested = others := Except.ok.inj (deeper.symm.trans known)
  obtain ⟨orientation, same, turned, typed⟩ := turns _ rotation
  obtain ⟨id, equal, shown⟩ := typed _ replacement
  rw [← Orientation.signal_injective same] at turned
  rw [← BlockId.signal_injective equal] at shown
  exact ⟨circuit, compiled, turned.mpr (Or.inl (by decide +kernel)), shown⟩

/-- Chips are not always turned as requested: one that has the rotation already loses it to
the replacement. -/
theorem askingChip_not_turned :
    ∃ circuit nested, (compile {} 0 (World.voxel (askingChip ⟨20⟩))
        (ofMembers [⟨0, 0, 0⟩])).outcome = .ok circuit ∧
      (askingChip ⟨20⟩).interior ⟨0, 0, 0⟩ = some (.voxel askingGrid) ∧
      (compileAll {} 1 (World.voxel askingGrid)).outcome = .ok nested ∧
      (published nested (World.voxel askingGrid) ⟨0, 0, 0⟩
        (.editing (.voxel (askingChip ⟨20⟩)))).replacement = some (BlockId.signal ⟨20⟩) ∧
      (published nested (World.voxel askingGrid) ⟨0, 0, 0⟩
        (.editing (.voxel (askingChip ⟨20⟩)))).rotation = some (Orientation.signal ⟨20⟩) ∧
      (circuit.refresh (.voxel (askingChip ⟨20⟩))).outcome =
        .ok [.replaceBlock ⟨0, 0, 0⟩ ⟨20⟩ 0] ∧
      Grid.blockId (circuit.refresh (.voxel (askingChip ⟨20⟩))).grid ⟨0, 0, 0⟩ = ⟨20⟩ ∧
        Grid.orientation (circuit.refresh (.voxel (askingChip ⟨20⟩))).grid ⟨0, 0, 0⟩ =
          .identity := by
  obtain ⟨nested, deeper, replacement, rotation⟩ := askingGrid_asks ⟨20⟩ (Or.inr rfl)
  obtain ⟨circuit, compiled, look⟩ := Compilation.exists_ok
    (compile {} 0 (World.voxel (askingChip ⟨20⟩)) (ofMembers [⟨0, 0, 0⟩]))
    (fun circuit => ((circuit.evaluate (.editing (.voxel (askingChip ⟨20⟩)))).edits,
      Grid.blockId (circuit.refresh (.voxel (askingChip ⟨20⟩))).grid ⟨0, 0, 0⟩,
      Grid.orientation (circuit.refresh (.voxel (askingChip ⟨20⟩))).grid ⟨0, 0, 0⟩))
    ([.replaceBlock ⟨0, 0, 0⟩ ⟨20⟩ 0], ⟨20⟩, .identity) (by decide +kernel)
  simp only [Prod.mk.injEq] at look
  obtain ⟨edits, typed, turned⟩ := look
  have accepts : ∀ edit ∈ (circuit.evaluate (.editing (.voxel (askingChip ⟨20⟩)))).edits,
      (askingChip ⟨20⟩).Accepts edit := by
    rw [edits]
    intro edit member
    rw [List.mem_singleton.mp member]
    refine ⟨by decide, fun _ id _ same => ?_⟩
    cases same
    decide
  have done := refresh_succeeds accepts
  rw [edits] at done
  exact ⟨circuit, nested, compiled, rfl, deeper, replacement, rotation, done, typed, turned⟩

end Circuit

end VoxelCircuit

import VoxelCircuit.Proofs.Circuit.Interior
import VoxelCircuit.Proofs.Circuit.Ownership
import VoxelCircuit.Proofs.Circuit.Refresh
import VoxelCircuit.Proofs.Grid.CellMap

/-! # What a refresh may edit

A refresh requests edits of members alone, and of each member only what the behavior that it
was compiled with allows, whatever the grid holds by now. The edits are made in order. One
that asks for a block of a type that the catalog does not have is the only kind that can be
refused, and then the edits before it have been made
(`VoxelCircuit.Circuit.refresh_edits_members`).
-/

namespace VoxelCircuit

/-- What a block with a datum, which was compiled with a behavior, may request for itself: at
most one edit of the kind that the behavior is for, or at most one of either kind for a chip. -/
def Edit.Allowed (pos : Pos) (datum : Int) (compiled : Option Behavior) (edits : List Edit) :
    Prop :=
  match compiled with
  | some .indicator => ∃ level : Int, (level = 0 ∨ level = 1) ∧ edits.Sublist [.setDatum pos level]
  | some .rotator => ∃ orientation, edits.Sublist [.setOrientation pos orientation]
  | some .changer => ∃ id, edits.Sublist [.replaceBlock pos id datum]
  | some .chip => ∃ id orientation,
      edits.Sublist [.replaceBlock pos id datum, .setOrientation pos orientation]
  | _ => edits = []

namespace Edit.Allowed

private theorem nothing (pos : Pos) (datum : Int) (compiled : Option Behavior) :
    Allowed pos datum compiled [] := by
  cases compiled with
  | none => rfl
  | some behavior =>
      cases behavior
      case indicator => exact ⟨0, Or.inl rfl, List.nil_sublist _⟩
      case rotator => exact ⟨.identity, List.nil_sublist _⟩
      case changer => exact ⟨.air, List.nil_sublist _⟩
      case chip => exact ⟨.air, .identity, List.nil_sublist _⟩
      all_goals rfl

variable {γ : Type} [Grid γ] {pos : Pos} {state : EvalState γ}

private theorem replaceEdits (grid : γ) (pos : Pos) (id : BlockId) :
    (Behavior.replaceEdits grid pos id).Sublist [.replaceBlock pos id (Grid.datum grid pos)] := by
  unfold Behavior.replaceEdits
  split
  · exact List.nil_sublist _
  · exact List.Sublist.refl _

private theorem rotateEdits (grid : γ) (pos : Pos) (orientation : Orientation) :
    (Behavior.rotateEdits grid pos orientation).Sublist [.setOrientation pos orientation] := by
  unfold Behavior.rotateEdits
  split
  · exact List.nil_sublist _
  · exact List.Sublist.refl _

private theorem indicate (lit : Bool) :
    Allowed pos (Grid.datum state.grid pos) (some .indicator)
      (Behavior.indicate pos lit state).edits := by
  refine ⟨if lit then 1 else 0, by cases lit <;> simp, ?_⟩
  by_cases asked : state.allowEdits ∧ Grid.datum state.grid pos ≠ if lit then 1 else 0
  · rw [Behavior.indicate, if_pos asked]
    exact List.Sublist.refl _
  · rw [Behavior.indicate, if_neg asked]
    exact List.nil_sublist _

private theorem rotate (signal : Signal) :
    Allowed pos (Grid.datum state.grid pos) (some .rotator)
      (Behavior.rotate pos signal state).edits := by
  unfold Behavior.rotate
  cases signal.asNumber with
  | none => exact nothing ..
  | some number =>
      refine ⟨.ofNumber number, ?_⟩
      dsimp only
      split
      · exact List.nil_sublist _
      · split
        · exact List.nil_sublist _
        · exact rotateEdits ..

private theorem change (signal : Signal) :
    Allowed pos (Grid.datum state.grid pos) (some .changer)
      (Behavior.change pos signal state).edits := by
  unfold Behavior.change
  cases signal.asNumber with
  | none => exact nothing ..
  | some number =>
      refine ⟨.ofNumber number, ?_⟩
      dsimp only
      split
      · exact List.nil_sublist _
      · split
        · exact replaceEdits ..
        · exact List.nil_sublist _

/-- A block requests no edits but those that its behavior allows. -/
theorem response (behavior : Behavior) (orientation : Orientation) (inputs : Inputs) :
    Allowed pos (Grid.datum state.grid pos) (some behavior)
      (behavior.response pos orientation inputs state).edits := by
  cases behavior
  case indicator => exact indicate _
  case rotator => exact rotate _
  case changer => exact change _
  all_goals exact nothing ..

/-- A chip requests no edits but those that chips are allowed. -/
theorem chipResponse (orientation : Orientation) (publication : Publication) :
    Allowed pos (Grid.datum state.grid pos) (some .chip)
      (Behavior.chipResponse pos orientation publication state).edits := by
  have replaced : ∀ asked : Option Number, ∃ id, ((asked.map fun number =>
      Behavior.replaceEdits state.grid pos (.ofNumber number)).getD []).Sublist
        [.replaceBlock pos id (Grid.datum state.grid pos)] := by
    intro asked
    cases asked with
    | none => exact ⟨.air, List.nil_sublist _⟩
    | some number => exact ⟨.ofNumber number, replaceEdits ..⟩
  have turned : ∀ asked : Option Number, ∃ orientation, ((asked.map fun number =>
      Behavior.rotateEdits state.grid pos (.ofNumber number)).getD []).Sublist
        [.setOrientation pos orientation] := by
    intro asked
    cases asked with
    | none => exact ⟨.identity, List.nil_sublist _⟩
    | some number => exact ⟨.ofNumber number, rotateEdits ..⟩
  unfold Behavior.chipResponse
  dsimp only
  split
  · obtain ⟨id, first⟩ := replaced (publication.replacement.bind Signal.asNumber)
    obtain ⟨orientation, second⟩ := turned (publication.rotation.bind Signal.asNumber)
    exact ⟨id, orientation, first.append second⟩
  · exact nothing ..

/-- What the effect of a block requests is allowed for the behavior it was compiled with. -/
theorem realized {grid : γ} {graph : NetGraph} {effect : Effect γ}
    (realizes : Effect.Realizes grid graph (.block pos) (some effect)) (state : EvalState γ) :
    Allowed pos (Grid.datum state.grid pos) (Grid.behavior grid pos)
      (effect.response state).edits := by
  cases realizes with
  | block there =>
      rw [there, Effect.response]
      exact response ..
  | chip there =>
      rw [there, Effect.response]
      exact chipResponse ..

end Edit.Allowed

namespace Circuit

variable {γ : Type} [Grid γ] {grid : γ} {circuit : Circuit γ} {recordEdges : Bool}

/-- In an evaluation each block requests what it was compiled to request, if anything. -/
theorem Compiled.allowed (compiled : Compiled grid recordEdges circuit) {start : EvalState γ}
    (fresh : start.Fresh) (pos : Pos) :
    Edit.Allowed pos (Grid.datum start.grid pos) (Grid.behavior grid pos)
      ((circuit.evaluate start).edits.filter fun edit => edit.pos = pos) := by
  by_cases effective : ∃ current ∈ circuit.pipeline, current.target = .block pos
  · obtain ⟨current, listed, target⟩ := effective
    obtain ⟨_, _, moment, _, turn⟩ := compiled.turn_of_mem fresh listed
    rw [target] at turn
    rw [turn.requested current rfl pos rfl, ← turn.setting.1]
    exact .realized turn.realizes moment
  · have others : ∀ current ∈ circuit.pipeline, current.target ≠ .block pos :=
      fun current listed target => effective ⟨current, listed, target⟩
    rw [evaluate, Pipeline.run, Effect.edits_runAll_of_others others, EvalState.edits, fresh.2]
    exact .nothing ..

end Circuit

namespace VoxelGrid

/-- Within the bounds an edit is refused only for the type that it asks for. -/
theorem apply_error {γ : Type} {grid : VoxelGrid γ} {edit : Edit} {error : GridError}
    (refused : grid.apply edit = .error error) (inside : edit.pos ∈ grid.bounds) :
    ∃ pos id datum, edit = .replaceBlock pos id datum ∧ grid.catalog.contains id = false ∧
      error = .unknownBlock id := by
  have failed : (grid.perform (.apply edit)).2 = .error error := by
    rw [perform, write, refused]
  rw [perform_error_iff, CellMap.refusal?_eq_some_iff] at failed
  rcases failed with ⟨id, carried, unknown, reason⟩ | ⟨_, outside, _⟩
  · cases edit with
    | replaceBlock pos wanted datum =>
        cases carried
        exact ⟨pos, id, datum, rfl, unknown, reason⟩
    | setDatum | setOrientation => cases carried
  · exact (outside inside).elim

end VoxelGrid

namespace Circuit

variable {ω : Type} [EditableGrid ω] {options : CompileOptions} {depth : Nat}
  {grid : VoxelGrid (World ω)} {circuits : List (Circuit (World ω))} {circuit : Circuit (World ω)}

private theorem mem_bounds_of_compileAll
    (compiled : (compileAll options depth (World.voxel grid)).outcome = .ok circuits)
    (listed : circuit ∈ circuits) {pos : Pos} (member : pos ∈ circuit.members) :
    pos ∈ grid.bounds := by
  obtain ⟨cluster, among, made⟩ := (mem_compileAll compiled).1 circuit listed
  rw [(compile_ok made).1, mem_ofMembers] at member
  exact Grid.mem_support_of_active ((Grid.clusters_closed among).2 pos member)

/-- **A refresh edits members alone, each as its behavior allows.** Take a circuit of a voxel
grid, whatever the cells of the grid have come to hold since it was compiled. The edits that a
refresh requests are of members, and those of one member are at most one of each kind that
its behavior at the compilation is for, replacements with the datum that is there. Either all
of them are made in order and returned, or one of them asks for a block of a type that the
catalog does not have, those before it are made, and this type is the error. The values of
the evaluation are the new snapshot in both cases, and nothing but members has changed. -/
theorem refresh_edits_members
    (compiled : (compileAll options depth (World.voxel grid)).outcome = .ok circuits)
    (listed : circuit ∈ circuits) {now : VoxelGrid (World ω)} (extent : now.extent = grid.extent) :
    let evaluated := circuit.evaluate (.editing (World.voxel now))
    let refreshed := circuit.refresh (World.voxel now)
    (∀ edit ∈ evaluated.edits, edit.pos ∈ circuit.members) ∧
    (∀ pos ∈ circuit.members, Edit.Allowed pos (Grid.datum (World.voxel now) pos)
      (Grid.behavior (World.voxel grid) pos)
      (evaluated.edits.filter fun edit => edit.pos = pos)) ∧
    refreshed.circuit = { circuit with snapshot := evaluated.values } ∧
    ((∃ after, evaluated.edits.foldlM VoxelGrid.apply now = .ok after ∧
        refreshed.grid = .voxel after ∧ refreshed.outcome = .ok evaluated.edits) ∨
      ∃ before pos id datum rest middle,
        evaluated.edits = before ++ .replaceBlock pos id datum :: rest ∧
          before.foldlM VoxelGrid.apply now = .ok middle ∧ now.catalog.contains id = false ∧
            refreshed.grid = .voxel middle ∧ refreshed.outcome = .error (.unknownBlock id)) ∧
    ∃ after, refreshed.grid = .voxel after ∧
      ∀ pos, pos ∉ circuit.members → after.cell pos = now.cell pos := by
  intro evaluated refreshed
  have fresh : (EvalState.editing (World.voxel now)).Fresh := ⟨rfl, rfl⟩
  have owned : ∀ edit ∈ evaluated.edits, edit.pos ∈ circuit.members := fun edit requested =>
    (owns_of_compileAll compiled listed).pos_of_mem_edits fresh requested
  have applied : refreshed = ⟨{ circuit with snapshot := evaluated.values },
      (EditableGrid.applyAll (World.voxel now) evaluated.edits).1,
      (EditableGrid.applyAll (World.voxel now) evaluated.edits).2.map fun _ => evaluated.edits⟩ :=
    rfl
  -- Edits of members leave the other cells, whether all edits are made or some.
  have others : ∀ {edits : List Edit} {after : VoxelGrid (World ω)},
      edits.foldlM VoxelGrid.apply now = .ok after → (∀ edit ∈ edits, edit ∈ evaluated.edits) →
        ∀ pos, pos ∉ circuit.members → after.cell pos = now.cell pos := by
    intro edits after made among pos foreign
    refine (VoxelGrid.edited_of_foldlM made).cell_of_others fun edit requested same => ?_
    exact foreign (same ▸ owned edit (among edit requested))
  refine ⟨owned, fun pos _ => ?_, rfl, ?_⟩
  · exact (compiled_of_mem_compileAll compiled listed).allowed fresh pos
  rcases VoxelGrid.applyAll_cases now evaluated.edits with
    ⟨after, made, left⟩ | ⟨before, edit, rest, middle, error, split, made, refused, left⟩
  · rw [applied, left]
    exact ⟨Or.inl ⟨after, made, rfl, rfl⟩, after, rfl, others made fun _ => id⟩
  · have requested : ∀ edit ∈ before, edit ∈ evaluated.edits := fun edit early => by
      rw [split]
      exact List.mem_append_left _ early
    have edited := VoxelGrid.edited_of_foldlM made
    have inside : edit.pos ∈ middle.bounds := by
      rw [VoxelGrid.bounds, edited.extent, extent]
      exact mem_bounds_of_compileAll compiled listed (owned edit (by rw [split]; simp))
    obtain ⟨pos, id, datum, rfl, unknown, rfl⟩ := VoxelGrid.apply_error refused inside
    rw [edited.catalog] at unknown
    rw [applied, left]
    exact ⟨Or.inr ⟨before, pos, id, datum, rest, middle, split, made, unknown, rfl, rfl⟩,
      middle, rfl, others made requested⟩

/-- A cell, and beside it a pad and a changer with datum 3. -/
def besideChanger (cell : Cell) (level : Int) : VoxelGrid (World EndlessChip) :=
  ⟨⟨Layout.standardTypes⟩, .clamped 3 1 1,
    #[cell, ⟨⟨2⟩, .identity, level⟩, ⟨⟨11⟩, .identity, 3⟩], rfl⟩

/-- Stone has come in place of an indicator since the compilation and takes its datum, and then
the changer asks for a type that there is not. -/
theorem besideChanger_refresh :
    ∃ circuits circuit, (compileAll {} 0 (World.voxel
        (besideChanger ⟨⟨3⟩, .identity, 0⟩ 0))).outcome = .ok circuits ∧ circuit ∈ circuits ∧
      (circuit.refresh (.voxel (besideChanger ⟨⟨20⟩, .identity, 5⟩ 99))).outcome =
        .error (.unknownBlock ⟨99⟩) ∧
      ∃ middle, [Edit.setDatum ⟨0, 0, 0⟩ 1].foldlM VoxelGrid.apply
          (besideChanger ⟨⟨20⟩, .identity, 5⟩ 99) = .ok middle ∧
        (circuit.refresh (.voxel (besideChanger ⟨⟨20⟩, .identity, 5⟩ 99))).grid =
          .voxel middle := by
  obtain ⟨circuits, compiled, look⟩ := Compilation.exists_ok
    (compileAll {} 0 (World.voxel (besideChanger ⟨⟨3⟩, .identity, 0⟩ 0)))
    (List.map fun circuit =>
      (circuit.evaluate (.editing (.voxel (besideChanger ⟨⟨20⟩, .identity, 5⟩ 99)))).edits)
    [[.setDatum ⟨0, 0, 0⟩ 1, .replaceBlock ⟨2, 0, 0⟩ ⟨99⟩ 3]] (by decide +kernel)
  obtain ⟨circuit, rfl, edits⟩ := List.map_eq_singleton_iff.mp look
  have extent : (besideChanger ⟨⟨20⟩, .identity, 5⟩ 99).extent =
      (besideChanger ⟨⟨3⟩, .identity, 0⟩ 0).extent := rfl
  obtain ⟨_, _, _, result, _⟩ :=
    refresh_edits_members compiled (List.mem_singleton.mpr rfl) extent
  refine ⟨_, circuit, compiled, List.mem_singleton.mpr rfl, ?_⟩
  rw [edits] at result
  rcases result with ⟨after, made, _⟩ | ⟨before, pos, id, datum, rest, middle, split, made, _, left⟩
  · have refused : ([Edit.setDatum ⟨0, 0, 0⟩ 1, .replaceBlock ⟨2, 0, 0⟩ ⟨99⟩ 3].foldlM
        VoxelGrid.apply (besideChanger ⟨⟨20⟩, .identity, 5⟩ 99)).toOption.isNone = true := by
      decide +kernel
    rw [made] at refused
    cases refused
  · obtain ⟨rfl, same⟩ | ⟨others, rfl, same⟩ := List.cons_eq_append_iff.mp split
    · cases same
    · obtain ⟨rfl, same⟩ | ⟨_, rfl, same⟩ := List.cons_eq_append_iff.mp same
      · cases same
        exact ⟨left.2, middle, made, left.1⟩
      · simp at same

end Circuit

end VoxelCircuit

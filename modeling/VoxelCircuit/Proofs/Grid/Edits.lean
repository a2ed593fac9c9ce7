import Mathlib.Data.List.Basic
import VoxelCircuit.Grid.World

/-! # What edits do to cells

A voxel grid accepts an edit of a cell within its bounds, unless it puts a block there
that the catalog does not have. Each cell is afterwards what the edits of that cell make
of it, one after another, and catalog and extent stay as they are
(`VoxelCircuit.VoxelGrid.applyAll_ok`). So edits of different cells do not meet.
-/

namespace VoxelCircuit

/-- The cell that an edit leaves in place of a cell. -/
def Edit.cellAfter (cell : Cell) : Edit → Cell
  | setDatum _ value => { cell with datum := value }
  | setOrientation _ orientation => { cell with orientation := orientation }
  | replaceBlock _ id datum => ⟨id, .identity, datum⟩

namespace VoxelGrid

variable {γ : Type} {grid middle after : VoxelGrid γ} {edit : Edit} {edits : List Edit}

/-- The cell at the position with a number is the one with that number. -/
theorem cell_positionAt (grid : VoxelGrid γ) {number : Nat} (below : number < grid.cells.size) :
    grid.cell (grid.bounds.positionAt number) = grid.cells[number] := by
  have inside : grid.bounds.positionAt number ∈ grid.bounds :=
    Box.positionAt_mem (grid.size_cells ▸ below)
  rw [cell, if_pos inside, Box.numberOf_positionAt, Array.getElem?_eq_getElem below,
    Option.getD_some]

/-- A voxel grid is its catalog, its extent and its cells. -/
theorem ext_cell {first second : VoxelGrid γ} (catalog : first.catalog = second.catalog)
    (extent : first.extent = second.extent) (same : ∀ pos, first.cell pos = second.cell pos) :
    first = second := by
  have size : first.cells.size = second.cells.size := by
    rw [first.size_cells, second.size_cells, extent]
  have cells : first.cells = second.cells := by
    apply Array.ext size
    intro number below belowOther
    rw [← cell_positionAt first below, ← cell_positionAt second belowOther, same, bounds, bounds,
      extent]
  cases first
  cases second
  simp only at catalog extent cells
  subst catalog extent cells
  rfl

/-- A new grid has air everywhere. -/
theorem ofAir_ok {catalog : Catalog γ} {width height depth : Nat}
    (made : ofAir catalog width height depth = .ok grid) :
    grid.catalog = catalog ∧ (∀ pos, grid.cell pos = .air) ∧ width ≤ 1024 := by
  unfold ofAir at made
  split at made
  · rename_i extent fits
    cases made
    refine ⟨rfl, fun pos => ?_, ?_⟩
    · simp only [cell, ite_eq_right_iff, Array.getElem?_replicate]
      intro _
      split <;> rfl
    · unfold GridExtent.ofSides? at fits
      split at fits
      · rename_i ranges
        exact ranges.1.2
      · cases fits
  · cases made

/-- The cell is within the bounds, and the catalog has what is put there. -/
def Accepts (grid : VoxelGrid γ) (edit : Edit) : Prop :=
  edit.pos ∈ grid.bounds ∧
    ∀ pos id datum, edit = .replaceBlock pos id datum → grid.catalog.contains id = true

/-- One grid is another with some edits made in it, in order. -/
structure Edited (grid : VoxelGrid γ) (edits : List Edit) (after : VoxelGrid γ) : Prop where
  catalog : after.catalog = grid.catalog
  extent : after.extent = grid.extent
  cell : ∀ pos, after.cell pos =
    (edits.filter fun edit => edit.pos = pos).foldl Edit.cellAfter (grid.cell pos)

/-- No edits leave a grid as it is. -/
theorem Edited.refl (grid : VoxelGrid γ) : grid.Edited [] grid :=
  ⟨rfl, rfl, fun _ => rfl⟩

/-- Edits followed by others are all the edits in order. -/
theorem Edited.trans {later : List Edit} (first : grid.Edited edits middle)
    (second : middle.Edited later after) : grid.Edited (edits ++ later) after := by
  refine ⟨second.catalog.trans first.catalog, second.extent.trans first.extent, fun pos => ?_⟩
  rw [second.cell, first.cell, List.filter_append, List.foldl_append]

/-- An edited grid accepts what the grid accepts. -/
theorem Edited.accepts_iff (edited : grid.Edited edits after) :
    after.Accepts edit ↔ grid.Accepts edit := by
  rw [Accepts, Accepts, bounds, bounds, edited.catalog, edited.extent]

/-- Edits of other blocks leave a cell as it is. -/
theorem Edited.cell_of_others (edited : grid.Edited edits after) {pos : Pos}
    (others : ∀ edit ∈ edits, edit.pos ≠ pos) : after.cell pos = grid.cell pos := by
  have none : edits.filter (fun edit => edit.pos = pos) = [] := by
    rw [List.filter_eq_nil_iff]
    exact fun edit member same => others edit member (of_decide_eq_true same)
  rw [edited.cell, none, List.foldl_nil]

/-- A single edit makes of its cell what it says. -/
theorem Edited.cell_of_single (edited : grid.Edited [edit] after) :
    after.cell edit.pos = edit.cellAfter (grid.cell edit.pos) := by
  simp only [edited.cell, List.filter_singleton, decide_true, cond_true, List.foldl_cons,
    List.foldl_nil]

/-- A cell that is written lies within the bounds, and neither the catalog nor the extent changes.
-/
theorem setCell_ok {pos : Pos} {cell : Cell} (written : grid.setCell pos cell = .ok after) :
    pos ∈ grid.bounds ∧ after.catalog = grid.catalog ∧ after.extent = grid.extent := by
  unfold setCell at written
  by_cases inside : pos ∈ grid.bounds
  · rw [if_pos inside] at written
    cases written
    exact ⟨inside, rfl, rfl⟩
  · rw [if_neg inside] at written
    cases written

private theorem edited_of_setCell
    (written : grid.setCell edit.pos (edit.cellAfter (grid.cell edit.pos)) = .ok after) :
    grid.Edited [edit] after := by
  obtain ⟨_, catalog, extent⟩ := setCell_ok written
  refine ⟨catalog, extent, fun pos => ?_⟩
  rw [cell_setCell written, List.filter_singleton]
  by_cases same : pos = edit.pos
  · simp [same]
  · simp [same, Ne.symm same]

/-- An edit that is applied was accepted, and it is the one edit made. -/
theorem apply_ok (applied : grid.apply edit = .ok after) :
    grid.Accepts edit ∧ grid.Edited [edit] after := by
  cases edit with
  | setDatum pos value => exact ⟨⟨(setCell_ok applied).1, nofun⟩, edited_of_setCell applied⟩
  | setOrientation pos orientation =>
      exact ⟨⟨(setCell_ok applied).1, nofun⟩, edited_of_setCell applied⟩
  | replaceBlock pos id datum =>
      simp only [apply, replaceBlock, setBlock] at applied
      by_cases known : grid.catalog.contains id = true
      · rw [if_pos known] at applied
        refine ⟨⟨(setCell_ok applied).1, fun _ _ _ same => ?_⟩, edited_of_setCell applied⟩
        cases same
        exact known
      · rw [if_neg known] at applied
        cases applied

private theorem apply_succeeds (accepts : grid.Accepts edit) :
    ∃ after, grid.apply edit = .ok after := by
  obtain ⟨inside, known⟩ := accepts
  have writes : ∀ cell, ∃ after, grid.setCell edit.pos cell = .ok after := fun cell =>
    ⟨_, if_pos inside⟩
  cases edit with
  | setDatum => exact writes _
  | setOrientation => exact writes _
  | replaceBlock pos id datum =>
      rw [apply, replaceBlock, setBlock, if_pos (known pos id datum rfl)]
      exact writes _

/-- Edits that are applied in turn are the edits made. -/
theorem edited_of_foldlM (applied : edits.foldlM apply grid = .ok after) :
    grid.Edited edits after := by
  induction edits generalizing grid with
  | nil =>
      cases applied
      exact .refl _
  | cons edit rest ih =>
      rw [List.foldlM_cons] at applied
      cases first : grid.apply edit with
      | error error =>
          rw [first] at applied
          cases applied
      | ok middle =>
          rw [first] at applied
          exact (apply_ok first).2.trans (ih applied)

section World

variable {ω : Type} [EditableGrid ω] {grid middle : VoxelGrid (World ω)} {edit : Edit}
  {edits : List Edit}

/-- After an edit that is applied the others are. -/
theorem applyAll_cons_ok (applied : grid.apply edit = .ok middle) :
    EditableGrid.applyAll (World.voxel grid) (edit :: edits) =
      EditableGrid.applyAll (World.voxel middle) edits := by
  have made : EditableGrid.apply (World.voxel grid) edit = .ok (.voxel middle) :=
    congrArg (Except.map World.voxel) applied
  rw [EditableGrid.applyAll, made]

/-- After an edit that is refused no other is applied. -/
theorem applyAll_cons_error {error : GridError} (refused : grid.apply edit = .error error) :
    EditableGrid.applyAll (World.voxel grid) (edit :: edits) = (.voxel grid, .error error) := by
  have stays : EditableGrid.apply (World.voxel grid) edit = .error error :=
    congrArg (Except.map World.voxel) refused
  rw [EditableGrid.applyAll, stays]

/-- Edits are carried out in order, all of them or those before the first that is refused. -/
theorem applyAll_cases (grid : VoxelGrid (World ω)) (edits : List Edit) :
    (∃ after, edits.foldlM apply grid = .ok after ∧
      EditableGrid.applyAll (World.voxel grid) edits = (.voxel after, .ok ())) ∨
    ∃ before edit rest middle error, edits = before ++ edit :: rest ∧
      before.foldlM apply grid = .ok middle ∧ middle.apply edit = .error error ∧
        EditableGrid.applyAll (World.voxel grid) edits = (.voxel middle, .error error) := by
  induction edits generalizing grid with
  | nil => exact Or.inl ⟨grid, rfl, rfl⟩
  | cons edit rest ih =>
      cases first : grid.apply edit with
      | error error =>
          exact Or.inr ⟨[], edit, rest, grid, error, rfl, rfl, first, applyAll_cons_error first⟩
      | ok middle =>
          have onward : ∀ later : List Edit,
              (edit :: later).foldlM apply grid = later.foldlM apply middle := by
            intro later
            rw [List.foldlM_cons, first]
            rfl
          rw [applyAll_cons_ok first, onward]
          rcases ih middle with done | ⟨before, refused, later, last, error, rfl, made, why, left⟩
          · exact Or.inl done
          · exact Or.inr ⟨edit :: before, refused, later, last, error, rfl,
              (onward before).trans made, why, left⟩

/-- Edits that are all carried out were all accepted. -/
theorem applyAll_ok {world : World ω}
    (applied : EditableGrid.applyAll (World.voxel grid) edits = (world, .ok ())) :
    (∀ edit ∈ edits, grid.Accepts edit) ∧
      ∃ after, world = .voxel after ∧ grid.Edited edits after := by
  induction edits generalizing grid with
  | nil =>
      cases applied
      exact ⟨by simp, grid, rfl, .refl grid⟩
  | cons edit rest ih =>
      cases first : grid.apply edit with
      | error error =>
          rw [applyAll_cons_error first] at applied
          cases applied
      | ok middle =>
          rw [applyAll_cons_ok first] at applied
          obtain ⟨accepts, edited⟩ := apply_ok first
          obtain ⟨others, after, same, later⟩ := ih applied
          refine ⟨fun other member => ?_, after, same, edited.trans later⟩
          rcases List.mem_cons.mp member with rfl | old
          · exact accepts
          · exact edited.accepts_iff.mp (others other old)

/-- Edits that a grid accepts are all carried out. -/
theorem applyAll_succeeds (accepts : ∀ edit ∈ edits, grid.Accepts edit) :
    ∃ world, EditableGrid.applyAll (World.voxel grid) edits = (world, .ok ()) := by
  induction edits generalizing grid with
  | nil => exact ⟨_, rfl⟩
  | cons edit rest ih =>
      obtain ⟨middle, first⟩ := apply_succeeds (accepts edit List.mem_cons_self)
      have edited := (apply_ok first).2
      rw [applyAll_cons_ok first]
      exact ih fun other member =>
        edited.accepts_iff.mpr (accepts other (List.mem_cons_of_mem _ member))

end World

end VoxelGrid

end VoxelCircuit

import VoxelCircuit.Layout.Basic
import VoxelCircuit.Layout.EndlessChip
import VoxelCircuit.Proofs.Calls
import VoxelCircuit.Proofs.Grid.Edits
import VoxelCircuit.Proofs.Space.ScanOrder

/-! # Voxel grids as maps of cells

A voxel grid keeps its cells in one array. Seen from outside it is a map from positions to
cells: a write changes the cell at its position and no other, or is refused and changes none
(`VoxelCircuit.VoxelGrid.writes_refine_map`). That no two positions share a place in the
array is `VoxelCircuit.VoxelGrid.cell_setCell`.
-/

namespace VoxelCircuit

/-- A call that writes to a voxel grid. -/
inductive Write where
  /-- Put a block at a position. -/
  | setBlock (pos : Pos) (id : BlockId) (orientation : Orientation) (datum : Int)
  /-- Put an unturned block with datum 0 at a position. -/
  | place (pos : Pos) (id : BlockId)
  /-- Give the block at a position another datum. -/
  | setDatum (pos : Pos) (value : Int)
  /-- Turn the block at a position. -/
  | setOrientation (pos : Pos) (orientation : Orientation)
  /-- Put an unturned block at a position that takes over a datum. -/
  | replaceBlock (pos : Pos) (id : BlockId) (datum : Int)
  /-- Make an edit. -/
  | apply (edit : Edit)
deriving DecidableEq

namespace Write

/-- The position of the cell that a write addresses. -/
def pos : Write → Pos
  | setBlock pos .. | place pos _ | setDatum pos _ | setOrientation pos _
  | replaceBlock pos .. => pos
  | apply edit => edit.pos

/-- The id that a write carries, if any. -/
def id? : Write → Option BlockId
  | setBlock _ id .. | place _ id | replaceBlock _ id _ | apply (.replaceBlock _ id _) => some id
  | setDatum .. | setOrientation .. | apply (.setDatum ..) | apply (.setOrientation ..) => none

/-- The cell that a write leaves in place of a cell. -/
def cellAfter (cell : Cell) : Write → Cell
  | setBlock _ id orientation datum => ⟨id, orientation, datum⟩
  | place _ id => ⟨id, .identity, 0⟩
  | setDatum _ value => { cell with datum := value }
  | setOrientation _ orientation => { cell with orientation := orientation }
  | replaceBlock _ id datum => ⟨id, .identity, datum⟩
  | apply edit => edit.cellAfter cell

end Write

/-- A map from positions to cells, with the bounds within which cells can be written and the
ids that can be put there. -/
structure CellMap where
  /-- The positions that can be written. -/
  bounds : Box
  /-- Whether an id can be put in a cell. -/
  known : BlockId → Bool
  /-- The cell at a position. -/
  cell : Pos → Cell

namespace CellMap

/-- Why nothing is written at a position. -/
def outside? (map : CellMap) (pos : Pos) : Option GridError :=
  if pos ∈ map.bounds then none else some (.outOfBounds pos map.bounds)

/-- Why a write is refused: its id, which is looked at first, or its position. -/
def refusal? (map : CellMap) (write : Write) : Option GridError :=
  match write.id? with
  | some id => if map.known id then map.outside? write.pos else some (.unknownBlock id)
  | none => map.outside? write.pos

/-- Make a write in a map: only the addressed cell changes, and nothing does when the write is
refused. -/
def perform (map : CellMap) (write : Write) : CellMap × Except GridError Unit :=
  match map.refusal? write with
  | some error => (map, .error error)
  | none =>
    ({ map with
      cell := Function.update map.cell write.pos (write.cellAfter (map.cell write.pos)) }, .ok ())

section Refusal

variable {map : CellMap} {write : Write} {error : GridError} {id : BlockId}

private theorem outside?_eq_some_iff {pos : Pos} :
    map.outside? pos = some error ↔ pos ∉ map.bounds ∧ error = .outOfBounds pos map.bounds := by
  unfold outside?
  by_cases inside : pos ∈ map.bounds
  · simp [inside]
  · simp [inside, eq_comm]

private theorem outside?_eq_none_iff {pos : Pos} : map.outside? pos = none ↔ pos ∈ map.bounds := by
  unfold outside?
  by_cases inside : pos ∈ map.bounds
  · simp [inside]
  · simp [inside]

private theorem refusal?_of_plain (plain : write.id? = none) :
    map.refusal? write = map.outside? write.pos := by
  rw [refusal?, plain]

private theorem refusal?_of_known (carried : write.id? = some id) (known : map.known id = true) :
    map.refusal? write = map.outside? write.pos := by
  rw [refusal?, carried]
  exact if_pos known

private theorem refusal?_of_unknown (carried : write.id? = some id)
    (unknown : map.known id ≠ true) :
    map.refusal? write = some (.unknownBlock id) := by
  rw [refusal?, carried]
  exact if_neg unknown

/-- A write is refused for an unknown type first, and else for a position out of bounds. -/
theorem refusal?_eq_some_iff :
    map.refusal? write = some error ↔
      (∃ id, write.id? = some id ∧ map.known id = false ∧ error = .unknownBlock id) ∨
        (∀ id, write.id? = some id → map.known id = true) ∧ write.pos ∉ map.bounds ∧
          error = .outOfBounds write.pos map.bounds := by
  cases carried : write.id? with
  | none => simp [refusal?_of_plain carried, outside?_eq_some_iff]
  | some id =>
      by_cases known : map.known id = true
      · simp [refusal?_of_known carried known, outside?_eq_some_iff, known]
      · simp [refusal?_of_unknown carried known, known, eq_comm (b := error)]

private theorem mem_bounds_of_accepted (accepted : map.refusal? write = none) :
    write.pos ∈ map.bounds := by
  cases carried : write.id? with
  | none => rwa [refusal?_of_plain carried, outside?_eq_none_iff] at accepted
  | some id =>
      by_cases known : map.known id = true
      · rwa [refusal?_of_known carried known, outside?_eq_none_iff] at accepted
      · rw [refusal?_of_unknown carried known] at accepted
        cases accepted

end Refusal

end CellMap

namespace VoxelGrid

variable {γ : Type}

/-- The map from positions to cells that a voxel grid stands for. -/
def cellMap (grid : VoxelGrid γ) : CellMap :=
  ⟨grid.bounds, grid.catalog.contains, grid.cell⟩

/-- The grid after a write, or why it is refused. -/
def write (grid : VoxelGrid γ) : Write → Except GridError (VoxelGrid γ)
  | .setBlock pos id orientation datum => grid.setBlock pos id orientation datum
  | .place pos id => grid.place pos id
  | .setDatum pos value => grid.setDatum pos value
  | .setOrientation pos orientation => grid.setOrientation pos orientation
  | .replaceBlock pos id datum => grid.replaceBlock pos id datum
  | .apply edit => grid.apply edit

/-- Make a write in a grid, which stays as it is when the write is refused. -/
def perform (grid : VoxelGrid γ) (write : Write) : VoxelGrid γ × Except GridError Unit :=
  match grid.write write with
  | .ok after => (after, .ok ())
  | .error error => (grid, .error error)

section Write

variable {grid after : VoxelGrid γ} {write : Write}

private theorem write_of_plain (plain : write.id? = none) :
    grid.write write = grid.setCell write.pos (write.cellAfter (grid.cell write.pos)) := by
  cases write with
  | setDatum pos value => rfl
  | setOrientation pos orientation => rfl
  | apply edit =>
      cases edit with
      | setDatum pos value => rfl
      | setOrientation pos orientation => rfl
      | replaceBlock pos id datum => cases plain
  | setBlock | place | replaceBlock => cases plain

private theorem write_of_id {id : BlockId} (carried : write.id? = some id) :
    grid.write write = if grid.catalog.contains id then
      grid.setCell write.pos (write.cellAfter (grid.cell write.pos))
    else .error (.unknownBlock id) := by
  cases write with
  | setBlock pos known orientation datum => cases carried; rfl
  | place pos known => cases carried; rfl
  | replaceBlock pos known datum => cases carried; rfl
  | apply edit =>
      cases edit with
      | replaceBlock pos known datum => cases carried; rfl
      | setDatum | setOrientation => cases carried
  | setDatum | setOrientation => cases carried

private theorem setCell_eq (grid : VoxelGrid γ) (pos : Pos) (cell : Cell) :
    grid.setCell pos cell = match grid.cellMap.outside? pos with
      | some error => .error error
      | none => grid.setCell pos cell := by
  cases outside : grid.cellMap.outside? pos with
  | none => rfl
  | some error =>
      obtain ⟨beyond, rfl⟩ := CellMap.outside?_eq_some_iff.mp outside
      exact if_neg beyond

/-- A write is refused as it is in the map of cells, or it sets the cell that it addresses. -/
theorem write_eq (grid : VoxelGrid γ) (write : Write) :
    grid.write write = match grid.cellMap.refusal? write with
      | some error => .error error
      | none => grid.setCell write.pos (write.cellAfter (grid.cell write.pos)) := by
  cases carried : write.id? with
  | none =>
      rw [write_of_plain carried, CellMap.refusal?_of_plain carried]
      exact setCell_eq grid ..
  | some id =>
      rw [write_of_id carried]
      by_cases known : grid.catalog.contains id = true
      · rw [if_pos known, CellMap.refusal?_of_known carried known]
        exact setCell_eq grid ..
      · rw [if_neg known, CellMap.refusal?_of_unknown carried known]

/-- One write does in a grid what it does in its map of cells, and leaves the catalog and the
extent as they are. -/
theorem perform_cellMap (grid : VoxelGrid γ) (write : Write) :
    (grid.perform write).2 = (grid.cellMap.perform write).2 ∧
      (grid.perform write).1.cellMap = (grid.cellMap.perform write).1 ∧
        (grid.perform write).1.catalog = grid.catalog ∧
          (grid.perform write).1.extent = grid.extent := by
  rw [perform, write_eq, CellMap.perform]
  cases refused : grid.cellMap.refusal? write with
  | some error => exact ⟨rfl, rfl, rfl, rfl⟩
  | none =>
      obtain ⟨after, written⟩ : ∃ after,
          grid.setCell write.pos (write.cellAfter (grid.cell write.pos)) = .ok after :=
        ⟨_, if_pos (CellMap.mem_bounds_of_accepted refused)⟩
      obtain ⟨_, catalog, extent⟩ := setCell_ok written
      have cells : after.cell =
          Function.update grid.cell write.pos (write.cellAfter (grid.cell write.pos)) := by
        funext other
        rw [cell_setCell written, Function.update_apply]
      simp only [written]
      refine ⟨trivial, ?_, catalog, extent⟩
      simp only [cellMap, bounds, catalog, extent, cells]

/-- A write to a grid fails exactly when the map of its cells refuses it. -/
theorem perform_error_iff {error : GridError} :
    (grid.perform write).2 = .error error ↔ grid.cellMap.refusal? write = some error := by
  rw [(perform_cellMap grid write).1, CellMap.perform]
  cases grid.cellMap.refusal? write with
  | none => simp
  | some cause => simp

private theorem perform_of_error {error : GridError}
    (refused : (grid.perform write).2 = .error error) :
    (grid.perform write).1 = grid := by
  unfold perform at refused ⊢
  cases written : grid.write write with
  | error cause => rfl
  | ok after =>
      rw [written] at refused
      cases refused

/-- All writes do in a grid what they do in its map of cells. -/
theorem runCalls_cellMap (grid : VoxelGrid γ) (writes : List Write) :
    (runCalls perform grid writes).2 = (runCalls CellMap.perform grid.cellMap writes).2 ∧
      (runCalls perform grid writes).1.cellMap =
        (runCalls CellMap.perform grid.cellMap writes).1 ∧
      (runCalls perform grid writes).1.catalog = grid.catalog ∧
        (runCalls perform grid writes).1.extent = grid.extent := by
  let related (after : VoxelGrid γ) (map : CellMap) : Prop :=
    after.cellMap = map ∧ after.catalog = grid.catalog ∧ after.extent = grid.extent
  have start : related grid grid.cellMap := ⟨rfl, rfl, rfl⟩
  refine runCalls_related (fun {after map} write here => ?_) start writes
  obtain ⟨rfl, catalog, extent⟩ := here
  obtain ⟨answer, cells, kept, stays⟩ := after.perform_cellMap write
  exact ⟨answer, cells, kept.trans catalog, stays.trans extent⟩

end Write

section Reads

variable (grid : VoxelGrid γ)

private theorem toList_cells : grid.cells.toList = grid.bounds.positions.map grid.cell := by
  have size : grid.cells.size = grid.bounds.cardinality := grid.size_cells
  apply List.ext_getElem
  · simp [Box.positions, size]
  · intro number below belowOther
    simp only [Array.getElem_toList, List.getElem_map, Box.positions, List.getElem_range]
    rw [cell_positionAt]

private theorem encard_occupied :
    {pos | pos ∈ grid.bounds ∧ (grid.cell pos).id ≠ .air}.encard = grid.occupied := by
  have counted := Pos.encard_of_pairwise_precedes
    (grid.bounds.positions_pairwise.filter fun pos => (grid.cell pos).id != .air)
  simp only [List.mem_filter, Box.mem_positions, bne_iff_ne] at counted
  rw [counted, ← List.countP_eq_length_filter, occupied, ← Array.countP_toList, toList_cells,
    List.countP_map]
  rfl

end Reads

/-- **A voxel grid is a map from positions to cells.** Whatever writes are made in a grid, some
of them refused, the grid answers each as its map of cells does and is read at every position
as the map that they leave, in which each write changed the addressed cell alone. Of the
grid they leave, a next write is refused exactly when the catalog does not have the id that it
carries, and else when its position is out of bounds; nothing changes then. Outside the
bounds there is unturned air with datum 0, as there is everywhere in a new grid. The cells
that count as occupied are those within the bounds that are not air. -/
theorem writes_refine_map {ω : Type} [Grid ω] (grid : VoxelGrid (World ω)) (writes : List Write) :
    let after := (runCalls perform grid writes).1
    let map := (runCalls CellMap.perform grid.cellMap writes).1
    (runCalls perform grid writes).2 = (runCalls CellMap.perform grid.cellMap writes).2 ∧
    (∀ pos, Grid.blockId (World.voxel after) pos = (map.cell pos).id ∧
      Grid.orientation (World.voxel after) pos = (map.cell pos).orientation ∧
        Grid.datum (World.voxel after) pos = (map.cell pos).datum) ∧
    (after.catalog = grid.catalog ∧ after.extent = grid.extent) ∧
    (∀ write error, (after.perform write).2 = .error error ↔
      (∃ id, write.id? = some id ∧ grid.catalog.contains id = false ∧ error = .unknownBlock id) ∨
        (∀ id, write.id? = some id → grid.catalog.contains id = true) ∧
          write.pos ∉ grid.bounds ∧ error = .outOfBounds write.pos grid.bounds) ∧
    (∀ write error, (after.perform write).2 = .error error → (after.perform write).1 = after) ∧
    (∀ pos, pos ∉ grid.bounds → Grid.blockId (World.voxel after) pos = .air ∧
      Grid.orientation (World.voxel after) pos = .identity ∧
        Grid.datum (World.voxel after) pos = 0) ∧
    (∀ catalog width height depth, ofAir catalog width height depth = .ok grid →
      ∀ pos, grid.cellMap.cell pos = .air) ∧
    {pos | pos ∈ grid.bounds ∧ Grid.blockId (World.voxel after) pos ≠ .air}.encard =
      after.occupied := by
  intro after map
  obtain ⟨answers, same, catalog, extent⟩ := runCalls_cellMap grid writes
  have bounds : after.bounds = grid.bounds := congrArg GridExtent.box extent
  have cells : ∀ pos, after.cell pos = map.cell pos := congrFun (congrArg CellMap.cell same)
  have outside : ∀ pos, pos ∉ grid.bounds → after.cell pos = .air :=
    fun pos beyond => cell_of_not_mem (bounds ▸ beyond)
  refine ⟨answers, fun pos => ?_, ⟨catalog, extent⟩, fun write error => ?_,
    fun write error => perform_of_error, fun pos beyond => ?_,
    fun types width height depth made => (ofAir_ok made).2.1, ?_⟩
  · rw [← cells]
    exact ⟨rfl, rfl, rfl⟩
  · rw [perform_error_iff, CellMap.refusal?_eq_some_iff, cellMap, bounds, catalog]
  · exact ⟨congrArg Cell.id (outside pos beyond), congrArg Cell.orientation (outside pos beyond),
      congrArg Cell.datum (outside pos beyond)⟩
  · rw [← bounds]
    exact encard_occupied after

/-- Air beside stone with datum 4. -/
def airBesideStone : VoxelGrid (World EndlessChip) :=
  ⟨⟨Layout.standardTypes⟩, .clamped 2 1 1, #[.air, ⟨⟨20⟩, .identity, 4⟩], rfl⟩

/-- An unknown id out of bounds, a turn, a datum out of bounds, and a pad in place of air. -/
def mixedWrites : List Write :=
  [.place ⟨2, 0, 0⟩ ⟨99⟩, .setOrientation ⟨1, 0, 0⟩ (.ofCodeWrapping 5),
    .apply (.setDatum ⟨0, -1, 0⟩ 3), .replaceBlock ⟨0, 0, 0⟩ ⟨2⟩ 7]

/-- Two of the four writes are refused, the first for its id, and the others leave one cell
turned and the other a pad. -/
theorem mixedWrites_refine :
    let after := (runCalls perform airBesideStone mixedWrites).1
    (runCalls perform airBesideStone mixedWrites).2 =
      [.error (.unknownBlock ⟨99⟩), .ok (),
        .error (.outOfBounds ⟨0, -1, 0⟩ airBesideStone.bounds), .ok ()] ∧
    Grid.datum (World.voxel after) ⟨0, 0, 0⟩ = 7 ∧ Grid.datum (World.voxel after) ⟨1, 0, 0⟩ = 4 ∧
    (after.perform (.apply (.replaceBlock ⟨1, 0, 0⟩ ⟨98⟩ 4))).1 = after ∧
    Grid.blockId (World.voxel after) ⟨2, 0, 0⟩ = .air := by
  intro after
  obtain ⟨answers, reads, _, refused, kept, beyond, _⟩ :=
    writes_refine_map airBesideStone mixedWrites
  refine ⟨answers.trans (by decide +kernel), (reads _).2.2.trans (by decide +kernel),
    (reads _).2.2.trans (by decide +kernel), ?_, (beyond ⟨2, 0, 0⟩ (by decide +kernel)).1⟩
  exact kept _ (.unknownBlock ⟨98⟩)
    ((refused _ _).mpr (Or.inl ⟨⟨98⟩, rfl, by decide +kernel, rfl⟩))

end VoxelGrid

end VoxelCircuit

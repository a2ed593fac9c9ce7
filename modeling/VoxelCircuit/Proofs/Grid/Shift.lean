import VoxelCircuit.Proofs.Grid.Clusters
import VoxelCircuit.Proofs.Space.Shift
import VoxelCircuit.Proofs.Table.Map

/-! # Shifted grids

A grid shifted is one with the same blocks at an offset. Its clusters are the clusters of the
grid shifted, in their order and each in its order, if no block outside the bounds of either
has a behavior (`VoxelCircuit.Grid.Shifted.clusters`): blocks next to each other stay so,
and scans meet blocks with a behavior in one order however much room there is around them.

A voxel grid that is placed in another, with air around it, is shifted
(`VoxelCircuit.VoxelGrid.PlacedIn.shifted`).
-/

namespace VoxelCircuit

/-- The cells of a set shifted, in their order. -/
abbrev OrderedSet.shift (offset : Pos) (cells : OrderedSet Pos) : OrderedSet Pos :=
  Table.map offset.shift id cells

namespace Grid

variable {γ : Type} [Grid γ] {offset : Pos} {first second : γ}

/-- The blocks of one grid are those of another at an offset. -/
structure Shifted (offset : Pos) (first second : γ) : Prop where
  blockId : ∀ pos, Grid.blockId second (offset.shift pos) = Grid.blockId first pos
  behavior : ∀ pos, Grid.behavior second (offset.shift pos) = Grid.behavior first pos
  orientation : ∀ pos, Grid.orientation second (offset.shift pos) = Grid.orientation first pos
  datum : ∀ pos, Grid.datum second (offset.shift pos) = Grid.datum first pos
  interior : ∀ pos, Grid.interior second (offset.shift pos) = Grid.interior first pos

/-- A grid is itself shifted by nothing. -/
theorem Shifted.origin (grid : γ) : Shifted .origin grid grid := by
  constructor <;> simp

namespace Shifted

private theorem active (shifted : Shifted offset first second) (pos : Pos) :
    Grid.active second (offset.shift pos) = Grid.active first pos := by
  rw [Grid.active, Grid.active, shifted.behavior]

private theorem activeBeyondWire (shifted : Shifted offset first second) (pos : Pos) :
    Grid.activeBeyondWire second (offset.shift pos) = Grid.activeBeyondWire first pos := by
  rw [Grid.activeBeyondWire, Grid.activeBeyondWire, shifted.behavior]

private theorem neighbors (shifted : Shifted offset first second) (pos : Pos) :
    Grid.neighbors second (offset.shift pos) = (Grid.neighbors first pos).map offset.shift := by
  have stepped : (offset.shift pos).step = offset.shift ∘ pos.step :=
    funext fun direction => offset.step_shift pos direction
  rw [Grid.neighbors, Grid.neighbors, stepped, ← List.map_map, List.filter_map]
  simp only [Function.comp_def, shifted.active]

section Groups

private theorem note (offset : Pos) (found : OrderedSet Pos) (fresh : List Pos) (item : Pos) :
    Grid.note (found.shift offset, fresh.map offset.shift) (offset.shift item) =
      Prod.map (OrderedSet.shift offset) (List.map offset.shift)
        (Grid.note (found, fresh) item) := by
  have injective := offset.shift_injective
  simp only [Grid.note, OrderedSet.shift, Table.contains_map injective]
  split
  · rfl
  · have written := Table.map_insert injective id found item ()
    rw [Prod.map_apply, List.map_cons]
    exact congrArg (·, offset.shift item :: fresh.map offset.shift) written.symm

private theorem foldl_note (offset : Pos) (items : List Pos) (found : OrderedSet Pos)
    (fresh : List Pos) :
    (items.map offset.shift).foldl Grid.note (found.shift offset, fresh.map offset.shift) =
      Prod.map (OrderedSet.shift offset) (List.map offset.shift)
        (items.foldl Grid.note (found, fresh)) := by
  induction items generalizing found fresh with
  | nil => rfl
  | cons item rest ih =>
      rw [List.map_cons, List.foldl_cons, note]
      exact ih _ _

/-- A search from shifted blocks finds those of the search shifted, in their order. -/
theorem spread (shifted : Shifted offset first second) (levels : Nat) (level : List Pos)
    (found : OrderedSet Pos) :
    Grid.spread second levels (level.map offset.shift) (found.shift offset) =
      (Grid.spread first levels level found).shift offset := by
  induction levels generalizing level found with
  | zero => rfl
  | succ levels ih =>
      cases level with
      | nil => rfl
      | cons block rest =>
          have next : ((block :: rest).map offset.shift).flatMap (Grid.neighbors second) =
              ((block :: rest).flatMap (Grid.neighbors first)).map offset.shift := by
            rw [List.flatMap_map, List.map_flatMap]
            exact List.flatMap_congr fun pos _ => shifted.neighbors pos
          have noted := foldl_note offset ((block :: rest).flatMap (Grid.neighbors first)) found []
          rw [← next] at noted
          simp only [Grid.spread, List.map_cons] at noted ⊢
          rw [List.map_nil] at noted
          rw [noted, Prod.map_fst, Prod.map_snd, ← List.map_reverse]
          exact ih _ _

private theorem groupOf (shifted : Shifted offset first second) (seed : Pos) :
    Grid.groupOf second (offset.shift seed) = (Grid.groupOf first seed).map offset.shift := by
  have enough : ∀ (grid : γ) (start : Pos) {steps : Nat}, (support grid).cardinality ≤ steps →
      Grid.spread grid steps [start] (OrderedSet.add .empty start) =
        Grid.spread grid (support grid).cardinality [start] (OrderedSet.add .empty start) :=
    fun grid _ _ more => spread_of_enough (fun _ => card_unfound_le grid _) more
  have alone : OrderedSet.add .empty (offset.shift seed) =
      OrderedSet.shift offset (OrderedSet.add .empty seed) :=
    (Table.map_insert offset.shift_injective id .empty seed ()).symm
  rw [Grid.groupOf, Grid.groupOf, ← enough second _ (Nat.le_max_right
    (support first).cardinality _), ← enough first _ (Nat.le_max_left _
    (support second).cardinality), alone, ← Table.keys_map offset.shift_injective id]
  exact congrArg Table.keys (shifted.spread _ [seed] _)

end Groups

/-- Cells without a behavior make no difference to a scan. -/
theorem foldl_extend_filter (grid : γ) (cells : List Pos) (grouping : Grouping) :
    cells.foldl (Grouping.extend grid) grouping =
      (cells.filter (Grid.active grid)).foldl (Grouping.extend grid) grouping := by
  induction cells generalizing grouping with
  | nil => rfl
  | cons seed rest ih =>
      by_cases present : Grid.active grid seed = true
      · rw [List.filter_cons_of_pos present, List.foldl_cons, List.foldl_cons, ih]
      · have skipped : grouping.extend grid seed = grouping := if_neg fun next => present next.2.1
        rw [List.filter_cons_of_neg present, List.foldl_cons, skipped, ih]

/-- Scans meet the blocks with a behavior in one order. -/
theorem activePositions (shifted : Shifted offset first second) :
    (support second).positions.filter (Grid.active second) =
      ((support first).positions.filter (Grid.active first)).map offset.shift := by
  apply Pos.eq_of_pairwise_precedes ((Box.positions_pairwise _).filter _)
  · rw [List.pairwise_map]
    exact ((Box.positions_pairwise _).filter _).imp offset.shift_precedes_shift.mpr
  · intro pos
    obtain ⟨old, rfl⟩ := offset.shift_surjective pos
    rw [List.mem_map_of_injective offset.shift_injective]
    simp only [List.mem_filter, Box.mem_positions, shifted.active]
    constructor
    · rintro ⟨_, present⟩
      exact ⟨mem_support_of_active present, present⟩
    · rintro ⟨_, present⟩
      exact ⟨mem_support_of_active ((shifted.active old).trans present), present⟩

private theorem foldl_extend (shifted : Shifted offset first second) (enclosed : Enclosed first)
    (alsoEnclosed : Enclosed second) {cells : List Pos} {grouping other : Grouping}
    (sound : grouping.Sound first) (alsoSound : other.Sound second)
    (same : other.groups = grouping.groups.map (List.map offset.shift)) :
    ((cells.map offset.shift).foldl (Grouping.extend second) other).groups =
      (cells.foldl (Grouping.extend first) grouping).groups.map (List.map offset.shift) := by
  induction cells generalizing grouping other with
  | nil => exact same
  | cons seed rest ih =>
      refine ih (sound.extend seed) (alsoSound.extend (offset.shift seed)) ?_
      have grouped : (∃ group ∈ other.groups, offset.shift seed ∈ group) ↔
          ∃ group ∈ grouping.groups, seed ∈ group := by
        simp only [same, List.mem_map, exists_exists_and_eq_and, Pos.shift_inj, exists_eq_right]
      rcases Grouping.extend_cases enclosed sound seed with ⟨taken, present, missed⟩ | ⟨kept, old⟩
      · rcases Grouping.extend_cases alsoEnclosed alsoSound (offset.shift seed) with
            ⟨alsoTaken, _, _⟩ | ⟨_, alsoOld⟩
        · rw [alsoTaken, taken, same, shifted.groupOf, List.map_cons]
        · obtain ⟨group, listed, member⟩ :=
            grouped.mp (alsoOld ((shifted.active seed).trans present))
          exact absurd member (missed group listed)
      · rcases Grouping.extend_cases alsoEnclosed alsoSound (offset.shift seed) with
            ⟨_, alsoPresent, alsoMissed⟩ | ⟨alsoKept, _⟩
        · obtain ⟨group, listed, member⟩ :=
            grouped.mpr (old ((shifted.active seed).symm.trans alsoPresent))
          exact absurd member (alsoMissed group listed)
        · rw [alsoKept, kept, same]

private theorem groups (shifted : Shifted offset first second) (enclosed : Enclosed first)
    (alsoEnclosed : Enclosed second) :
    Grid.groups second = (Grid.groups first).map (List.map offset.shift) := by
  have start : ∀ grid : γ, (⟨[], ∅⟩ : Grouping).Sound grid := fun _ => ⟨by simp, by simp, .nil⟩
  rw [Grid.groups, Grid.groups, Box.scan_eq_foldl, Box.scan_eq_foldl, foldl_extend_filter,
    foldl_extend_filter first, shifted.activePositions,
    shifted.foldl_extend enclosed alsoEnclosed (start first) (start second) rfl, List.map_reverse]

/-- The clusters of a shifted grid are the clusters shifted. -/
theorem clusters (shifted : Shifted offset first second) (enclosed : Enclosed first)
    (alsoEnclosed : Enclosed second) :
    Grid.clusters second = (Grid.clusters first).map (List.map offset.shift) := by
  rw [Grid.clusters, Grid.clusters, shifted.groups enclosed alsoEnclosed, List.filter_map]
  simp only [Function.comp_def, List.any_map, shifted.activeBeyondWire]

end Shifted

end Grid

namespace VoxelGrid

/-- A voxel grid is found in another at an offset, and there is nothing but air around it. -/
structure PlacedIn {γ : Type} (offset : Pos) (grid world : VoxelGrid γ) : Prop where
  catalog : world.catalog = grid.catalog
  fits : ∀ pos ∈ grid.bounds, offset.shift pos ∈ world.bounds
  cells : ∀ pos ∈ grid.bounds, world.cell (offset.shift pos) = grid.cell pos
  around : ∀ pos, pos ∉ grid.bounds → world.cell (offset.shift pos) = .air

private theorem PlacedIn.cell {γ : Type} {offset : Pos} {grid world : VoxelGrid γ}
    (placed : PlacedIn offset grid world) (pos : Pos) :
    world.cell (offset.shift pos) = grid.cell pos := by
  by_cases inside : pos ∈ grid.bounds
  · exact placed.cells pos inside
  · rw [placed.around pos inside, cell_of_not_mem inside]

/-- A voxel grid placed in another is shifted by the offset. -/
theorem PlacedIn.shifted {ω : Type} [Grid ω] {offset : Pos} {grid world : VoxelGrid (World ω)}
    (placed : PlacedIn offset grid world) :
    Grid.Shifted offset (World.voxel grid) (World.voxel world) where
  blockId pos := congrArg Cell.id (placed.cell pos)
  behavior pos := by
    change world.behavior _ = grid.behavior pos
    rw [behavior, behavior, placed.cell, placed.catalog]
  orientation pos := congrArg Cell.orientation (placed.cell pos)
  datum pos := congrArg Cell.datum (placed.cell pos)
  interior pos := by
    change world.interior _ = grid.interior pos
    rw [interior, interior, placed.cell, placed.catalog]

end VoxelGrid

end VoxelCircuit

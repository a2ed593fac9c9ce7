import Mathlib.Data.List.Pairwise
import VoxelCircuit.Proofs.Grid.Clusters
import VoxelCircuit.Proofs.Space.Motion

/-! # Turned grids

A grid turned has the blocks of another where a motion takes them, each turned along. What
lies face to face stays so, and the clusters are those of the other grid moved
(`VoxelCircuit.Grid.Turned.exists_cluster`), though scans and searches meet blocks in another
order. A voxel grid with the blocks of another moved and no others is turned
(`VoxelCircuit.VoxelGrid.TurnedInto.turned`).
-/

namespace VoxelCircuit

namespace Grid

open Relation

variable {γ : Type} [Grid γ] {motion : Motion} {first second : γ}

/-- The blocks of one grid are those of another where a motion takes them, turned along. -/
structure Turned (motion : Motion) (first second : γ) : Prop where
  blockId : ∀ pos, Grid.blockId second (motion.place pos) = Grid.blockId first pos
  behavior : ∀ pos, Grid.behavior second (motion.place pos) = Grid.behavior first pos
  interior : ∀ pos, Grid.interior second (motion.place pos) = Grid.interior first pos
  orientation : ∀ pos, Grid.active first pos = true →
    Grid.orientation second (motion.place pos) = motion.rotation * Grid.orientation first pos
  datum : ∀ pos, Grid.active first pos = true →
    Grid.datum second (motion.place pos) = Grid.datum first pos

private theorem eq_of_mem_clusters {grid : γ} {cluster other : List Pos} {pos : Pos}
    (listed : cluster ∈ clusters grid) (otherListed : other ∈ clusters grid)
    (member : pos ∈ cluster) (otherMember : pos ∈ other) : other = cluster := by
  by_contra different
  have : Std.Symm (α := List Pos) List.Disjoint := ⟨fun _ _ apart => apart.symm⟩
  exact (clusters_apart grid).forall otherListed listed different otherMember member

namespace Turned

private theorem active (turned : Turned motion first second) (pos : Pos) :
    Grid.active second (motion.place pos) = Grid.active first pos := by
  rw [Grid.active, Grid.active, turned.behavior]

/-- A turned block is more than wire exactly if the block is. -/
theorem activeBeyondWire (turned : Turned motion first second) (pos : Pos) :
    Grid.activeBeyondWire second (motion.place pos) = Grid.activeBeyondWire first pos := by
  rw [Grid.activeBeyondWire, Grid.activeBeyondWire, turned.behavior]

private theorem adjacent (turned : Turned motion first second) {pos other : Pos} :
    Adjacent second (motion.place pos) (motion.place other) ↔ Adjacent first pos other := by
  constructor
  · rintro ⟨here, there, direction, step⟩
    obtain ⟨source, rfl⟩ := motion.turn_surjective direction
    rw [← motion.place_step, motion.place_inj] at step
    exact ⟨turned.active pos ▸ here, turned.active other ▸ there, source, step⟩
  · rintro ⟨here, there, direction, rfl⟩
    refine ⟨(turned.active pos).trans here, (turned.active _).trans there,
      motion.turn direction, ?_⟩
    rw [motion.place_step]

private theorem joined (turned : Turned motion first second) {pos other : Pos} :
    ReflTransGen (Adjacent second) (motion.place pos) (motion.place other) ↔
      ReflTransGen (Adjacent first) pos other :=
  motion.reflTransGen_iff fun _ _ => turned.adjacent

/-- Two blocks are in one cluster when they are so moved. -/
theorem mem_same_cluster (turned : Turned motion first second) (enclosed : Enclosed first)
    (alsoEnclosed : Enclosed second) {pos other : Pos} :
    (∃ cluster ∈ clusters second, motion.place pos ∈ cluster ∧ motion.place other ∈ cluster) ↔
      ∃ cluster ∈ clusters first, pos ∈ cluster ∧ other ∈ cluster := by
  rw [mem_same_cluster_iff enclosed, mem_same_cluster_iff alsoEnclosed, turned.joined]
  refine and_congr_right fun _ => ?_
  rw [motion.place_surjective.exists]
  simp only [turned.joined, turned.activeBeyondWire]

/-- Each cluster is found moved. -/
theorem exists_cluster (turned : Turned motion first second) (enclosed : Enclosed first)
    (alsoEnclosed : Enclosed second) {cluster : List Pos} (listed : cluster ∈ clusters first) :
    ∃ moved ∈ clusters second, ∀ pos, motion.place pos ∈ moved ↔ pos ∈ cluster := by
  obtain ⟨start, member, _⟩ := List.any_eq_true.mp (List.mem_filter.mp listed).2
  obtain ⟨moved, movedListed, startMoved, _⟩ :=
    (turned.mem_same_cluster enclosed alsoEnclosed).mpr ⟨cluster, listed, member, member⟩
  refine ⟨moved, movedListed, fun pos => ⟨fun inside => ?_, fun inside => ?_⟩⟩
  · obtain ⟨other, otherListed, startOther, posOther⟩ :=
      (turned.mem_same_cluster enclosed alsoEnclosed).mp ⟨moved, movedListed, startMoved, inside⟩
    rwa [eq_of_mem_clusters listed otherListed member startOther] at posOther
  · obtain ⟨other, otherListed, startOther, posOther⟩ :=
      (turned.mem_same_cluster enclosed alsoEnclosed).mpr ⟨cluster, listed, member, inside⟩
    rwa [eq_of_mem_clusters movedListed otherListed startMoved startOther] at posOther

end Turned

end Grid

namespace VoxelGrid

variable {γ : Type} {motion : Motion} {grid other : VoxelGrid γ}

/-- The blocks of a voxel grid other than air are in another where a motion takes them, turned
along, and there are no others. -/
structure TurnedInto (motion : Motion) (grid other : VoxelGrid γ) : Prop where
  catalog : other.catalog = grid.catalog
  blocks : ∀ pos, (grid.cell pos).id ≠ .air → other.cell (motion.place pos) =
    ⟨(grid.cell pos).id, motion.rotation * (grid.cell pos).orientation, (grid.cell pos).datum⟩
  others : ∀ pos, (∀ source, (grid.cell source).id ≠ .air → motion.place source ≠ pos) →
    (other.cell pos).id = .air

private theorem TurnedInto.id_eq (into : TurnedInto motion grid other) (pos : Pos) :
    (other.cell (motion.place pos)).id = (grid.cell pos).id := by
  by_cases empty : (grid.cell pos).id = .air
  · rw [empty]
    refine into.others _ fun source present same => present ?_
    rwa [motion.place_inj.mp same]
  · rw [into.blocks pos empty]

/-- A voxel grid that is turned into another is turned as a grid. -/
theorem TurnedInto.turned {ω : Type} [Grid ω] {grid other : VoxelGrid (World ω)}
    (into : TurnedInto motion grid other) :
    Grid.Turned motion (World.voxel grid) (World.voxel other) := by
  have present : ∀ pos, Grid.active (World.voxel grid) pos = true →
      (grid.cell pos).id ≠ .air := by
    intro pos active empty
    have none : Grid.behavior (World.voxel grid) pos = none := by
      change grid.catalog.behavior (grid.cell pos).id = none
      rw [empty, Catalog.behavior_air]
    rw [Grid.active, none] at active
    cases active
  constructor
  · exact into.id_eq
  · intro pos
    change other.catalog.behavior _ = grid.catalog.behavior _
    rw [into.catalog, into.id_eq]
  · intro pos
    change other.catalog.interior _ = grid.catalog.interior _
    rw [into.catalog, into.id_eq]
  · intro pos active
    change (other.cell _).orientation = _
    rw [into.blocks pos (present pos active)]
    rfl
  · intro pos active
    change (other.cell _).datum = _
    rw [into.blocks pos (present pos active)]
    rfl

/-- It is enough to look at the cells of the two boxes. -/
theorem TurnedInto.of_cells (catalog : other.catalog = grid.catalog)
    (blocks : ∀ pos ∈ grid.bounds.positions, (grid.cell pos).id ≠ .air →
      other.cell (motion.place pos) = ⟨(grid.cell pos).id,
        motion.rotation * (grid.cell pos).orientation, (grid.cell pos).datum⟩)
    (others : ∀ pos ∈ other.bounds.positions, (other.cell pos).id ≠ .air →
      ∃ source ∈ grid.bounds.positions, (grid.cell source).id ≠ .air ∧ motion.place source = pos) :
    TurnedInto motion grid other where
  catalog := catalog
  blocks pos present := by
    refine blocks pos (Box.mem_positions.mpr ?_) present
    by_contra outside
    exact present (congrArg Cell.id (cell_of_not_mem outside))
  others pos elsewhere := by
    by_contra present
    by_cases inside : pos ∈ other.bounds
    · obtain ⟨source, _, held, same⟩ := others pos (Box.mem_positions.mpr inside) present
      exact elsewhere source held same
    · exact present (congrArg Cell.id (cell_of_not_mem inside))

end VoxelGrid

end VoxelCircuit

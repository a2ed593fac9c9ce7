import VoxelCircuit.Proofs.Grid.Clusters
import VoxelCircuit.Proofs.Layout.Lattice
import VoxelCircuit.Proofs.Space.Motion

/-! # The rows of a lattice

Rows of a lattice are two apart, and so a path of blocks does not leave its row; within a row
all blocks are joined to the pad at its start. The clusters of a lattice are its rows, in their
order (`VoxelCircuit.Profile.IsLattice.clusters_eq_rows`).
-/

namespace VoxelCircuit

open Relation

namespace Profile

variable {rows gates lit : Nat}

/-- Each block of a lattice is in one of its rows. -/
theorem Stands.exists_row {pos : Pos} {behavior : Behavior}
    (stands : Stands rows gates pos behavior) : ∃ row < rows, pos.z = 2 * row := by
  cases stands with
  | source below | wire below | gate below | opener below | lamp below => exact ⟨_, below, rfl⟩

/-- No block of a row comes before the pad at the start of the row. -/
theorem Stands.not_precedes_source {pos : Pos} {behavior : Behavior}
    (stands : Stands rows gates pos behavior) {row : Nat} (there : pos.z = 2 * row) :
    ¬pos.Precedes ⟨0, 0, 2 * row⟩ := by
  unfold Pos.Precedes
  cases stands <;> simp only at there ⊢ <;> omega

/-- There is no gap along a row. -/
theorem exists_stands {row place : Nat} (below : row < rows) (within : place ≤ 2 * gates + 2) :
    ∃ behavior, Stands rows gates ⟨place, 0, 2 * row⟩ behavior := by
  have along : ∀ {x : Int} {behavior : Behavior}, Stands rows gates ⟨x, 0, 2 * row⟩ behavior →
      x = place → ∃ behavior, Stands rows gates ⟨place, 0, 2 * row⟩ behavior := by
    rintro x behavior stands rfl
    exact ⟨behavior, stands⟩
  rcases Nat.mod_two_eq_zero_or_one place with even | odd
  · by_cases first : place = 0
    · exact along (.source below) (by omega)
    · by_cases last : place = 2 * gates + 2
      · exact along (.lamp below) (by omega)
      · have gate : Stands rows gates ⟨2 * (place / 2 - 1 : Nat) + 2, 0, 2 * row⟩ .gate :=
          .gate below (by omega)
        exact along gate (by omega)
  · have wire : Stands rows gates ⟨2 * (place / 2 : Nat) + 1, 0, 2 * row⟩ .wire :=
      .wire below (by omega)
    exact along wire (by omega)

variable {ω : Type} [Grid ω] {grid : VoxelGrid (World ω)}

namespace IsLattice

variable (lattice : IsLattice rows gates lit grid)
include lattice

/-- The positions with a behavior are those where the lattice has a block. -/
theorem active_iff {pos : Pos} :
    Grid.active (World.voxel grid) pos = true ↔ ∃ behavior, Stands rows gates pos behavior := by
  rw [Grid.active, Option.isSome_iff_exists]
  exact exists_congr fun behavior => lattice.behavior pos behavior

/-- Blocks face to face are in one row. -/
theorem same_row {pos other : Pos}
    (path : ReflTransGen (Grid.Adjacent (World.voxel grid)) pos other) :
    other.z = pos.z := by
  induction path with
  | refl => rfl
  | @tail near far _ adjacent ih =>
      obtain ⟨here, there, direction, rfl⟩ := adjacent
      obtain ⟨_, stands⟩ := lattice.active_iff.mp here
      obtain ⟨_, standsThere⟩ := lattice.active_iff.mp there
      obtain ⟨row, _, height⟩ := stands.exists_row
      obtain ⟨next, _, heightThere⟩ := standsThere.exists_row
      rw [← ih]
      cases direction <;> simp only [Pos.step, Direction.vector] at heightThere ⊢ <;> omega

/-- The pad at the start of a row is joined to all cells along the row. -/
theorem joined_along {row : Nat} (place : Nat) (below : row < rows)
    (within : place ≤ 2 * gates + 2) :
    ReflTransGen (Grid.Adjacent (World.voxel grid)) ⟨0, 0, 2 * row⟩ ⟨place, 0, 2 * row⟩ := by
  induction place with
  | zero => exact .refl
  | succ place ih =>
      refine (ih (by omega)).tail ⟨lattice.active_iff.mpr (exists_stands below (by omega)),
        lattice.active_iff.mpr (exists_stands below within), .posX, ?_⟩
      simp [Pos.step, Direction.vector]

/-- The pad at the start of a row is joined to all blocks of the row. -/
theorem joined {pos : Pos} {behavior : Behavior} (stands : Stands rows gates pos behavior)
    {row : Nat} (there : pos.z = 2 * row) :
    ReflTransGen (Grid.Adjacent (World.voxel grid)) ⟨0, 0, 2 * row⟩ pos := by
  cases stands with
  | @source other below =>
      obtain rfl : other = row := by simp only at there; omega
      exact .refl
  | @wire other place below within =>
      obtain rfl : other = row := by simp only at there; omega
      exact lattice.joined_along (2 * place + 1) below (by omega)
  | @gate other place below within =>
      obtain rfl : other = row := by simp only at there; omega
      exact lattice.joined_along (2 * place + 2) below (by omega)
  | @opener other place below within =>
      obtain rfl : other = row := by simp only at there; omega
      refine (lattice.joined_along (2 * place + 2) below (by omega)).tail
        ⟨lattice.active_iff.mpr ⟨_, .gate below within⟩,
          lattice.active_iff.mpr ⟨_, .opener below within⟩, .posY, ?_⟩
      simp [Pos.step, Direction.vector]
  | @lamp other below =>
      obtain rfl : other = row := by simp only at there; omega
      exact lattice.joined_along (2 * gates + 2) below (by omega)

/-- A cluster has the blocks of the row of any of its blocks. -/
theorem mem_cluster_iff {cluster : List Pos} (listed : cluster ∈ Grid.clusters (World.voxel grid))
    {row : Nat} {member : Pos} (inside : member ∈ cluster) (there : member.z = 2 * row)
    {pos : Pos} :
    pos ∈ cluster ↔ (∃ behavior, Stands rows gates pos behavior) ∧ pos.z = 2 * row := by
  obtain ⟨closed, active⟩ := Grid.clusters_closed listed
  constructor
  · intro also
    refine ⟨lattice.active_iff.mp (active pos also), ?_⟩
    obtain ⟨path, _⟩ := (Grid.mem_same_cluster_iff (Grid.enclosed_voxel grid)).mp
      ⟨cluster, listed, inside, also⟩
    rw [lattice.same_row path, there]
  · rintro ⟨⟨behavior, stands⟩, height⟩
    obtain ⟨_, standsThere⟩ := lattice.active_iff.mp (active member inside)
    have start := closed.joined (Grid.joined_symm (lattice.joined standsThere there)) inside
    exact closed.joined (lattice.joined stands height) start

/-- The first block of a cluster is the pad at the start of a row. -/
theorem head_cluster {cluster : List Pos} (listed : cluster ∈ Grid.clusters (World.voxel grid)) :
    ∃ row < rows, cluster.head? = some ⟨0, 0, 2 * row⟩ := by
  obtain ⟨led, _⟩ := Grid.clusters_ordered (Grid.enclosed_voxel grid)
  obtain ⟨first, rest, rfl, precedes⟩ := led cluster listed
  obtain ⟨_, stands⟩ := lattice.active_iff.mp
    ((Grid.clusters_closed listed).2 first List.mem_cons_self)
  obtain ⟨row, below, there⟩ := stands.exists_row
  have start := (lattice.mem_cluster_iff listed List.mem_cons_self there).mpr
    ⟨⟨_, .source below⟩, rfl⟩
  refine ⟨row, below, congrArg some ?_⟩
  exact ((List.mem_cons.mp start).resolve_right
    fun later => stands.not_precedes_source there (precedes _ later)).symm

/-- The pad at the start of each row is the first block of a cluster. -/
theorem exists_cluster_of_row {row : Nat} (below : row < rows) :
    ∃ cluster ∈ Grid.clusters (World.voxel grid), cluster.head? = some ⟨0, 0, 2 * row⟩ := by
  have beyond : Grid.activeBeyondWire (World.voxel grid) ⟨0, 0, 2 * row⟩ = true :=
    Grid.activeBeyondWire_iff.mpr ⟨.pad, (lattice.behavior _ _).mpr (.source below), rfl⟩
  obtain ⟨cluster, listed, inside, _⟩ :=
    (Grid.mem_same_cluster_iff (Grid.enclosed_voxel grid)).mpr ⟨.refl, _, .refl, beyond⟩
  obtain ⟨other, _, leads⟩ := lattice.head_cluster listed
  have same := ((lattice.mem_cluster_iff listed inside rfl).mp (List.mem_of_mem_head? leads)).2
  refine ⟨cluster, listed, leads.trans (congrArg some ?_)⟩
  exact (Pos.mk.injEq ..).mpr ⟨rfl, rfl, same⟩

/-- The clusters of a lattice start with the pads at the starts of its rows, in their order. -/
theorem heads_eq : (Grid.clusters (World.voxel grid)).map List.head? =
    (List.range rows).map fun (row : Nat) => some ⟨0, 0, 2 * row⟩ := by
  have lead : ∀ {cluster : List Pos} {pos : Pos}, cluster.head? = some pos →
      cluster.headD .origin = pos := by
    intro cluster pos leads
    rw [List.headD_eq_head?_getD, leads, Option.getD_some]
  have heads : (Grid.clusters (World.voxel grid)).map (fun cluster => cluster.headD .origin) =
      (List.range rows).map fun (row : Nat) => ⟨0, 0, 2 * row⟩ := by
    apply Pos.eq_of_pairwise_precedes
    · rw [List.pairwise_map]
      refine (Grid.clusters_ordered (Grid.enclosed_voxel grid)).2.imp_of_mem ?_
      intro first second firstListed secondListed precede
      obtain ⟨_, _, firstLeads⟩ := lattice.head_cluster firstListed
      obtain ⟨_, _, secondLeads⟩ := lattice.head_cluster secondListed
      rw [lead firstLeads, lead secondLeads]
      exact precede _ firstLeads _ secondLeads
    · rw [List.pairwise_map]
      refine List.pairwise_lt_range.imp fun before => Or.inl ?_
      simp only
      omega
    · intro pos
      simp only [List.mem_map, List.mem_range]
      constructor
      · rintro ⟨cluster, listed, rfl⟩
        obtain ⟨row, below, leads⟩ := lattice.head_cluster listed
        exact ⟨row, below, (lead leads).symm⟩
      · rintro ⟨row, below, rfl⟩
        obtain ⟨cluster, listed, leads⟩ := lattice.exists_cluster_of_row below
        exact ⟨cluster, listed, lead leads⟩
  have all : ∀ cluster ∈ Grid.clusters (World.voxel grid),
      cluster.head? = some (cluster.headD .origin) := by
    intro cluster listed
    obtain ⟨_, _, leads⟩ := lattice.head_cluster listed
    rw [lead leads, leads]
  have mapped := congrArg (List.map some) heads
  rw [List.map_map, List.map_map] at mapped
  exact (List.map_congr_left all).trans mapped

/-- **The clusters of a lattice are its rows**, in their order. -/
theorem clusters_eq_rows : (Grid.clusters (World.voxel grid)).length = rows ∧
    ∀ (row : Nat) cluster, (Grid.clusters (World.voxel grid))[row]? = some cluster →
      ∀ pos, pos ∈ cluster ↔ (∃ behavior, Stands rows gates pos behavior) ∧ pos.z = 2 * row := by
  have heads := lattice.heads_eq
  have count : (Grid.clusters (World.voxel grid)).length = rows := by
    simpa using congrArg List.length heads
  refine ⟨count, fun row cluster found pos => ?_⟩
  have leads : cluster.head? = some ⟨0, 0, 2 * row⟩ := by
    have below : row < rows := count ▸ (List.getElem?_eq_some_iff.mp found).1
    have place := congrArg (fun heads => heads[row]?) heads
    simp only [List.getElem?_map, found, List.getElem?_range below, Option.map_some] at place
    exact Option.some.inj place
  exact lattice.mem_cluster_iff (List.mem_of_getElem? found) (List.mem_of_mem_head? leads) rfl

end IsLattice

end Profile

end VoxelCircuit

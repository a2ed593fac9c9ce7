import Mathlib.Combinatorics.SimpleGraph.Metric
import VoxelCircuit.Layout.Basic
import VoxelCircuit.Layout.EndlessChip
import VoxelCircuit.Proofs.Grid.Clusters

/-! # Clusters are listed breadth-first

The search for the blocks of a group goes level by level. Each level holds the blocks at one
distance from the start, and what was found so far are the blocks up to that distance
(`VoxelCircuit.Grid.Layered`). So the distance from the first block never decreases along a
cluster, and each later block lies next to an earlier one
(`VoxelCircuit.Grid.clusters_breadthFirst`).
-/

namespace VoxelCircuit

private theorem Pos.step_ne (pos : Pos) (direction : Direction) : pos.step direction ≠ pos := by
  obtain ⟨x, y, z⟩ := pos
  cases direction <;> simp [step, Direction.vector]

namespace Grid

open Relation

variable {γ : Type} [Grid γ] {grid : γ} {pos other seed : Pos}

/-- The graph of the blocks with a behavior, joined where they lie face to face. -/
def blockGraph (grid : γ) : SimpleGraph Pos where
  Adj := Adjacent grid
  symm := ⟨fun _ _ => Adjacent.symm⟩
  loopless := ⟨fun pos adjacent => adjacent.step.elim fun direction => pos.step_ne direction⟩

private theorem reachable_of_joined (path : ReflTransGen (Adjacent grid) pos other) :
    (blockGraph grid).Reachable pos other := by
  induction path with
  | refl => exact .rfl
  | tail _ adjacent ih =>
      have beside : (blockGraph grid).Adj _ _ := adjacent
      exact ih.trans beside.reachable

/-- A step goes no farther than one step from where it starts. -/
theorem edist_le_of_adjacent (seed : Pos) (adjacent : Adjacent grid pos other) :
    (blockGraph grid).edist seed other ≤ (blockGraph grid).edist seed pos + 1 := by
  have beside : (blockGraph grid).Adj pos other := adjacent
  rw [← SimpleGraph.edist_eq_one_iff_adj.mpr beside]
  exact SimpleGraph.edist_triangle

/-- A shortest path to a block comes by one that is a step nearer. -/
theorem exists_adjacent_of_edist {steps : ℕ}
    (far : (blockGraph grid).edist seed pos = (steps + 1 : ℕ)) :
    ∃ before, (blockGraph grid).edist seed before = steps ∧ Adjacent grid before pos := by
  rw [SimpleGraph.edist_comm] at far
  obtain ⟨walk, length⟩ := SimpleGraph.exists_walk_of_edist_eq_coe far
  cases walk with
  | nil => cases length
  | @cons _ before _ adjacent rest =>
      have adjacent : Adjacent grid pos before := adjacent
      rw [SimpleGraph.edist_comm] at far
      rw [SimpleGraph.Walk.length_cons, Nat.add_right_cancel_iff] at length
      have near : (blockGraph grid).edist seed before ≤ steps := by
        rw [SimpleGraph.edist_comm, ← length]
        exact rest.edist_le
      have nearer := edist_le_of_adjacent seed adjacent.symm
      rw [far, Nat.cast_add, Nat.cast_one] at nearer
      refine ⟨before, near.antisymm ?_, adjacent.symm⟩
      exact (ENat.add_le_add_iff_right ENat.one_ne_top).mp nearer

/-- Taking note of blocks puts the fresh ones last, in their order. -/
theorem keys_foldl_note (items : List Pos) {found : OrderedSet Pos} {fresh base : List Pos}
    (split : found.keys = base ++ fresh.reverse) :
    (items.foldl note (found, fresh)).1.keys =
      base ++ (items.foldl note (found, fresh)).2.reverse := by
  induction items generalizing found fresh with
  | nil => exact split
  | cons item rest ih =>
      rw [List.foldl_cons, note]
      by_cases old : found.contains item = true
      · rw [if_pos old]
        exact ih split
      · rw [if_neg old]
        apply ih
        rw [OrderedSet.keys_add, if_neg old, split, List.reverse_cons, List.append_assoc]

/-- Each block of a list but the first lies next to one that is listed before it. -/
def Grown (grid : γ) (blocks : List Pos) : Prop :=
  ∀ before pos after, blocks = before ++ pos :: after → before ≠ [] →
    ∃ other ∈ before, Adjacent grid other pos

private theorem Grown.append {blocks more : List Pos} (grown : Grown grid blocks)
    (beside : ∀ pos ∈ more, ∃ other ∈ blocks, Adjacent grid other pos) :
    Grown grid (blocks ++ more) := by
  intro before pos after split some
  rcases List.append_eq_append_iff.mp split with ⟨between, rfl, rest⟩ | ⟨between, rfl, rest⟩
  · obtain ⟨other, listed, adjacent⟩ := beside pos (by rw [rest]; simp)
    exact ⟨other, List.mem_append_left _ listed, adjacent⟩
  · cases between with
    | nil =>
        have last : pos ∈ more := by
          rw [← List.nil_append more, ← rest]
          simp
        obtain ⟨other, listed, adjacent⟩ := beside pos last
        exact ⟨other, by simpa using listed, adjacent⟩
    | cons next left =>
        rw [List.cons_append, List.cons.injEq] at rest
        obtain ⟨rfl, rfl⟩ := rest
        exact grown before pos left rfl some

/-- What a search has found when it is some number of steps away from its start: the level
holds the blocks that are as far, and all that was found are those that are no farther, the
nearer ones first. -/
structure Layered (grid : γ) (seed : Pos) (steps : ℕ) (level : List Pos)
    (found : OrderedSet Pos) : Prop where
  shell : ∀ pos, pos ∈ level ↔ (blockGraph grid).edist seed pos = steps
  ball : ∀ pos, pos ∈ found.keys ↔ (blockGraph grid).edist seed pos ≤ steps
  present : ∀ pos ∈ found.keys, active grid pos = true
  sorted : found.keys.Pairwise fun earlier later =>
    (blockGraph grid).edist seed earlier ≤ (blockGraph grid).edist seed later
  grown : Grown grid found.keys

namespace Layered

variable {steps : ℕ} {level : List Pos} {found : OrderedSet Pos}

private theorem start (present : active grid seed = true) :
    Layered grid seed 0 [seed] (OrderedSet.add .empty seed) := by
  have alone : (OrderedSet.add .empty seed).keys = [seed] := OrderedSet.keys_add .empty seed
  constructor
  · intro pos
    rw [List.mem_singleton, Nat.cast_zero, SimpleGraph.edist_eq_zero_iff, eq_comm]
  · intro pos
    rw [alone, List.mem_singleton, Nat.cast_zero, nonpos_iff_eq_zero,
      SimpleGraph.edist_eq_zero_iff, eq_comm]
  · simp [alone, present]
  · simp [alone]
  · intro before pos after split some
    rw [alone, eq_comm, List.append_eq_singleton_iff] at split
    simp [some] at split

/-- The blocks next to a level lie next to a block of it, which was found. -/
theorem adjacent_of_mem (layered : Layered grid seed steps level found)
    (beside : pos ∈ level.flatMap (neighbors grid)) :
    ∃ before ∈ level, before ∈ found.keys ∧ Adjacent grid before pos := by
  obtain ⟨before, listed, next⟩ := List.mem_flatMap.mp beside
  obtain ⟨step, present⟩ := mem_neighbors.mp next
  have reached : before ∈ found.keys :=
    (layered.ball before).mpr ((layered.shell before).mp listed).le
  exact ⟨before, listed, reached, layered.present before reached, present, step⟩

/-- The fresh blocks next to a level are those one step farther away. -/
theorem mem_fresh (layered : Layered grid seed steps level found) :
    pos ∈ ((level.flatMap (neighbors grid)).foldl note (found, [])).2.reverse ↔
      (blockGraph grid).edist seed pos = (steps + 1 : ℕ) := by
  rw [List.mem_reverse, (foldl_note _ _ _).2, layered.ball, not_le]
  simp only [List.not_mem_nil, false_or]
  constructor
  · rintro ⟨beside, farther⟩
    obtain ⟨before, listed, _, adjacent⟩ := layered.adjacent_of_mem beside
    have near := edist_le_of_adjacent seed adjacent
    rw [(layered.shell before).mp listed] at near
    rw [Nat.cast_add, Nat.cast_one]
    exact near.antisymm (Order.add_one_le_of_lt farther)
  · intro far
    obtain ⟨before, near, adjacent⟩ := exists_adjacent_of_edist far
    refine ⟨List.mem_flatMap.mpr ⟨before, (layered.shell before).mpr near,
      mem_neighbors.mpr ⟨adjacent.step, adjacent.second⟩⟩, ?_⟩
    rw [far]
    exact_mod_cast Nat.lt_succ_self steps

/-- Searching on from a level leads to the blocks one step farther away. -/
theorem next (layered : Layered grid seed steps level found) :
    let noted := (level.flatMap (neighbors grid)).foldl note (found, [])
    Layered grid seed (steps + 1) noted.2.reverse noted.1 := by
  intro noted
  have keys : noted.1.keys = found.keys ++ noted.2.reverse :=
    keys_foldl_note _ (List.append_nil _).symm
  have fresh : ∀ pos ∈ noted.2.reverse, ∃ before ∈ found.keys, Adjacent grid before pos := by
    intro pos member
    have next := ((foldl_note _ _ _).2.mp (List.mem_reverse.mp member)).resolve_left
      List.not_mem_nil
    obtain ⟨before, _, reached, adjacent⟩ := layered.adjacent_of_mem next.1
    exact ⟨before, reached, adjacent⟩
  constructor
  · exact fun pos => layered.mem_fresh
  · intro pos
    rw [keys, List.mem_append, layered.ball, layered.mem_fresh, ← ENat.lt_natCast_add_one_iff,
      Nat.cast_add, Nat.cast_one, le_iff_lt_or_eq]
  · intro pos listed
    rw [keys] at listed
    rcases List.mem_append.mp listed with old | new
    · exact layered.present pos old
    · obtain ⟨_, _, adjacent⟩ := fresh pos new
      exact adjacent.second
  · rw [keys, List.pairwise_append]
    refine ⟨layered.sorted, ?_, fun earlier old later new => ?_⟩
    · refine List.pairwise_of_forall_mem_list fun earlier first later second => ?_
      rw [layered.mem_fresh.mp first, layered.mem_fresh.mp second]
    · rw [layered.mem_fresh.mp new]
      exact ((layered.ball earlier).mp old).trans (by exact_mod_cast Nat.le_succ steps)
  · rw [keys]
    exact layered.grown.append fresh

private theorem spread (layered : Layered grid seed steps level found) (levels : Nat) :
    (Grid.spread grid levels level found).keys.Pairwise (fun earlier later =>
        (blockGraph grid).edist seed earlier ≤ (blockGraph grid).edist seed later) ∧
      Grown grid (Grid.spread grid levels level found).keys := by
  induction levels generalizing steps level found with
  | zero => exact ⟨layered.sorted, layered.grown⟩
  | succ levels ih =>
      cases level with
      | nil => exact ⟨layered.sorted, layered.grown⟩
      | cons first rest => exact ih layered.next

end Layered

/-- **Clusters are listed breadth-first.** Paths of blocks with a behavior, face to face, lead
from the first block of a cluster to each of its blocks; the number of steps on the shortest of
these never decreases along the cluster; and each block but the first lies next to one that is
listed before it. This holds of every grid, voxel grids among them. -/
theorem clusters_breadthFirst (grid : γ) : ∀ cluster ∈ clusters grid,
    ∃ first rest, cluster = first :: rest ∧
      (∀ pos ∈ cluster, (blockGraph grid).Reachable first pos) ∧
      (cluster.Pairwise fun earlier later =>
        (blockGraph grid).dist first earlier ≤ (blockGraph grid).dist first later) ∧
      ∀ before pos after, cluster = before ++ pos :: after → before ≠ [] →
        ∃ other ∈ before, Adjacent grid other pos := by
  intro cluster listed
  obtain ⟨seed, present, rfl⟩ := (groups_spec grid).2 cluster (List.mem_filter.mp listed).1
  obtain ⟨rest, starts⟩ := groupOf_eq_cons grid seed
  obtain ⟨sorted, grown⟩ := (Layered.start present).spread (support grid).cardinality
  have reachable : ∀ pos ∈ groupOf grid seed, (blockGraph grid).Reachable seed pos :=
    fun pos member => reachable_of_joined ((mem_groupOf present).mp member)
  refine ⟨seed, rest, starts, reachable, sorted.imp_of_mem ?_, grown⟩
  intro earlier later first second nearer
  rw [← (reachable _ first).coe_dist_eq_edist, ← (reachable _ second).coe_dist_eq_edist] at nearer
  exact_mod_cast nearer

/-- A pad with wire below it that forks, to an indicator and to more wire. -/
def forkedWire : VoxelGrid (World EndlessChip) :=
  ⟨⟨Layout.standardTypes⟩, .clamped 3 2 1, #[.air, ⟨⟨2⟩, .identity, 6⟩, .air, ⟨⟨1⟩, .identity, 0⟩,
    ⟨⟨1⟩, .identity, 0⟩, ⟨⟨3⟩, .identity, 0⟩], rfl⟩

/-- The fork is listed from the pad on: the wire below it, and then both branches. -/
theorem forkedWire_breadthFirst :
    clusters (World.voxel forkedWire) = [[⟨1, 0, 0⟩, ⟨1, 1, 0⟩, ⟨2, 1, 0⟩, ⟨0, 1, 0⟩]] ∧
      [(⟨1, 0, 0⟩ : Pos), ⟨1, 1, 0⟩, ⟨2, 1, 0⟩, ⟨0, 1, 0⟩].Pairwise (fun earlier later =>
        (blockGraph (World.voxel forkedWire)).dist ⟨1, 0, 0⟩ earlier ≤
          (blockGraph (World.voxel forkedWire)).dist ⟨1, 0, 0⟩ later) ∧
      ∃ other ∈ [(⟨1, 0, 0⟩ : Pos), ⟨1, 1, 0⟩, ⟨2, 1, 0⟩],
        Adjacent (World.voxel forkedWire) other ⟨0, 1, 0⟩ := by
  have found : clusters (World.voxel forkedWire) =
      [[⟨1, 0, 0⟩, ⟨1, 1, 0⟩, ⟨2, 1, 0⟩, ⟨0, 1, 0⟩]] := by decide +kernel
  obtain ⟨first, rest, starts, _, sorted, grown⟩ := clusters_breadthFirst (World.voxel forkedWire)
    [⟨1, 0, 0⟩, ⟨1, 1, 0⟩, ⟨2, 1, 0⟩, ⟨0, 1, 0⟩] (by rw [found]; exact List.mem_singleton_self _)
  cases starts
  exact ⟨found, sorted, grown [⟨1, 0, 0⟩, ⟨1, 1, 0⟩, ⟨2, 1, 0⟩] ⟨0, 1, 0⟩ [] rfl (by simp)⟩

end Grid

end VoxelCircuit

import VoxelCircuit.Grid.World
import VoxelCircuit.Proofs.Grid.Component
import VoxelCircuit.Proofs.Net.Corridor
import VoxelCircuit.Proofs.Space.ScanOrder

/-! # Clusters are the components with logic

The clusters of a grid are its components of blocks with a behavior, those of wire alone left
out. No block is listed twice, each cluster starts with its first block in scan order, and
the clusters follow the scan order of these
(`VoxelCircuit.Grid.voxelGrid_clusters`).

A scan takes up a component at its first block, so what is left of the scan and what was
grouped so far cover all blocks with a behavior (`VoxelCircuit.Grid.Grouping.Scanned`).
-/

namespace VoxelCircuit.Grid

open Relation

variable {γ : Type} [Grid γ] {grid : γ} {pos other seed : Pos}

section Prefix

private theorem prefix_note (found : OrderedSet Pos) (fresh : List Pos) (item : Pos) :
    found.keys <+: (note (found, fresh) item).1.keys := by
  unfold note
  by_cases old : found.contains item = true
  · simp only [old, if_true]
    exact List.prefix_rfl
  · simp only [old, Bool.false_eq_true, if_false, OrderedSet.keys_add]
    exact List.prefix_append _ _

/-- What was found keeps its place at the front. -/
theorem prefix_foldl_note (items : List Pos) (found : OrderedSet Pos) (fresh : List Pos) :
    found.keys <+: (items.foldl note (found, fresh)).1.keys := by
  induction items generalizing found fresh with
  | nil => exact List.prefix_rfl
  | cons item rest ih => exact (prefix_note found fresh item).trans (ih _ _)

private theorem prefix_spread (grid : γ) (levels : Nat) (level : List Pos)
    (found : OrderedSet Pos) :
    found.keys <+: (spread grid levels level found).keys := by
  induction levels generalizing level found with
  | zero => exact List.prefix_rfl
  | succ levels ih =>
      cases level with
      | nil => exact List.prefix_rfl
      | cons first rest =>
          exact (prefix_foldl_note ((first :: rest).flatMap (neighbors grid)) found []).trans
            (ih _ _)

/-- The group of a block begins with the block. -/
theorem groupOf_eq_cons (grid : γ) (seed : Pos) : ∃ rest, groupOf grid seed = seed :: rest := by
  have alone : (OrderedSet.add .empty seed).keys = [seed] := OrderedSet.keys_add .empty seed
  obtain ⟨rest, appended⟩ := prefix_spread grid (support grid).cardinality [seed]
    (OrderedSet.add .empty seed)
  rw [alone] at appended
  exact ⟨rest, appended.symm⟩

/-- No block is listed twice in a group. -/
theorem nodup_groupOf (grid : γ) (seed : Pos) : (groupOf grid seed).Nodup :=
  Table.nodup_keys _

end Prefix

/-- A group comes before another when its first block does, in scan order. -/
def HeadsPrecede (group later : List Pos) : Prop :=
  ∀ first ∈ group.head?, ∀ next ∈ later.head?, first.Precedes next

/-- A block is taken up unless it has no behavior or is in a group already. -/
theorem Grouping.extend_cases {grouping : Grouping} (enclosed : Enclosed grid)
    (sound : grouping.Sound grid) (seed : Pos) :
    (grouping.extend grid seed).groups = groupOf grid seed :: grouping.groups ∧
        active grid seed = true ∧ (∀ group ∈ grouping.groups, seed ∉ group) ∨
      (grouping.extend grid seed).groups = grouping.groups ∧
        (active grid seed = true → ∃ group ∈ grouping.groups, seed ∈ group) := by
  unfold Grouping.extend
  by_cases next : seed ∈ bounds grid ∧ active grid seed ∧ ¬grouping.grouped.contains seed
  · rw [if_pos next]
    refine Or.inl ⟨rfl, next.2.1, fun group listed member => next.2.2 ?_⟩
    exact Std.ExtTreeSet.contains_iff_mem.mpr ((sound.grouped seed).mpr ⟨group, listed, member⟩)
  · rw [if_neg next]
    refine Or.inr ⟨rfl, fun present => (sound.grouped seed).mp ?_⟩
    by_contra missed
    exact next ⟨enclosed.mem_bounds present, present,
      fun contained => missed (Std.ExtTreeSet.contains_iff_mem.mp contained)⟩

/-- A group starts with a block that comes before its others and before all that is left. -/
def Led (left group : List Pos) : Prop :=
  ∃ first rest, group = first :: rest ∧ (∀ other ∈ rest, first.Precedes other) ∧
    ∀ other ∈ left, first.Precedes other

private theorem Led.tail {left group : List Pos} (led : Led (seed :: left) group) :
    Led left group := by
  obtain ⟨first, rest, shape, leads, before⟩ := led
  refine ⟨first, rest, shape, leads, fun other member => ?_⟩
  exact before other (List.mem_cons_of_mem _ member)

/-- What holds of the groups found in a scan in which some cells are left: a block with a
behavior is left or in a group, and the groups and what is left follow in scan order. -/
structure Grouping.Scanned (grid : γ) (left : List Pos) (grouping : Grouping) : Prop
    extends grouping.Sound grid where
  covered : ∀ pos, active grid pos = true → pos ∈ left ∨ ∃ group ∈ grouping.groups, pos ∈ group
  led : ∀ group ∈ grouping.groups, Led left group
  ordered : grouping.groups.Pairwise fun later group => HeadsPrecede group later

namespace Grouping.Scanned

variable {left : List Pos} {grouping after : Grouping}

/-- A cell that starts no group is no longer left. -/
theorem pass (scanned : grouping.Scanned grid (seed :: left)) (sound : after.Sound grid)
    (kept : after.groups = grouping.groups)
    (old : active grid seed = true → ∃ group ∈ grouping.groups, seed ∈ group) :
    after.Scanned grid left := by
  refine { sound with covered := ?_, led := ?_, ordered := ?_ }
  · intro pos active
    rw [kept]
    rcases scanned.covered pos active with ahead | grouped
    · rcases List.mem_cons.mp ahead with rfl | behind
      · exact Or.inr (old active)
      · exact Or.inl behind
    · exact Or.inr grouped
  · exact fun group listed => (scanned.led group (kept ▸ listed)).tail
  · rw [kept]
    exact scanned.ordered

/-- A group has no block before the one that starts it, as these are all in groups already. -/
theorem led_groupOf (scanned : grouping.Scanned grid (seed :: left))
    (sorted : (seed :: left).Pairwise Pos.Precedes) (present : active grid seed = true)
    (apart : ∀ group ∈ grouping.groups, (groupOf grid seed).Disjoint group) :
    Led left (groupOf grid seed) := by
  have later := (List.pairwise_cons.mp sorted).1
  obtain ⟨rest, cons⟩ := groupOf_eq_cons grid seed
  refine ⟨seed, rest, cons, fun pos member => ?_, later⟩
  have inGroup : pos ∈ groupOf grid seed := cons ▸ List.mem_cons_of_mem _ member
  rcases scanned.covered pos ((groupOf_spec present).2.2 pos inGroup).1 with ahead | grouped
  · rcases List.mem_cons.mp ahead with rfl | behind
    · have distinct := nodup_groupOf grid pos
      rw [cons] at distinct
      exact absurd member (List.nodup_cons.mp distinct).1
    · exact later pos behind
  · obtain ⟨group, listed, alsoIn⟩ := grouped
    exact absurd alsoIn (apart group listed inGroup)

/-- A cell that starts a group is no longer left. -/
theorem take (scanned : grouping.Scanned grid (seed :: left)) (sound : after.Sound grid)
    (sorted : (seed :: left).Pairwise Pos.Precedes) (present : active grid seed = true)
    (taken : after.groups = groupOf grid seed :: grouping.groups) : after.Scanned grid left := by
  obtain ⟨rest, cons⟩ := groupOf_eq_cons grid seed
  have apart := sound.apart
  rw [taken, List.pairwise_cons] at apart
  refine { sound with covered := ?_, led := ?_, ordered := ?_ }
  · intro pos active
    simp only [taken, List.mem_cons, exists_eq_or_imp, cons]
    rcases scanned.covered pos active with ahead | grouped
    · rcases List.mem_cons.mp ahead with rfl | behind
      · exact Or.inr (Or.inl (Or.inl rfl))
      · exact Or.inl behind
    · exact Or.inr (Or.inr grouped)
  · intro group listed
    rcases List.mem_cons.mp (taken ▸ listed) with rfl | old
    · exact scanned.led_groupOf sorted present apart.1
    · exact (scanned.led group old).tail
  · rw [taken]
    refine List.pairwise_cons.mpr ⟨fun group old first head next newHead => ?_, scanned.ordered⟩
    obtain ⟨_, _, rfl, _, before⟩ := scanned.led group old
    rw [cons] at newHead
    cases head
    cases newHead
    exact before seed List.mem_cons_self

private theorem extend (enclosed : Enclosed grid) (scanned : grouping.Scanned grid (seed :: left))
    (sorted : (seed :: left).Pairwise Pos.Precedes) :
    (grouping.extend grid seed).Scanned grid left := by
  have sound := scanned.toSound.extend seed
  rcases Grouping.extend_cases enclosed scanned.toSound seed with
    ⟨taken, present, _⟩ | ⟨kept, old⟩
  · exact scanned.take sound sorted present taken
  · exact scanned.pass sound kept old

private theorem scan {cells : List Pos} (enclosed : Enclosed grid)
    (scanned : grouping.Scanned grid cells) (sorted : cells.Pairwise Pos.Precedes) :
    (cells.foldl (Grouping.extend grid) grouping).Scanned grid [] := by
  induction cells generalizing grouping with
  | nil => exact scanned
  | cons seed rest ih =>
      exact ih (scanned.extend enclosed sorted) (List.pairwise_cons.mp sorted).2

end Grouping.Scanned

private theorem groups_scanned (enclosed : Enclosed grid) :
    ∃ grouping : Grouping, groups grid = grouping.groups.reverse ∧ grouping.Scanned grid [] := by
  refine ⟨_, rfl, ?_⟩
  rw [Box.scan_eq_foldl]
  refine Grouping.Scanned.scan enclosed ?_ (Box.positions_pairwise _)
  exact { seeded := by simp, grouped := by simp, apart := .nil, led := by simp, ordered := .nil
          covered := fun pos present =>
            Or.inl (Box.mem_positions.mpr (mem_support_of_active present)) }

private theorem active_of_joined (path : ReflTransGen (Adjacent grid) pos other)
    (present : active grid other = true) : active grid pos = true := by
  rcases path.cases_head with rfl | ⟨_, adjacent, _⟩
  · exact present
  · exact adjacent.first

/-- Two blocks are in one cluster when they are joined, and joined to more than wire. -/
theorem mem_same_cluster_iff (enclosed : Enclosed grid) :
    (∃ cluster ∈ clusters grid, pos ∈ cluster ∧ other ∈ cluster) ↔
      ReflTransGen (Adjacent grid) pos other ∧
        ∃ logic, ReflTransGen (Adjacent grid) pos logic ∧ activeBeyondWire grid logic = true := by
  constructor
  · rintro ⟨cluster, listed, first, second⟩
    obtain ⟨grouped, holds⟩ := List.mem_filter.mp listed
    obtain ⟨logic, member, beyond⟩ := List.any_eq_true.mp holds
    obtain ⟨seed, present, rfl⟩ := (groups_spec grid).2 cluster grouped
    have back := joined_symm ((mem_groupOf present).mp first)
    exact ⟨back.trans ((mem_groupOf present).mp second), logic,
      back.trans ((mem_groupOf present).mp member), beyond⟩
  · rintro ⟨path, logic, toLogic, beyond⟩
    obtain ⟨grouping, same, scanned⟩ := groups_scanned enclosed
    have present := active_of_joined toLogic (active_of_activeBeyondWire beyond)
    obtain ⟨group, listed, member⟩ := (scanned.covered pos present).resolve_left List.not_mem_nil
    obtain ⟨seed, seeded, rfl⟩ := scanned.seeded group listed
    have within : ∀ {block}, ReflTransGen (Adjacent grid) pos block → block ∈ groupOf grid seed :=
      fun onward => (mem_groupOf seeded).mpr (((mem_groupOf seeded).mp member).trans onward)
    refine ⟨_, List.mem_filter.mpr ⟨?_, ?_⟩, member, within path⟩
    · rw [same]
      exact List.mem_reverse.mpr listed
    · exact List.any_eq_true.mpr ⟨logic, within toLogic, beyond⟩

/-- No block is listed twice in all clusters. -/
theorem nodup_flatten_clusters (grid : γ) : (clusters grid).flatten.Nodup := by
  refine List.nodup_flatten.mpr ⟨fun cluster listed => ?_, clusters_apart grid⟩
  obtain ⟨seed, _, rfl⟩ := (groups_spec grid).2 cluster (List.mem_filter.mp listed).1
  exact nodup_groupOf grid seed

/-- Clusters start with their first blocks and follow the scan order of these. -/
theorem clusters_ordered (enclosed : Enclosed grid) :
    (∀ cluster ∈ clusters grid, ∃ first rest, cluster = first :: rest ∧
        ∀ other ∈ rest, first.Precedes other) ∧
      (clusters grid).Pairwise HeadsPrecede := by
  obtain ⟨grouping, same, scanned⟩ := groups_scanned enclosed
  constructor
  · intro cluster listed
    have grouped := (List.mem_filter.mp listed).1
    rw [same] at grouped
    obtain ⟨first, rest, shape, leads, _⟩ := scanned.led cluster (List.mem_reverse.mp grouped)
    exact ⟨first, rest, shape, leads⟩
  · rw [clusters, same]
    exact (List.pairwise_reverse.mpr scanned.ordered).filter _

/-- **Clusters are components.** Two blocks of a voxel grid are in one cluster exactly when a
path of blocks with a behavior, face to face, leads from one to the other, and such a path
leads to a block that is no wire. Each block is listed once. A cluster starts with its first
block in scan order, and clusters follow the scan order of their first blocks. -/
theorem voxelGrid_clusters {ω : Type} [Grid ω] (grid : VoxelGrid (World ω)) :
    (∀ pos other, (∃ cluster ∈ clusters (World.voxel grid), pos ∈ cluster ∧ other ∈ cluster) ↔
      ReflTransGen (Adjacent (World.voxel grid)) pos other ∧
        ∃ logic, ReflTransGen (Adjacent (World.voxel grid)) pos logic ∧
          activeBeyondWire (World.voxel grid) logic = true) ∧
    (clusters (World.voxel grid)).flatten.Nodup ∧
    (∀ cluster ∈ clusters (World.voxel grid), ∃ first rest, cluster = first :: rest ∧
      ∀ other ∈ rest, first.Precedes other) ∧
    (clusters (World.voxel grid)).Pairwise HeadsPrecede := by
  have enclosed := enclosed_voxel grid
  obtain ⟨led, ordered⟩ := clusters_ordered enclosed
  exact ⟨fun _ _ => mem_same_cluster_iff enclosed, nodup_flatten_clusters _, led, ordered⟩

end VoxelCircuit.Grid

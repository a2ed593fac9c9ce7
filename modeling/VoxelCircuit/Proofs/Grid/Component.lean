import Mathlib.Data.Finset.Card
import Mathlib.Data.List.Basic
import Mathlib.Logic.Relation
import VoxelCircuit.Grid.Cluster

/-! # Groups are components

The group of a block holds the blocks with a behavior that a path of such blocks, face to
face, leads to (`VoxelCircuit.Grid.mem_groupOf`). The search runs out of levels only when
it has found all blocks there are. So clusters do not meet, and a block with a behavior
that lies next to a cluster belongs to it (`VoxelCircuit.Grid.clusters_closed`).
-/

namespace VoxelCircuit.Grid

open Relation

variable {γ : Type} [Grid γ] {grid : γ} {pos other seed : Pos}

/-- Two blocks with a behavior lie face to face. -/
structure Adjacent (grid : γ) (pos other : Pos) : Prop where
  first : active grid pos = true
  second : active grid other = true
  step : ∃ direction, pos.step direction = other

/-- Being adjacent is symmetric. -/
theorem Adjacent.symm (adjacent : Adjacent grid pos other) : Adjacent grid other pos := by
  obtain ⟨direction, rfl⟩ := adjacent.step
  exact ⟨adjacent.second, adjacent.first, direction.opposite, Pos.step_opposite pos direction⟩

/-- The neighbors of a block are the blocks one step away that have a behavior. -/
theorem mem_neighbors : other ∈ neighbors grid pos ↔
    (∃ direction, pos.step direction = other) ∧ active grid other = true := by
  simp [neighbors, List.mem_filter]

/-- A block that has a behavior is in the support of the grid. -/
theorem mem_support_of_active (present : active grid pos = true) : pos ∈ support grid := by
  by_contra outside
  rw [active, behavior_eq_none grid pos outside] at present
  cases present

/-- Some blocks are all that a path of blocks with a behavior leads to from one of them. -/
def Closed (grid : γ) (blocks : List Pos) : Prop :=
  ∀ pos ∈ blocks, ∀ other ∈ neighbors grid pos, other ∈ blocks

/-- Lists of the same blocks are closed alike. -/
theorem Closed.congr {blocks others : List Pos} (closed : Closed grid blocks)
    (same : ∀ pos, pos ∈ others ↔ pos ∈ blocks) : Closed grid others :=
  fun pos member other next => (same other).mpr (closed pos ((same pos).mp member) other next)

/-- A path of adjacent blocks does not lead out of closed blocks. -/
theorem Closed.joined {blocks : List Pos} (closed : Closed grid blocks)
    (path : ReflTransGen (Adjacent grid) pos other) (member : pos ∈ blocks) : other ∈ blocks := by
  induction path with
  | refl => exact member
  | tail _ adjacent ih => exact closed _ ih _ (mem_neighbors.mpr ⟨adjacent.step, adjacent.second⟩)

/-- Being joined by adjacent blocks is symmetric. -/
theorem joined_symm (path : ReflTransGen (Adjacent grid) pos other) :
    ReflTransGen (Adjacent grid) other pos := by
  induction path with
  | refl => exact .refl
  | tail _ adjacent ih => exact .head adjacent.symm ih

/-- Taking note of blocks finds them, and those not found before are fresh. -/
theorem foldl_note (items : List Pos) (found : OrderedSet Pos) (fresh : List Pos) :
    (pos ∈ (items.foldl note (found, fresh)).1.keys ↔ pos ∈ found.keys ∨ pos ∈ items) ∧
      (pos ∈ (items.foldl note (found, fresh)).2 ↔
        pos ∈ fresh ∨ pos ∈ items ∧ pos ∉ found.keys) := by
  induction items generalizing found fresh with
  | nil => simp
  | cons item rest ih =>
      rw [List.foldl_cons, note]
      by_cases old : found.contains item = true
      · have listed := Table.contains_iff.mp old
        simp only [old, if_true]
        rw [(ih found fresh).1, (ih found fresh).2]
        by_cases same : pos = item
        · simp [same, listed]
        · simp [same]
      · have absent : item ∉ found.keys := fun listed => old (Table.contains_iff.mpr listed)
        have keys := OrderedSet.keys_add found item
        rw [if_neg old] at keys
        simp only [old, Bool.false_eq_true, if_false]
        rw [(ih _ _).1, (ih _ _).2, keys]
        by_cases same : pos = item
        · simp [same, absent]
        · simp [same]

/-- The blocks with a behavior that were not found yet. -/
def unfound (grid : γ) (found : OrderedSet Pos) : Finset Pos :=
  (support grid).positions.toFinset.filter fun pos => active grid pos = true ∧ pos ∉ found.keys

private theorem mem_unfound {found : OrderedSet Pos} :
    pos ∈ unfound grid found ↔ active grid pos = true ∧ pos ∉ found.keys := by
  rw [unfound, Finset.mem_filter, List.mem_toFinset, Box.mem_positions]
  exact ⟨And.right, fun both => ⟨mem_support_of_active both.1, both⟩⟩

/-- A further level leaves fewer blocks to be found, if it found any. -/
theorem card_unfound_lt {level : List Pos} {found : OrderedSet Pos}
    (some : ((level.flatMap (neighbors grid)).foldl note (found, [])).2.reverse ≠ []) :
    (unfound grid ((level.flatMap (neighbors grid)).foldl note (found, [])).1).card <
      (unfound grid found).card := by
  obtain ⟨newest, member⟩ := List.exists_mem_of_ne_nil _ some
  obtain ⟨next, missed⟩ : newest ∈ level.flatMap (neighbors grid) ∧ newest ∉ found.keys := by
    simpa [(foldl_note _ _ _).2] using List.mem_reverse.mp member
  obtain ⟨_, _, beside⟩ := List.mem_flatMap.mp next
  apply Finset.card_lt_card
  refine Finset.ssubset_iff_subset_ne.mpr ⟨fun pos among => ?_, fun same => ?_⟩
  · obtain ⟨present, missed⟩ := mem_unfound.mp among
    exact mem_unfound.mpr ⟨present, fun old => missed ((foldl_note _ _ _).1.mpr (Or.inl old))⟩
  · have among := mem_unfound.mpr ⟨(mem_neighbors.mp beside).2, missed⟩
    rw [← same] at among
    exact (mem_unfound.mp among).2 ((foldl_note _ _ _).1.mpr (Or.inr next))

/-- There are no more blocks to find than cells in the support. -/
theorem card_unfound_le (grid : γ) (found : OrderedSet Pos) :
    (unfound grid found).card ≤ (support grid).cardinality := by
  apply (Finset.card_filter_le _ _).trans
  exact (List.toFinset_card_le _).trans_eq (Box.length_positions _)

private theorem foldl_note_of_found {items : List Pos} {found : OrderedSet Pos}
    (old : ∀ item ∈ items, item ∈ found.keys) (fresh : List Pos) :
    items.foldl note (found, fresh) = (found, fresh) := by
  induction items with
  | nil => rfl
  | cons item rest ih =>
      have listed : found.contains item = true :=
        Table.contains_iff.mpr (old item List.mem_cons_self)
      have noted : note (found, fresh) item = (found, fresh) := by
        simp only [note, listed, if_true]
      rw [List.foldl_cons, noted]
      exact ih fun other member => old other (List.mem_cons_of_mem _ member)

/-- From no blocks the search finds nothing more. -/
theorem spread_nil (grid : γ) (levels : Nat) (found : OrderedSet Pos) :
    spread grid levels [] found = found := by
  cases levels <;> rfl

/-- A search that may go as many levels further as there are blocks to be found has no use
for more. -/
theorem spread_of_enough {levels steps : Nat} {level : List Pos} {found : OrderedSet Pos}
    (enough : level ≠ [] → (unfound grid found).card ≤ levels) (more : levels ≤ steps) :
    spread grid steps level found = spread grid levels level found := by
  induction steps generalizing levels level found with
  | zero => rw [Nat.le_zero.mp more]
  | succ steps ih =>
      cases level with
      | nil => rw [spread_nil, spread_nil]
      | cons first rest =>
          cases levels with
          | zero =>
              have none := Nat.le_zero.mp (enough (List.cons_ne_nil _ _))
              have old : ∀ pos ∈ (first :: rest).flatMap (neighbors grid), pos ∈ found.keys := by
                intro pos member
                obtain ⟨_, _, next⟩ := List.mem_flatMap.mp member
                by_contra missed
                have among := mem_unfound.mpr ⟨(mem_neighbors.mp next).2, missed⟩
                rw [Finset.card_eq_zero.mp none] at among
                cases among
              simp only [spread, foldl_note_of_found old, List.reverse_nil, spread_nil]
          | succ levels =>
              refine ih (fun some => ?_) (Nat.le_of_succ_le_succ more)
              have less := card_unfound_lt some
              have before := enough (List.cons_ne_nil _ _)
              omega

/-- A search that may go as many levels further as there are blocks to be found finds the
neighbors of all that it finds, and finds nothing but what paths lead to. -/
theorem spread_spec {levels : Nat} {level : List Pos} {found : OrderedSet Pos}
    (enough : level ≠ [] → (unfound grid found).card ≤ levels)
    (frontier : ∀ pos ∈ found.keys, pos ∈ level ∨ ∀ other ∈ neighbors grid pos,
      other ∈ found.keys)
    (listed : ∀ pos ∈ level, pos ∈ found.keys)
    (joined : ∀ pos ∈ found.keys, active grid pos = true ∧
      ReflTransGen (Adjacent grid) seed pos) :
    (∀ pos ∈ found.keys, pos ∈ (spread grid levels level found).keys) ∧
      Closed grid (spread grid levels level found).keys ∧
        ∀ pos ∈ (spread grid levels level found).keys,
          active grid pos = true ∧ ReflTransGen (Adjacent grid) seed pos := by
  induction levels generalizing level found with
  | zero =>
      refine ⟨fun _ member => member, fun pos member other next => ?_, joined⟩
      rcases frontier pos member with last | inner
      · by_contra missed
        have among : other ∈ unfound grid found :=
          mem_unfound.mpr ⟨(mem_neighbors.mp next).2, missed⟩
        have none := Nat.le_zero.mp (enough (List.ne_nil_of_mem last))
        rw [Finset.card_eq_zero.mp none] at among
        cases among
      · exact inner other next
  | succ levels ih =>
      cases level with
      | nil =>
          refine ⟨fun _ member => member, fun pos member => ?_, joined⟩
          exact (frontier pos member).resolve_left List.not_mem_nil
      | cons first rest =>
          rw [spread]
          set noted := ((first :: rest).flatMap (neighbors grid)).foldl note (found, [])
          have finds : ∀ {pos}, pos ∈ noted.1.keys ↔ pos ∈ found.keys ∨
              pos ∈ (first :: rest).flatMap (neighbors grid) := (foldl_note _ _ _).1
          have fresh : ∀ {pos}, pos ∈ noted.2 ↔
              pos ∈ (first :: rest).flatMap (neighbors grid) ∧ pos ∉ found.keys := by
            intro pos
            rw [(foldl_note _ _ _).2]
            simp
          have fewer : noted.2.reverse ≠ [] → (unfound grid noted.1).card ≤ levels := by
            intro some
            have less : (unfound grid noted.1).card < (unfound grid found).card :=
              card_unfound_lt some
            have before := enough (List.cons_ne_nil _ _)
            omega
          have onward : ∀ pos ∈ noted.1.keys, pos ∈ noted.2.reverse ∨
              ∀ other ∈ neighbors grid pos, other ∈ noted.1.keys := by
            intro pos member
            by_cases old : pos ∈ found.keys
            · refine Or.inr fun other next => finds.mpr ?_
              rcases frontier pos old with last | inner
              · exact Or.inr (List.mem_flatMap.mpr ⟨pos, last, next⟩)
              · exact Or.inl (inner other next)
            · exact Or.inl (List.mem_reverse.mpr
                (fresh.mpr ⟨(finds.mp member).resolve_left old, old⟩))
          have paths : ∀ pos ∈ noted.1.keys, active grid pos = true ∧
              ReflTransGen (Adjacent grid) seed pos := by
            intro pos member
            rcases finds.mp member with old | next
            · exact joined pos old
            · obtain ⟨before, last, next⟩ := List.mem_flatMap.mp next
              obtain ⟨step, present⟩ := mem_neighbors.mp next
              obtain ⟨earlier, path⟩ := joined before (listed before last)
              exact ⟨present, path.tail ⟨earlier, present, step⟩⟩
          have noticed : ∀ pos ∈ noted.2.reverse, pos ∈ noted.1.keys := fun pos member =>
            finds.mpr (Or.inr (fresh.mp (List.mem_reverse.mp member)).1)
          obtain ⟨kept, closed, within⟩ := ih fewer onward noticed paths
          exact ⟨fun pos member => kept pos (finds.mpr (Or.inl member)), closed, within⟩

/-- The group of a block with a behavior is closed, and joined to the block. -/
theorem groupOf_spec (present : active grid seed = true) :
    seed ∈ groupOf grid seed ∧ Closed grid (groupOf grid seed) ∧
      ∀ pos ∈ groupOf grid seed, active grid pos = true ∧
        ReflTransGen (Adjacent grid) seed pos := by
  have alone : (OrderedSet.add .empty seed).keys = [seed] := OrderedSet.keys_add .empty seed
  have listed : ∀ pos ∈ [seed], pos ∈ (OrderedSet.add .empty seed).keys := by simp [alone]
  have paths : ∀ pos ∈ (OrderedSet.add .empty seed).keys, active grid pos = true ∧
      ReflTransGen (Adjacent grid) seed pos := by
    rw [alone]
    intro pos member
    rw [List.mem_singleton.mp member]
    exact ⟨present, .refl⟩
  obtain ⟨kept, closed, within⟩ :=
    spread_spec (fun _ => card_unfound_le grid _) (by simp [alone]) listed paths
  exact ⟨kept seed (listed seed List.mem_cons_self), closed, within⟩

/-- **Groups are components.** The group of a block with a behavior holds the blocks that a
path of blocks with a behavior leads to. -/
theorem mem_groupOf (present : active grid seed = true) :
    pos ∈ groupOf grid seed ↔ ReflTransGen (Adjacent grid) seed pos := by
  obtain ⟨first, closed, within⟩ := groupOf_spec present
  exact ⟨fun member => (within pos member).2, fun path => closed.joined path first⟩

/-- What holds of groups found in a scan. -/
structure Grouping.Sound (grid : γ) (grouping : Grouping) : Prop where
  seeded : ∀ group ∈ grouping.groups, ∃ seed, active grid seed = true ∧ group = groupOf grid seed
  grouped : ∀ pos, pos ∈ grouping.grouped ↔ ∃ group ∈ grouping.groups, pos ∈ group
  apart : grouping.groups.Pairwise List.Disjoint

/-- Taking up a block keeps a grouping sound. -/
theorem Grouping.Sound.extend {grouping : Grouping} (sound : grouping.Sound grid) (seed : Pos) :
    (grouping.extend grid seed).Sound grid := by
  unfold Grouping.extend
  by_cases next : seed ∈ bounds grid ∧ active grid seed ∧ ¬grouping.grouped.contains seed
  · rw [if_pos next]
    obtain ⟨_, present, missed⟩ := next
    refine ⟨fun group member => ?_, fun pos => ?_, List.pairwise_cons.mpr ⟨?_, sound.apart⟩⟩
    · rcases List.mem_cons.mp member with rfl | old
      · exact ⟨seed, present, rfl⟩
      · exact sound.seeded group old
    · rw [Std.ExtTreeSet.mem_insertMany_list, sound.grouped, or_comm]
      simp only [List.contains_iff_mem, List.mem_cons, or_and_right, exists_or, exists_eq_left]
    · -- A block in both groups would join the seed to the old one.
      intro group old pos fresh both
      obtain ⟨first, before, rfl⟩ := sound.seeded group old
      have path := ((mem_groupOf before).mp both).trans
        (joined_symm ((mem_groupOf present).mp fresh))
      exact missed (Std.ExtTreeSet.contains_iff_mem.mpr
        ((sound.grouped seed).mpr ⟨_, old, (mem_groupOf before).mpr path⟩))
  · rwa [if_neg next]

/-- The groups of a grid are disjoint, and each is the group of a block with a behavior. -/
theorem groups_spec (grid : γ) : (groups grid).Pairwise List.Disjoint ∧
    ∀ group ∈ groups grid, ∃ seed, active grid seed = true ∧ group = groupOf grid seed := by
  have sound : ((support grid).scan (Grouping.extend grid) ⟨[], ∅⟩).Sound grid := by
    rw [Box.scan_eq_foldl]
    have start : (⟨[], ∅⟩ : Grouping).Sound grid := ⟨by simp, by simp, .nil⟩
    generalize (⟨[], ∅⟩ : Grouping) = grouping at start
    induction (support grid).positions generalizing grouping with
    | nil => exact start
    | cons seed rest ih => exact ih _ (start.extend seed)
  rw [groups, List.pairwise_reverse]
  refine ⟨sound.apart.imp List.Disjoint.symm, fun group member => ?_⟩
  exact sound.seeded group (List.mem_reverse.mp member)

/-- Clusters do not meet. -/
theorem clusters_apart (grid : γ) : (clusters grid).Pairwise List.Disjoint :=
  (groups_spec grid).1.filter _

/-- A cluster holds blocks with a behavior, and all of these that lie next to them. -/
theorem clusters_closed {cluster : List Pos} (listed : cluster ∈ clusters grid) :
    Closed grid cluster ∧ ∀ pos ∈ cluster, active grid pos = true := by
  obtain ⟨seed, present, rfl⟩ := (groups_spec grid).2 cluster (List.mem_filter.mp listed).1
  obtain ⟨_, closed, within⟩ := groupOf_spec present
  exact ⟨closed, fun pos member => (within pos member).1⟩

end VoxelCircuit.Grid

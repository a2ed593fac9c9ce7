import Mathlib.Data.Set.Card
import VoxelCircuit.Space.Box

/-! # Scan order

A scan goes through a box with z outermost and x innermost, and so meets its cells in the
order of their z, then of their y, then of their x
(`VoxelCircuit.Box.positions_pairwise`). Two lists in this order with the same cells are
equal (`VoxelCircuit.Pos.eq_of_pairwise_precedes`), so that counting through the numbers of the
cells comes to them as ranges one in another do (`VoxelCircuit.Box.positions_eq_ranges`).
-/

namespace VoxelCircuit

namespace Pos

/-- A cell comes before another in scan order: with a lower z, or at one z with a lower y, or
in one row with a lower x. -/
def Precedes (first second : Pos) : Prop :=
  first.z < second.z ∨ first.z = second.z ∧
    (first.y < second.y ∨ first.y = second.y ∧ first.x < second.x)

private theorem Precedes.irrefl {pos : Pos} : ¬pos.Precedes pos := by
  unfold Precedes
  omega

private theorem Precedes.asymm {first second : Pos} (before : first.Precedes second) :
    ¬second.Precedes first := by
  unfold Precedes at *
  omega

/-- A list in scan order has no position twice. -/
theorem nodup_of_pairwise_precedes {cells : List Pos} (sorted : cells.Pairwise Precedes) :
    cells.Nodup := by
  unfold List.Nodup
  refine sorted.imp fun before same => ?_
  subst same
  exact Precedes.irrefl before

/-- A list in scan order is as long as it has cells. -/
theorem encard_of_pairwise_precedes {cells : List Pos} (sorted : cells.Pairwise Precedes) :
    {pos | pos ∈ cells}.encard = cells.length := by
  rw [← List.coe_toFinset, Set.encard_coe_eq_coe_finsetCard,
    List.toFinset_card_of_nodup (nodup_of_pairwise_precedes sorted)]

/-- A list in scan order is given by its cells. -/
theorem eq_of_pairwise_precedes {cells others : List Pos} (sorted : cells.Pairwise Precedes)
    (otherSorted : others.Pairwise Precedes) (same : ∀ pos, pos ∈ cells ↔ pos ∈ others) :
    cells = others := by
  have permuted := (List.perm_ext_iff_of_nodup (nodup_of_pairwise_precedes sorted)
    (nodup_of_pairwise_precedes otherSorted)).mpr same
  exact permuted.eq_of_pairwise (fun _ _ _ _ before after => (before.asymm after).elim)
    sorted otherSorted

end Pos

namespace Box

/-- Of two numbers the greater has the greater quotient, or the same quotient and the greater
remainder. -/
theorem div_lt_or_mod_lt {first second : Nat} (divisor : Nat) (before : first < second) :
    first / divisor < second / divisor ∨
      first / divisor = second / divisor ∧ first % divisor < second % divisor := by
  rcases Nat.lt_or_eq_of_le (Nat.div_le_div_right (c := divisor) (Nat.le_of_lt before)) with
    below | same
  · exact Or.inl below
  · have firstParts := Nat.div_add_mod first divisor
    have secondParts := Nat.div_add_mod second divisor
    rw [same] at firstParts
    exact Or.inr ⟨same, by omega⟩

private theorem positionAt_precedes (box : Box) {first second : Nat} (before : first < second) :
    (box.positionAt first).Precedes (box.positionAt second) := by
  have ordered : ∀ (low : Int) {one other : Nat}, one < other → low + one < low + other := by
    omega
  rcases div_lt_or_mod_lt box.width before with rows | ⟨row, columns⟩
  · rcases div_lt_or_mod_lt box.height rows with layers | ⟨layer, rows⟩
    · exact Or.inl (ordered _ layers)
    · exact Or.inr ⟨by simp only [positionAt, layer], Or.inl (ordered _ rows)⟩
  · exact Or.inr ⟨by simp only [positionAt, row],
      Or.inr ⟨by simp only [positionAt, row], ordered _ columns⟩⟩

/-- A scan of a box meets its cells in scan order. -/
theorem positions_pairwise (box : Box) : box.positions.Pairwise Pos.Precedes := by
  rw [positions, List.pairwise_map]
  exact List.pairwise_lt_range.imp box.positionAt_precedes

/-- The cells of a box by ranges one in another: along z, then along y, then along x. -/
def ranges (box : Box) : List Pos :=
  (box.low.z...box.high.z).toList.flatMap fun z =>
    (box.low.y...box.high.y).toList.flatMap fun y =>
      (box.low.x...box.high.x).toList.map fun x => ⟨x, y, z⟩

private theorem mem_ranges {box : Box} {pos : Pos} : pos ∈ box.ranges ↔ pos ∈ box := by
  obtain ⟨x, y, z⟩ := pos
  simp only [ranges, List.mem_flatMap, List.mem_map, Std.Rco.mem_toList_iff_mem,
    Std.Rco.mem_iff, Pos.mk.injEq, mem_def]
  constructor
  · intro listed
    obtain ⟨_, layer, _, row, _, column, rfl, rfl, rfl⟩ := listed
    exact ⟨column, row, layer⟩
  · intro inside
    obtain ⟨column, row, layer⟩ := inside
    exact ⟨z, layer, y, row, x, column, rfl, rfl, rfl⟩

/-- The ranges come to the cells in scan order. -/
theorem ranges_pairwise (box : Box) : box.ranges.Pairwise Pos.Precedes := by
  have ascends : ∀ low high : Int, (low...high).toList.Pairwise (· < ·) := fun _ _ =>
    Std.Rco.pairwise_toList_lt
  simp only [ranges, List.pairwise_flatMap, List.pairwise_map]
  refine ⟨fun z _ => ⟨fun y _ => ?_, ?_⟩, ?_⟩
  · exact (ascends _ _).imp fun before => Or.inr ⟨rfl, Or.inr ⟨rfl, before⟩⟩
  · refine (ascends _ _).imp fun before first there second later => ?_
    obtain ⟨_, _, rfl⟩ := List.mem_map.mp there
    obtain ⟨_, _, rfl⟩ := List.mem_map.mp later
    exact Or.inr ⟨rfl, Or.inl before⟩
  · refine (ascends _ _).imp fun before first there second later => ?_
    obtain ⟨_, _, inRow⟩ := List.mem_flatMap.mp there
    obtain ⟨_, _, inOther⟩ := List.mem_flatMap.mp later
    obtain ⟨_, _, rfl⟩ := List.mem_map.mp inRow
    obtain ⟨_, _, rfl⟩ := List.mem_map.mp inOther
    exact Or.inl before

/-- Counting through the numbers of the cells comes to them as the ranges do. -/
theorem positions_eq_ranges (box : Box) : box.positions = box.ranges :=
  Pos.eq_of_pairwise_precedes box.positions_pairwise box.ranges_pairwise fun _ =>
    mem_positions.trans mem_ranges.symm

end Box

end VoxelCircuit

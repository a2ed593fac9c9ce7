import VoxelCircuit.Proofs.Space.ScanOrder

/-! # Volumes in words

The volume of a box is a product of three extents in words of sixty-four bits. Each extent of a
box between corners that fit in words of thirty-two bits is less than two to the thirty-two, so
the product of two of them fits; but the product of all three need not. So a volume is the
number of cells, except for boxes of which the cells are too many to be counted in a word, and
those have none (`VoxelCircuit.Box.volume_counts_iff`).
-/

namespace VoxelCircuit

/-- The coordinates of a position are signed words of thirty-two bits. -/
structure Pos.Fits (pos : Pos) : Prop where
  x : -2 ^ 31 ≤ pos.x ∧ pos.x < 2 ^ 31
  y : -2 ^ 31 ≤ pos.y ∧ pos.y < 2 ^ 31
  z : -2 ^ 31 ≤ pos.z ∧ pos.z < 2 ^ 31

private theorem Pos.fits_iff {pos : Pos} : pos.Fits ↔ (-2 ^ 31 ≤ pos.x ∧ pos.x < 2 ^ 31) ∧
    (-2 ^ 31 ≤ pos.y ∧ pos.y < 2 ^ 31) ∧ (-2 ^ 31 ≤ pos.z ∧ pos.z < 2 ^ 31) :=
  ⟨fun fits => ⟨fits.x, fits.y, fits.z⟩, fun ⟨x, y, z⟩ => ⟨x, y, z⟩⟩

namespace Box

/-- The boxes that are made of positions with coordinates that fit: between two corners, around
one cell, and around a box and one more cell. -/
inductive Made : Box → Prop
  | ofCorners {low high : Pos} {box : Box} (lowFits : low.Fits) (highFits : high.Fits)
      (made : ofCorners? low high = some box) : Made box
  | single {pos : Pos} (fits : pos.Fits) (highFits : (Box.single pos).high.Fits) :
      Made (Box.single pos)
  | extend {box : Box} {pos : Pos} (made : Made box) (fits : pos.Fits)
      (highFits : (Box.single pos).high.Fits) : Made (box.extend pos)

/-- The corners of a box that is made of positions that fit do so too. -/
theorem Made.fits {box : Box} (made : box.Made) : box.low.Fits ∧ box.high.Fits := by
  induction made with
  | @ofCorners low high box lowFits highFits made =>
      unfold ofCorners? at made
      split at made
      · cases made
        exact ⟨lowFits, highFits⟩
      · cases made
  | single fits highFits => exact ⟨fits, highFits⟩
  | @extend box pos made fits highFits ih =>
      rw [Pos.fits_iff, Pos.fits_iff] at ih
      rw [Pos.fits_iff] at fits highFits
      simp only [Box.single] at highFits
      rw [Pos.fits_iff, Pos.fits_iff]
      simp only [Box.extend]
      omega

/-- A box has as many cells as the product of its sides says. -/
theorem encard_cells (box : Box) : {pos | pos ∈ box}.encard = box.cardinality := by
  have counted := Pos.encard_of_pairwise_precedes box.positions_pairwise
  simp only [mem_positions] at counted
  rw [counted, length_positions]

/-- A product in words is the product of the numbers, when there is one. -/
private theorem times?_eq_some_iff {product result : UInt64} {extent : Nat} :
    times? product extent = some result ↔
      product.toNat * extent < UInt64.size ∧ result.toNat = product.toNat * extent := by
  unfold times?
  have exact : product.toNat * extent < UInt64.size →
      (product * extent.toUInt64).toNat = product.toNat * extent := by
    intro below
    rw [UInt64.toNat_mul, UInt64.toNat_ofNat', Nat.mul_mod_mod, Nat.mod_eq_of_lt below]
  split
  · next below =>
      rw [Option.some_inj, ← UInt64.toNat_inj, exact below, eq_comm, and_iff_right below]
  · next above => exact iff_of_false (Option.some_ne_none _).symm fun both => above both.1

/-- A product of positive numbers is not less than the product of the first two. -/
private theorem mul_lt_of_mul_mul_lt {first second third limit : Nat} (positive : 0 < third)
    (below : first * second * third < limit) : first * second < limit :=
  Nat.lt_of_le_of_lt (Nat.le_mul_of_pos_right _ positive) below

/-- The volume of a box is the number of its cells, when they can be counted in a word. -/
theorem volume_eq_some_iff {box : Box} {volume : UInt64} :
    box.volume = some volume ↔ box.cardinality < 2 ^ 64 ∧ volume.toNat = box.cardinality := by
  have height : 0 < box.height := by have := box.y_lt; unfold Box.height; omega
  have depth : 0 < box.depth := by have := box.z_lt; unfold Box.depth; omega
  have one : (1 : UInt64).toNat = 1 := rfl
  simp only [Box.volume, size, List.foldlM_cons, List.foldlM_nil, Option.bind_eq_bind,
    Option.bind_eq_some_iff, times?_eq_some_iff, one, Nat.one_mul, Option.pure_def,
    Option.some_inj, cardinality]
  constructor
  · rintro ⟨first, ⟨_, firstIs⟩, second, ⟨_, secondIs⟩, third, ⟨below, thirdIs⟩, rfl⟩
    rw [secondIs, firstIs] at below thirdIs
    exact ⟨below, thirdIs⟩
  · rintro ⟨below, volumeIs⟩
    -- every product on the way is below that of all three, since no extent is zero
    have plane := mul_lt_of_mul_mul_lt depth below
    have row : box.width < 2 ^ 64 :=
      Nat.one_mul box.width ▸ mul_lt_of_mul_mul_lt height ((Nat.one_mul box.width).symm ▸ plane)
    have word : ∀ {number : Nat}, number < 2 ^ 64 → (UInt64.ofNat number).toNat = number :=
      fun below => UInt64.toNat_ofNat_of_lt' below
    refine ⟨.ofNat box.width, ⟨row, word row⟩, .ofNat (box.width * box.height), ?_, volume, ?_, rfl⟩
    · rw [word row, word plane]
      exact ⟨plane, rfl⟩
    · rw [word plane]
      exact ⟨below, volumeIs⟩

/-- A box has no volume when its cells are too many to be counted in a word. -/
theorem volume_eq_none_iff {box : Box} : box.volume = none ↔ 2 ^ 64 ≤ box.cardinality := by
  rw [Option.eq_none_iff_forall_ne_some]
  constructor
  · intro none
    by_contra below
    have below := Nat.lt_of_not_le below
    exact none _ (volume_eq_some_iff.mpr ⟨below, UInt64.toNat_ofNat_of_lt' below⟩)
  · intro above volume some
    exact absurd (volume_eq_some_iff.mp some).1 (Nat.not_lt.mpr above)

/-- **Volumes count cells up to the size of a word.** The sides of a box made of positions with
coordinates that fit are less than two to the thirty-two. The box has a volume exactly when the
product of the sides is less than two to the sixty-four, and the volume is then the number of
cells; otherwise a product on the way overflows. -/
theorem volume_counts_iff {box : Box} (made : box.Made) :
    (box.width < 2 ^ 32 ∧ box.height < 2 ^ 32 ∧ box.depth < 2 ^ 32) ∧
      ((∃ volume, box.volume = some volume ∧ {pos | pos ∈ box}.encard = volume.toNat) ↔
        box.width * box.height * box.depth < 2 ^ 64) ∧
      (box.volume = none ↔ 2 ^ 64 ≤ box.width * box.height * box.depth) := by
  refine ⟨?_, ⟨?_, ?_⟩, volume_eq_none_iff⟩
  · obtain ⟨low, high⟩ := made.fits
    rw [Pos.fits_iff] at low high
    simp only [width, height, depth]
    omega
  · rintro ⟨volume, some, _⟩
    exact (volume_eq_some_iff.mp some).1
  · intro below
    have counted := UInt64.toNat_ofNat_of_lt' (n := box.cardinality) below
    refine ⟨_, volume_eq_some_iff.mpr ⟨below, counted⟩, ?_⟩
    rw [encard_cells, counted]

/-- A plane as wide and as deep as corners that fit allow. -/
def widestPlane : Box :=
  ((Box.single ⟨-1, 0, -2147483648⟩).extend ⟨2147483646, 0, 0⟩).extend ⟨-2147483648, 0, 2147483646⟩

/-- The cells of the widest plane can just be counted in a word. -/
theorem widestPlane_counts : widestPlane.Made ∧
    (widestPlane.width = 4294967295 ∧ widestPlane.depth = 4294967295) ∧
      ∃ volume, widestPlane.volume = some volume ∧
        {pos | pos ∈ widestPlane}.encard = volume.toNat := by
  have fits : ∀ {pos : Pos}, _ → pos.Fits := Pos.fits_iff.mpr
  have made : widestPlane.Made :=
    .extend (.extend (.single (fits (by decide)) (fits (by decide))) (fits (by decide))
      (fits (by decide))) (fits (by decide)) (fits (by decide))
  exact ⟨made, by decide, (volume_counts_iff made).2.1.mpr (by decide)⟩

/-- A box with as many cells as there are words. -/
def wordOfCells : Box :=
  (Box.single ⟨-2147483648, -2147483648, 0⟩).extend ⟨-1, -1, 3⟩

/-- A box with as many cells as there are words has no volume: the product of its sides
overflows. -/
theorem wordOfCells_volume : wordOfCells.Made ∧
    ofCorners? ⟨-2147483648, -2147483648, 0⟩ ⟨0, 0, 4⟩ = some wordOfCells ∧
      wordOfCells.size = [2 ^ 31, 2 ^ 31, 4] ∧ wordOfCells.volume = none ∧
        {pos | pos ∈ wordOfCells}.encard = (2 ^ 64 : Nat) := by
  have fits : ∀ {pos : Pos}, _ → pos.Fits := Pos.fits_iff.mpr
  refine ⟨?_, by decide, by decide, by decide, ?_⟩
  · exact .extend (.single (fits (by decide)) (fits (by decide))) (fits (by decide))
      (fits (by decide))
  · rw [encard_cells]
    exact congrArg Nat.cast (show wordOfCells.cardinality = 2 ^ 64 by decide)

end Box

end VoxelCircuit

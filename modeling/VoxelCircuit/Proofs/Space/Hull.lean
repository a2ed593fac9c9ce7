import Mathlib.Order.Bounds.Basic
import VoxelCircuit.Proofs.Space.Volume

/-! # Hulls

Boxes are ordered by the cells in them. A box that grows by one cell after another is the least
box with the cell that it was grown from and all those that came to it
(`VoxelCircuit.Box.isLeast_foldl_extend`), so that neither their order nor cells that come again
make a difference to the hull of a list (`VoxelCircuit.Box.hull?_eq_some_iff`).
-/

namespace VoxelCircuit.Box

variable {box inner outer : Box} {pos : Pos} {cells others : List Pos}

private theorem low_mem (box : Box) : box.low ∈ box :=
  mem_def.mpr ⟨⟨Int.le_refl _, box.x_lt⟩, ⟨Int.le_refl _, box.y_lt⟩, ⟨Int.le_refl _, box.z_lt⟩⟩

/-- The cell of a box with the greatest coordinates. -/
def last (box : Box) : Pos :=
  ⟨box.high.x - 1, box.high.y - 1, box.high.z - 1⟩

private theorem last_mem (box : Box) : box.last ∈ box := by
  obtain ⟨low, high, x_lt, y_lt, z_lt⟩ := box
  simp only [mem_def, last]
  omega

/-- A box is in another when each of its cells is. -/
instance : LE Box :=
  ⟨fun inner outer => ∀ pos ∈ inner, pos ∈ outer⟩

/-- Whether a box is in another can be read off their corners. -/
theorem le_iff : inner ≤ outer ↔
    (outer.low.x ≤ inner.low.x ∧ inner.high.x ≤ outer.high.x) ∧
      (outer.low.y ≤ inner.low.y ∧ inner.high.y ≤ outer.high.y) ∧
        (outer.low.z ≤ inner.low.z ∧ inner.high.z ≤ outer.high.z) := by
  constructor
  · -- A box is never empty: its first and its last cell show how far the other reaches.
    intro within
    have low := within _ inner.low_mem
    have last := within _ inner.last_mem
    simp only [mem_def, Box.last] at low last
    omega
  · intro corners pos inside
    rw [mem_def] at inside ⊢
    omega

/-- Boxes with the same cells have the same corners. -/
theorem eq_of_le_of_le (within : inner ≤ outer) (back : outer ≤ inner) : inner = outer := by
  rw [le_iff] at within back
  obtain ⟨⟨_, _, _⟩, ⟨_, _, _⟩, _, _, _⟩ := inner
  obtain ⟨⟨_, _, _⟩, ⟨_, _, _⟩, _, _, _⟩ := outer
  simp only [mk.injEq, Pos.mk.injEq] at within back ⊢
  omega

instance : PartialOrder Box where
  le_refl _ _ inside := inside
  le_trans _ _ _ within later pos inside := later pos (within pos inside)
  lt_iff_le_not_ge _ _ := Iff.rfl
  le_antisymm _ _ := eq_of_le_of_le

private theorem single_le_iff : single pos ≤ outer ↔ pos ∈ outer := by
  simp only [le_iff, mem_def, single]
  omega

private theorem extend_le_iff : box.extend pos ≤ outer ↔ box ≤ outer ∧ pos ∈ outer := by
  simp only [le_iff, mem_def, extend]
  omega

/-- A box grown by some cells is in each box that has them and the box in it. -/
theorem foldl_extend_le_iff :
    cells.foldl extend box ≤ outer ↔ box ≤ outer ∧ ∀ pos ∈ cells, pos ∈ outer := by
  induction cells generalizing box with
  | nil => simp
  | cons first rest ih => rw [List.foldl_cons, ih, extend_le_iff, and_assoc, List.forall_mem_cons]

/-- The boxes that have all cells of a list in them. -/
def holding (cells : List Pos) : Set Box :=
  {box | ∀ pos ∈ cells, pos ∈ box}

/-- Growing a box from one cell by others comes to the least box with all of them. -/
theorem isLeast_foldl_extend (first : Pos) (rest : List Pos) :
    IsLeast (holding (first :: rest)) (rest.foldl extend (single first)) := by
  have same : holding (first :: rest) = Set.Ici (rest.foldl extend (single first)) := by
    ext outer
    rw [Set.mem_Ici, foldl_extend_le_iff, single_le_iff]
    exact List.forall_mem_cons
  rw [same]
  exact isLeast_Ici

/-- There is no least box of all: two boxes of one cell each have no cell in common. -/
theorem not_isLeast_holding_nil : ¬IsLeast (holding []) box := by
  intro least
  -- The cell just past a least box would make a box with none of its cells.
  have within := least.2 (show single box.high ∈ holding [] from nofun)
  have apart := within _ box.low_mem
  have := box.x_lt
  simp only [mem_def, single] at apart
  omega

/-- The hull of a list is the least box with its cells in it, if there is one. -/
theorem hull?_eq_some_iff : hull? cells = some box ↔ IsLeast (holding cells) box := by
  cases cells with
  | nil => exact iff_of_false nofun not_isLeast_holding_nil
  | cons first rest =>
      rw [hull?, Option.some.injEq]
      have least := isLeast_foldl_extend first rest
      exact ⟨fun same => same ▸ least, least.unique⟩

/-- Only an empty list has no hull. -/
theorem hull?_eq_none_iff : hull? cells = none ↔ cells = [] := by
  cases cells <;> simp [hull?]

/-- Lists of the same cells have the same hull. -/
theorem hull?_congr (same : ∀ pos, pos ∈ cells ↔ pos ∈ others) : hull? cells = hull? others := by
  have held : holding cells = holding others := by
    ext box
    exact forall_congr' fun pos => imp_congr_left (same pos)
  ext box
  rw [hull?_eq_some_iff, hull?_eq_some_iff, held]

/-- One more cell grows the hull. -/
theorem hull?_concat (cells : List Pos) (pos : Pos) :
    hull? (cells ++ [pos]) = some ((hull? cells).elim (single pos) (extend · pos)) := by
  cases cells with
  | nil => rfl
  | cons first rest => simp [hull?]

/-- A box grown by cells that fit, with the cells after them, has corners that fit. -/
theorem Made.foldl_extend (made : box.Made)
    (fit : ∀ pos ∈ cells, pos.Fits ∧ (Box.single pos).high.Fits) :
    (cells.foldl Box.extend box).Made := by
  induction cells generalizing box with
  | nil => exact made
  | cons first rest ih =>
      obtain ⟨⟨own, after⟩, others⟩ := List.forall_mem_cons.mp fit
      exact ih (made.extend own after) others

end VoxelCircuit.Box

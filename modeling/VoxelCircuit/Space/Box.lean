import VoxelCircuit.Space.Position

/-! # Boxes

Half-open boxes of cells. A box is never empty: this is a field of the type, so
that bounds always name at least one cell. The cells of a box are numbered in
scan order, z outermost and x innermost, and this numbering serves both the scan
itself and the storage of cells.
-/

namespace VoxelCircuit

/-- The cells between an inclusive low corner and an exclusive high corner. -/
structure Box where
  /-- The corner with the least coordinates, inside the box. -/
  low : Pos
  /-- The corner just past the greatest coordinates, outside the box. -/
  high : Pos
  /-- The box has a cell along x. -/
  x_lt : low.x < high.x
  /-- The box has a cell along y. -/
  y_lt : low.y < high.y
  /-- The box has a cell along z. -/
  z_lt : low.z < high.z
deriving DecidableEq

namespace Box

/-- The box between two corners; nothing when it would be empty. -/
def ofCorners? (low high : Pos) : Option Box :=
  if ordered : low.x < high.x ∧ low.y < high.y ∧ low.z < high.z then
    some ⟨low, high, ordered.1, ordered.2.1, ordered.2.2⟩
  else none

/-- The box of one cell. -/
def single (pos : Pos) : Box where
  low := pos
  high := ⟨pos.x + 1, pos.y + 1, pos.z + 1⟩
  x_lt := by simp only; omega
  y_lt := by simp only; omega
  z_lt := by simp only; omega

/-- The least box that holds a box and one more cell. -/
def extend (box : Box) (pos : Pos) : Box where
  low := ⟨min box.low.x pos.x, min box.low.y pos.y, min box.low.z pos.z⟩
  high := ⟨max box.high.x (pos.x + 1), max box.high.y (pos.y + 1), max box.high.z (pos.z + 1)⟩
  x_lt := by simp only; omega
  y_lt := by simp only; omega
  z_lt := by simp only; omega

/-- The least box that holds all cells of a list; nothing for no cells. -/
def hull? : List Pos → Option Box
  | [] => none
  | first :: rest => some (rest.foldl extend (single first))

/-- A cell is in a box when each coordinate is from the low corner on and below
the high one. -/
instance : Membership Pos Box where
  mem box pos :=
    (box.low.x ≤ pos.x ∧ pos.x < box.high.x) ∧
    (box.low.y ≤ pos.y ∧ pos.y < box.high.y) ∧
    (box.low.z ≤ pos.z ∧ pos.z < box.high.z)

/-- Membership in a box, by coordinates. -/
theorem mem_def {box : Box} {pos : Pos} :
    pos ∈ box ↔ (box.low.x ≤ pos.x ∧ pos.x < box.high.x) ∧
      (box.low.y ≤ pos.y ∧ pos.y < box.high.y) ∧ (box.low.z ≤ pos.z ∧ pos.z < box.high.z) :=
  Iff.rfl

instance (box : Box) (pos : Pos) : Decidable (pos ∈ box) :=
  decidable_of_iff _ mem_def.symm

/-- The number of cells along x. -/
def width (box : Box) : Nat := (box.high.x - box.low.x).toNat

/-- The number of cells along y. -/
def height (box : Box) : Nat := (box.high.y - box.low.y).toNat

/-- The number of cells along z. -/
def depth (box : Box) : Nat := (box.high.z - box.low.z).toNat

/-- The number of cells. -/
def cardinality (box : Box) : Nat := box.width * box.height * box.depth

/-- The extents along x, y and z. -/
def size (box : Box) : List Nat := [box.width, box.height, box.depth]

/-- A product in words of sixty-four bits; nothing when it does not fit in one. -/
def times? (product : UInt64) (extent : Nat) : Option UInt64 :=
  if product.toNat * extent < UInt64.size then some (product * extent.toUInt64) else none

/-- The product of the three extents, one after another, in words of sixty-four bits; nothing
when a product on the way does not fit in one. -/
def volume (box : Box) : Option UInt64 :=
  box.size.foldlM times? 1

/-- The cell with a number in scan order. -/
def positionAt (box : Box) (number : Nat) : Pos where
  x := box.low.x + (number % box.width : Nat)
  y := box.low.y + (number / box.width % box.height : Nat)
  z := box.low.z + (number / box.width / box.height : Nat)

/-- The number of a cell in scan order. -/
def numberOf (box : Box) (pos : Pos) : Nat :=
  (pos.x - box.low.x).toNat + box.width *
    ((pos.y - box.low.y).toNat + box.height * (pos.z - box.low.z).toNat)

/-- The first cells of a box in scan order, at most as many as asked for. -/
def firstPositions (box : Box) (count : Nat) : List Pos :=
  (List.range (min count box.cardinality)).map box.positionAt

/-- Every cell of a box once, in scan order: z outermost and x innermost. -/
def positions (box : Box) : List Pos :=
  (List.range box.cardinality).map box.positionAt

/-- There are as many positions as cells. -/
theorem length_positions (box : Box) : box.positions.length = box.cardinality := by
  rw [positions, List.length_map, List.length_range]

/-- Visit every cell of a box in scan order, passing a value along. -/
def scan {α : Type} (box : Box) (visit : α → Pos → α) (start : α) : α :=
  Nat.fold box.cardinality (fun number _ value => visit value (box.positionAt number)) start

/-- A scan visits the positions of the box in order. -/
theorem scan_eq_foldl {α : Type} (box : Box) (visit : α → Pos → α) (start : α) :
    box.scan visit start = box.positions.foldl visit start := by
  unfold scan positions
  rw [List.foldl_map]
  induction box.cardinality with
  | zero => rfl
  | succ count ih => rw [Nat.fold_succ, ih, List.range_succ, List.foldl_append]; rfl

/-- The first cells are a leading part of all cells. -/
theorem firstPositions_eq_take (box : Box) (count : Nat) :
    box.firstPositions count = box.positions.take count := by
  simp [firstPositions, positions, List.take_range, ← List.map_take]

/-- The number of a cell of the box is below the number of cells. -/
theorem numberOf_lt {box : Box} {pos : Pos} (inside : pos ∈ box) :
    box.numberOf pos < box.cardinality := by
  rw [mem_def] at inside
  have columns : (pos.x - box.low.x).toNat + 1 ≤ box.width := by unfold width; omega
  have rows : (pos.y - box.low.y).toNat + 1 ≤ box.height := by unfold height; omega
  have layers : (pos.z - box.low.z).toNat + 1 ≤ box.depth := by unfold depth; omega
  have below : (pos.y - box.low.y).toNat + box.height * (pos.z - box.low.z).toNat + 1 ≤
      box.height * box.depth := by
    have := Nat.mul_le_mul_left box.height layers
    rw [Nat.mul_add] at this
    omega
  have := Nat.mul_le_mul_left box.width below
  rw [Nat.mul_add, ← Nat.mul_assoc] at this
  unfold numberOf cardinality
  omega

/-- A cell of the box is the one with its number. -/
theorem positionAt_numberOf {box : Box} {pos : Pos} (inside : pos ∈ box) :
    box.positionAt (box.numberOf pos) = pos := by
  rw [mem_def] at inside
  have column : (pos.x - box.low.x).toNat < box.width := by unfold width; omega
  have row : (pos.y - box.low.y).toNat < box.height := by unfold height; omega
  obtain ⟨x, y, z⟩ := pos
  simp only [positionAt, numberOf, Nat.add_mul_mod_self_left, Nat.mod_eq_of_lt column,
    Nat.add_mul_div_left _ _ (Nat.zero_lt_of_lt column), Nat.div_eq_of_lt column, Nat.zero_add,
    Nat.mod_eq_of_lt row, Nat.add_mul_div_left _ _ (Nat.zero_lt_of_lt row), Nat.div_eq_of_lt row]
  simp only at inside
  congr 1 <;> omega

/-- A number is that of the cell with this number. -/
theorem numberOf_positionAt (box : Box) (number : Nat) :
    box.numberOf (box.positionAt number) = number := by
  have offset : ∀ (low : Int) (distance : Nat), (low + distance - low).toNat = distance := by
    omega
  simp only [numberOf, positionAt, offset, Nat.mod_add_div]

/-- The number below the number of cells is that of a cell of the box. -/
theorem positionAt_mem {box : Box} {number : Nat} (below : number < box.cardinality) :
    box.positionAt number ∈ box := by
  have columns : 0 < box.width := by have := box.x_lt; unfold width; omega
  have rows : 0 < box.height := by have := box.y_lt; unfold height; omega
  have column := Nat.mod_lt number columns
  have row := Nat.mod_lt (number / box.width) rows
  have layer : number / box.width / box.height < box.depth := by
    rw [Nat.div_div_eq_div_mul]
    exact Nat.div_lt_of_lt_mul below
  rw [mem_def, positionAt]
  generalize number % box.width = x at column ⊢
  generalize number / box.width % box.height = y at row ⊢
  generalize number / box.width / box.height = z at layer ⊢
  unfold width at column
  unfold height at row
  unfold depth at layer
  simp only
  omega

/-- The scan meets exactly the cells of the box. -/
@[simp] theorem mem_positions {box : Box} {pos : Pos} : pos ∈ box.positions ↔ pos ∈ box := by
  constructor
  · intro listed
    obtain ⟨number, inRange, rfl⟩ := List.mem_map.mp listed
    exact positionAt_mem (List.mem_range.mp inRange)
  · intro inside
    exact List.mem_map.mpr
      ⟨box.numberOf pos, List.mem_range.mpr (numberOf_lt inside), positionAt_numberOf inside⟩

/-- How many steps along a direction can end inside a box, counted from a cell. -/
def reach (box : Box) (pos : Pos) : Direction → Nat
  | .posX => (box.high.x - 1 - pos.x).toNat
  | .posY => (box.high.y - 1 - pos.y).toNat
  | .posZ => (box.high.z - 1 - pos.z).toNat
  | .negX => (pos.x - box.low.x).toNat
  | .negY => (pos.y - box.low.y).toNat
  | .negZ => (pos.z - box.low.z).toNat

/-- A step that ends inside the box leaves one step less. -/
theorem reach_step {box : Box} {pos : Pos} {direction : Direction}
    (inside : pos.step direction ∈ box) :
    box.reach pos direction = box.reach (pos.step direction) direction + 1 := by
  rw [mem_def] at inside
  cases direction <;> simp only [Pos.step, Direction.vector, reach] at inside ⊢ <;> omega

/-- The text of a box: its two corners. -/
def text (box : Box) : String :=
  box.low.text ++ ".." ++ box.high.text

end Box

end VoxelCircuit

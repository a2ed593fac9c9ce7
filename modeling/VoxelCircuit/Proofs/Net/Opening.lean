import VoxelCircuit.Proofs.Net.Completeness
import VoxelCircuit.Proofs.Table

/-! # How many nets are opened

A face that a net is opened at lies on a square between two cells. In an enclosed grid no
face on the same square was claimed before: the block behind it would have claimed this one
for its own net. So at most one net is opened at each square
(`VoxelCircuit.Grid.TraceReaches.opened_le_squares`), and a voxel grid has fewer squares than
there are serial numbers (`VoxelCircuit.Grid.TraceReaches.opened_lt_serials`).
-/

namespace VoxelCircuit

namespace Face

/-- The face on the other side of the square that a face lies on. -/
def across (face : Face) : Face :=
  ⟨face.pos.step face.direction, face.direction.opposite⟩

/-- The face across from the face across is the face itself. -/
@[simp] theorem across_across (face : Face) : face.across.across = face := by
  simp only [across, Pos.step_opposite, Direction.opposite_opposite]

/-- The square that a face lies on, given by its face that looks up an axis. -/
def square (face : Face) : Face :=
  if face.direction.positive then face else face.across

private theorem eq_or_eq_across {first second : Face} (same : first.square = second.square) :
    first = second ∨ first = second.across := by
  unfold square at same
  cases up : first.direction.positive <;> cases alsoUp : second.direction.positive <;>
    simp only [up, alsoUp, if_true, Bool.false_eq_true, if_false] at same
  · exact Or.inl (by rw [← across_across first, same, across_across])
  · exact Or.inr (by rw [← same, across_across])
  · exact Or.inr same
  · exact Or.inl same

end Face

/-- A step down an axis raises no coordinate. -/
theorem Pos.step_down_le (pos : Pos) (axis : Axis) :
    (pos.step (.ofAxis axis false)).x ≤ pos.x ∧ (pos.step (.ofAxis axis false)).y ≤ pos.y ∧
      (pos.step (.ofAxis axis false)).z ≤ pos.z := by
  cases axis <;> simp only [Pos.step, Direction.ofAxis, Direction.vector] <;> omega

/-- The box with one more layer of cells below it along an axis. -/
def Box.lowered (box : Box) (axis : Axis) : Box where
  low := box.low.step (.ofAxis axis false)
  high := box.high
  x_lt := (box.low.step_down_le axis).1.trans_lt box.x_lt
  y_lt := (box.low.step_down_le axis).2.1.trans_lt box.y_lt
  z_lt := (box.low.step_down_le axis).2.2.trans_lt box.z_lt

namespace Box

variable (box : Box)

private theorem cardinality_lowered_x :
    (box.lowered .x).cardinality = (box.width + 1) * box.height * box.depth := by
  have longer : (box.lowered .x).width = box.width + 1 := by
    have := box.x_lt
    simp only [width, lowered, Pos.step, Direction.ofAxis, Direction.vector]
    omega
  rw [cardinality, longer]
  simp [lowered, height, depth, Pos.step, Direction.ofAxis, Direction.vector]

private theorem cardinality_lowered_y :
    (box.lowered .y).cardinality = box.width * (box.height + 1) * box.depth := by
  have longer : (box.lowered .y).height = box.height + 1 := by
    have := box.y_lt
    simp only [height, lowered, Pos.step, Direction.ofAxis, Direction.vector]
    omega
  rw [cardinality, longer]
  simp [lowered, width, depth, Pos.step, Direction.ofAxis, Direction.vector]

private theorem cardinality_lowered_z :
    (box.lowered .z).cardinality = box.width * box.height * (box.depth + 1) := by
  have longer : (box.lowered .z).depth = box.depth + 1 := by
    have := box.z_lt
    simp only [depth, lowered, Pos.step, Direction.ofAxis, Direction.vector]
    omega
  rw [cardinality, longer]
  simp [lowered, width, height, Pos.step, Direction.ofAxis, Direction.vector]

end Box

/-- The number of the squares on and between the cells of a box with given sides. -/
def GridExtent.squares (extent : GridExtent) : Nat :=
  extent.width * extent.height * (extent.depth + 1) +
    extent.width * (extent.height + 1) * extent.depth +
      (extent.width + 1) * extent.height * extent.depth

/-- There are fewer squares than serial numbers. -/
theorem GridExtent.squares_lt (extent : GridExtent) : extent.squares < UInt32.size := by
  obtain ⟨_, width⟩ := extent.width_range
  obtain ⟨_, height⟩ := extent.height_range
  obtain ⟨_, depth⟩ := extent.depth_range
  have product : ∀ {x y z : Nat}, x ≤ 1025 → y ≤ 1025 → z ≤ 1025 → x * y * z ≤ 1025 * 1025 * 1025 :=
    fun x y z => Nat.mul_le_mul (Nat.mul_le_mul x y) z
  calc extent.squares
      ≤ 1025 * 1025 * 1025 + 1025 * 1025 * 1025 + 1025 * 1025 * 1025 :=
        Nat.add_le_add (Nat.add_le_add (product (by omega) (by omega) (by omega))
          (product (by omega) (by omega) (by omega))) (product (by omega) (by omega) (by omega))
    _ < UInt32.size := by decide

private theorem GridExtent.box_sides (extent : GridExtent) : extent.box.width = extent.width ∧
    extent.box.height = extent.height ∧ extent.box.depth = extent.depth := by
  simp [box, Box.width, Box.height, Box.depth, Pos.origin]

/-- A face of a block in a box lies on a square above a cell of the box or of the layer below
it. -/
theorem Face.square_pos_mem {box : Box} {face : Face} (inside : face.pos ∈ box) :
    face.square = ⟨face.square.pos, .ofAxis face.direction.axis true⟩ ∧
      face.square.pos ∈ box.lowered face.direction.axis := by
  rw [Box.mem_def] at inside
  obtain ⟨pos, direction⟩ := face
  rw [Box.mem_def]
  cases direction <;>
    simp only [Face.square, Face.across, Direction.positive, Direction.axis, Direction.ofAxis,
      Direction.opposite, Box.lowered, Pos.step, Direction.vector, if_true, Bool.false_eq_true,
      if_false, Bool.not_false, true_and] at inside ⊢ <;> omega

namespace Grid

variable {γ : Type} [Grid γ] {grid : γ}

/-- The squares with a claimed face. -/
def squares (log : TraceLog) : Finset Face :=
  log.claims.keys.toFinset.image Face.square

private theorem mem_squares {log : TraceLog} {square : Face} :
    square ∈ squares log ↔ ∃ face, (log.claimed? face).isSome = true ∧ face.square = square := by
  rw [squares, Finset.mem_image]
  refine exists_congr fun face => and_congr_left' ?_
  rw [List.mem_toFinset, Table.mem_keys_iff, Option.isSome_iff_exists]
  rfl

private theorem squares_claim (log : TraceLog) (net : NetId) (face : Face) :
    squares (log.claim net face) = insert face.square (squares log) := by
  ext square
  rw [Finset.mem_insert, mem_squares, mem_squares]
  constructor
  · rintro ⟨other, claimed, rfl⟩
    rcases (isSome_claimed?_claim net).mp claimed with rfl | before
    · exact Or.inl rfl
    · exact Or.inr ⟨other, before, rfl⟩
  · rintro (rfl | ⟨other, before, rfl⟩)
    · exact ⟨face, (isSome_claimed?_claim net).mpr (Or.inl rfl), rfl⟩
    · exact ⟨other, (isSome_claimed?_claim net).mpr (Or.inr before), rfl⟩

private theorem squares_noted (recordEdges : Bool) (net : NetId) (face : Face) (log : TraceLog) :
    squares (noted grid recordEdges net face log) = squares log := by
  unfold noted
  split <;> rfl

/-- No face on the square of an unclaimed face is claimed, when no run is to be followed. -/
theorem Paired.square_notMem (enclosed : Enclosed grid) {roots : List Face}
    {tasks : List TraceTask} {log : TraceLog} (paired : Paired grid ⟨roots, tasks, log⟩)
    (grounded : inFlight tasks = none) {face : Face}
    (active : activeBeyondWire grid face.pos = true) (unclaimed : log.claimed? face = none) :
    face.square ∉ squares log := by
  intro held
  obtain ⟨other, claimed, same⟩ := mem_squares.mp held
  obtain ⟨net, claimed⟩ := Option.isSome_iff_exists.mp claimed
  rcases Face.eq_or_eq_across same with rfl | rfl
  · rw [unclaimed] at claimed
    cases claimed
  · have faces : facing? grid face.across = some face := by
      apply facing?_eq_some_iff.mpr
      refine ⟨?_, enclosed.inside active, active, (Direction.opposite_opposite _).symm⟩
      have beside : Corridor grid face.across.direction face.across.pos
          (face.across.pos.step face.across.direction) := .step _
      rwa [Face.across, Pos.step_opposite] at beside
    have partner := paired.partners _ net face claimed (by simp [grounded]) faces
    rw [unclaimed] at partner
    cases partner

/-- At most one net is opened at each square. -/
theorem TraceReaches.opened_le_squares (enclosed : Enclosed grid) {recordEdges : Bool}
    {members : List Pos} {state : TraceState}
    (reached : TraceReaches grid recordEdges members state) :
    state.log.opened ≤ (squares state.log).card := by
  have grows : ∀ (log : TraceLog) (net : NetId) (face : Face),
      (squares log).card ≤ (squares (log.claim net face)).card := by
    intro log net face
    rw [squares_claim]
    exact Finset.card_le_card (Finset.subset_insert _ _)
  have news : ∀ {log : TraceLog} {face : Face}, face.square ∉ squares log →
      log.opened ≤ (squares log).card →
        (log.openAt face).opened ≤ (squares (log.openAt face)).card := by
    intro log face fresh few
    change log.opened + 1 ≤ (squares (log.claim log.next face)).card
    rw [squares_claim, Finset.card_insert_of_notMem fresh]
    exact Nat.succ_le_succ few
  induction reached with
  | refl => exact Nat.zero_le _
  | @tail before after reached step ih =>
      have paired := TraceReaches.paired enclosed reached
      cases step with
      | work move =>
          cases move with
          | breaksOff | returns =>
              simp only [opened_noted, squares_noted]
              exact ih
          | arrives =>
              refine le_trans ?_ (grows _ _ _)
              simp only [TraceLog.claim, opened_noted, squares_noted]
              exact ih
          | settles => exact ih
          | prolongs => exact ih.trans (grows _ _ _)
          | opens split claimed unclaimed junction =>
              exact news (paired.square_notMem enclosed rfl
                (paired.branches_active _ _ _ List.mem_cons_self) unclaimed) ih
      | pass => exact ih
      | start unclaimed =>
          exact news (paired.square_notMem enclosed rfl
            (paired.roots_active _ List.mem_cons_self) unclaimed) ih

/-- The claimed faces of an enclosed grid lie on squares of its bounds. -/
theorem TraceReaches.card_squares_le (enclosed : Enclosed grid) {recordEdges : Bool}
    {members : List Pos} {state : TraceState}
    (reached : TraceReaches grid recordEdges members state) :
    (squares state.log).card ≤ ((bounds grid).lowered .x).cardinality +
      ((bounds grid).lowered .y).cardinality + ((bounds grid).lowered .z).cardinality := by
  let layer := fun axis => (((bounds grid).lowered axis).positions.map
    fun pos => (⟨pos, .ofAxis axis true⟩ : Face)).toFinset
  have few : ∀ axis, (layer axis).card ≤ ((bounds grid).lowered axis).cardinality := by
    intro axis
    refine (List.toFinset_card_le _).trans_eq ?_
    rw [List.length_map, Box.length_positions]
  have inside : squares state.log ⊆ layer .x ∪ layer .y ∪ layer .z := by
    intro square held
    obtain ⟨face, claimed, rfl⟩ := mem_squares.mp held
    obtain ⟨net, claimed⟩ := Option.isSome_iff_exists.mp claimed
    have present := (TraceReaches.paired enclosed reached).claims_active face net claimed
    obtain ⟨told, above⟩ := Face.square_pos_mem (enclosed.inside present)
    have listed : face.square ∈ layer face.direction.axis := by
      rw [told]
      exact List.mem_toFinset.mpr (List.mem_map.mpr ⟨_, Box.mem_positions.mpr above, rfl⟩)
    rw [Finset.mem_union, Finset.mem_union]
    cases axis : face.direction.axis <;> rw [axis] at listed
    · exact Or.inl (Or.inl listed)
    · exact Or.inl (Or.inr listed)
    · exact Or.inr listed
  calc (squares state.log).card
      ≤ (layer .x ∪ layer .y ∪ layer .z).card := Finset.card_le_card inside
    _ ≤ (layer .x).card + (layer .y).card + (layer .z).card :=
        (Finset.card_union_le _ _).trans (Nat.add_le_add_right (Finset.card_union_le _ _) _)
    _ ≤ _ := Nat.add_le_add (Nat.add_le_add (few .x) (few .y)) (few .z)

/-- A trace of a voxel grid opens at most one net for each square on and between its cells. -/
theorem TraceReaches.opened_le {ω : Type} [Grid ω] {grid : VoxelGrid (World ω)}
    {recordEdges : Bool} {members : List Pos} {state : TraceState}
    (reached : TraceReaches (World.voxel grid) recordEdges members state) :
    state.log.opened ≤ grid.extent.squares := by
  have enclosed := enclosed_voxel grid
  have bound := (reached.opened_le_squares enclosed).trans (reached.card_squares_le enclosed)
  have sides : (bounds (World.voxel grid)).width = grid.extent.width ∧
      (bounds (World.voxel grid)).height = grid.extent.height ∧
        (bounds (World.voxel grid)).depth = grid.extent.depth := grid.extent.box_sides
  rw [Box.cardinality_lowered_x, Box.cardinality_lowered_y, Box.cardinality_lowered_z, sides.1,
    sides.2.1, sides.2.2] at bound
  unfold GridExtent.squares
  omega

/-- A trace of a voxel grid opens fewer nets than there are serial numbers. -/
theorem TraceReaches.opened_lt_serials {ω : Type} [Grid ω] {grid : VoxelGrid (World ω)}
    {recordEdges : Bool} {members : List Pos} {state : TraceState}
    (reached : TraceReaches (World.voxel grid) recordEdges members state) :
    state.log.opened < UInt32.size :=
  reached.opened_le.trans_lt grid.extent.squares_lt

end Grid

end VoxelCircuit

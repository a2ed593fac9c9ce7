import VoxelCircuit.Layout.Profile
import VoxelCircuit.Proofs.Grid.Edits

/-! # What stands in a lattice

A lattice of open gates is built block by block. What comes of it is said place by place
(`VoxelCircuit.Profile.Stands`): in each row a lit pad, gates with wire before each and a lit
pad on top of each, and wire and a lamp at the end (`VoxelCircuit.Profile.isLattice_of_built`).
-/

namespace VoxelCircuit

/-- The cell that a block to be set makes. -/
def Placement.cell (placement : Placement) : Cell :=
  ⟨placement.id, placement.orientation, placement.datum⟩

namespace VoxelGrid

variable {γ : Type} {grid after : VoxelGrid γ}

private theorem setBlock_ok {pos : Pos} {id : BlockId} {orientation : Orientation} {datum : Int}
    (set : grid.setBlock pos id orientation datum = .ok after) :
    grid.setCell pos ⟨id, orientation, datum⟩ = .ok after := by
  unfold setBlock at set
  split at set
  · exact set
  · cases set

private theorem setBlocks_cons_ok {placement : Placement} {rest : List Placement}
    (set : grid.setBlocks (placement :: rest) = .ok after) :
    ∃ middle, grid.setCell placement.pos placement.cell = .ok middle ∧
      middle.setBlocks rest = .ok after := by
  rw [setBlocks, List.foldlM_cons] at set
  cases first : grid.setBlock placement.pos placement.id placement.orientation placement.datum with
  | error error => rw [first] at set; cases set
  | ok middle =>
      rw [first] at set
      exact ⟨middle, setBlock_ok first, set⟩

/-- Blocks that agree on a cell leave what they agree on. -/
theorem cell_setBlocks {placements : List Placement} (set : grid.setBlocks placements = .ok after)
    {pos : Pos} {cell : Cell}
    (uniform : ∀ placement ∈ placements, placement.pos = pos → placement.cell = cell)
    (covered : (∃ placement ∈ placements, placement.pos = pos) ∨ grid.cell pos = cell) :
    after.cell pos = cell := by
  induction placements generalizing grid with
  | nil =>
      cases set
      exact covered.resolve_left (by simp)
  | cons placement rest ih =>
      obtain ⟨middle, first, others⟩ := setBlocks_cons_ok set
      refine ih others (fun other member => uniform other (List.mem_cons_of_mem _ member)) ?_
      rw [cell_setCell first]
      by_cases same : pos = placement.pos
      · rw [if_pos same]
        exact Or.inr (uniform placement List.mem_cons_self same.symm)
      · rw [if_neg same]
        refine covered.imp_left fun ⟨other, member, there⟩ => ?_
        rcases List.mem_cons.mp member with rfl | later
        · exact (same there.symm).elim
        · exact ⟨other, later, there⟩

private theorem catalog_setBlocks {placements : List Placement}
    (set : grid.setBlocks placements = .ok after) : after.catalog = grid.catalog := by
  induction placements generalizing grid with
  | nil =>
      cases set
      rfl
  | cons placement rest ih =>
      obtain ⟨middle, first, others⟩ := setBlocks_cons_ok set
      exact (ih others).trans (setCell_ok first).2.1

end VoxelGrid

/-- A catalog of types has these types, in their order. -/
theorem Catalog.ofTypes_ok {γ : Type} {types : List (BlockType γ)} {catalog : Catalog γ}
    (made : ofTypes types = .ok catalog) : catalog.added = types := by
  have grows : ∀ (types : List (BlockType γ)) (start : Catalog γ),
      types.foldlM register start = .ok catalog → catalog.added = start.added ++ types := by
    intro types
    induction types with
    | nil =>
        intro start same
        cases same
        rw [List.append_nil]
    | cons type rest ih =>
        intro start made
        rw [List.foldlM_cons] at made
        cases first : start.register type with
        | error error => rw [first] at made; cases made
        | ok next =>
            rw [first] at made
            rw [ih next made]
            unfold register at first
            split at first
            · cases first
            · cases first
              rw [List.append_assoc, List.singleton_append]
  exact grows types onlyAir made

namespace Profile

/-- What stands where in a lattice of some rows of some gates each. -/
inductive Stands (rows gates : Nat) : Pos → Behavior → Prop
  | source {row : Nat} (below : row < rows) : Stands rows gates ⟨0, 0, 2 * row⟩ .pad
  | wire {row place : Nat} (below : row < rows) (within : place ≤ gates) :
      Stands rows gates ⟨2 * place + 1, 0, 2 * row⟩ .wire
  | gate {row place : Nat} (below : row < rows) (within : place < gates) :
      Stands rows gates ⟨2 * place + 2, 0, 2 * row⟩ .gate
  | opener {row place : Nat} (below : row < rows) (within : place < gates) :
      Stands rows gates ⟨2 * place + 2, 1, 2 * row⟩ .pad
  | lamp {row : Nat} (below : row < rows) :
      Stands rows gates ⟨2 * gates + 2, 0, 2 * row⟩ .indicator

/-- One behavior stands at a position. -/
theorem Stands.unique {rows gates : Nat} {pos : Pos} {first second : Behavior}
    (stands : Stands rows gates pos first) (other : Stands rows gates pos second) :
    first = second := by
  cases stands <;> generalize same : (Pos.mk _ _ _) = pos at other <;> cases other <;>
    simp only [Pos.mk.injEq] at same <;> first | rfl | omega

/-- The block of a lattice with a behavior at a position. -/
def blockFor (pos : Pos) : Behavior → Placement
  | .pad => ⟨pos, pad, .identity, 1⟩
  | .indicator => .plain pos lamp
  | .gate => .plain pos gate
  | _ => .plain pos wire

/-- The block for a position is put there. -/
@[simp] theorem pos_blockFor (pos : Pos) (behavior : Behavior) :
    (blockFor pos behavior).pos = pos := by
  cases behavior <;> rfl

/-- The blocks that a lattice is built of are those that stand in it. -/
theorem mem_latticeBlocks {rows gates : Nat} {placement : Placement} :
    placement ∈ (List.range rows).flatMap (latticeRowBlocks (2 * gates + 3) gates) ↔
      ∃ pos behavior, Stands rows gates pos behavior ∧ placement = blockFor pos behavior := by
  have lastWire : ((2 * gates + 3 : Nat) : Int) - 2 = 2 * gates + 1 := by omega
  have lampPlace : ((2 * gates + 3 : Nat) : Int) - 1 = 2 * gates + 2 := by omega
  simp only [List.mem_flatMap, List.mem_range, latticeRowBlocks, latticeGateBlocks, List.mem_append,
    List.mem_cons, List.not_mem_nil, or_false, lastWire, lampPlace, Int.add_comm 1, Int.add_comm 2]
  constructor
  · rintro ⟨row, below, (rfl | ⟨place, within, rfl | rfl | rfl⟩) | rfl | rfl⟩
    · exact ⟨_, _, .source below, rfl⟩
    · exact ⟨_, _, .wire below (Nat.le_of_lt within), rfl⟩
    · exact ⟨_, _, .gate below within, rfl⟩
    · exact ⟨_, _, .opener below within, rfl⟩
    · exact ⟨_, _, .wire below (Nat.le_refl gates), rfl⟩
    · exact ⟨_, _, .lamp below, rfl⟩
  · rintro ⟨pos, behavior, stands, rfl⟩
    cases stands with
    | @source row below => exact ⟨row, below, Or.inl (Or.inl rfl)⟩
    | @wire row place below within =>
        refine ⟨row, below, ?_⟩
        rcases Nat.lt_or_eq_of_le within with inner | rfl
        · exact Or.inl (Or.inr ⟨place, inner, Or.inl rfl⟩)
        · exact Or.inr (Or.inl rfl)
    | @gate row place below within =>
        exact ⟨row, below, Or.inl (Or.inr ⟨place, within, Or.inr (Or.inl rfl)⟩)⟩
    | @opener row place below within =>
        exact ⟨row, below, Or.inl (Or.inr ⟨place, within, Or.inr (Or.inr rfl)⟩)⟩
    | @lamp row below => exact ⟨row, below, Or.inr (Or.inr rfl)⟩

variable {ω : Type}

/-- A voxel grid is a lattice in which the lamps of the first rows are lit. -/
structure IsLattice (rows gates lit : Nat) (grid : VoxelGrid (World ω)) : Prop where
  behavior : ∀ pos behavior, grid.behavior pos = some behavior ↔ Stands rows gates pos behavior
  orientation : ∀ pos, (grid.cell pos).orientation = .identity
  pads : ∀ pos, Stands rows gates pos .pad → (grid.cell pos).datum = 1
  lamps : ∀ row < rows,
    (grid.cell ⟨2 * gates + 2, 0, 2 * row⟩).datum = if row < lit then 1 else 0

/-- A lattice has no junctions. -/
theorem IsLattice.no_junction {rows gates lit : Nat} {grid : VoxelGrid (World ω)}
    (lattice : IsLattice rows gates lit grid) (pos : Pos) :
    grid.behavior pos ≠ some .junction := by
  intro junction
  cases (lattice.behavior pos _).mp junction

private theorem behavior_blockFor {types : Catalog (World ω)} (made : catalog = .ok types)
    {rows gates : Nat} {pos : Pos} {behavior : Behavior}
    (stands : Stands rows gates pos behavior) :
    types.behavior (blockFor pos behavior).id = some behavior := by
  obtain ⟨interior, added⟩ : ∃ interior, types.added =
      baseTypes ++ [⟨chip, "chip", some .chip, some (.voxel interior)⟩] := by
    unfold catalog at made
    cases inner : (chipInterior : Except GridError (VoxelGrid (World ω))) with
    | error error => rw [inner] at made; cases made
    | ok interior =>
        rw [inner] at made
        exact ⟨interior, Catalog.ofTypes_ok made⟩
  rw [Catalog.behavior, Catalog.get?, Catalog.types, added]
  cases stands <;> rfl

private theorem toInt_toInt32 {word : UInt32} (small : 2 * word.toNat < UInt32.size) :
    word.toInt32.toInt = word.toNat := by
  have same : word.toInt32.toInt = (word.toNat : Int).bmod (2 ^ 32) :=
    BitVec.toInt_eq_toNat_bmod word.toBitVec
  simp only [UInt32.size] at small
  rw [same, Int.bmod_eq_of_le] <;> omega

/-- Words below half of their range count as themselves. -/
theorem countOf_eq {word : UInt32} (small : 2 * word.toNat < UInt32.size) :
    countOf word = word.toNat := by
  rw [countOf, Int32.toNatClampNeg, toInt_toInt32 small, Int.toNat_natCast]

/-- A lattice that is built without overflow has the blocks of its rows set one after another,
and its rows are not longer than the range of sides allows. -/
theorem gateLattice_ok {rows gates : UInt32} {grid : VoxelGrid (World ω)}
    (width : 2 * gates.toNat + 3 < UInt32.size) (depth : 2 * rows.toNat < UInt32.size)
    (built : gateLattice rows gates = .ok grid) :
    2 * gates.toNat + 3 ≤ 1024 ∧
      ∃ (types : Catalog (World ω)) (vacant : VoxelGrid (World ω)),
        catalog = .ok types ∧ vacant.catalog = types ∧ (∀ pos, vacant.cell pos = .air) ∧
          vacant.setBlocks ((List.range rows.toNat).flatMap
            (latticeRowBlocks (2 * gates.toNat + 3) gates.toNat)) = .ok grid := by
  have side : (2 * gates + 3).toNat = 2 * gates.toNat + 3 := by
    simp only [UInt32.toNat_add, UInt32.toNat_mul, UInt32.toNat_ofNat, UInt32.size] at *
    omega
  have counts : min (countOf gates) (2 * gates.toNat + 3) = gates.toNat := by
    rw [countOf_eq (by omega)]
    omega
  unfold gateLattice at built
  rw [side] at built
  cases made : (catalog : Except GridError (Catalog (World ω))) with
  | error error => rw [made] at built; cases built
  | ok types =>
      rw [made] at built
      cases air : VoxelGrid.ofAir types (2 * gates.toNat + 3) 2 (max ((2 * rows).toNat - 1) 1) with
      | error error =>
          change (VoxelGrid.ofAir types _ _ _).bind _ = _ at built
          rw [air] at built
          cases built
      | ok vacant =>
          change (VoxelGrid.ofAir types _ _ _).bind _ = _ at built
          rw [air, counts, countOf_eq depth] at built
          obtain ⟨same, vacated, within⟩ := VoxelGrid.ofAir_ok air
          exact ⟨within, types, vacant, rfl, same, vacated, built⟩

section Built

variable {rows gates : Nat} {vacant grid : VoxelGrid (World ω)}
  (set : vacant.setBlocks ((List.range rows).flatMap (latticeRowBlocks (2 * gates + 3) gates)) =
    .ok grid)
include set

/-- A cell where something stands has its block. -/
theorem cell_of_stands {pos : Pos} {behavior : Behavior}
    (stands : Stands rows gates pos behavior) : grid.cell pos = (blockFor pos behavior).cell := by
  refine VoxelGrid.cell_setBlocks set (fun placement member there => ?_) (Or.inl ?_)
  · obtain ⟨other, found, standsThere, rfl⟩ := mem_latticeBlocks.mp member
    rw [pos_blockFor] at there
    subst there
    rw [stands.unique standsThere]
  · exact ⟨_, mem_latticeBlocks.mpr ⟨pos, behavior, stands, rfl⟩, pos_blockFor pos behavior⟩

/-- A cell where nothing stands stays as it was. -/
theorem cell_of_nothing {pos : Pos} (none : ∀ behavior, ¬Stands rows gates pos behavior) :
    grid.cell pos = vacant.cell pos := by
  refine VoxelGrid.cell_setBlocks set (fun placement member there => ?_) (Or.inr rfl)
  obtain ⟨other, found, stands, rfl⟩ := mem_latticeBlocks.mp member
  rw [pos_blockFor] at there
  exact (none found (there ▸ stands)).elim

end Built

/-- What is built without overflow is a lattice with all lamps unlit. -/
theorem isLattice_of_built {rows gates : UInt32} {grid : VoxelGrid (World ω)}
    (width : 2 * gates.toNat + 3 < UInt32.size) (depth : 2 * rows.toNat < UInt32.size)
    (built : gateLattice rows gates = .ok grid) : IsLattice rows.toNat gates.toNat 0 grid := by
  obtain ⟨_, types, vacant, made, same, air, set⟩ := gateLattice_ok width depth built
  have catalog : grid.catalog = types := (VoxelGrid.catalog_setBlocks set).trans same
  have forward : ∀ pos behavior, Stands rows.toNat gates.toNat pos behavior →
      grid.behavior pos = some behavior := by
    intro pos behavior stands
    rw [VoxelGrid.behavior, cell_of_stands set stands, catalog]
    exact behavior_blockFor made stands
  refine ⟨fun pos behavior => ⟨fun there => ?_, forward pos behavior⟩, fun pos => ?_,
    fun pos stands => ?_, fun row below => ?_⟩
  · by_cases some : ∃ other, Stands rows.toNat gates.toNat pos other
    · obtain ⟨other, stands⟩ := some
      rw [forward pos other stands] at there
      exact Option.some.inj there ▸ stands
    · rw [VoxelGrid.behavior, cell_of_nothing set fun other stands => some ⟨other, stands⟩, air,
        Cell.air, Catalog.behavior_air] at there
      cases there
  · by_cases some : ∃ behavior, Stands rows.toNat gates.toNat pos behavior
    · obtain ⟨behavior, stands⟩ := some
      rw [cell_of_stands set stands]
      cases stands <;> rfl
    · rw [cell_of_nothing set fun other stands => some ⟨other, stands⟩, air]
      rfl
  · rw [cell_of_stands set stands]
    rfl
  · rw [cell_of_stands set (.lamp below)]
    rfl

/-- The lamps of a lattice are at the ends of its rows, in their order. -/
theorem latticeLamps_eq {rows gates : UInt32} (width : 2 * gates.toNat + 3 ≤ 1024)
    (depth : 2 * rows.toNat < UInt32.size) : latticeLamps rows gates =
      (List.range rows.toNat).map fun (row : Nat) => ⟨2 * gates.toNat + 2, 0, 2 * row⟩ := by
  have small : 2 * gates.toNat < UInt32.size := by simp only [UInt32.size]; omega
  have inner : (2 * (gates.toNat : Int)).bmod (2 ^ 32) = 2 * gates.toNat :=
    Int.bmod_eq_of_le (by omega) (by omega)
  have place : (2 * gates.toInt32 + 2).toInt = 2 * gates.toNat + 2 := by
    rw [Int32.toInt_add, Int32.toInt_mul, toInt_toInt32 small,
      show (2 : Int32).toInt = 2 from rfl, inner]
    exact Int.bmod_eq_of_le (by omega) (by omega)
  rw [latticeLamps, place, countOf_eq depth]

end Profile

end VoxelCircuit

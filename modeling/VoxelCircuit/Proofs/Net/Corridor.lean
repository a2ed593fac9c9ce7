import Mathlib.Tactic.Common
import VoxelCircuit.Grid.Cluster
import VoxelCircuit.Grid.World
import VoxelCircuit.Net.Run

/-! # Corridors

A corridor is a straight line of cells with nothing but wire between its ends. The
run from a face comes to a block exactly when a corridor leads there
(`VoxelCircuit.Grid.facing?_eq_some_iff`). A corridor read backwards is a corridor,
so facing is mutual between blocks within the bounds
(`VoxelCircuit.Grid.facing?_symm`).

A grid is enclosed when no block outside its bounds has a behavior. Voxel grids
are; a grid seen through narrower bounds need not be, and there facing may be
one-sided.
-/

namespace VoxelCircuit.Grid

variable {γ : Type} [Grid γ]

/-- A straight line from one cell to another with only wire between them, all of it
within the bounds. -/
inductive Corridor (grid : γ) (direction : Direction) : Pos → Pos → Prop
  | step (pos : Pos) : Corridor grid direction pos (pos.step direction)
  | through {pos wire : Pos} (before : Corridor grid direction pos wire)
      (inside : wire ∈ bounds grid) (isWire : behavior grid wire = some .wire) :
      Corridor grid direction pos (wire.step direction)

namespace Corridor

variable {grid : γ} {direction : Direction} {pos next last : Pos}

/-- A corridor that another one goes on from through wire makes one corridor with it. -/
theorem trans (corridor : Corridor grid direction pos next) (inside : next ∈ bounds grid)
    (isWire : behavior grid next = some .wire) (rest : Corridor grid direction next last) :
    Corridor grid direction pos last := by
  induction rest with
  | step => exact .through corridor inside isWire
  | through _ between passes ih => exact .through ih between passes

/-- A wire in front of a corridor makes it longer. -/
theorem cons (inside : pos.step direction ∈ bounds grid)
    (isWire : behavior grid (pos.step direction) = some .wire)
    (rest : Corridor grid direction (pos.step direction) last) :
    Corridor grid direction pos last :=
  (Corridor.step pos).trans inside isWire rest

/-- A corridor leads to the next cell, or through wire there. -/
theorem head (corridor : Corridor grid direction pos last) :
    last = pos.step direction ∨
      (pos.step direction ∈ bounds grid ∧ behavior grid (pos.step direction) = some .wire ∧
        Corridor grid direction (pos.step direction) last) := by
  induction corridor with
  | step => exact Or.inl rfl
  | through _ inside isWire ih =>
      rcases ih with rfl | ⟨first, passes, rest⟩
      · exact Or.inr ⟨inside, isWire, .step _⟩
      · exact Or.inr ⟨first, passes, .through rest inside isWire⟩

/-- A corridor read backwards is a corridor. -/
theorem reverse (corridor : Corridor grid direction pos last) :
    Corridor grid direction.opposite last pos := by
  induction corridor with
  | step =>
      have back : Corridor grid direction.opposite (pos.step direction) _ :=
        .step (pos.step direction)
      rwa [Pos.step_opposite] at back
  | @through wire _ inside isWire ih =>
      apply cons
      · rwa [Pos.step_opposite]
      · rwa [Pos.step_opposite]
      · rwa [Pos.step_opposite]

end Corridor

/-- A block is more than wire exactly if it has a behavior that is not wire. -/
theorem activeBeyondWire_iff {grid : γ} {pos : Pos} :
    activeBeyondWire grid pos = true ↔
      ∃ found, behavior grid pos = some found ∧ found.isWire = false := by
  unfold activeBeyondWire
  cases behavior grid pos <;> simp

/-- A block that is more than wire has a behavior. -/
theorem active_of_activeBeyondWire {grid : γ} {pos : Pos}
    (beyond : activeBeyondWire grid pos = true) : active grid pos = true := by
  obtain ⟨found, there, _⟩ := activeBeyondWire_iff.mp beyond
  rw [active, there]
  rfl

/-- A run looks at the next cell, and goes on from there if it is wire. -/
theorem run_eq (grid : γ) (pos : Pos) (direction : Direction) :
    run grid ⟨pos, direction⟩ =
      if pos.step direction ∈ bounds grid then
        match behavior grid (pos.step direction) with
        | none => .broken
        | some found =>
          if found.isWire then
            let rest := run grid ⟨pos.step direction, direction⟩
            ⟨pos.step direction :: rest.wires, rest.arrival⟩
          else ⟨[], some (pos.step direction)⟩
      else .broken := by
  by_cases inside : pos.step direction ∈ bounds grid
  · rw [run, Box.reach_step inside, runWithin]
    rfl
  · rw [run, if_neg inside]
    cases (bounds grid).reach pos direction with
    | zero => rfl
    | succ steps => rw [runWithin, if_neg inside]

/-- A run breaks off at once in front of a cell that is out of bounds or has no behavior. -/
theorem run_of_nothing {grid : γ} {pos : Pos} {direction : Direction}
    (nothing : pos.step direction ∈ bounds grid → behavior grid (pos.step direction) = none) :
    run grid ⟨pos, direction⟩ = .broken := by
  rw [run_eq]
  split
  · rename_i inside
    rw [nothing inside]
  · rfl

section Inside

variable {grid : γ} {pos : Pos} {direction : Direction}
  (inside : pos.step direction ∈ bounds grid)
include inside

/-- A run goes on through wire. -/
theorem run_of_wire (isWire : behavior grid (pos.step direction) = some .wire) :
    run grid ⟨pos, direction⟩ =
      ⟨pos.step direction :: (run grid ⟨pos.step direction, direction⟩).wires,
        (run grid ⟨pos.step direction, direction⟩).arrival⟩ := by
  rw [run_eq, if_pos inside, isWire]
  rfl

/-- A run comes to what is not wire. -/
theorem run_of_block {found : Behavior} (there : behavior grid (pos.step direction) = some found)
    (notWire : found.isWire = false) :
    run grid ⟨pos, direction⟩ = ⟨[], some (pos.step direction)⟩ := by
  rw [run_eq, if_pos inside, there]
  simp only [notWire, Bool.false_eq_true, if_false]

end Inside

/-- What holds in front of a cell where runs break off, in front of a block, and in front of a
wire if it holds behind that, holds wherever a run starts. -/
theorem run_induction (grid : γ) (direction : Direction) {motive : Pos → Prop}
    (nothing : ∀ pos, (pos.step direction ∈ bounds grid →
      behavior grid (pos.step direction) = none) → motive pos)
    (wire : ∀ pos, pos.step direction ∈ bounds grid →
      behavior grid (pos.step direction) = some .wire → motive (pos.step direction) → motive pos)
    (block : ∀ pos found, pos.step direction ∈ bounds grid →
      behavior grid (pos.step direction) = some found → found.isWire = false → motive pos)
    (pos : Pos) : motive pos := by
  induction far : (bounds grid).reach pos direction using Nat.strongRecOn
    generalizing pos with
  | _ steps ih =>
      by_cases inside : pos.step direction ∈ bounds grid
      · cases there : behavior grid (pos.step direction) with
        | none => exact nothing pos fun _ => there
        | some found =>
            by_cases isWire : found.isWire = true
            · obtain rfl : found = .wire := of_decide_eq_true isWire
              have nearer : (bounds grid).reach (pos.step direction) direction < steps := by
                rw [Box.reach_step inside] at far
                omega
              exact wire pos inside there (ih _ nearer _ rfl)
            · exact block pos found inside there (Bool.eq_false_iff.mpr isWire)
      · exact nothing pos fun within => (inside within).elim

/-- A run that comes to a block follows a corridor. -/
theorem runWithin_arrival {grid : γ} {direction : Direction} {steps : Nat} {pos last : Pos}
    (arrives : (runWithin grid direction steps pos).arrival = some last) :
    Corridor grid direction pos last ∧ last ∈ bounds grid ∧
      activeBeyondWire grid last = true := by
  induction steps generalizing pos with
  | zero => simp [runWithin, Run.broken] at arrives
  | succ steps ih =>
      rw [runWithin] at arrives
      by_cases inside : pos.step direction ∈ bounds grid
      · simp only [inside, ↓reduceIte] at arrives
        cases there : behavior grid (pos.step direction) with
        | none => simp [there, Run.broken] at arrives
        | some found =>
            simp only [there] at arrives
            by_cases isWire : found.isWire = true
            · simp only [isWire, ↓reduceIte] at arrives
              obtain ⟨rest, within, active⟩ := ih arrives
              have passes : found = .wire := of_decide_eq_true isWire
              subst passes
              exact ⟨.cons inside there rest, within, active⟩
            · simp only [isWire, Bool.false_eq_true, ↓reduceIte, Option.some.injEq] at arrives
              subst arrives
              exact ⟨.step pos, inside,
                activeBeyondWire_iff.mpr ⟨found, there, Bool.eq_false_iff.mpr isWire⟩⟩
      · simp [inside, Run.broken] at arrives

/-- A run with as many steps as the bounds allow comes to the end of a corridor. -/
theorem arrival_of_corridor {grid : γ} {direction : Direction} {steps : Nat} {pos last : Pos}
    (enough : (bounds grid).reach pos direction ≤ steps)
    (corridor : Corridor grid direction pos last) (within : last ∈ bounds grid)
    (active : activeBeyondWire grid last = true) :
    (runWithin grid direction steps pos).arrival = some last := by
  induction steps generalizing pos with
  | zero =>
      have inside : pos.step direction ∈ bounds grid := by
        rcases corridor.head with rfl | ⟨inside, _, _⟩
        · exact within
        · exact inside
      rw [Box.reach_step inside] at enough
      omega
  | succ steps ih =>
      rw [runWithin]
      rcases corridor.head with rfl | ⟨inside, isWire, rest⟩
      · obtain ⟨found, there, notWire⟩ := activeBeyondWire_iff.mp active
        simp only [within, ↓reduceIte, there, notWire, Bool.false_eq_true]
      · have nearer : (bounds grid).reach (pos.step direction) direction ≤ steps := by
          rw [Box.reach_step inside] at enough
          omega
        simp only [inside, ↓reduceIte, isWire, Behavior.isWire, decide_true]
        exact ih nearer rest

/-- A face looks along a corridor at another when the run from it comes there. -/
theorem facing?_eq_some_iff {grid : γ} {face target : Face} :
    facing? grid face = some target ↔
      Corridor grid face.direction face.pos target.pos ∧ target.pos ∈ bounds grid ∧
        activeBeyondWire grid target.pos = true ∧
        target.direction = face.direction.opposite := by
  rw [facing?, Option.map_eq_some_iff]
  constructor
  · rintro ⟨last, arrives, rfl⟩
    obtain ⟨corridor, within, active⟩ := runWithin_arrival arrives
    exact ⟨corridor, within, active, rfl⟩
  · rintro ⟨corridor, within, active, turned⟩
    refine ⟨target.pos, arrival_of_corridor (Nat.le_refl _) corridor within active, ?_⟩
    rw [← turned]

/-- Facing is mutual, seen from a block within the bounds that is not wire. -/
theorem facing?_symm {grid : γ} {face target : Face} (faces : facing? grid face = some target)
    (within : face.pos ∈ bounds grid) (active : activeBeyondWire grid face.pos = true) :
    facing? grid target = some face := by
  obtain ⟨corridor, _, _, turned⟩ := facing?_eq_some_iff.mp faces
  apply facing?_eq_some_iff.mpr
  rw [turned, Direction.opposite_opposite]
  exact ⟨corridor.reverse, within, active, rfl⟩

/-- No face looks at itself. -/
theorem facing?_ne {grid : γ} {face target : Face} (faces : facing? grid face = some target) :
    target ≠ face := by
  intro same
  have turned := (facing?_eq_some_iff.mp faces).2.2.2
  rw [same] at turned
  exact face.direction.opposite_ne turned.symm

/-- No block outside the bounds of the grid has a behavior. -/
def Enclosed (grid : γ) : Prop :=
  ∀ pos, pos ∉ bounds grid → behavior grid pos = none

/-- In an enclosed grid the blocks with a behavior lie within the bounds. -/
theorem Enclosed.mem_bounds {grid : γ} (enclosed : Enclosed grid) {pos : Pos}
    (present : active grid pos = true) : pos ∈ bounds grid := by
  by_contra outside
  rw [active, enclosed pos outside] at present
  cases present

/-- In an enclosed grid the blocks that are more than wire lie within the bounds. -/
theorem Enclosed.inside {grid : γ} (enclosed : Enclosed grid) {pos : Pos}
    (active : activeBeyondWire grid pos = true) : pos ∈ bounds grid :=
  enclosed.mem_bounds (active_of_activeBeyondWire active)

/-- Voxel grids are enclosed. -/
theorem enclosed_voxel {ω : Type} [Grid ω] (grid : VoxelGrid (World ω)) :
    Enclosed (World.voxel grid) := fun _ outside => VoxelGrid.behavior_of_not_mem outside

end VoxelCircuit.Grid

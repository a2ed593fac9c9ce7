import VoxelCircuit.Layout.EndlessChip
import VoxelCircuit.Proofs.Circuit.Compile
import VoxelCircuit.Proofs.Net.Pairing

/-! # Voxel grids compile

Tracing is the only part of a compilation that can fail on a cluster, and tracing an
enclosed grid does not fail. So all circuits of a voxel grid compile as long as the
grids inside its chips are voxel grids, down to the limit on the depth
(`VoxelCircuit.Circuit.voxelGrid_compiles`). A grid of another kind inside a chip may
see less of itself than it has behaviors for, and there two nets can meet.
-/

namespace VoxelCircuit

/-- A world is a voxel grid, and so are the worlds inside its chips down to some
number of levels further. -/
def World.Voxels {ω : Type} [Grid ω] : (levels : Nat) → World ω → Prop
  | 0, world => ∃ grid, world = voxel grid
  | levels + 1, world => (∃ grid, world = voxel grid) ∧
      ∀ pos interior, Grid.behavior world pos = some .chip →
        Grid.interior world pos = some interior → Voxels levels interior

namespace World

variable {ω : Type} [Grid ω]

private theorem Voxels.exists_voxel {levels : Nat} {world : World ω}
    (voxels : Voxels levels world) :
    ∃ grid, world = voxel grid := by
  cases levels with
  | zero => exact voxels
  | succ levels => exact voxels.1

/-- A voxel grid is one down to a level further than all grids in its catalog are. -/
theorem voxels_succ {levels : Nat} {grid : VoxelGrid (World ω)}
    (below : ∀ type ∈ grid.catalog.types, ∀ interior, type.interior = some interior →
      Voxels levels interior) : Voxels (levels + 1) (voxel grid) := by
  refine ⟨⟨grid, rfl⟩, fun pos interior _ inside => ?_⟩
  obtain ⟨type, found, holds⟩ := Option.bind_eq_some_iff.mp inside
  exact below type (List.mem_of_find?_eq_some found) interior holds

/-- A voxel grid without grids in its catalog is one down to every level. -/
theorem voxels_of_flat {grid : VoxelGrid (World ω)}
    (flat : ∀ type ∈ grid.catalog.types, type.interior = none) (levels : Nat) :
    Voxels levels (voxel grid) := by
  cases levels with
  | zero => exact ⟨grid, rfl⟩
  | succ levels =>
      apply voxels_succ
      intro type member interior holds
      rw [flat type member] at holds
      cases holds

end World

namespace Circuit

/-- A circuit with a member is not empty. -/
theorem isEmpty_joined {γ : Type} {circuit : Circuit γ} {member : Pos}
    (joined : member ∈ circuit.members) : circuit.joined.isEmpty ≠ true := by
  intro vacant
  have none : circuit.members = [] := by
    rw [members, Table.keys, List.isEmpty_iff.mp vacant, List.reverse_nil]
  rw [none] at joined
  cases joined

variable {γ : Type} [Grid γ]

/-- Every effect is found unless a grid inside a chip does not compile. -/
theorem effectFor_succeeds (options : CompileOptions)
    {deeper : Option (γ → Compilation (List (Circuit γ)))} {grid : γ}
    (inner : ∀ pos interior compile, Grid.behavior grid pos = some .chip →
      Grid.interior grid pos = some interior → deeper = some compile →
        ∃ circuits, (compile interior).outcome = .ok circuits)
    (graph : NetGraph) (target : Target) :
    ∃ effect, (effectFor options deeper grid graph target).outcome = .ok effect := by
  cases targetCase options deeper grid target with
  | net id => exact ⟨_, rfl⟩
  | idle passive =>
      rw [effectFor_idle passive]
      exact ⟨none, rfl⟩
  | plain there active notChip =>
      rw [effectFor_plain there active notChip]
      exact ⟨_, rfl⟩
  | skipped chip skips =>
      rw [effectFor_skipped chip skips]
      exact ⟨_, rfl⟩
  | @entered pos interior compile chip holds given =>
      obtain ⟨circuits, compiled⟩ := inner pos interior compile chip holds given
      subst given
      rw [effectFor_entered chip holds]
      exact ⟨_, Compilation.andThen_ok.mpr
        ⟨circuits, Compilation.mapError_ok.mpr compiled, rfl⟩⟩

/-- A circuit with members compiles in an enclosed grid if the effect of each target that it
demands is found. -/
theorem compileWith_of_effects {options : CompileOptions}
    {deeper : Option (γ → Compilation (List (Circuit γ)))} {depth : Nat} {grid : γ}
    {circuit : Circuit γ} (enclosed : Grid.Enclosed grid)
    (found : ∀ graph, Grid.trace grid circuit.members options.recordTraceEdges = .ok graph →
      ∀ target ∈ Grid.demandOrder grid graph circuit.members,
        ∃ effect, (effectFor options deeper grid graph target).outcome = .ok effect)
    {member : Pos} (joined : member ∈ circuit.members) :
    ∃ compiled, (compileWith options deeper depth grid circuit).outcome = .ok compiled := by
  obtain ⟨log, logged⟩ :=
    Grid.traceLog_succeeds enclosed circuit.members options.recordTraceEdges
  have traced : Grid.trace grid circuit.members options.recordTraceEdges =
      .ok (Grid.netGraph grid log) := by
    rw [Grid.trace, logged]
    rfl
  obtain ⟨effects, each⟩ := Compilation.each_succeeds _ (found _ traced)
  unfold compileWith
  simp only [if_neg (isEmpty_joined joined), traced]
  exact ⟨_, Compilation.andThen_ok.mpr ⟨effects, each, Compilation.andThen_ok.mpr ⟨(), rfl, rfl⟩⟩⟩

/-- A circuit with members compiles in an enclosed grid unless a grid inside a chip
does not. -/
theorem compileWith_succeeds {options : CompileOptions}
    {deeper : Option (γ → Compilation (List (Circuit γ)))} {depth : Nat} {grid : γ}
    {circuit : Circuit γ} (enclosed : Grid.Enclosed grid)
    (inner : ∀ pos interior compile, Grid.behavior grid pos = some .chip →
      Grid.interior grid pos = some interior → deeper = some compile →
        ∃ circuits, (compile interior).outcome = .ok circuits)
    {member : Pos} (joined : member ∈ circuit.members) :
    ∃ compiled, (compileWith options deeper depth grid circuit).outcome = .ok compiled :=
  compileWith_of_effects enclosed
    (fun graph _ target _ => effectFor_succeeds options inner graph target) joined

/-- All circuits of a world of voxel grids compile, with as many levels as it is made of
voxel grids. -/
theorem compileLevels_succeeds {ω : Type} [Grid ω] (options : CompileOptions) (levels depth : Nat)
    {world : World ω} (voxels : world.Voxels levels) :
    ∃ circuits, (compileLevels options levels depth world).outcome = .ok circuits := by
  induction levels generalizing depth world with
  | zero =>
      obtain ⟨grid, rfl⟩ := voxels.exists_voxel
      refine Compilation.each_succeeds _ fun cluster listed => ?_
      obtain ⟨member, joined, _⟩ := List.any_eq_true.mp (List.mem_filter.mp listed).2
      exact compileWith_succeeds (Grid.enclosed_voxel grid) (by simp) (mem_ofMembers.mpr joined)
  | succ levels ih =>
      obtain ⟨grid, rfl⟩ := voxels.exists_voxel
      refine Compilation.each_succeeds _ fun cluster listed => ?_
      obtain ⟨member, joined, _⟩ := List.any_eq_true.mp (List.mem_filter.mp listed).2
      refine compileWith_succeeds (Grid.enclosed_voxel grid) ?_ (mem_ofMembers.mpr joined)
      intro pos interior compile chip inside same
      cases same
      exact ih (depth + 1) (voxels.2 pos interior chip inside)

/-- A circuit of a voxel grid compiles if the grids inside its chips are voxel grids, down to the
limit on the depth. -/
theorem compile_succeeds {ω : Type} [Grid ω] {options : CompileOptions} {depth : Nat}
    {grid : VoxelGrid (World ω)} {source : Circuit (World ω)} {member : Pos}
    (joined : member ∈ source.members)
    (voxels : World.Voxels (options.maxEmbedDepth - depth) (.voxel grid)) :
    ∃ circuit, (compile options depth (World.voxel grid) source).outcome = .ok circuit := by
  refine compileWith_succeeds (Grid.enclosed_voxel grid) ?_ joined
  intro pos interior compile chip inside deeper
  by_cases room : depth < options.maxEmbedDepth
  · rw [if_pos room] at deeper
    cases deeper
    obtain ⟨levels, same⟩ : ∃ levels, options.maxEmbedDepth - depth = levels + 1 :=
      ⟨options.maxEmbedDepth - (depth + 1), by omega⟩
    rw [same] at voxels
    have below : options.maxEmbedDepth - (depth + 1) = levels := by omega
    exact compileLevels_succeeds options _ _ (below ▸ voxels.2 pos interior chip inside)
  · rw [if_neg room] at deeper
    cases deeper

/-- **Voxel grids compile.** Tracing any blocks of a voxel grid comes to its end, and on
the way no run comes to a face of another net. So compiling all circuits of the grid
succeeds with every choice of options and at every depth, when the grids inside its
chips are voxel grids down to the limit on the depth. -/
theorem voxelGrid_compiles {ω : Type} [Grid ω] (grid : VoxelGrid (World ω)) :
    (∀ members recordEdges,
      (∃ log, Grid.TraceReaches (World.voxel grid) recordEdges members ⟨[], [], log⟩ ∧
        Grid.trace (World.voxel grid) members recordEdges =
          .ok (Grid.netGraph (World.voxel grid) log)) ∧
      ∀ roots net face rest log target existing,
        Grid.TraceReaches (World.voxel grid) recordEdges members
          ⟨roots, .follow net face :: rest, log⟩ →
        Grid.facing? (World.voxel grid) face = some target →
          log.claimed? target = some existing → existing = net) ∧
    ∀ options depth, World.Voxels (options.maxEmbedDepth - depth) (.voxel grid) →
      ∃ circuits, (compileAll options depth (World.voxel grid)).outcome = .ok circuits := by
  have enclosed := Grid.enclosed_voxel grid
  refine ⟨fun members recordEdges => ⟨?_, ?_⟩, fun options depth voxels => ?_⟩
  · obtain ⟨log, traced⟩ := Grid.traceLog_succeeds enclosed members recordEdges
    exact ⟨log, Grid.traceLog_ok traced, by rw [Grid.trace, traced]; rfl⟩
  · intro roots net face rest log target existing reached faces claimed
    exact (reached.paired enclosed).same_net enclosed faces claimed
  · exact compileLevels_succeeds options _ depth voxels

/-- A cell of air and a chip of such cells. -/
def nestedAir : VoxelGrid (World EndlessChip) :=
  let extent := (GridExtent.ofSides? 1 1 1).get rfl
  ⟨⟨[⟨⟨30⟩, "chip", some .chip, some (.voxel ⟨.onlyAir, extent, #[.air], rfl⟩)⟩]⟩, extent,
    #[⟨⟨30⟩, .identity, 0⟩], rfl⟩

/-- A chip with a voxel grid inside compiles with the usual limit on the depth. -/
theorem nestedAir_compiles :
    World.Voxels 8 (.voxel nestedAir) ∧
      ∃ circuits, (compileAll {} 0 (World.voxel nestedAir)).outcome = .ok circuits := by
  have voxels : World.Voxels 8 (.voxel nestedAir) := by
    apply World.voxels_succ
    intro type member interior holds
    rcases List.mem_cons.mp member with rfl | added
    · cases holds
    · rw [List.mem_singleton.mp added] at holds
      cases holds
      refine World.voxels_of_flat (fun type member => ?_) 7
      rw [List.mem_singleton.mp member]
      rfl
  exact ⟨voxels, (voxelGrid_compiles nestedAir).2 {} 0 voxels⟩

end Circuit

end VoxelCircuit

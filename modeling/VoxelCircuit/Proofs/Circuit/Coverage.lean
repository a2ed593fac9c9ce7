import VoxelCircuit.Layout.Basic
import VoxelCircuit.Layout.EndlessChip
import VoxelCircuit.Proofs.Circuit.Compile
import VoxelCircuit.Proofs.Net.Loops

/-! # What the nets of circuits cover

The nets of a circuit in a voxel grid cover what is joined unless a junction is split
while they are traced (`VoxelCircuit.Circuit.circuit_netsCover_iff`). That does happen:
a junction on a loop of blocks may be left through one face and come back to through
another before it is done with. Off such loops nothing is split
(`VoxelCircuit.Circuit.circuit_netsCover_of_no_loop`).
-/

namespace VoxelCircuit.Circuit

open Relation

/-- **Circuits cover what is joined unless a junction is split.** Each circuit of a voxel
grid has a driving and a reading face on one net whenever they are joined, and all
attached faces of each junction on one net, exactly when the trace of its members comes
to no junction of which another net holds a face. -/
theorem circuit_netsCover_iff {ω : Type} [Grid ω] {grid : VoxelGrid (World ω)}
    {options : CompileOptions} {depth : Nat} {circuits : List (Circuit (World ω))}
    {circuit : Circuit (World ω)}
    (compiled : (compileAll options depth (World.voxel grid)).outcome = .ok circuits)
    (member : circuit ∈ circuits) :
    Grid.NetsCover (World.voxel grid) circuit.members circuit.graph ↔
      ∀ state, Grid.TraceReaches (World.voxel grid) options.recordTraceEdges circuit.members state →
        ¬Grid.SplitsJunction (World.voxel grid) state :=
  Grid.netsCover_iff (Grid.enclosed_voxel grid) (compiled_of_mem_compileAll compiled member).traced

/-- Without a junction on a loop through a block that is no junction, each circuit of a
voxel grid covers what is joined. -/
theorem circuit_netsCover_of_no_loop {ω : Type} [Grid ω] {grid : VoxelGrid (World ω)}
    {options : CompileOptions} {depth : Nat} {circuits : List (Circuit (World ω))}
    {circuit : Circuit (World ω)}
    (compiled : (compileAll options depth (World.voxel grid)).outcome = .ok circuits)
    (member : circuit ∈ circuits)
    (noLoop : ∀ pos, grid.behavior pos = some .junction → ¬Grid.OnLoop (World.voxel grid) pos) :
    Grid.NetsCover (World.voxel grid) circuit.members circuit.graph :=
  Grid.netsCover_of_no_loop (Grid.enclosed_voxel grid) noLoop
    (compiled_of_mem_compileAll compiled member).traced

/-- A lit pad beside a junction, and on the way around from the junction's +X face to its
+Y face another pad, a third one on top of it, and an indicator. -/
def loopedJunction : VoxelGrid (World EndlessChip) :=
  ⟨⟨Layout.standardTypes⟩, (GridExtent.ofSides? 3 2 1).get rfl,
    #[⟨⟨2⟩, .identity, 1⟩, ⟨⟨4⟩, .identity, 0⟩, ⟨⟨2⟩, .identity, 0⟩,
      .air, ⟨⟨3⟩, .identity, 0⟩, ⟨⟨2⟩, .identity, 0⟩], rfl⟩

/-- The condition for the circuit around the looped junction. -/
theorem loopedJunction_netsCover_iff :
    ∃ circuits circuit, (compileAll {} 0 (World.voxel loopedJunction)).outcome = .ok circuits ∧
      circuit ∈ circuits ∧
        (Grid.NetsCover (World.voxel loopedJunction) circuit.members circuit.graph ↔
          ∀ state, Grid.TraceReaches (World.voxel loopedJunction) true circuit.members state →
            ¬Grid.SplitsJunction (World.voxel loopedJunction) state) := by
  obtain ⟨circuits, compiled, count⟩ :=
    Compilation.exists_ok (compileAll {} 0 (World.voxel loopedJunction))
      List.length 1 (by decide +kernel)
  obtain ⟨circuit, rfl⟩ := List.length_eq_one_iff.mp count
  exact ⟨_, circuit, compiled, List.mem_singleton_self _,
    circuit_netsCover_iff compiled (List.mem_singleton_self _)⟩

/-- The nets do not always cover what is joined: the lit pad drives a net that the
indicator, joined to it across the looped junction, does not read. -/
theorem loopedJunction_not_covered :
    ∃ circuits circuit, (compileAll {} 0 (World.voxel loopedJunction)).outcome = .ok circuits ∧
      circuit ∈ circuits ∧
        circuit.graph.netAt ⟨⟨0, 0, 0⟩, .posX⟩ ≠ circuit.graph.netAt ⟨⟨1, 1, 0⟩, .negY⟩ ∧
          ¬Grid.NetsCover (World.voxel loopedJunction) circuit.members circuit.graph := by
  obtain ⟨circuits, compiled, looks⟩ :=
    Compilation.exists_ok (compileAll {} 0 (World.voxel loopedJunction))
      (List.map fun circuit =>
        (circuit.members, circuit.graph.netAt ⟨⟨0, 0, 0⟩, .posX⟩,
          circuit.graph.netAt ⟨⟨1, 1, 0⟩, .negY⟩))
      ([([⟨0, 0, 0⟩, ⟨1, 0, 0⟩, ⟨2, 0, 0⟩, ⟨1, 1, 0⟩, ⟨2, 1, 0⟩], some ⟨0⟩, some ⟨10⟩)])
      (by decide +kernel)
  obtain ⟨circuit, rfl, look⟩ := List.map_eq_singleton_iff.mp looks
  simp only [Prod.mk.injEq] at look
  obtain ⟨members, driver, reader⟩ := look
  refine ⟨_, circuit, compiled, List.mem_singleton_self _, by rw [driver, reader]; decide, ?_⟩
  intro cover
  have joined : ReflTransGen (Grid.Joined (World.voxel loopedJunction)) ⟨⟨0, 0, 0⟩, .posX⟩
      ⟨⟨1, 1, 0⟩, .negY⟩ := by
    have toJunction : Grid.Joined (World.voxel loopedJunction) ⟨⟨0, 0, 0⟩, .posX⟩
        ⟨⟨1, 0, 0⟩, .negX⟩ := Or.inl (by decide +kernel)
    have across : Grid.Joined (World.voxel loopedJunction) ⟨⟨1, 0, 0⟩, .negX⟩
        ⟨⟨1, 0, 0⟩, .posY⟩ := Or.inr (Or.inr ⟨rfl, by decide +kernel⟩)
    have onward : Grid.Joined (World.voxel loopedJunction) ⟨⟨1, 0, 0⟩, .posY⟩
        ⟨⟨1, 1, 0⟩, .negY⟩ := Or.inl (by decide +kernel)
    exact ((ReflTransGen.single toJunction).tail across).tail onward
  obtain ⟨id, _, _, driverNet, readerNet⟩ := cover.connected _ _ (by rw [members]; decide)
    (by rw [members]; decide) (by decide +kernel) (by decide +kernel) joined
  rw [driver] at driverNet
  rw [reader, ← driverNet] at readerNet
  exact absurd readerNet (by decide)

end VoxelCircuit.Circuit

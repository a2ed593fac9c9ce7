import VoxelCircuit.Proofs.Circuit.Feedback
import VoxelCircuit.Proofs.Net.Containment
import VoxelCircuit.Proofs.Net.Pairs

/-! # Evaluation without junctions

Where nets are pairs of linked faces, a block feeds those at the other ends of its links
(`VoxelCircuit.Grid.NetsPair.feeds_iff`), and at the end of an evaluation a face that reads has
the signal that was driven at the other end
(`VoxelCircuit.Circuit.Compiled.signal_of_links`).
-/

namespace VoxelCircuit

variable {γ : Type} [Grid γ] {grid : γ}

namespace Grid

variable {members : List Pos} {graph : NetGraph}

namespace NetsPair

variable (pairs : NetsPair grid members graph)
include pairs

/-- A net has one face that drives it and one that reads it. -/
theorem ends {id : NetId} {net : Net} (kept : graph.net? id = some net) :
    ∃ driver reader, Links grid driver reader ∧ net.drivers = [driver] ∧
      graph.netAt driver = some id ∧ graph.netAt reader = some id ∧
      ∀ face, graph.netAt face = some id → ((roleAt grid face).drives = true → face = driver) ∧
        ((roleAt grid face).reads = true → face = reader) := by
  obtain ⟨driver, reader, links, drivers, both⟩ := pairs.pair id net kept
  refine ⟨driver, reader, links, drivers, (both driver).mpr (Or.inl rfl),
    (both reader).mpr (Or.inr rfl), fun face attached => ⟨fun drives => ?_, fun reads => ?_⟩⟩
  · refine ((both face).mp attached).resolve_right fun same => ?_
    rw [same, links.reads] at drives
    cases drives
  · refine ((both face).mp attached).resolve_left fun same => ?_
    rw [same, links.drives] at reads
    cases reads

/-- A block feeds those at the other ends of its links. -/
theorem feeds_iff (graphOf : GraphOf grid graph)
    (among : ∀ face id, graph.netAt face = some id → face.pos ∈ members) {source pos : Pos} :
    Feeds grid graph source pos ↔ pos ∈ members ∧
      ∃ driver reader, Links grid driver reader ∧ driver.pos = source ∧ reader.pos = pos := by
  constructor
  · rintro ⟨id, ⟨driving, drivingAt, drives⟩, reading, readingAt, reads⟩
    obtain ⟨net, kept⟩ := graphOf.kept drivingAt
    obtain ⟨driver, reader, links, _, _, _, only⟩ := pairs.ends kept
    have first := (only _ drivingAt).1 drives
    have second := (only _ readingAt).2 reads
    exact ⟨among _ id readingAt, driver, reader, links, by rw [← first], by rw [← second]⟩
  · rintro ⟨member, driver, reader, links, rfl, rfl⟩
    obtain ⟨id, driverAt, readerAt⟩ := pairs.joined driver reader links (Or.inr member)
    exact ⟨id, ⟨driver.direction, driverAt, by rw [links.drives]; rfl⟩,
      reader.direction, readerAt, by rw [links.reads]; rfl⟩

end NetsPair

end Grid

namespace Circuit.Compiled

variable {circuit : Circuit γ} {start : EvalState γ} {recordEdges : Bool} {pos : Pos}
  {direction : Direction}

/-- A face that reads has the signal that was driven at the other end of its link. -/
theorem signal_of_links (compiled : Compiled grid recordEdges circuit)
    (acyclic : Grid.Acyclic grid circuit.graph) (fresh : start.Fresh)
    (pairs : Grid.NetsPair grid circuit.members circuit.graph) (member : pos ∈ circuit.members)
    {driver : Face}
    (links : Grid.Links grid driver ⟨pos, (Grid.orientation grid pos).transform direction⟩) :
    (Grid.inputsAt grid circuit.graph pos).signal (circuit.evaluate start) direction =
      (circuit.evaluate start).values.get (.output driver) := by
  have graphOf := Grid.graphOf_trace compiled.traced
  obtain ⟨id, driverAt, readerAt⟩ := pairs.joined _ _ links (Or.inr member)
  obtain ⟨net, kept⟩ := graphOf.kept driverAt
  obtain ⟨other, reader, _, drivers, _, _, only⟩ := pairs.ends kept
  obtain rfl : driver = other := (only driver driverAt).1 (by rw [links.drives]; rfl)
  have attached : (Grid.inputsAt grid circuit.graph pos).get direction = some id :=
    Grid.inputsAt_get.mpr ⟨readerAt, by rw [links.reads]; rfl⟩
  rw [Inputs.signal, attached, EvalState.netSignal, compiled.netSignal_eq acyclic fresh kept,
    drivers, Values.get]
  cases driven : (circuit.evaluate start).values.get? (.output driver) <;>
    simp [driven, Signal.merge]

/-- A face that no face drives has no signal. -/
theorem signal_of_no_links (compiled : Compiled grid recordEdges circuit)
    (pairs : Grid.NetsPair grid circuit.members circuit.graph)
    (none : ∀ driver,
      ¬Grid.Links grid driver ⟨pos, (Grid.orientation grid pos).transform direction⟩)
    (state : EvalState γ) :
    (Grid.inputsAt grid circuit.graph pos).signal state direction = .null := by
  cases attached : (Grid.inputsAt grid circuit.graph pos).get direction with
  | none => rw [Inputs.signal, attached, EvalState.netSignal]
  | some id =>
      obtain ⟨readerAt, reads⟩ := Grid.inputsAt_get.mp attached
      obtain ⟨net, kept⟩ := (Grid.graphOf_trace compiled.traced).kept readerAt
      obtain ⟨driver, reader, links, _, _, _, only⟩ := pairs.ends kept
      rw [← (only _ readerAt).2 reads] at links
      exact (none driver links).elim

end Circuit.Compiled

namespace Circuit

/-- A compiled circuit of a cluster without junctions. -/
structure Plain (options : CompileOptions) (depth : Nat) (grid : γ) (circuit : Circuit γ) :
    Prop where
  compiled : ∃ source, (compile options depth grid source).outcome = .ok circuit
  enclosed : Grid.Enclosed grid
  free : ∀ pos, Grid.behavior grid pos ≠ some .junction
  closed : Grid.Closed grid circuit.members
  pairs : Grid.NetsPair grid circuit.members circuit.graph

namespace Plain

variable {options : CompileOptions} {depth : Nat} {grid : γ} {circuit : Circuit γ}

/-- A plain circuit was compiled. -/
theorem made (plain : Plain options depth grid circuit) :
    Compiled grid options.recordTraceEdges circuit :=
  plain.compiled.elim fun _ compiled => (compile_ok compiled).2

/-- The graph of a plain circuit is one of its grid. -/
theorem graphOf (plain : Plain options depth grid circuit) : Grid.GraphOf grid circuit.graph :=
  Grid.graphOf_trace plain.made.traced

/-- The nets have no faces but those of members. -/
theorem among (plain : Plain options depth grid circuit) (face : Face) (id : NetId)
    (attached : circuit.graph.netAt face = some id) : face.pos ∈ circuit.members :=
  Grid.netAt_among plain.closed (fun _ member => member) plain.made.traced attached

/-- In a plain circuit a block feeds a member exactly if a face of the one drives what a face of
the other reads. -/
theorem feeds_iff (plain : Plain options depth grid circuit) {source pos : Pos} :
    Grid.Feeds grid circuit.graph source pos ↔ pos ∈ circuit.members ∧
      ∃ driver reader, Grid.Links grid driver reader ∧ driver.pos = source ∧ reader.pos = pos :=
  plain.pairs.feeds_iff plain.graphOf plain.among

end Plain

/-- The circuit of the blocks of a cluster, in whichever order, is plain in a voxel grid without
junctions. -/
theorem plain_of_order {options : CompileOptions} {depth : Nat} {ω : Type} [Grid ω]
    {grid : VoxelGrid (World ω)} (free : ∀ pos, grid.behavior pos ≠ some .junction)
    {cluster joining : List Pos} (listed : cluster ∈ Grid.clusters (World.voxel grid))
    (order : joining.Perm cluster) {circuit : Circuit (World ω)}
    (compiled : (compile options depth (World.voxel grid) (ofMembers joining)).outcome =
      .ok circuit) :
    Plain options depth (World.voxel grid) circuit ∧
      ∀ pos, pos ∈ circuit.members ↔ pos ∈ cluster := by
  obtain ⟨same, made⟩ := compile_ok compiled
  have members : ∀ pos, pos ∈ circuit.members ↔ pos ∈ cluster := by
    intro pos
    rw [same, mem_ofMembers, order.mem_iff]
  have plain : Plain options depth (World.voxel grid) circuit :=
    ⟨⟨_, compiled⟩, Grid.enclosed_voxel grid, free,
      (Grid.clusters_closed listed).1.congr members, Grid.netsPair_of_trace free made.traced⟩
  exact ⟨plain, members⟩

/-- The circuit of a cluster of a voxel grid without junctions is plain. -/
theorem plain_of_cluster {options : CompileOptions} {depth : Nat} {ω : Type} [Grid ω]
    {grid : VoxelGrid (World ω)} (free : ∀ pos, grid.behavior pos ≠ some .junction)
    {cluster : List Pos} (listed : cluster ∈ Grid.clusters (World.voxel grid))
    {circuit : Circuit (World ω)}
    (compiled : (compile options depth (World.voxel grid) (ofMembers cluster)).outcome =
      .ok circuit) :
    Plain options depth (World.voxel grid) circuit ∧
      ∀ pos, pos ∈ circuit.members ↔ pos ∈ cluster :=
  plain_of_order free listed (.refl cluster) compiled

end Circuit

end VoxelCircuit

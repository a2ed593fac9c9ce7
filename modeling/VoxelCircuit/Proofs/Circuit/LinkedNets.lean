import Mathlib.Data.List.Perm.Basic
import VoxelCircuit.Layout.Basic
import VoxelCircuit.Layout.EndlessChip
import VoxelCircuit.Proofs.Circuit.PairedNets
import VoxelCircuit.Proofs.Net.Consistency

/-! # Which nets a circuit has

Without junctions the nets of a circuit can be read off the grid: they are the pairs of a
driving and a reading face at the ends of a straight line of wire
(`VoxelCircuit.Circuit.nets_opposed`). A trace comes to these faces in an order that depends on
the whole layout, from a root, at the end of a run or out of a fan-out; which of these it was
leaves no mark on the nets.
-/

namespace VoxelCircuit

variable {γ : Type} [Grid γ] {grid : γ}

/-- The members of a net from one face to another. -/
def NetMember.pair (driver reader : Face) : List NetMember :=
  [⟨driver, .output⟩, ⟨reader, .input⟩]

namespace Grid

/-- Two faces at the ends of a straight line with nothing but wire between them, whichever of
them it is walked from. -/
structure Opposed (grid : γ) (face other : Face) : Prop where
  turned : other.direction = face.direction.opposite
  way : Corridor grid face.direction face.pos other.pos
  back : Corridor grid other.direction other.pos face.pos

/-- A face looks at the other end of a straight line of wire if there is a block. -/
theorem opposed_of_facing? {face other : Face} (faces : facing? grid face = some other) :
    Opposed grid face other := by
  obtain ⟨corridor, _, _, turned⟩ := facing?_eq_some_iff.mp faces
  exact ⟨turned, corridor, turned ▸ corridor.reverse⟩

/-- The links of a grid are the opposed faces of which one drives and the other reads. -/
theorem links_iff_opposed (enclosed : Enclosed grid) {driver reader : Face} :
    Links grid driver reader ↔ Opposed grid driver reader ∧
      roleAt grid driver = .output ∧ roleAt grid reader = .input := by
  constructor
  · exact fun links => ⟨opposed_of_facing? links.faces, links.drives, links.reads⟩
  · rintro ⟨opposed, drives, reads⟩
    have active : activeBeyondWire grid reader.pos = true :=
      roleAt_ne_none (by rw [reads]; decide)
    exact ⟨facing?_eq_some_iff.mpr ⟨opposed.way, enclosed.inside active, active, opposed.turned⟩,
      drives, reads⟩

namespace NetsPair

variable {members : List Pos} {graph : NetGraph} (pairs : NetsPair grid members graph)
include pairs

/-- The faces of a link are all the faces of its net. -/
theorem netAt_iff_of_links {id : NetId} {net : Net} (kept : graph.net? id = some net)
    {driver reader : Face} (links : Links grid driver reader)
    (driverAt : graph.netAt driver = some id) (readerAt : graph.netAt reader = some id)
    {face : Face} : graph.netAt face = some id ↔ face = driver ∨ face = reader := by
  obtain ⟨first, second, others, _, both⟩ := pairs.pair id net kept
  have drivers : driver = first := by
    refine ((both driver).mp driverAt).resolve_right fun same => ?_
    have reads := others.reads
    rw [← same, links.drives] at reads
    cases reads
  have readers : reader = second := by
    refine ((both reader).mp readerAt).resolve_left fun same => ?_
    have drives := others.drives
    rw [← same, links.reads] at drives
    cases drives
  rw [drivers, readers]
  exact both face

/-- A net at the faces of a link has these two members and no others. -/
theorem members_of_links {recordEdges : Bool}
    (traced : trace grid members recordEdges = .ok graph)
    {id : NetId} {net : Net} (kept : graph.net? id = some net) {driver reader : Face}
    (links : Links grid driver reader) (driverAt : graph.netAt driver = some id)
    (readerAt : graph.netAt reader = some id) :
    net.members.Perm (NetMember.pair driver reader) := by
  have graphOf := graphOf_trace traced
  have distinct := nodup_members traced ((net?_iff_listed traced).mp kept).1
  have apart : (NetMember.pair driver reader).Nodup := by simp [NetMember.pair]
  refine (List.perm_ext_iff_of_nodup distinct apart).mpr fun member => ?_
  obtain ⟨face, role⟩ := member
  rw [graphOf.mem_members kept, pairs.netAt_iff_of_links kept links driverAt readerAt]
  simp only [NetMember.pair, List.mem_cons, List.not_mem_nil, or_false, NetMember.mk.injEq]
  constructor
  · rintro ⟨rfl | rfl, rfl⟩
    · exact Or.inl ⟨rfl, links.drives⟩
    · exact Or.inr ⟨rfl, links.reads⟩
  · rintro (⟨rfl, rfl⟩ | ⟨rfl, rfl⟩)
    · exact ⟨Or.inl rfl, links.drives.symm⟩
    · exact ⟨Or.inr rfl, links.reads.symm⟩

end NetsPair

end Grid

namespace Circuit

/-- **The nets of a circuit without junctions.** In a voxel grid without junctions, each net of
each circuit has two members, a driving and a reading face of blocks of the circuit at the ends
of a straight line of wire; and each two such faces of which one is on a block of the circuit
are the members of a net. -/
theorem nets_opposed {ω : Type} [Grid ω] {options : CompileOptions} {depth : Nat}
    {grid : VoxelGrid (World ω)} (free : ∀ pos, grid.behavior pos ≠ some .junction)
    {circuits : List (Circuit (World ω))}
    (compiled : (compileAll options depth (World.voxel grid)).outcome = .ok circuits)
    {circuit : Circuit (World ω)} (listed : circuit ∈ circuits) :
    (∀ net ∈ circuit.graph.nets, ∃ driver reader,
      Grid.Opposed (World.voxel grid) driver reader ∧
        Grid.roleAt (World.voxel grid) driver = .output ∧
        Grid.roleAt (World.voxel grid) reader = .input ∧
        driver.pos ∈ circuit.members ∧ reader.pos ∈ circuit.members ∧
        net.members.Perm (NetMember.pair driver reader)) ∧
    ∀ driver reader, Grid.Opposed (World.voxel grid) driver reader →
      Grid.roleAt (World.voxel grid) driver = .output →
      Grid.roleAt (World.voxel grid) reader = .input →
      driver.pos ∈ circuit.members ∨ reader.pos ∈ circuit.members →
        ∃ net ∈ circuit.graph.nets, net.members.Perm (NetMember.pair driver reader) := by
  obtain ⟨cluster, among, made⟩ := (mem_compileAll compiled).1 circuit listed
  obtain ⟨plain, _⟩ := plain_of_cluster free among made
  constructor
  · intro net retained
    have kept := (Grid.net?_iff_listed plain.made.traced).mpr ⟨retained, rfl⟩
    obtain ⟨driver, reader, links, _, driverAt, readerAt, _⟩ := plain.pairs.ends kept
    obtain ⟨opposed, drives, reads⟩ := (Grid.links_iff_opposed plain.enclosed).mp links
    exact ⟨driver, reader, opposed, drives, reads,
      plain.among _ _ driverAt, plain.among _ _ readerAt,
      plain.pairs.members_of_links plain.made.traced kept links driverAt readerAt⟩
  · intro driver reader opposed drives reads member
    have links := (Grid.links_iff_opposed plain.enclosed).mpr ⟨opposed, drives, reads⟩
    obtain ⟨id, driverAt, readerAt⟩ := plain.pairs.joined driver reader links member
    obtain ⟨net, kept⟩ := plain.graphOf.kept driverAt
    exact ⟨net, ((Grid.net?_iff_listed plain.made.traced).mp kept).1,
      plain.pairs.members_of_links plain.made.traced kept links driverAt readerAt⟩

/-- A pad wired to a nor block, an indicator on top of this one, and behind it a turned nor
block that drives it from the other side and looks into a wire that leads nowhere. -/
def linkedRow : VoxelGrid (World EndlessChip) :=
  ⟨⟨Layout.standardTypes⟩, .clamped 4 2 1,
    #[⟨⟨2⟩, .identity, 0⟩, ⟨⟨1⟩, .identity, 0⟩, ⟨⟨5⟩, .identity, 0⟩, ⟨⟨5⟩, .ofCodeWrapping 4, 0⟩,
      .air, .air, ⟨⟨3⟩, .identity, 0⟩, ⟨⟨1⟩, .identity, 0⟩], rfl⟩

/-- The row has one circuit with three nets, each between two opposed faces. -/
theorem linkedRow_nets :
    ∃ circuits, (compileAll {} 0 (World.voxel linkedRow)).outcome = .ok circuits ∧
      (circuits.map fun circuit => circuit.graph.nets.length) = [3] ∧
      ∀ circuit ∈ circuits, ∀ net ∈ circuit.graph.nets, ∃ driver reader,
        Grid.Opposed (World.voxel linkedRow) driver reader ∧
          net.members.Perm (NetMember.pair driver reader) := by
  obtain ⟨circuits, compiled, counts⟩ := Compilation.exists_ok
    (compileAll {} 0 (World.voxel linkedRow))
    (fun circuits => circuits.map fun circuit => circuit.graph.nets.length) [3]
    (by decide +kernel)
  refine ⟨circuits, compiled, counts, fun circuit listed net retained => ?_⟩
  have free : ∀ pos, linkedRow.behavior pos ≠ some .junction :=
    Grid.free_of_positions (by decide +kernel)
  obtain ⟨driver, reader, opposed, _, _, _, _, members⟩ :=
    (nets_opposed free compiled listed).1 net retained
  exact ⟨driver, reader, opposed, members⟩

end Circuit

end VoxelCircuit

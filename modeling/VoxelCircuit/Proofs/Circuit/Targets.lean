import VoxelCircuit.Proofs.Circuit.Refresh

/-! # Which targets have an effect

The targets of a pipeline are those that are demanded and have an effect
(`VoxelCircuit.Circuit.Compiled.mem_targets`). What these need has an effect too, and it comes
first except where needs run in a circle
(`VoxelCircuit.Circuit.needs_before_unless_circular`).
-/

namespace VoxelCircuit

open Relation

variable {γ : Type} [Grid γ]

namespace Grid

/-- A block needs the nets attached to its reading faces, and a net needs the blocks with a
driving face on it. -/
inductive Needs (grid : γ) (graph : NetGraph) : Target → Target → Prop
  | reads {pos : Pos} {id : NetId} (reads : Reads grid graph pos id) :
      Needs grid graph (.block pos) (.net id)
  | drives {pos : Pos} {id : NetId} (drives : Drives grid graph pos id) :
      Needs grid graph (.net id) (.block pos)

variable {grid : γ} {graph : NetGraph} {target demanded : Target}

/-- What the search demands is what is needed. -/
theorem needs_iff (graphOf : GraphOf grid graph) :
    Needs grid graph target demanded ↔ Search.Demands (demands grid graph) target demanded := by
  refine ⟨fun needs => ?_, fun demand => ?_⟩
  · cases needs with
    | reads reads => exact mem_demands_block.mpr ⟨_, rfl, reads⟩
    | drives drives => exact (mem_demands_net graphOf).mpr ⟨_, rfl, drives⟩
  · cases target with
    | block pos =>
        obtain ⟨id, rfl, reads⟩ := mem_demands_block.mp demand
        exact .reads reads
    | net id =>
        obtain ⟨pos, rfl, drives⟩ := (mem_demands_net graphOf).mp demand
        exact .drives drives

private theorem Needs.ne (needs : Needs grid graph target demanded) : demanded ≠ target := by
  cases needs <;> exact nofun

/-- What is needed has an effect: attached nets are kept, and wire has no driving face. -/
theorem Needs.hasEffect (graphOf : GraphOf grid graph)
    (needs : Needs grid graph target demanded) : hasEffect grid graph demanded = true := by
  cases needs with
  | reads reads =>
      obtain ⟨_, attached, _⟩ := reads
      exact Option.isSome_iff_exists.mpr (graphOf.kept attached)
  | @drives pos _ drives =>
      obtain ⟨direction, _, drives⟩ := drives
      rw [roleAt] at drives
      rw [Grid.hasEffect, activeBeyondWire]
      cases there : behavior grid pos with
      | none =>
          rw [there] at drives
          cases drives
      | some found =>
          rw [there] at drives
          cases found <;> first | rfl | cases drives

private theorem Demanded.mem_of_needs {members : List Pos} {order : List Target}
    (spec : Demanded grid graph members order) (graphOf : GraphOf grid graph)
    (needs : Needs grid graph target demanded) : demanded ∈ order := by
  cases needs with
  | reads reads =>
      obtain ⟨_, attached, _⟩ := reads
      obtain ⟨net, kept⟩ := graphOf.kept attached
      exact spec.net _ net kept
  | drives drives => exact spec.driver _ _ drives

end Grid

variable {grid : γ} {graph : NetGraph} {circuit : Circuit γ}

namespace Circuit

/-- A target is in the pipeline exactly if it is demanded and has an effect. -/
theorem Compiled.mem_targets {recordEdges : Bool} (compiled : Compiled grid recordEdges circuit)
    {target : Target} : target ∈ circuit.pipeline.map Effect.target ↔
      target ∈ Grid.demandOrder grid circuit.graph circuit.members ∧
        Grid.hasEffect grid circuit.graph target = true := by
  rw [compiled.targets_eq, List.mem_filter]

/-- What comes before a target in a pipeline are the targets with an effect that come before
it in the order of demand. -/
theorem Compiled.split_targets {recordEdges : Bool} (compiled : Compiled grid recordEdges circuit)
    {before after : List Target} {target : Target}
    (split : circuit.pipeline.map Effect.target = before ++ target :: after) :
    ∃ earlier later, Grid.demandOrder grid circuit.graph circuit.members =
      earlier ++ target :: later ∧ before = earlier.filter (Grid.hasEffect grid circuit.graph) := by
  rw [compiled.targets_eq, List.filter_eq_append_iff] at split
  obtain ⟨first, rest, order, rfl, others⟩ := split
  obtain ⟨skipped, later, rfl, passive, _, _⟩ := List.filter_eq_cons_iff.mp others
  refine ⟨first ++ skipped, later, by rw [order, List.append_assoc], ?_⟩
  have none : skipped.filter (Grid.hasEffect grid circuit.graph) = [] :=
    List.filter_eq_nil_iff.mpr passive
  rw [List.filter_append, none, List.append_nil]

/-- **What is needed comes first unless needs run in a circle.** All that a target of a
compiled circuit needs has an effect, and if this effect does not come before that of the
target, then what is needed leads back to the target by a chain of needs. -/
theorem needs_before_unless_circular {options : CompileOptions} {depth : Nat}
    {source : Circuit γ} (compiled : (compile options depth grid source).outcome = .ok circuit)
    {before after : List Target} {target demanded : Target}
    (split : circuit.pipeline.map Effect.target = before ++ target :: after)
    (needs : Grid.Needs grid circuit.graph target demanded) :
    demanded ∈ circuit.pipeline.map Effect.target ∧
      (demanded ∉ before → TransGen (Grid.Needs grid circuit.graph) demanded target) := by
  have made := (compile_ok compiled).2
  have graphOf := Grid.graphOf_trace made.traced
  have spec := Grid.demandOrder_demanded graphOf circuit.members
  have effective := needs.hasEffect graphOf
  refine ⟨made.mem_targets.mpr ⟨spec.mem_of_needs graphOf needs, effective⟩, fun late => ?_⟩
  obtain ⟨earlier, later, order, rfl⟩ := made.split_targets split
  have demand := (Grid.needs_iff graphOf).mp needs
  rcases spec.before earlier target later order demanded demand with early | circle
  · exact (late (List.mem_filter.mpr ⟨early, effective⟩)).elim
  · have chain : ReflTransGen (Grid.Needs grid circuit.graph) demanded target :=
      Relation.ReflTransGen.mono (fun _ _ => (Grid.needs_iff graphOf).mpr) _ _ circle
    exact (reflTransGen_iff_eq_or_transGen.mp chain).resolve_left needs.ne.symm

/-- The members of the circuit of the ring. -/
def ringMembers : List Pos :=
  [⟨2, 0, 0⟩, ⟨0, 0, 0⟩, ⟨1, 0, 0⟩, ⟨1, 1, 0⟩, ⟨2, 1, 0⟩, ⟨3, 1, 0⟩]

/-- The first net of the ring merges before its driver has its turn, which needs that net. -/
theorem inverterRing_needs_late :
    ∃ circuit, (compile {} 0 (World.voxel inverterRing) (ofMembers ringMembers)).outcome =
        .ok circuit ∧
      (∃ after, circuit.pipeline.map Effect.target = [] ++ .net ⟨1⟩ :: after) ∧
      Grid.Needs (World.voxel inverterRing) circuit.graph (.net ⟨1⟩) (.block ⟨2, 0, 0⟩) ∧
      TransGen (Grid.Needs (World.voxel inverterRing) circuit.graph)
        (.block ⟨2, 0, 0⟩) (.net ⟨1⟩) := by
  obtain ⟨circuit, compiled, look⟩ := Compilation.exists_ok
    (compile {} 0 (World.voxel inverterRing) (ofMembers ringMembers))
    (fun circuit => ((circuit.pipeline.map Effect.target).head?,
      circuit.graph.netAt ⟨⟨2, 0, 0⟩, .posY⟩)) (some (.net ⟨1⟩), some ⟨1⟩) (by decide +kernel)
  obtain ⟨first, attached⟩ := Prod.mk.inj look
  obtain ⟨after, order⟩ := List.head?_eq_some_iff.mp first
  have needs : Grid.Needs (World.voxel inverterRing) circuit.graph
      (.net ⟨1⟩) (.block ⟨2, 0, 0⟩) := .drives ⟨.posY, attached, by decide +kernel⟩
  exact ⟨circuit, compiled, ⟨after, order⟩, needs,
    (needs_before_unless_circular compiled order needs).2 List.not_mem_nil⟩

end Circuit

end VoxelCircuit

import VoxelCircuit.Engine.CircuitSet
import VoxelCircuit.Proofs.Circuit.Ownership

/-! # Separate circuits

The circuits of a grid own clusters that do not meet and do not lie next to each other. So
what one of them edits is neither what another edits nor what another sees
(`VoxelCircuit.CircuitSet.separate_of_rebuild`).
-/

namespace VoxelCircuit.CircuitSet

variable {γ : Type} [Grid γ]

/-- Each of some circuits owns its members, of which there are some, and no member of one is
a member of another or lies next to one. -/
structure Separate (circuits : List (Circuit γ)) : Prop where
  occupied : ∀ circuit ∈ circuits, ∃ pos, pos ∈ circuit.members
  owns : ∀ circuit ∈ circuits, circuit.Owns
  apart : ∀ {place other : Nat} {circuit neighbor : Circuit γ}, circuits[place]? = some circuit →
    circuits[other]? = some neighbor → place ≠ other → ∀ pos ∈ circuit.members,
      pos ∉ neighbor.members ∧ ∀ direction, pos.step direction ∉ neighbor.members

/-- Each circuit of a grid was compiled for the cluster in its place. -/
theorem cluster_of_rebuild {set rebuilt : CircuitSet γ} {σ : Type} {engine : Engine σ} {grid : γ}
    (compiled : (set.rebuild engine grid).outcome = .ok rebuilt) {place : Nat}
    {circuit : Circuit γ} (found : rebuilt.circuits[place]? = some circuit) :
    ∃ cluster, (Grid.clusters grid)[place]? = some cluster ∧
      (∀ pos, pos ∈ circuit.members ↔ pos ∈ cluster) ∧
        Circuit.Compiled grid engine.options.recordTraceEdges circuit := by
  obtain ⟨circuits, all, done⟩ := Compilation.andThen_ok.mp compiled
  cases done
  exact Circuit.cluster_of_compileAll all found

private theorem disjoint_clusters {grid : γ} {place other : Nat} {cluster neighbor : List Pos}
    (found : (Grid.clusters grid)[place]? = some cluster)
    (foundOther : (Grid.clusters grid)[other]? = some neighbor) (different : place ≠ other) :
    cluster.Disjoint neighbor := by
  obtain ⟨below, rfl⟩ := List.getElem?_eq_some_iff.mp found
  obtain ⟨belowOther, rfl⟩ := List.getElem?_eq_some_iff.mp foundOther
  have apart := List.pairwise_iff_getElem.mp (Grid.clusters_apart grid)
  rcases Nat.lt_or_gt_of_ne different with before | after
  · exact apart place other below belowOther before
  · exact (apart other place belowOther below after).symm

/-- **The circuits of a grid are separate.** -/
theorem separate_of_rebuild {set rebuilt : CircuitSet γ} {σ : Type} {engine : Engine σ} {grid : γ}
    (compiled : (set.rebuild engine grid).outcome = .ok rebuilt) : Separate rebuilt.circuits := by
  constructor
  · intro circuit listed
    obtain ⟨place, found⟩ := List.mem_iff_getElem?.mp listed
    obtain ⟨cluster, cell, members, _⟩ := cluster_of_rebuild compiled found
    have among := (List.mem_filter.mp (List.mem_of_getElem? cell)).2
    obtain ⟨pos, member, _⟩ := List.any_eq_true.mp among
    exact ⟨pos, (members pos).mpr member⟩
  · intro circuit listed
    obtain ⟨place, found⟩ := List.mem_iff_getElem?.mp listed
    obtain ⟨cluster, cell, members, made⟩ := cluster_of_rebuild compiled found
    have closed := (Grid.clusters_closed (List.mem_of_getElem? cell)).1
    exact made.owns (closed.congr members)
  · intro place other circuit neighbor found foundOther different pos member
    obtain ⟨cluster, cell, members, _⟩ := cluster_of_rebuild compiled found
    obtain ⟨beyond, cellOther, membersOther, _⟩ := cluster_of_rebuild compiled foundOther
    have apart := disjoint_clusters cell cellOther different
    have closed := (Grid.clusters_closed (List.mem_of_getElem? cell)).1
    have present := (Grid.clusters_closed (List.mem_of_getElem? cellOther)).2
    have inside := (members pos).mp member
    refine ⟨fun both => apart inside ((membersOther pos).mp both), fun direction both => ?_⟩
    -- A member of the other circuit has a behavior, and so belongs to the cluster it is next to.
    have next := (membersOther _).mp both
    exact apart (closed pos inside _ (Grid.mem_neighbors.mpr ⟨⟨direction, rfl⟩, present _ next⟩))
      next

end VoxelCircuit.CircuitSet

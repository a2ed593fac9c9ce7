import VoxelCircuit.Proofs.Circuit.EffectCount
import VoxelCircuit.Proofs.Net.Shift

/-! # Compiling grids inside chips

Grids may hold grids without end, and what brings their compilation to an end is the limit on
the depth. Here compiling the circuits of a grid is a relation that goes as deep as it goes
(`VoxelCircuit.Circuit.Compiles`): each chip above the limit compiles the grid inside it, one
level deeper. It comes to exactly one result (`VoxelCircuit.Circuit.Compiles.unique`,
`VoxelCircuit.Circuit.compiles_compileAll`), and the searches on the way end as well
(`VoxelCircuit.Grid.searchesEnd`).
-/

namespace VoxelCircuit

variable {γ : Type} [Grid γ]

namespace Grid

/-- The searches in a grid end of themselves: more levels find no more blocks of a group,
more steps take no run farther, traces halt, and so does following demands. -/
structure SearchesEnd (grid : γ) (recordEdges : Bool) : Prop where
  groups : ∀ seed levels, (support grid).cardinality ≤ levels →
    (spread grid levels [seed] (OrderedSet.add .empty seed)).keys = groupOf grid seed
  runs : ∀ (face : Face) (steps : Nat), (bounds grid).reach face.pos face.direction ≤ steps →
    runWithin grid face.direction steps face.pos = run grid face
  traces : ∀ members, TraceHalts grid recordEdges members
  demands : ∀ members graph, trace grid members recordEdges = .ok graph → ∃ search,
    Search.Visits (demands grid graph) (members.map .block ++ graph.ids.map .net) .empty search ∧
      demandOrder grid graph members = search.left.reverse

/-- All searches in a grid end of themselves. -/
theorem searchesEnd (grid : γ) (recordEdges : Bool) : SearchesEnd grid recordEdges where
  groups seed levels enough := by
    rw [groupOf, spread_of_enough (fun _ => card_unfound_le grid _) enough]
  runs _ _ enough := runWithin_of_enough enough
  traces := traceHalts grid recordEdges
  demands members graph traced := by
    obtain ⟨search, visits, _⟩ := existsUnique_demanded grid graph members
    exact ⟨search, visits, demandOrder_eq (graphOf_trace traced) visits⟩

/-- No block is listed twice in a cluster. -/
theorem nodup_cluster {grid : γ} {cluster : List Pos} (listed : cluster ∈ clusters grid) :
    cluster.Nodup :=
  (List.nodup_flatten.mp (nodup_flatten_clusters grid)).1 cluster listed

/-- The chips in the circuits of a grid. -/
def chips (grid : γ) : List Pos :=
  (clusters grid).flatten.filter fun pos => behavior grid pos = some .chip

/-- The chips of a grid are the blocks of its clusters that behave as chips. -/
theorem mem_chips {grid : γ} {pos : Pos} : pos ∈ chips grid ↔
    (∃ cluster ∈ clusters grid, pos ∈ cluster) ∧ behavior grid pos = some .chip := by
  rw [chips, List.mem_filter, List.mem_flatten, decide_eq_true_eq]

/-- No chip is listed twice. -/
theorem nodup_chips (grid : γ) : (chips grid).Nodup :=
  (nodup_flatten_clusters grid).filter _

/-- The chips that the circuit of a cluster demands are in the circuits of the grid. -/
theorem chip_of_demanded {grid : γ} {cluster : List Pos} (listed : cluster ∈ clusters grid)
    {recordEdges : Bool} {graph : NetGraph} (traced : trace grid cluster recordEdges = .ok graph)
    {pos : Pos} (demanded : .block pos ∈ demandOrder grid graph cluster)
    (chip : behavior grid pos = some .chip) : pos ∈ chips grid := by
  have closed := (clusters_closed listed).1
  exact mem_chips.mpr ⟨⟨cluster, listed,
    demandOrder_among closed (fun _ member => member) traced demanded⟩, chip⟩

end Grid

private theorem Compilation.each_congr {α β : Type} {compile other : α → Compilation β}
    {items : List α} (agree : ∀ item ∈ items, compile item = other item) :
    each compile items = each other items := by
  induction items with
  | nil => rfl
  | cons item rest ih =>
      rw [each_cons, each_cons, agree item List.mem_cons_self,
        ih fun other member => agree other (List.mem_cons_of_mem _ member)]

namespace Circuit

omit [Grid γ] in
/-- A circuit of distinct members has them in their order. -/
theorem members_ofMembers {members : List Pos} (distinct : members.Nodup) :
    (ofMembers members : Circuit γ).members = members := by
  have joins : ∀ circuit : Circuit γ, (∀ pos ∈ members, pos ∉ circuit.members) →
      (members.foldl addMember circuit).members = circuit.members ++ members := by
    induction members with
    | nil => exact fun circuit _ => (List.append_nil _).symm
    | cons first rest ih =>
        intro circuit fresh
        obtain ⟨apart, others⟩ := List.nodup_cons.mp distinct
        have absent : circuit.contains first ≠ true := fun held =>
          fresh first List.mem_cons_self (Table.contains_iff.mp held)
        have joined : (circuit.addMember first).members = circuit.members ++ [first] :=
          (circuit.members_addMember first).trans (if_neg absent)
        rw [List.foldl_cons, ih others, joined, List.append_assoc, List.singleton_append]
        intro pos member held
        rw [joined, List.mem_append, List.mem_singleton] at held
        rcases held with before | rfl
        · exact fresh pos (List.mem_cons_of_mem _ member) before
        · exact apart member
  exact joins empty fun _ _ held => absurd held List.not_mem_nil

variable {options : CompileOptions} {depth bound : Nat} {grid : γ}

/-- An effect depends on how the grid inside its own block is compiled, and no other. -/
theorem effectFor_congr_inner {inner again : γ → Compilation (List (Circuit γ))} (room : Prop)
    [Decidable room] {graph : NetGraph} {target : Target}
    (agree : room → ∀ pos interior, target = .block pos → Grid.behavior grid pos = some .chip →
      Grid.interior grid pos = some interior → inner interior = again interior) :
    effectFor options (if room then some inner else none) grid graph target =
      effectFor options (if room then some again else none) grid graph target := by
  cases targetCase options (if room then some inner else none) grid target with
  | net id => rfl
  | idle passive => rw [effectFor_idle passive, effectFor_idle passive]
  | plain there active notChip =>
      rw [effectFor_plain there active notChip, effectFor_plain there active notChip]
  | @skipped pos report chip skips =>
      have again : Skips options (if room then some again else none) grid pos report := by
        cases skips with
        | hollow none => exact .hollow none
        | deep holds limit => exact .deep holds (if_neg (by simpa using limit))
      rw [effectFor_skipped chip skips, effectFor_skipped chip again]
  | @entered pos interior _ chip holds given =>
      obtain ⟨enters, _⟩ := Option.ite_none_right_eq_some.mp given
      rw [if_pos enters, if_pos enters, effectFor_entered chip holds, effectFor_entered chip holds,
        agree enters pos interior rfl chip holds]

private theorem compileWith_congr_inner {inner again : γ → Compilation (List (Circuit γ))}
    (room : Prop) [Decidable room] {cluster : List Pos} (listed : cluster ∈ Grid.clusters grid)
    (agree : room → ∀ pos ∈ Grid.chips grid, ∀ interior,
      Grid.interior grid pos = some interior → inner interior = again interior) :
    compileWith options (if room then some inner else none) depth grid (ofMembers cluster) =
      compileWith options (if room then some again else none) depth grid (ofMembers cluster) := by
  unfold compileWith
  by_cases vacant : (ofMembers cluster : Circuit γ).joined.isEmpty = true
  · rw [if_pos vacant, if_pos vacant]
  · rw [if_neg vacant, if_neg vacant, members_ofMembers (Grid.nodup_cluster listed)]
    cases traced : Grid.trace grid cluster options.recordTraceEdges with
    | error conflict => rfl
    | ok graph =>
        simp only
        rw [Compilation.each_congr fun target demanded => effectFor_congr_inner room ?_]
        rintro enters pos interior rfl there inside
        exact agree enters pos (Grid.chip_of_demanded listed traced demanded there) interior inside

/-- Compiling the circuits of a grid at a depth comes to a result, where all compilations of
grids inside chips that it takes come to theirs and are no deeper than a bound. -/
inductive Compiles (options : CompileOptions) (bound : Nat) :
    Nat → γ → Compilation (List (Circuit γ)) → Prop
  | intro {depth : Nat} {grid : γ} (within : depth ≤ bound)
      (inner : γ → Compilation (List (Circuit γ)))
      (deeper : depth < options.maxEmbedDepth → ∀ pos ∈ Grid.chips grid, ∀ interior,
        Grid.interior grid pos = some interior →
          Compiles options bound (depth + 1) interior (inner interior)) :
      Compiles options bound depth grid (Compilation.each
        (fun members => compileWith options
          (if depth < options.maxEmbedDepth then some inner else none) depth grid
            (ofMembers members))
        (Grid.clusters grid))

/-- There is one result that compiling comes to. -/
theorem Compiles.unique {result : Compilation (List (Circuit γ))}
    (compiles : Compiles options bound depth grid result) :
    result = compileAll options depth grid := by
  induction compiles with
  | intro _ inner _ ih =>
      rw [compileAll_eq]
      exact Compilation.each_congr fun members listed =>
        compileWith_congr_inner _ listed fun room pos chip interior inside =>
          ih room pos chip interior inside

/-- The limit is the greatest depth that chips lead to. -/
theorem compiles_compileAll (within : depth ≤ bound) (limit : options.maxEmbedDepth ≤ bound) :
    Compiles options bound depth grid (compileAll options depth grid) := by
  induction left : options.maxEmbedDepth - depth generalizing depth grid with
  | zero =>
      rw [compileAll_eq]
      exact .intro within _ fun room => by omega
  | succ levels ih =>
      rw [compileAll_eq]
      exact .intro within _ fun room pos _ interior _ => ih (by omega) (by omega)

end Circuit

end VoxelCircuit

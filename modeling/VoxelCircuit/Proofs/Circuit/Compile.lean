import Mathlib.Data.List.Forall2
import VoxelCircuit.Circuit.Basic
import VoxelCircuit.Proofs.Table

/-! # What compiling makes of a circuit

A circuit that was compiled has the net graph of its members and, in the order of
demand, the effect of each target (`VoxelCircuit.Circuit.compile_ok`). Which effect a
target has is a relation, `VoxelCircuit.Effect.Realizes`, that leaves open how the
grids inside chips were compiled.
-/

namespace VoxelCircuit

namespace Compilation

variable {α β : Type}

/-- Two steps succeed exactly if the first does and the second does on what the first comes to. -/
theorem andThen_ok {first : Compilation α} {next : α → Compilation β} {result : β} :
    (first.andThen next).outcome = .ok result ↔
      ∃ value, first.outcome = .ok value ∧ (next value).outcome = .ok result := by
  unfold andThen
  cases first.outcome <;> simp

/-- Two steps fail with the error of the first that fails. -/
theorem andThen_error {first : Compilation α} {next : α → Compilation β} {error : CompileError} :
    (first.andThen next).outcome = .error error ↔ first.outcome = .error error ∨
      ∃ value, first.outcome = .ok value ∧ (next value).outcome = .error error := by
  unfold andThen
  cases first.outcome <;> simp

/-- Two steps make the reports of the first and then those of the second. -/
theorem reports_andThen {first : Compilation α} {next : α → Compilation β} {value : α}
    (outcome : first.outcome = .ok value) :
    (first.andThen next).reports = first.reports ++ (next value).reports := by
  simp only [andThen, outcome]

/-- A changed error is the change of the error that there was. -/
theorem mapError_error {compilation : Compilation α} {change : CompileError → CompileError}
    {error : CompileError} : (compilation.mapError change).outcome = .error error ↔
      ∃ cause, compilation.outcome = .error cause ∧ error = change cause := by
  unfold mapError
  cases compilation.outcome <;> simp [Except.mapError, eq_comm]

/-- Changing errors leaves what succeeds as it is. -/
theorem mapError_ok {compilation : Compilation α} {change : CompileError → CompileError}
    {result : α} :
    (compilation.mapError change).outcome = .ok result ↔ compilation.outcome = .ok result := by
  unfold mapError
  cases compilation.outcome <;> simp [Except.mapError]

/-- What can be seen of a result shows that there is one. -/
theorem exists_ok (compilation : Compilation α) (seen : α → β) (look : β)
    (found : compilation.outcome.toOption.map seen = some look) :
    ∃ result, compilation.outcome = .ok result ∧ seen result = look := by
  cases outcome : compilation.outcome with
  | error error => simp [outcome, Except.toOption] at found
  | ok result =>
      simp only [outcome, Except.toOption, Option.map_some, Option.some.injEq] at found
      exact ⟨result, rfl, found⟩

/-- A compilation that has no result has an error. -/
theorem exists_error (compilation : Compilation α)
    (none : compilation.outcome.toOption.isNone = true) :
    ∃ error, compilation.outcome = .error error := by
  cases outcome : compilation.outcome with
  | error error => exact ⟨error, rfl⟩
  | ok result => simp [outcome, Except.toOption] at none

/-- A list is compiled when each of its items is. -/
theorem each_ok {compile : α → Compilation β} {items : List α} {results : List β} :
    (each compile items).outcome = .ok results ↔
      List.Forall₂ (fun item result => (compile item).outcome = .ok result) items results := by
  induction items generalizing results with
  | nil =>
      rw [each_nil, List.forall₂_nil_left_iff]
      simp [done, eq_comm]
  | cons item rest ih =>
      rw [each_cons, andThen_ok, List.forall₂_cons_left_iff]
      constructor
      · rintro ⟨first, compiled, later⟩
        obtain ⟨others, rests, same⟩ := andThen_ok.mp later
        cases same
        exact ⟨first, others, compiled, ih.mp rests, rfl⟩
      · rintro ⟨first, others, compiled, rests, rfl⟩
        exact ⟨first, compiled, andThen_ok.mpr ⟨others, ih.mpr rests, rfl⟩⟩

/-- If an item of a list does not compile, then the list does not for the same reason or for
that of an item before it. -/
theorem each_fails {compile : α → Compilation β} {item : α} {error : CompileError}
    (fails : (compile item).outcome = .error error) (before after : List α) :
    (each compile (before ++ item :: after)).outcome = .error error ∨
      ∃ other ∈ before, ∃ cause, (compile other).outcome = .error cause ∧
        (each compile (before ++ item :: after)).outcome = .error cause := by
  induction before with
  | nil => exact Or.inl (by rw [List.nil_append, each_cons, andThen_error]; exact Or.inl fails)
  | cons first rest ih =>
      rw [List.cons_append, each_cons]
      cases compiled : (compile first).outcome with
      | error cause =>
          exact Or.inr ⟨first, List.mem_cons_self, cause, compiled,
            andThen_error.mpr (Or.inl compiled)⟩
      | ok result =>
          have later : ∀ {cause}, (each compile (rest ++ item :: after)).outcome = .error cause →
              ((compile first).andThen fun value => (each compile (rest ++ item :: after)).andThen
                fun values => done (value :: values)).outcome = .error cause := fun failed =>
            andThen_error.mpr (Or.inr ⟨result, compiled, andThen_error.mpr (Or.inl failed)⟩)
          rcases ih with own | ⟨other, member, cause, failed, whole⟩
          · exact Or.inl (later own)
          · exact Or.inr ⟨other, List.mem_cons_of_mem _ member, cause, failed, later whole⟩

/-- If a list does not compile, then one of its items does not, for the same reason. -/
theorem exists_of_each_error {compile : α → Compilation β} {items : List α} {error : CompileError}
    (failed : (each compile items).outcome = .error error) :
    ∃ item ∈ items, (compile item).outcome = .error error := by
  induction items with
  | nil => cases failed
  | cons first rest ih =>
      rw [each_cons, andThen_error] at failed
      rcases failed with own | ⟨_, _, later⟩
      · exact ⟨first, List.mem_cons_self, own⟩
      · rcases andThen_error.mp later with others | ⟨_, _, done⟩
        · obtain ⟨item, listed, fails⟩ := ih others
          exact ⟨item, List.mem_cons_of_mem _ listed, fails⟩
        · cases done

/-- Items that succeed one by one succeed in turn. -/
theorem each_succeeds {compile : α → Compilation β} (items : List α)
    (succeeds : ∀ item ∈ items, ∃ result, (compile item).outcome = .ok result) :
    ∃ results, (each compile items).outcome = .ok results := by
  induction items with
  | nil => exact ⟨[], rfl⟩
  | cons item rest ih =>
      obtain ⟨first, compiled⟩ := succeeds item List.mem_cons_self
      obtain ⟨others, rests⟩ := ih fun other member =>
        succeeds other (List.mem_cons_of_mem _ member)
      refine ⟨first :: others, ?_⟩
      rw [each_cons]
      exact andThen_ok.mpr ⟨first, compiled, andThen_ok.mpr ⟨others, rests, rfl⟩⟩

end Compilation

variable {γ : Type}

namespace Circuit

/-- A member that is there already is not added again; a new one comes last. -/
theorem members_addMember (circuit : Circuit γ) (pos : Pos) :
    (circuit.addMember pos).members =
      if circuit.contains pos then circuit.members else circuit.members ++ [pos] :=
  OrderedSet.keys_add circuit.joined pos

/-- The members after adding one are those before and the one added. -/
theorem mem_addMember {circuit : Circuit γ} {pos other : Pos} :
    other ∈ (circuit.addMember pos).members ↔ other ∈ circuit.members ∨ other = pos := by
  rw [members_addMember]
  by_cases listed : circuit.contains pos = true
  · rw [if_pos listed]
    refine ⟨Or.inl, fun either => either.elim id fun same => ?_⟩
    rw [same]
    exact Table.contains_iff.mp listed
  · rw [if_neg listed, List.mem_append, List.mem_singleton]

/-- A circuit of a list of members has these members. -/
theorem mem_ofMembers {members : List Pos} {pos : Pos} :
    pos ∈ (ofMembers members : Circuit γ).members ↔ pos ∈ members := by
  have joins : ∀ circuit : Circuit γ,
      pos ∈ (members.foldl addMember circuit).members ↔
        pos ∈ circuit.members ∨ pos ∈ members := by
    induction members with
    | nil => simp
    | cons first rest ih =>
        intro circuit
        rw [List.foldl_cons, ih, mem_addMember, List.mem_cons, or_assoc]
  have none : (empty : Circuit γ).members = [] := rfl
  rw [ofMembers, joins, none]
  simp

end Circuit

variable [Grid γ]

/-- Which effect a target has in a grid with a net graph. The pipelines of a chip are
any. -/
inductive Effect.Realizes (grid : γ) (graph : NetGraph) : Target → Option (Effect γ) → Prop
  | net {id : NetId} {effect : Option (Effect γ)}
      (merges : effect = (graph.net? id).map fun net => .merge id net.drivers) :
      Realizes grid graph (.net id) effect
  | idle {pos : Pos} (passive : Grid.activeBeyondWire grid pos = false) :
      Realizes grid graph (.block pos) none
  | block {pos : Pos} {behavior : Behavior} (there : Grid.behavior grid pos = some behavior)
      (active : behavior.isWire = false) :
      Realizes grid graph (.block pos)
        (some (.respond pos behavior (Grid.orientation grid pos) (Grid.inputsAt grid graph pos)))
  | chip {pos : Pos} {interior : γ} {pipelines : List (Pipeline γ)}
      (there : Grid.behavior grid pos = some .chip) :
      Realizes grid graph (.block pos)
        (some (.chip pos (Grid.orientation grid pos) interior pipelines))

namespace Circuit

variable {options : CompileOptions} {deeper : Option (γ → Compilation (List (Circuit γ)))}
  {grid : γ} {graph : NetGraph} {target : Target} {pos : Pos}

variable (options deeper grid) in
/-- A chip is passed over with a report: it holds no grid, or the depth is used up. -/
inductive Skips (pos : Pos) : Report → Prop
  | hollow (none : Grid.interior grid pos = none) : Skips pos (.missingInterior pos)
  | deep {interior : γ} (holds : Grid.interior grid pos = some interior) (limit : deeper = none) :
      Skips pos (.depthExceeded pos options.maxEmbedDepth)

variable (options deeper grid) in
/-- The cases in which effects of targets are found. -/
inductive TargetCase : Target → Prop
  | net (id : NetId) : TargetCase (.net id)
  | idle {pos : Pos} (passive : Grid.activeBeyondWire grid pos = false) : TargetCase (.block pos)
  | plain {pos : Pos} {behavior : Behavior} (there : Grid.behavior grid pos = some behavior)
      (active : behavior.isWire = false) (notChip : behavior ≠ .chip) : TargetCase (.block pos)
  | skipped {pos : Pos} {report : Report} (chip : Grid.behavior grid pos = some .chip)
      (skips : Skips options deeper grid pos report) : TargetCase (.block pos)
  | entered {pos : Pos} {interior : γ} {compile : γ → Compilation (List (Circuit γ))}
      (chip : Grid.behavior grid pos = some .chip) (holds : Grid.interior grid pos = some interior)
      (given : deeper = some compile) : TargetCase (.block pos)

/-- Each target is of one of the cases. -/
theorem targetCase (options : CompileOptions)
    (deeper : Option (γ → Compilation (List (Circuit γ)))) (grid : γ) :
    ∀ target, TargetCase options deeper grid target
  | .net id => .net id
  | .block pos => by
      cases there : Grid.behavior grid pos with
      | none => exact .idle (by simp [Grid.activeBeyondWire, there])
      | some behavior =>
          by_cases chip : behavior = .chip
          · subst chip
            cases holds : Grid.interior grid pos with
            | none => exact .skipped there (.hollow holds)
            | some interior =>
                cases given : deeper with
                | none => exact .skipped there (.deep holds rfl)
                | some compile => exact .entered there holds rfl
          · cases wire : behavior.isWire with
            | true => exact .idle (by simp [Grid.activeBeyondWire, there, wire])
            | false => exact .plain there wire chip

/-- A block that is no more than wire has no effect. -/
theorem effectFor_idle (passive : Grid.activeBeyondWire grid pos = false) :
    effectFor options deeper grid graph (.block pos) = .done none := by
  rw [effectFor]
  rw [Grid.activeBeyondWire] at passive
  cases there : Grid.behavior grid pos with
  | none => rfl
  | some behavior =>
      rw [there] at passive
      cases behavior <;> first | rfl | cases passive

/-- A block that is no chip responds by its behavior. -/
theorem effectFor_plain {behavior : Behavior} (there : Grid.behavior grid pos = some behavior)
    (active : behavior.isWire = false) (notChip : behavior ≠ .chip) :
    effectFor options deeper grid graph (.block pos) = .done (some (.respond pos behavior
      (Grid.orientation grid pos) (Grid.inputsAt grid graph pos))) := by
  rw [effectFor, there]
  cases behavior
  case wire => cases active
  case chip => exact (notChip rfl).elim
  all_goals rfl

/-- A chip that is passed over is reported, and responds as other blocks do. -/
theorem effectFor_skipped {report : Report} (chip : Grid.behavior grid pos = some .chip)
    (skips : Skips options deeper grid pos report) :
    effectFor options deeper grid graph (.block pos) =
      (Compilation.report report).andThen fun _ => .done (some (.respond pos .chip
        (Grid.orientation grid pos) (Grid.inputsAt grid graph pos))) := by
  cases skips with
  | hollow none => simp only [effectFor, chip, none]
  | deep holds limit => simp only [effectFor, chip, holds, limit]

/-- A chip that is entered has the pipelines of the circuits inside it. -/
theorem effectFor_entered {interior : γ} {compile : γ → Compilation (List (Circuit γ))}
    (chip : Grid.behavior grid pos = some .chip) (holds : Grid.interior grid pos = some interior) :
    effectFor options (some compile) grid graph (.block pos) =
      ((compile interior).mapError (.inside pos)).andThen fun circuits =>
        .done (some (.chip pos (Grid.orientation grid pos) interior (circuits.map pipeline))) := by
  simp only [effectFor, chip, holds]

/-- What a target is compiled to realizes the target. -/
theorem effectFor_ok {effect : Option (Effect γ)}
    (compiled : (effectFor options deeper grid graph target).outcome = .ok effect) :
    Effect.Realizes grid graph target effect := by
  cases targetCase options deeper grid target with
  | net id =>
      cases compiled
      exact .net rfl
  | idle passive =>
      rw [effectFor_idle passive] at compiled
      cases compiled
      exact .idle passive
  | plain there active notChip =>
      rw [effectFor_plain there active notChip] at compiled
      cases compiled
      exact .block there active
  | skipped chip skips =>
      rw [effectFor_skipped chip skips] at compiled
      cases compiled
      exact .block chip rfl
  | entered chip holds given =>
      subst given
      rw [effectFor_entered chip holds] at compiled
      obtain ⟨circuits, _, done⟩ := Compilation.andThen_ok.mp compiled
      cases done
      exact .chip chip

/-- An effect is not found only for a chip with a grid inside that does not compile. -/
theorem effectFor_error {error : CompileError}
    (failed : (effectFor options deeper grid graph target).outcome = .error error) :
    ∃ pos interior compile cause, target = .block pos ∧ Grid.behavior grid pos = some .chip ∧
      Grid.interior grid pos = some interior ∧ deeper = some compile ∧
        (compile interior).outcome = .error cause ∧ error = .inside pos cause := by
  cases targetCase options deeper grid target with
  | net id => cases failed
  | idle passive =>
      rw [effectFor_idle passive] at failed
      cases failed
  | plain there active notChip =>
      rw [effectFor_plain there active notChip] at failed
      cases failed
  | skipped chip skips =>
      rw [effectFor_skipped chip skips] at failed
      cases failed
  | @entered pos interior compile chip holds given =>
      subst given
      rw [effectFor_entered chip holds] at failed
      rcases Compilation.andThen_error.mp failed with fails | ⟨_, _, done⟩
      · obtain ⟨cause, nested, wrapped⟩ := Compilation.mapError_error.mp fails
        exact ⟨pos, interior, compile, cause, rfl, chip, holds, rfl, nested, wrapped⟩
      · cases done

/-- What compiling leaves: the members as they were, the net graph of a trace of them,
and the effects of the targets in the order of demand. -/
structure Compiled (grid : γ) (recordEdges : Bool) (circuit : Circuit γ) : Prop where
  traced : Grid.trace grid circuit.members recordEdges = .ok circuit.graph
  realized : ∃ effects, List.Forall₂ (Effect.Realizes grid circuit.graph)
    (Grid.demandOrder grid circuit.graph circuit.members) effects ∧
      circuit.pipeline = effects.filterMap id

/-- What a compilation that succeeds has done and reported. -/
theorem compileWith_steps {depth : Nat} {circuit compiled : Circuit γ}
    (outcome : (compileWith options deeper depth grid circuit).outcome = .ok compiled) :
    Grid.trace grid circuit.members options.recordTraceEdges = .ok compiled.graph ∧
      ∃ effects, (Compilation.each (effectFor options deeper grid compiled.graph)
          (Grid.demandOrder grid compiled.graph circuit.members)).outcome = .ok effects ∧
        compiled = { circuit with graph := compiled.graph, pipeline := effects.filterMap id } ∧
        (compileWith options deeper depth grid circuit).reports =
          (Compilation.each (effectFor options deeper grid compiled.graph)
            (Grid.demandOrder grid compiled.graph circuit.members)).reports ++
              [.compiled depth circuit.members.length compiled.graph.size
                compiled.pipeline.length] := by
  unfold compileWith at outcome ⊢
  by_cases none : circuit.joined.isEmpty = true
  · rw [if_pos none] at outcome
    cases outcome
  · rw [if_neg none] at outcome ⊢
    cases traced : Grid.trace grid circuit.members options.recordTraceEdges with
    | error conflict =>
        rw [traced] at outcome
        cases outcome
    | ok graph =>
        simp only [traced] at outcome ⊢
        obtain ⟨effects, each, done⟩ := Compilation.andThen_ok.mp outcome
        cases done
        refine ⟨rfl, effects, each, rfl, ?_⟩
        rw [Compilation.reports_andThen each]
        rfl

private theorem compileWith_ok {depth : Nat} {circuit compiled : Circuit γ}
    (outcome : (compileWith options deeper depth grid circuit).outcome = .ok compiled) :
    compiled.members = circuit.members ∧ Compiled grid options.recordTraceEdges compiled := by
  obtain ⟨traced, effects, each, same, _⟩ := compileWith_steps outcome
  have members : compiled.members = circuit.members := by rw [same]; rfl
  rw [← members] at traced each
  exact ⟨members, traced, effects,
    (Compilation.each_ok.mp each).imp fun _ _ => effectFor_ok, by rw [same]⟩

/-- Compiling keeps the members, and what it comes to is a compiled circuit. -/
theorem compile_ok {options : CompileOptions} {depth : Nat} {grid : γ}
    {circuit compiled : Circuit γ}
    (outcome : (compile options depth grid circuit).outcome = .ok compiled) :
    compiled.members = circuit.members ∧ Compiled grid options.recordTraceEdges compiled :=
  compileWith_ok outcome

/-- Compiling all circuits of a grid is compiling the circuit of each cluster. -/
theorem compileAll_eq (options : CompileOptions) (depth : Nat) (grid : γ) :
    compileAll options depth grid =
      Compilation.each (fun members => compile options depth grid (ofMembers members))
        (Grid.clusters grid) := by
  unfold compileAll compile compileAll
  by_cases deeper : depth < options.maxEmbedDepth
  · obtain ⟨levels, same⟩ : ∃ levels, options.maxEmbedDepth - depth = levels + 1 :=
      ⟨options.maxEmbedDepth - (depth + 1), by omega⟩
    have below : options.maxEmbedDepth - (depth + 1) = levels := by omega
    have inner : (fun grid : γ => compileLevels options (options.maxEmbedDepth - (depth + 1))
        (depth + 1) grid) = compileLevels options levels (depth + 1) := by
      rw [below]
    simp only [same, compileLevels, if_pos deeper]
    rw [inner]
  · have none : options.maxEmbedDepth - depth = 0 := by omega
    simp only [none, compileLevels, if_neg deeper]

/-- Each circuit of a grid was compiled for the cluster in its place. -/
theorem cluster_of_compileAll {options : CompileOptions} {depth : Nat} {grid : γ}
    {circuits : List (Circuit γ)} (outcome : (compileAll options depth grid).outcome = .ok circuits)
    {place : Nat} {circuit : Circuit γ} (found : circuits[place]? = some circuit) :
    ∃ cluster, (Grid.clusters grid)[place]? = some cluster ∧
      (∀ pos, pos ∈ circuit.members ↔ pos ∈ cluster) ∧
        Compiled grid options.recordTraceEdges circuit := by
  rw [compileAll_eq, Compilation.each_ok] at outcome
  obtain ⟨lengths, each⟩ := List.forall₂_iff_get.mp outcome
  obtain ⟨below, rfl⟩ := List.getElem?_eq_some_iff.mp found
  obtain ⟨members, made⟩ := compile_ok (each place (lengths ▸ below) below)
  refine ⟨_, List.getElem?_eq_getElem (lengths ▸ below), fun pos => ?_, made⟩
  rw [List.get_eq_getElem] at members
  rw [members, mem_ofMembers, List.get_eq_getElem]

/-- The circuits of a grid are what compiling its clusters comes to. -/
theorem mem_compileAll {options : CompileOptions} {depth : Nat} {grid : γ}
    {circuits : List (Circuit γ)}
    (outcome : (compileAll options depth grid).outcome = .ok circuits) :
    (∀ circuit ∈ circuits, ∃ cluster ∈ Grid.clusters grid,
      (compile options depth grid (ofMembers cluster)).outcome = .ok circuit) ∧
    ∀ cluster ∈ Grid.clusters grid, ∃ circuit ∈ circuits,
      (compile options depth grid (ofMembers cluster)).outcome = .ok circuit := by
  rw [compileAll_eq, Compilation.each_ok] at outcome
  obtain ⟨lengths, each⟩ := List.forall₂_iff_get.mp outcome
  constructor
  · intro circuit listed
    obtain ⟨place, below, rfl⟩ := List.mem_iff_getElem.mp listed
    exact ⟨_, List.getElem_mem (lengths ▸ below), each place (lengths ▸ below) below⟩
  · intro cluster listed
    obtain ⟨place, below, rfl⟩ := List.mem_iff_getElem.mp listed
    exact ⟨_, List.getElem_mem (lengths ▸ below), each place below (lengths ▸ below)⟩

/-- Each of the circuits that a grid is compiled to is a compiled circuit. -/
theorem compiled_of_mem_compileAll {options : CompileOptions} {depth : Nat} {grid : γ}
    {circuits : List (Circuit γ)} {circuit : Circuit γ}
    (outcome : (compileAll options depth grid).outcome = .ok circuits)
    (member : circuit ∈ circuits) : Compiled grid options.recordTraceEdges circuit := by
  obtain ⟨_, _, compiled⟩ := (mem_compileAll outcome).1 circuit member
  exact (compile_ok compiled).2

end Circuit

end VoxelCircuit

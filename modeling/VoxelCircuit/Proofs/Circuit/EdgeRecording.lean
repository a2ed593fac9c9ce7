import VoxelCircuit.Proofs.Circuit.Compile
import VoxelCircuit.Proofs.Net.EdgeRecording

/-! # Circuits compiled without steps

Nets may keep the steps that were walked to find them or not. Nothing else in a circuit
depends on this choice, nor do the circuits inside its chips: demands are read off the members
and the attachments of nets, and effects off the demands. So what is compiled either way
evaluates alike, and what cannot be compiled fails alike
(`VoxelCircuit.Circuit.recording_adds_edges_alone`).
-/

namespace VoxelCircuit

/-- The same options, with the steps of nets kept or not. -/
def CompileOptions.recording (options : CompileOptions) (recordEdges : Bool) : CompileOptions :=
  { options with recordTraceEdges := recordEdges }

/-- The options record edges as they are told to. -/
@[simp] theorem CompileOptions.recordTraceEdges_recording (options : CompileOptions)
    (recordEdges : Bool) : (options.recording recordEdges).recordTraceEdges = recordEdges :=
  rfl

/-- One outcome is the same error as another, or related to it. -/
inductive SameOutcome {ε α β : Type} (related : α → β → Prop) : Except ε α → Except ε β → Prop
  | error (error : ε) : SameOutcome related (.error error) (.error error)
  | ok {value : α} {other : β} (alike : related value other) :
      SameOutcome related (.ok value) (.ok other)

/-- One compilation reports the same as another and comes to the same error or to something
related. -/
structure Compilation.Alike {α β : Type} (related : α → β → Prop) (first : Compilation α)
    (second : Compilation β) : Prop where
  reports : second.reports = first.reports
  outcome : SameOutcome related first.outcome second.outcome

namespace Compilation.Alike

variable {α β α' β' : Type} {related : α → α' → Prop} {relatedNext : β → β' → Prop}

private theorem done {value : α} {other : α'} (alike : related value other) :
    Alike related (Compilation.done value) (Compilation.done other) :=
  ⟨rfl, .ok alike⟩

private theorem refl (compilation : Compilation α) : Alike Eq compilation compilation := by
  refine ⟨rfl, ?_⟩
  cases compilation.outcome with
  | error error => exact .error error
  | ok value => exact .ok rfl

private theorem andThen {first : Compilation α} {second : Compilation α'} {next : α → Compilation β}
    {others : α' → Compilation β'} (alike : Alike related first second)
    (later : ∀ {value other}, related value other → Alike relatedNext (next value) (others other)) :
    Alike relatedNext (first.andThen next) (second.andThen others) := by
  obtain ⟨reports, outcome⟩ := alike
  rw [Compilation.andThen, Compilation.andThen, reports]
  generalize first.outcome = outcomeFirst at outcome ⊢
  generalize second.outcome = outcomeSecond at outcome ⊢
  cases outcome with
  | error error => exact ⟨rfl, .error error⟩
  | ok alike =>
      have next := later alike
      exact ⟨congrArg (first.reports ++ ·) next.reports, next.outcome⟩

private theorem each {compile : α → Compilation β} {other : α → Compilation β'} (items : List α)
    (alike : ∀ item, Alike relatedNext (compile item) (other item)) :
    Alike (List.Forall₂ relatedNext) (Compilation.each compile items)
      (Compilation.each other items) := by
  induction items with
  | nil => exact .done .nil
  | cons item rest ih =>
      rw [Compilation.each_cons, Compilation.each_cons]
      exact (alike item).andThen fun first => ih.andThen fun others => .done (.cons first others)

private theorem mapError {first : Compilation α} {second : Compilation α'}
    (alike : Alike related first second) (change : CompileError → CompileError) :
    Alike related (first.mapError change) (second.mapError change) := by
  obtain ⟨reports, outcome⟩ := alike
  refine ⟨reports, ?_⟩
  rw [Compilation.mapError, Compilation.mapError]
  generalize first.outcome = outcomeFirst at outcome ⊢
  generalize second.outcome = outcomeSecond at outcome ⊢
  cases outcome with
  | error error => exact .error (change error)
  | ok alike => exact .ok alike

end Compilation.Alike

/-- One net is another without its steps. -/
structure Net.SameButEdges (recorded bare : Net) : Prop where
  id : bare.id = recorded.id
  members : bare.members = recorded.members
  hasInput : bare.hasInput = recorded.hasInput
  hasOutput : bare.hasOutput = recorded.hasOutput
  hasBoth : bare.hasBoth = recorded.hasBoth
  edges : bare.edges = []

/-- One net graph is another without the steps of its nets: it has the same serial numbers, at
each face the same net, and the same nets but for their steps. -/
structure NetGraph.SameButEdges (recorded bare : NetGraph) : Prop where
  ids : bare.ids = recorded.ids
  attachments : bare.attachments = recorded.attachments
  nets : List.Forall₂ Net.SameButEdges recorded.nets bare.nets

private theorem NetGraph.sameButEdges (graph : NetGraph) :
    graph.SameButEdges graph.withoutEdges where
  ids := graph.ids_withoutEdges
  attachments := rfl
  nets := by
    rw [nets_withoutEdges, List.forall₂_map_right_iff]
    exact List.forall₂_same.mpr fun net _ => ⟨rfl, rfl, rfl, rfl, rfl, rfl⟩

/-- One circuit is another without the steps of its nets. -/
structure Circuit.SameButEdges {γ : Type} (recorded bare : Circuit γ) : Prop where
  members : bare.members = recorded.members
  graph : recorded.graph.SameButEdges bare.graph
  pipeline : bare.pipeline = recorded.pipeline
  snapshot : bare.snapshot = recorded.snapshot

namespace Grid

variable {γ : Type} [Grid γ] (grid : γ)

private theorem trace_alike (members : List Pos) :
    SameOutcome NetGraph.SameButEdges (trace grid members true) (trace grid members false) := by
  rw [trace_withoutEdges grid true]
  cases trace grid members true with
  | error conflict => exact .error conflict
  | ok graph => exact .ok graph.sameButEdges

variable (graph : NetGraph)

private theorem inputsAt_withoutEdges (pos : Pos) :
    inputsAt grid graph.withoutEdges pos = inputsAt grid graph pos :=
  rfl

private theorem demands_withoutEdges : demands grid graph.withoutEdges = demands grid graph := by
  funext target
  cases target with
  | block pos => rfl
  | net id =>
      rw [demands, demands, NetGraph.net?_withoutEdges]
      cases graph.net? id <;> rfl

/-- Members and nets are demanded in the same order. -/
theorem demandOrder_withoutEdges (members : List Pos) :
    demandOrder grid graph.withoutEdges members = demandOrder grid graph members := by
  have depth : demandDepth graph.withoutEdges members = demandDepth graph members := by
    simp only [demandDepth, NetGraph.nets_withoutEdges, List.length_map, List.flatMap_map]
    rfl
  rw [demandOrder, demandOrder, demands_withoutEdges, depth, NetGraph.ids_withoutEdges]

end Grid

namespace Circuit

private theorem SameButEdges.pipelines {γ : Type} {circuits others : List (Circuit γ)}
    (same : List.Forall₂ SameButEdges circuits others) :
    circuits.map Circuit.pipeline = others.map Circuit.pipeline := by
  induction same with
  | nil => rfl
  | cons first _ ih => rw [List.map_cons, List.map_cons, first.pipeline, ih]

variable {γ : Type} [Grid γ] {options : CompileOptions} {depth : Nat} {grid : γ}
  {deeper bare : Option (γ → Compilation (List (Circuit γ)))}

/-- The grids inside chips are compiled alike, or are not compiled. -/
def DeeperAlike (deeper bare : Option (γ → Compilation (List (Circuit γ)))) : Prop :=
  Option.Rel (fun compile other => ∀ interior, Compilation.Alike (List.Forall₂ SameButEdges)
    (compile interior) (other interior)) deeper bare

omit [Grid γ] in
private theorem deeperAlike_ite {inner again : γ → Compilation (List (Circuit γ))} (room : Prop)
    [Decidable room] (alike : room → ∀ interior, Compilation.Alike (List.Forall₂ SameButEdges)
      (inner interior) (again interior)) :
    DeeperAlike (if room then some inner else none) (if room then some again else none) := by
  by_cases enters : room
  · rw [if_pos enters, if_pos enters]
    exact .some (alike enters)
  · rw [if_neg enters, if_neg enters]
    exact .none

private theorem effectFor_alike (inside : DeeperAlike deeper bare) (graph : NetGraph)
    (target : Target) :
    Compilation.Alike Eq (effectFor (options.recording true) deeper grid graph target)
      (effectFor (options.recording false) bare grid graph.withoutEdges target) := by
  cases targetCase (options.recording true) deeper grid target with
  | net id =>
      rw [effectFor, effectFor, NetGraph.net?_withoutEdges, Option.map_map]
      exact .refl _
  | idle passive =>
      rw [effectFor_idle passive, effectFor_idle passive]
      exact .refl _
  | plain there active notChip =>
      rw [effectFor_plain there active notChip, effectFor_plain there active notChip,
        Grid.inputsAt_withoutEdges]
      exact .refl _
  | @skipped pos report chip skips =>
      have passed : Skips (options.recording false) bare grid pos report := by
        cases skips with
        | hollow none => exact .hollow none
        | deep holds limit =>
            subst limit
            cases inside
            exact .deep holds rfl
      rw [effectFor_skipped chip skips, effectFor_skipped chip passed, Grid.inputsAt_withoutEdges]
      exact .refl _
  | entered chip holds given =>
      subst given
      cases inside with
      | some alike =>
          rw [effectFor_entered chip holds, effectFor_entered chip holds]
          refine ((alike _).mapError _).andThen fun circuits => .done ?_
          rw [SameButEdges.pipelines circuits]

/-- A circuit compiles alike with the steps of its nets and without. -/
theorem compileWith_alike (inside : DeeperAlike deeper bare) (source : Circuit γ) :
    Compilation.Alike SameButEdges (compileWith (options.recording true) deeper depth grid source)
      (compileWith (options.recording false) bare depth grid source) := by
  unfold compileWith
  by_cases vacant : source.joined.isEmpty = true
  · rw [if_pos vacant, if_pos vacant]
    exact ⟨rfl, .error _⟩
  · rw [if_neg vacant, if_neg vacant]
    simp only [CompileOptions.recordTraceEdges_recording, Grid.trace_withoutEdges grid true]
    cases Grid.trace grid source.members true with
    | error conflict => exact ⟨rfl, .error _⟩
    | ok graph =>
        simp only [Except.map, Grid.demandOrder_withoutEdges, NetGraph.size_withoutEdges]
        refine (Compilation.Alike.each _ (effectFor_alike inside graph)).andThen
          fun {effects others} same => ?_
        rw [List.forall₂_eq_eq_eq] at same
        subst same
        exact (Compilation.Alike.refl _).andThen fun _ =>
          .done ⟨rfl, graph.sameButEdges, rfl, rfl⟩

private theorem compile_alike
    (inside : depth < options.maxEmbedDepth → ∀ interior : γ,
      Compilation.Alike (List.Forall₂ SameButEdges)
        (compileAll (options.recording true) (depth + 1) interior)
        (compileAll (options.recording false) (depth + 1) interior)) (source : Circuit γ) :
    Compilation.Alike SameButEdges (compile (options.recording true) depth grid source)
      (compile (options.recording false) depth grid source) :=
  compileWith_alike (deeperAlike_ite (depth < options.maxEmbedDepth) inside) source

/-- The circuits of a grid compile alike at every depth. -/
theorem compileAll_alike (options : CompileOptions) (depth : Nat) (grid : γ) :
    Compilation.Alike (List.Forall₂ SameButEdges) (compileAll (options.recording true) depth grid)
      (compileAll (options.recording false) depth grid) := by
  induction left : options.maxEmbedDepth - depth generalizing depth grid with
  | zero =>
      rw [compileAll_eq, compileAll_eq]
      exact .each _ fun members => compile_alike (fun room => absurd room (by omega)) _
  | succ levels ih =>
      rw [compileAll_eq, compileAll_eq]
      exact .each _ fun members =>
        compile_alike (fun _ interior => ih (depth + 1) interior (by omega)) _

/-- **To keep the steps of nets or not makes no other difference.** For all grids, members,
options and depths: tracing and compiling with the steps kept and without come to the same
error, or to the same nets with the same serial numbers, the same members in their order and
the same flags, attached to the same faces, with the same effects for the same targets, and
report the same on the way; and the circuits evaluate every state alike. Without the steps
each net has an empty list of them. -/
theorem recording_adds_edges_alone (options : CompileOptions) (depth : Nat) (grid : γ) :
    (∀ members, SameOutcome NetGraph.SameButEdges (Grid.trace grid members true)
      (Grid.trace grid members false)) ∧
    (∀ source, Compilation.Alike SameButEdges
      (compile (options.recording true) depth grid source)
      (compile (options.recording false) depth grid source)) ∧
    Compilation.Alike (List.Forall₂ SameButEdges)
      (compileAll (options.recording true) depth grid)
      (compileAll (options.recording false) depth grid) ∧
    ∀ recorded bare : Circuit γ, recorded.SameButEdges bare →
      bare.pipeline.map Effect.target = recorded.pipeline.map Effect.target ∧
        ∀ state, (bare.evaluate state).values = (recorded.evaluate state).values ∧
          (bare.evaluate state).edits = (recorded.evaluate state).edits := by
  refine ⟨Grid.trace_alike grid, fun source => ?_, compileAll_alike options depth grid, ?_⟩
  · exact compile_alike (fun _ interior => compileAll_alike options (depth + 1) interior) source
  · intro recorded bare same
    have pipelines : bare.pipeline = recorded.pipeline := same.pipeline
    refine ⟨by rw [pipelines], fun state => ?_⟩
    rw [evaluate, evaluate, pipelines]
    exact ⟨rfl, rfl⟩

end Circuit

end VoxelCircuit

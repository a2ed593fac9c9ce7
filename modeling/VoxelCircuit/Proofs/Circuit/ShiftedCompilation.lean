import VoxelCircuit.Circuit.Basic
import VoxelCircuit.Proofs.Circuit.Compile
import VoxelCircuit.Proofs.Circuit.ShiftedDemand

/-! # Circuits of shifted grids

The circuits of a shifted grid are its circuits shifted, and if one cannot be compiled it is
for the same reason at the shifted block (`VoxelCircuit.Circuit.compileAll_shifted`). The grids
inside chips stay as they are.
-/

namespace VoxelCircuit

/-- The key that a shift takes a key to. Nets keep their serial numbers, and what is published
for the block around the grid is not in the grid. -/
def Key.shift (offset : Pos) : Key → Key
  | .output face => .output (face.shift offset)
  | key => key

/-- Shifted keys are the same only if the keys are. -/
theorem Key.shift_injective (offset : Pos) : Function.Injective (shift offset) := by
  intro first second same
  cases first <;> cases second <;> simp_all [shift, (Face.shift_injective offset).eq_iff]

/-- The values shifted, in their order. -/
def Values.shift (offset : Pos) (values : Values) : Values :=
  Table.map (Key.shift offset) id values

/-- An effect shifted. The grid inside a chip is not. -/
def Effect.shift {γ : Type} (offset : Pos) : Effect γ → Effect γ
  | .merge net drivers => .merge net (drivers.map (Face.shift offset))
  | .respond pos behavior orientation inputs =>
    .respond (offset.shift pos) behavior orientation inputs
  | .chip pos orientation interior circuits =>
    .chip (offset.shift pos) orientation interior circuits

/-- A circuit shifted, with all that compiling made of it. -/
def Circuit.shift {γ : Type} (offset : Pos) (circuit : Circuit γ) : Circuit γ :=
  ⟨circuit.joined.shift offset, circuit.graph.shift offset,
    circuit.pipeline.map (Effect.shift offset), circuit.snapshot.shift offset⟩

/-- An error shifted. What it says about the grid inside a chip is not. -/
def CompileError.shift (offset : Pos) : CompileError → CompileError
  | .emptyCircuit => .emptyCircuit
  | .netConflict conflict => .netConflict { conflict with face := conflict.face.shift offset }
  | .inside pos cause => .inside (offset.shift pos) cause

/-- One compilation comes to what another comes to, shifted. -/
def Compilation.Shifted {α β : Type} (offset : Pos) (shift : α → β) (first : Compilation α)
    (second : Compilation β) : Prop :=
  second.outcome = (first.outcome.map shift).mapError (CompileError.shift offset)

namespace Compilation.Shifted

variable {α β α' β' : Type} {offset : Pos}

private theorem done {shift : α → α'} (value : α) :
    Shifted offset shift (Compilation.done value) (Compilation.done (shift value)) :=
  rfl

private theorem report (report other : Report) :
    Shifted offset id (Compilation.report report) (Compilation.report other) :=
  rfl

private theorem andThen {shift : α → α'} {shiftNext : β → β'} {first : Compilation α}
    {second : Compilation α'} {next : α → Compilation β} {others : α' → Compilation β'}
    (shifted : Shifted offset shift first second)
    (later : ∀ value, Shifted offset shiftNext (next value) (others (shift value))) :
    Shifted offset shiftNext (first.andThen next) (second.andThen others) := by
  unfold Shifted at shifted
  rw [Shifted, Compilation.andThen, Compilation.andThen, shifted]
  cases first.outcome with
  | error error => rfl
  | ok value => exact later value

private theorem each {shift : α → α'} {shiftResult : β → β'} {compile : α → Compilation β}
    {other : α' → Compilation β'} (items : List α)
    (shifted : ∀ item, Shifted offset shiftResult (compile item) (other (shift item))) :
    Shifted offset (List.map shiftResult) (Compilation.each compile items)
      (Compilation.each other (items.map shift)) := by
  induction items with
  | nil => exact .done []
  | cons item rest ih =>
      rw [List.map_cons, Compilation.each_cons, Compilation.each_cons]
      exact (shifted item).andThen fun result => ih.andThen fun results => .done (result :: results)

/-- What is said of the grid inside a chip is the same, at the shifted chip. -/
theorem inside (compilation : Compilation α) (pos : Pos) :
    Shifted offset id (compilation.mapError (.inside pos))
      (compilation.mapError (.inside (offset.shift pos))) := by
  simp only [Shifted, mapError]
  cases compilation.outcome <;> rfl

end Compilation.Shifted

namespace Circuit

section Members

variable {γ : Type} (offset : Pos)

/-- The members of a shifted circuit are the shifted members. -/
theorem members_shift (circuit : Circuit γ) :
    (circuit.shift offset).members = circuit.members.map offset.shift :=
  Table.keys_map offset.shift_injective id circuit.joined

private theorem addMember_shift (circuit : Circuit γ) (pos : Pos) :
    (circuit.shift offset).addMember (offset.shift pos) = (circuit.addMember pos).shift offset := by
  have joined := Table.map_insert offset.shift_injective id circuit.joined pos ()
  exact congrArg (fun joined : OrderedSet Pos => { circuit.shift offset with joined }) joined.symm

/-- A circuit of shifted members is the circuit of the members shifted. -/
theorem ofMembers_shift (members : List Pos) :
    (ofMembers (members.map offset.shift) : Circuit γ) = (ofMembers members).shift offset := by
  have joins : ∀ circuit : Circuit γ, (members.map offset.shift).foldl addMember
      (circuit.shift offset) = (members.foldl addMember circuit).shift offset := by
    induction members with
    | nil => exact fun _ => rfl
    | cons pos rest ih =>
        intro circuit
        rw [List.map_cons, List.foldl_cons, addMember_shift]
        exact ih _
  exact joins empty

end Members

variable {γ : Type} [Grid γ] {offset : Pos} {first second : γ} {options : CompileOptions}
  {deeper : Option (γ → Compilation (List (Circuit γ)))}

/-- The effect of a shifted target is its effect shifted. -/
theorem effectFor_shifted (shifted : Grid.Shifted offset first second) (graph : NetGraph)
    (target : Target) :
    Compilation.Shifted offset (Option.map (Effect.shift offset))
      (effectFor options deeper first graph target)
      (effectFor options deeper second (graph.shift offset) (target.shift offset)) := by
  cases target with
  | net id =>
      have same : ((graph.shift offset).net? id).map
          (fun net => Effect.merge (γ := γ) id net.drivers) =
            ((graph.net? id).map fun net => Effect.merge id net.drivers).map
              (Effect.shift offset) := by
        rw [NetGraph.net?_shift, Option.map_map, Option.map_map]
        congr 1
        funext net
        exact congrArg (Effect.merge id) (Net.drivers_shift offset net)
      rw [Target.shift, effectFor, effectFor, same]
      exact .done _
  | block pos =>
      simp only [Target.shift, effectFor, shifted.behavior, shifted.orientation,
        shifted.inputsAt, shifted.interior]
      cases there : Grid.behavior first pos with
      | none => exact .done none
      | some behavior =>
          cases behavior
          case wire => exact .done none
          case chip =>
            cases inside : Grid.interior first pos with
            | none =>
                exact (Compilation.Shifted.report _ _).andThen fun _ =>
                  .done (some (Effect.respond pos .chip _ _))
            | some interior =>
                cases deeper with
                | none =>
                    exact (Compilation.Shifted.report _ _).andThen fun _ =>
                      .done (some (Effect.respond pos .chip _ _))
                | some compile =>
                    refine (Compilation.Shifted.inside (compile interior) pos).andThen
                      fun circuits => ?_
                    exact .done (some (Effect.chip pos _ interior (circuits.map pipeline)))
          all_goals exact .done (some (Effect.respond pos _ _ _))

/-- A circuit shifted compiles to the compiled circuit shifted. -/
theorem compileWith_shifted (shifted : Grid.Shifted offset first second)
    (enclosed : Grid.Enclosed first) (alsoEnclosed : Grid.Enclosed second)
    (depth : Nat) (circuit : Circuit γ) :
    Compilation.Shifted offset (shift offset)
      (compileWith options deeper depth first circuit)
      (compileWith options deeper depth second (circuit.shift offset)) := by
  have none : (circuit.shift offset).joined.isEmpty = circuit.joined.isEmpty :=
    Table.isEmpty_map offset.shift_injective id circuit.joined
  rw [compileWith, compileWith, none]
  by_cases empty : circuit.joined.isEmpty = true
  · rw [if_pos empty, if_pos empty]
    rfl
  · rw [if_neg empty, if_neg empty]
    obtain ⟨graph, traced, alsoTraced⟩ :=
      shifted.trace enclosed alsoEnclosed circuit.members options.recordTraceEdges
    rw [members_shift, traced, alsoTraced]
    simp only [shifted.demandOrder, List.length_map, NetGraph.size_shift]
    refine (Compilation.Shifted.each _ (effectFor_shifted shifted graph)).andThen
      fun effects => ?_
    have pipeline : (effects.map (Option.map (Effect.shift offset))).filterMap id =
        (effects.filterMap id).map (Effect.shift offset) := by
      rw [List.filterMap_map, List.map_filterMap]
      rfl
    rw [pipeline, List.length_map]
    exact (Compilation.Shifted.report _ _).andThen fun _ =>
      .done { circuit with graph := graph, pipeline := effects.filterMap id }

/-- The circuits of a shifted grid are its circuits shifted, in their order. -/
theorem compileAll_shifted (shifted : Grid.Shifted offset first second)
    (enclosed : Grid.Enclosed first) (alsoEnclosed : Grid.Enclosed second) (depth : Nat) :
    Compilation.Shifted offset (List.map (shift offset)) (compileAll options depth first)
      (compileAll options depth second) := by
  rw [compileAll_eq, compileAll_eq, shifted.clusters enclosed alsoEnclosed]
  refine .each _ fun members => ?_
  rw [ofMembers_shift]
  exact compileWith_shifted shifted enclosed alsoEnclosed depth (ofMembers members)

end Circuit

end VoxelCircuit

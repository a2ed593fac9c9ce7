import VoxelCircuit.Proofs.Circuit.Reports
import VoxelCircuit.Proofs.Circuit.ShiftedCompilation

/-! # Reports on shifted grids

What compiling a grid reports comes in parts, in the order of the circuits and of their demands:
a report about the grid itself, which names one of its blocks or sums up one of its circuits, or
all that compiling the grid inside one of its chips reports (`VoxelCircuit.Circuit.reportParts`).
They break off with the first circuit that cannot be compiled. On a shifted grid the parts are
the same, shifted: a report about the grid names the shifted block, and those about the grid
inside a chip stay as they are (`VoxelCircuit.Circuit.reportParts_shifted`).
-/

namespace VoxelCircuit

/-- A report shifted. -/
def Report.shift (offset : Pos) : Report → Report
  | .missingInterior pos => .missingInterior (offset.shift pos)
  | .depthExceeded pos limit => .depthExceeded (offset.shift pos) limit
  | .compiled depth members nets effects => .compiled depth members nets effects

/-- A part of what compiling a grid reports. -/
inductive ReportPart where
  /-- A report about the grid itself. -/
  | own (report : Report)
  /-- All that compiling the grid inside a chip reports. -/
  | inside (pos : Pos) (reports : List Report)
deriving DecidableEq

namespace ReportPart

/-- The reports of a part. -/
def reports : ReportPart → List Report
  | own report => [report]
  | inside _ reports => reports

/-- A part shifted. What is reported of the grid inside a chip is not. -/
def shift (offset : Pos) : ReportPart → ReportPart
  | own report => own (report.shift offset)
  | inside pos reports => inside (offset.shift pos) reports

end ReportPart

namespace Compilation

variable {α β : Type}

/-- The items that are compiled in their turn: up to the first that fails, and this one. -/
def reached (compile : α → Compilation β) : List α → List α
  | [] => []
  | item :: rest =>
    match (compile item).outcome with
    | .ok _ => item :: reached compile rest
    | .error _ => [item]

/-- Reported is what the items report that are compiled in their turn. -/
theorem reports_each_reached (compile : α → Compilation β) (items : List α) :
    (each compile items).reports =
      (reached compile items).flatMap fun item => (compile item).reports := by
  induction items with
  | nil => rfl
  | cons item rest ih =>
      rw [each_cons, andThen, reached]
      cases (compile item).outcome with
      | error error => simp only [List.flatMap_singleton]
      | ok value =>
          rw [List.flatMap_cons, ← ih]
          simp only [andThen]
          cases (each compile rest).outcome <;> simp [done]

/-- Where the compilations of the items succeed alike, those of the shifted items are reached
that correspond to the items reached. -/
theorem reached_shifted {α' β' : Type} {offset : Pos} {shift : α → α'} {shiftResult : β → β'}
    {compile : α → Compilation β} {other : α' → Compilation β'} (items : List α)
    (shifted : ∀ item, Shifted offset shiftResult (compile item) (other (shift item))) :
    reached other (items.map shift) = (reached compile items).map shift := by
  induction items with
  | nil => rfl
  | cons item rest ih =>
      rw [List.map_cons, reached, reached, shifted item]
      cases (compile item).outcome with
      | error error => rfl
      | ok value => exact congrArg _ ih

end Compilation

namespace Circuit

variable {γ : Type} [Grid γ]

/-- What is reported of a chip: that it is passed over, or what compiling the grid inside it
reports. -/
def chipPart (options : CompileOptions) (depth : Nat) (grid : γ) (pos : Pos) : ReportPart :=
  match passedOver? options depth grid pos with
  | some report => .own report
  | none => .inside pos (reportsInside options depth grid pos)

/-- The parts of what compiling a circuit reports: those of the chips that it demands, up to
one inside which a circuit cannot be compiled, and at the end its summary. -/
def circuitParts (options : CompileOptions) (depth : Nat) (grid : γ) (circuit : Circuit γ) :
    List ReportPart :=
  if circuit.joined.isEmpty then []
  else
    match Grid.trace grid circuit.members options.recordTraceEdges with
    | .error _ => []
    | .ok graph =>
      let deeper :=
        if depth < options.maxEmbedDepth then some (compileAll options (depth + 1)) else none
      let demanded := Compilation.reached (effectFor options deeper grid graph)
        (Grid.demandOrder grid graph circuit.members)
      (demanded.filterMap (Grid.chip? grid)).map (chipPart options depth grid) ++
        ((compile options depth grid circuit).outcome.toOption.map fun compiled =>
          .own (compiled.summary depth)).toList

/-- The parts of what compiling the circuits of a grid reports, up to the first circuit that
cannot be compiled. -/
def reportParts (options : CompileOptions) (depth : Nat) (grid : γ) : List ReportPart :=
  (Compilation.reached (fun members => compile options depth grid (ofMembers members))
    (Grid.clusters grid)).flatMap fun members =>
      circuitParts options depth grid (ofMembers members)

section Parts

variable {options : CompileOptions} {depth : Nat} {grid : γ}

/-- A chip that is passed over is not entered. -/
theorem reports_chipPart (pos : Pos) :
    (chipPart options depth grid pos).reports =
      (passedOver? options depth grid pos).toList ++ reportsInside options depth grid pos := by
  unfold chipPart passedOver? reportsInside
  cases Grid.interior grid pos with
  | none => rfl
  | some interior =>
      by_cases room : depth < options.maxEmbedDepth
      · simp only [if_pos room]
        rfl
      · simp only [if_neg room]
        rfl

/-- Compiling a circuit reports its parts, one after the other. -/
theorem reports_compile_parts (circuit : Circuit γ) :
    (compile options depth grid circuit).reports =
      (circuitParts options depth grid circuit).flatMap ReportPart.reports := by
  by_cases empty : circuit.joined.isEmpty = true
  · simp only [circuitParts, compile, compileWith, if_pos empty]
    rfl
  simp only [circuitParts, compile, compileWith, if_neg empty]
  cases Grid.trace grid circuit.members options.recordTraceEdges with
  | error conflict => rfl
  | ok graph =>
      -- Of the targets that are demanded only chips are reported of.
      have demanded : ∀ targets : List Target,
          ((targets.filterMap (Grid.chip? grid)).map (chipPart options depth grid)).flatMap
            ReportPart.reports = targets.flatMap fun target => (effectFor options
              (if depth < options.maxEmbedDepth then some (compileAll options (depth + 1))
                else none) grid graph target).reports := by
        intro targets
        rw [List.filterMap_eq_flatMap_toList, List.flatMap_map, List.flatMap_assoc]
        refine List.flatMap_congr fun target _ => ?_
        simp only [reports_chipPart, reports_effectFor]
      simp only [List.flatMap_append, demanded, ← Compilation.reports_each_reached,
        Compilation.andThen]
      cases (Compilation.each _ (Grid.demandOrder grid graph circuit.members)).outcome with
      | error error => simp [Except.toOption]
      | ok effects => rfl

/-- Compiling the circuits of a grid reports its parts, one after the other. -/
theorem reports_parts : (compileAll options depth grid).reports =
    (reportParts options depth grid).flatMap ReportPart.reports := by
  rw [compileAll_eq, Compilation.reports_each_reached, reportParts, List.flatMap_assoc]
  exact List.flatMap_congr fun members _ => reports_compile_parts (ofMembers members)

end Parts

section Shifted

variable {options : CompileOptions} {depth : Nat} {offset : Pos} {first second : γ}

private theorem chipPart_shifted (shifted : Grid.Shifted offset first second) (pos : Pos) :
    chipPart options depth second (offset.shift pos) =
      (chipPart options depth first pos).shift offset := by
  unfold chipPart passedOver? reportsInside
  rw [shifted.interior]
  cases Grid.interior first pos with
  | none => rfl
  | some interior =>
      by_cases room : depth < options.maxEmbedDepth
      · simp only [if_pos room]
        rfl
      · simp only [if_neg room]
        rfl

private theorem chip?_shifted (shifted : Grid.Shifted offset first second) (target : Target) :
    Grid.chip? second (target.shift offset) = (Grid.chip? first target).map offset.shift := by
  cases target with
  | net id => rfl
  | block pos =>
      rw [Target.shift, Grid.chip?_block, Grid.chip?_block, shifted.behavior]
      split <;> rfl

omit [Grid γ] in
private theorem summary_shift (depth : Nat) (circuit : Circuit γ) :
    (circuit.shift offset).summary depth = (circuit.summary depth).shift offset := by
  have nets : (circuit.shift offset).graph.size = circuit.graph.size :=
    circuit.graph.size_shift offset
  have effects : (circuit.shift offset).pipeline.length = circuit.pipeline.length :=
    List.length_map ..
  rw [summary, members_shift, List.length_map, nets, effects]
  rfl

private theorem circuitParts_shifted (shifted : Grid.Shifted offset first second)
    (enclosed : Grid.Enclosed first) (alsoEnclosed : Grid.Enclosed second) (circuit : Circuit γ) :
    circuitParts options depth second (circuit.shift offset) =
      (circuitParts options depth first circuit).map (ReportPart.shift offset) := by
  have none : (circuit.shift offset).joined.isEmpty = circuit.joined.isEmpty :=
    Table.isEmpty_map offset.shift_injective id circuit.joined
  unfold circuitParts
  rw [none]
  by_cases empty : circuit.joined.isEmpty = true
  · rw [if_pos empty, if_pos empty]
    rfl
  rw [if_neg empty, if_neg empty]
  obtain ⟨graph, traced, alsoTraced⟩ :=
    shifted.trace enclosed alsoEnclosed circuit.members options.recordTraceEdges
  have compiled : (compile options depth second (circuit.shift offset)).outcome = _ :=
    compileWith_shifted shifted enclosed alsoEnclosed depth circuit
  have chips : ∀ targets : List Target,
      ((targets.map (Target.shift offset)).filterMap (Grid.chip? second)).map
        (chipPart options depth second) = ((targets.filterMap (Grid.chip? first)).map
          (chipPart options depth first)).map (ReportPart.shift offset) := by
    intro targets
    rw [List.filterMap_map, List.map_filterMap, List.map_filterMap, List.map_filterMap]
    refine List.filterMap_congr fun target _ => ?_
    simp only [Function.comp_apply, chip?_shifted shifted, Option.map_map]
    congr 1
    funext pos
    exact chipPart_shifted shifted pos
  rw [members_shift, traced, alsoTraced]
  simp only [shifted.demandOrder, Compilation.reached_shifted _ (effectFor_shifted shifted graph),
    chips, compiled, List.map_append]
  congr 1
  unfold compile
  cases (compileWith options _ depth first circuit).outcome with
  | error error => rfl
  | ok result =>
      simp only [Except.map, Except.mapError, Except.toOption, Option.map_some,
        Option.toList_some, List.map_cons, List.map_nil, summary_shift]
      rfl

/-- On a shifted grid the parts of what is reported are the same, shifted. -/
theorem reportParts_shifted (shifted : Grid.Shifted offset first second)
    (enclosed : Grid.Enclosed first) (alsoEnclosed : Grid.Enclosed second) :
    reportParts options depth second =
      (reportParts options depth first).map (ReportPart.shift offset) := by
  have alike : ∀ members : List Pos, Compilation.Shifted offset (shift offset)
      (compile options depth first (ofMembers members))
      (compile options depth second (ofMembers (members.map offset.shift))) := by
    intro members
    rw [ofMembers_shift]
    exact compileWith_shifted shifted enclosed alsoEnclosed depth (ofMembers members)
  have reached : Compilation.reached (fun members => compile options depth second
        (ofMembers members)) ((Grid.clusters first).map (List.map offset.shift)) =
      (Compilation.reached (fun members => compile options depth first (ofMembers members))
        (Grid.clusters first)).map (List.map offset.shift) :=
    Compilation.reached_shifted _ alike
  simp only [reportParts, shifted.clusters enclosed alsoEnclosed, reached, List.flatMap_map,
    List.map_flatMap, ofMembers_shift, circuitParts_shifted shifted enclosed alsoEnclosed]

end Shifted

end Circuit

end VoxelCircuit

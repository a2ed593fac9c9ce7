import Mathlib.Data.List.Perm.Basic
import VoxelCircuit.Layout.EndlessChip
import VoxelCircuit.Proofs.Circuit.Interior
import VoxelCircuit.Proofs.Circuit.Nesting

/-! # What compiling reports

The grids that a compilation enters are told apart by the chips on the way to them
(`VoxelCircuit.Circuit.Enters`). A compilation that succeeds reports each circuit of each
entered grid and each chip that it passes over there, once each and nothing else
(`VoxelCircuit.Circuit.compileAll_accounts`).
-/

namespace VoxelCircuit

namespace Compilation

variable {α β : Type}

private theorem reports_each {compile : α → Compilation β} {items : List α} {results : List β}
    (outcome : (each compile items).outcome = .ok results) :
    (each compile items).reports = items.flatMap fun item => (compile item).reports := by
  induction items generalizing results with
  | nil => rfl
  | cons item rest ih =>
      rw [each_cons, andThen_ok] at outcome
      obtain ⟨value, first, later⟩ := outcome
      obtain ⟨values, others, _⟩ := andThen_ok.mp later
      rw [each_cons, reports_andThen first, reports_andThen others, ih others, List.flatMap_cons]
      simp only [done, List.append_nil]

end Compilation

variable {γ : Type} [Grid γ]

/-- The chip that a target is, if it is one. -/
def Grid.chip? (grid : γ) (target : Target) : Option Pos :=
  target.block?.filter fun pos => behavior grid pos = some .chip

/-- The chip at a position is the block there, if it is one. -/
theorem Grid.chip?_block (grid : γ) (pos : Pos) :
    chip? grid (.block pos) = if behavior grid pos = some .chip then some pos else none := by
  simp [chip?, Target.block?, Option.filter_some]

private theorem Grid.chip?_eq_some {grid : γ} {target : Target} {pos : Pos} :
    chip? grid target = some pos ↔ target = .block pos ∧ behavior grid pos = some .chip := by
  cases target with
  | block other =>
      simp only [chip?, Target.block?, Option.filter_eq_some_iff, Option.some.injEq,
        decide_eq_true_eq, Target.block.injEq]
  | net id => simp [chip?, Target.block?]

namespace Circuit

/-- What is reported of a circuit that was compiled at a depth. -/
def summary {γ : Type} (depth : Nat) (circuit : Circuit γ) : Report :=
  .compiled depth circuit.members.length circuit.graph.size circuit.pipeline.length

/-- What is reported of a chip that is passed over at a depth, for it holds no grid or is too
deep. -/
def passedOver? (options : CompileOptions) (depth : Nat) (grid : γ) (pos : Pos) :
    Option Report :=
  match Grid.interior grid pos with
  | none => some (.missingInterior pos)
  | some _ =>
    if depth < options.maxEmbedDepth then none
    else some (.depthExceeded pos options.maxEmbedDepth)

/-- What is reported of the grid inside a chip that is entered at a depth. -/
def reportsInside (options : CompileOptions) (depth : Nat) (grid : γ) (pos : Pos) :
    List Report :=
  match Grid.interior grid pos with
  | none => []
  | some interior =>
    if depth < options.maxEmbedDepth then (compileAll options (depth + 1) interior).reports
    else []

variable {options : CompileOptions} {depth : Nat} {grid : γ}

private theorem reportsInside_of_room (room : depth < options.maxEmbedDepth) (pos : Pos) :
    reportsInside options depth grid pos = (Grid.interior grid pos).toList.flatMap
      fun interior => (compileAll options (depth + 1) interior).reports := by
  rw [reportsInside]
  cases Grid.interior grid pos with
  | none => rfl
  | some interior => simp only [if_pos room, Option.toList_some, List.flatMap_singleton]

private theorem reportsInside_of_limit (limit : options.maxEmbedDepth ≤ depth) (pos : Pos) :
    reportsInside options depth grid pos = [] := by
  rw [reportsInside]
  cases Grid.interior grid pos with
  | none => rfl
  | some interior => exact if_neg (Nat.not_lt.mpr limit)

private theorem passedOver?_eq_some {pos : Pos} {report : Report} :
    passedOver? options depth grid pos = some report ↔ Skips options
      (if depth < options.maxEmbedDepth then some (compileAll options (depth + 1)) else none)
      grid pos report := by
  rw [passedOver?]
  constructor
  · intro passed
    cases holds : Grid.interior grid pos with
    | none =>
        rw [holds] at passed
        cases passed
        exact .hollow holds
    | some interior =>
        simp only [holds] at passed
        obtain ⟨beyond, same⟩ := Option.ite_none_left_eq_some.mp passed
        cases same
        exact .deep holds (if_neg beyond)
  · intro skips
    cases skips with
    | hollow none => rw [none]
    | deep holds limit =>
        have beyond : ¬depth < options.maxEmbedDepth := by simpa using limit
        simp only [holds, if_neg beyond]

/-- Of all targets only chips have something reported of them. -/
theorem reports_effectFor (graph : NetGraph) (target : Target) :
    (effectFor options
      (if depth < options.maxEmbedDepth then some (compileAll options (depth + 1)) else none)
      grid graph target).reports =
      (Grid.chip? grid target).toList.flatMap fun pos =>
        (passedOver? options depth grid pos).toList ++ reportsInside options depth grid pos := by
  cases targetCase options
    (if depth < options.maxEmbedDepth then some (compileAll options (depth + 1)) else none)
    grid target with
  | net id => rfl
  | idle passive =>
      rw [effectFor_idle passive, Grid.chip?_block, if_neg fun chip => ?_]
      · rfl
      · simp [Grid.activeBeyondWire, chip, Behavior.isWire] at passive
  | plain there active notChip =>
      rw [effectFor_plain there active notChip, Grid.chip?_block, if_neg fun chip => ?_]
      · rfl
      · exact notChip (Option.some.inj (there.symm.trans chip))
  | @skipped pos _ chip skips =>
      have none : reportsInside options depth grid pos = [] := by
        cases skips with
        | hollow none => rw [reportsInside, none]
        | deep holds limit => exact reportsInside_of_limit (by simpa using limit) pos
      rw [effectFor_skipped chip skips, Grid.chip?_block, if_pos chip, Option.toList_some,
        List.flatMap_singleton, passedOver?_eq_some.mpr skips, none]
      rfl
  | @entered pos interior _ chip holds given =>
      obtain ⟨room, _⟩ := Option.ite_none_right_eq_some.mp given
      rw [if_pos room, effectFor_entered chip holds, Grid.chip?_block, if_pos chip,
        Option.toList_some, List.flatMap_singleton, passedOver?, reportsInside]
      simp only [holds, if_pos room, Compilation.andThen, Compilation.mapError, Compilation.done]
      cases (compileAll options (depth + 1) interior).outcome <;> simp [Except.mapError]

private theorem reports_compile {source circuit : Circuit γ}
    (compiled : (compile options depth grid source).outcome = .ok circuit) :
    (compile options depth grid source).reports =
      ((Grid.demandOrder grid circuit.graph circuit.members).filterMap
        (Grid.chip? grid)).flatMap (fun pos =>
          (passedOver? options depth grid pos).toList ++ reportsInside options depth grid pos) ++
        [circuit.summary depth] := by
  obtain ⟨_, effects, each, _, reports⟩ := compileWith_steps compiled
  have members := (compile_ok compiled).1
  have demanded : (Grid.demandOrder grid circuit.graph source.members).flatMap (fun target =>
      (effectFor options (if depth < options.maxEmbedDepth then
        some (compileAll options (depth + 1)) else none) grid circuit.graph target).reports) =
      ((Grid.demandOrder grid circuit.graph source.members).filterMap (Grid.chip? grid)).flatMap
        fun pos => (passedOver? options depth grid pos).toList ++
          reportsInside options depth grid pos := by
    rw [List.filterMap_eq_flatMap_toList, List.flatMap_assoc]
    exact List.flatMap_congr fun target _ => reports_effectFor circuit.graph target
  rw [Circuit.compile, reports, Compilation.reports_each each, demanded, summary, members]

/-- The circuit of a cluster demands each chip of the cluster once and no other chips. -/
theorem Compiled.perm_chips {circuit : Circuit γ} {recordEdges : Bool}
    (compiled : Compiled grid recordEdges circuit) (closed : Grid.Closed grid circuit.members) :
    ((Grid.demandOrder grid circuit.graph circuit.members).filterMap (Grid.chip? grid)).Perm
      (circuit.members.filter fun pos => Grid.behavior grid pos = some .chip) := by
  have demanded := Grid.demandOrder_demanded (Grid.graphOf_trace compiled.traced) circuit.members
  have distinct : ((Grid.demandOrder grid circuit.graph circuit.members).filterMap
      (Grid.chip? grid)).Nodup := by
    refine demanded.nodup.filterMap fun target other pos first second => ?_
    rw [(Grid.chip?_eq_some.mp first).1, (Grid.chip?_eq_some.mp second).1]
  refine (List.perm_ext_iff_of_nodup distinct (circuit.joined.nodup_keys.filter _)).mpr
    fun pos => ?_
  simp only [List.mem_filterMap, Grid.chip?_eq_some, List.mem_filter, decide_eq_true_eq]
  constructor
  · rintro ⟨_, listed, rfl, chip⟩
    exact ⟨Grid.demandOrder_among closed (fun _ member => member) compiled.traced listed, chip⟩
  · rintro ⟨member, chip⟩
    exact ⟨_, demanded.member pos member, rfl, chip⟩

/-- What is reported of the chips among some blocks. -/
def chipReports (options : CompileOptions) (depth : Nat) (grid : γ) (blocks : List Pos) :
    List Report :=
  (blocks.filter fun pos => Grid.behavior grid pos = some .chip).flatMap fun pos =>
    (passedOver? options depth grid pos).toList ++ reportsInside options depth grid pos

/-- The circuit of a cluster reports itself and the chips of the cluster. -/
theorem perm_reports_compile {cluster : List Pos} (listed : cluster ∈ Grid.clusters grid)
    {circuit : Circuit γ}
    (compiled : (compile options depth grid (ofMembers cluster)).outcome = .ok circuit) :
    circuit.members = cluster ∧ (compile options depth grid (ofMembers cluster)).reports.Perm
      (circuit.summary depth :: chipReports options depth grid cluster) := by
  obtain ⟨members, made⟩ := compile_ok compiled
  rw [members_ofMembers (Grid.nodup_cluster listed)] at members
  have chips := made.perm_chips (members ▸ (Grid.clusters_closed listed).1)
  rw [members] at chips
  refine ⟨members, ?_⟩
  rw [reports_compile compiled, members]
  exact List.perm_append_comm.trans ((chips.flatMap_right _).cons _)

private theorem perm_reports_each {clusters : List (List Pos)}
    (listed : ∀ cluster ∈ clusters, cluster ∈ Grid.clusters grid) {circuits : List (Circuit γ)}
    (compiled : List.Forall₂ (fun cluster circuit =>
      (compile options depth grid (ofMembers cluster)).outcome = .ok circuit) clusters circuits) :
    circuits.map members = clusters ∧
      (clusters.flatMap fun cluster =>
        (compile options depth grid (ofMembers cluster)).reports).Perm
        (circuits.map (summary depth) ++ chipReports options depth grid clusters.flatten) := by
  induction compiled with
  | nil => exact ⟨rfl, .refl _⟩
  | @cons cluster circuit clusters circuits compiled _ ih =>
      obtain ⟨members, first⟩ := perm_reports_compile (listed cluster List.mem_cons_self) compiled
      obtain ⟨others, rest⟩ := ih fun other later => listed other (List.mem_cons_of_mem _ later)
      refine ⟨by rw [List.map_cons, members, others], ?_⟩
      have divided : chipReports options depth grid (cluster :: clusters).flatten =
          chipReports options depth grid cluster ++
            chipReports options depth grid clusters.flatten := by
        rw [chipReports, List.flatten_cons, List.filter_append, List.flatMap_append]
        rfl
      rw [List.flatMap_cons, List.map_cons, divided]
      refine (first.append rest).trans ?_
      rw [List.cons_append, List.cons_append]
      refine List.Perm.cons _ ?_
      rw [← List.append_assoc, ← List.append_assoc]
      exact List.perm_append_comm.append_right _

/-- The circuits of a grid that compiled are those of its clusters. Reported are each of them,
the chips that are passed over and what the grids inside the others have reported. -/
theorem perm_reports {circuits : List (Circuit γ)}
    (outcome : (compileAll options depth grid).outcome = .ok circuits) :
    circuits.map members = Grid.clusters grid ∧
      (compileAll options depth grid).reports.Perm ((circuits.map (summary depth) ++
        (Grid.chips grid).filterMap (passedOver? options depth grid)) ++
          (Grid.chips grid).flatMap (reportsInside options depth grid)) := by
  rw [compileAll_eq] at outcome ⊢
  obtain ⟨members, reports⟩ :=
    perm_reports_each (fun _ listed => listed) (Compilation.each_ok.mp outcome)
  refine ⟨members, ?_⟩
  rw [Compilation.reports_each outcome, List.append_assoc, List.filterMap_eq_flatMap_toList]
  exact reports.trans ((List.flatMap_append_perm _ _ _).symm.append_left _)

/-- A chip that is passed over has an effect that changes no state. -/
theorem passedOver_idle {source circuit : Circuit γ} {pos : Pos}
    (compiled : (compile options depth grid source).outcome = .ok circuit)
    (member : pos ∈ circuit.members) (there : Grid.behavior grid pos = some .chip)
    (passed : (passedOver? options depth grid pos).isSome = true) :
    .block pos ∈ circuit.pipeline.map Effect.target ∧
      ∀ effect ∈ circuit.pipeline, effect.target = .block pos →
        ∀ state : EvalState γ, state.add (effect.response state) = state := by
  obtain ⟨report, passes⟩ := Option.isSome_iff_exists.mp passed
  have skipped := skipped_effect compiled member there (passedOver?_eq_some.mp passes)
  refine ⟨List.mem_map.mpr ⟨_, skipped, rfl⟩, fun effect member target state => ?_⟩
  have same : effect = _ := List.inj_on_of_nodup_map (compile_ok compiled).2.nodup_targets
    member skipped target
  rw [same]
  rfl

/-- A grid that a compilation enters. -/
structure Site (γ : Type) where
  /-- The chips on the way to it, from the outermost on. -/
  path : List Pos
  /-- The depth at which its circuits are compiled. -/
  depth : Nat
  /-- The grid. -/
  grid : γ

/-- The same grid, on a way that begins with one more chip. -/
def Site.inside {γ : Type} (pos : Pos) (site : Site γ) : Site γ :=
  { site with path := pos :: site.path }

/-- Compiling a grid at a depth enters a grid: the grid itself, and what is entered from the
grids inside chips of its circuits, if the depth is below the limit. -/
inductive Enters (options : CompileOptions) : Nat → γ → Site γ → Prop
  | outermost {depth : Nat} {grid : γ} : Enters options depth grid ⟨[], depth, grid⟩
  | inside {depth : Nat} {grid : γ} (room : depth < options.maxEmbedDepth) {pos : Pos}
      (chip : pos ∈ Grid.chips grid) {interior : γ}
      (holds : Grid.interior grid pos = some interior) {site : Site γ}
      (deeper : Enters options (depth + 1) interior site) :
      Enters options depth grid (site.inside pos)

/-- The grids entered from a grid, when chips may be entered some number of levels further. -/
def sitesWithin : (levels : Nat) → (depth : Nat) → γ → List (Site γ)
  | 0, depth, grid => [⟨[], depth, grid⟩]
  | levels + 1, depth, grid =>
    ⟨[], depth, grid⟩ :: (Grid.chips grid).flatMap fun pos =>
      (Grid.interior grid pos).toList.flatMap fun interior =>
        (sitesWithin levels (depth + 1) interior).map (Site.inside pos)

/-- The grids that compiling a grid at a depth enters. -/
def sites (options : CompileOptions) (depth : Nat) (grid : γ) : List (Site γ) :=
  sitesWithin (options.maxEmbedDepth - depth) depth grid

/-- The circuits of a site, none if they do not compile. -/
def Site.circuits (options : CompileOptions) (site : Site γ) : List (Circuit γ) :=
  (compileAll options site.depth site.grid).outcome.toOption.getD []

/-- What is reported at a site: each circuit of it, and each chip that is passed over. -/
def Site.reports (options : CompileOptions) (site : Site γ) : List Report :=
  (site.circuits options).map (summary site.depth) ++
    (Grid.chips site.grid).filterMap (passedOver? options site.depth site.grid)

/-- The sites below a grid are those that its compilation enters. -/
theorem mem_sites {site : Site γ} :
    site ∈ sites options depth grid ↔ Enters options depth grid site := by
  unfold sites
  induction left : options.maxEmbedDepth - depth generalizing depth grid site with
  | zero =>
      rw [sitesWithin, List.mem_singleton]
      constructor
      · rintro rfl
        exact .outermost
      · intro enters
        cases enters with
        | outermost => rfl
        | inside room _ _ _ => omega
  | succ levels ih =>
      simp only [sitesWithin, List.mem_cons, List.mem_flatMap, Option.mem_toList, List.mem_map]
      have below : options.maxEmbedDepth - (depth + 1) = levels := by omega
      constructor
      · rintro (rfl | ⟨pos, chip, interior, holds, inner, entered, rfl⟩)
        · exact .outermost
        · exact .inside (by omega) chip holds ((ih below).mp entered)
      · intro enters
        cases enters with
        | outermost => exact Or.inl rfl
        | inside room chip holds deeper =>
            exact Or.inr ⟨_, chip, _, holds, _, (ih below).mpr deeper, rfl⟩

/-- No two grids are entered on one way. -/
theorem nodup_sites (options : CompileOptions) (depth : Nat) (grid : γ) :
    ((sites options depth grid).map Site.path).Nodup := by
  unfold sites
  generalize options.maxEmbedDepth - depth = levels
  induction levels generalizing depth grid with
  | zero => exact List.nodup_singleton _
  | succ levels ih =>
      have paths : ∀ pos, (((Grid.interior grid pos).toList.flatMap fun interior =>
          (sitesWithin levels (depth + 1) interior).map (Site.inside pos)).map Site.path) =
          (Grid.interior grid pos).toList.flatMap fun interior =>
            ((sitesWithin levels (depth + 1) interior).map Site.path).map (pos :: ·) := by
        intro pos
        cases Grid.interior grid pos <;> simp [Site.inside]
      rw [sitesWithin, List.map_cons, List.map_flatMap, List.nodup_cons, List.nodup_flatMap]
      simp only [paths]
      refine ⟨fun listed => ?_, fun pos _ => ?_, ?_⟩
      · simp at listed
      · cases Grid.interior grid pos with
        | none => exact List.nodup_nil
        | some interior =>
            rw [Option.toList_some, List.flatMap_singleton]
            exact (ih (depth + 1) interior).map fun _ _ same => List.tail_eq_of_cons_eq same
      · refine (Grid.nodup_chips grid).imp fun {pos other} apart path first second => apart ?_
        simp only [List.mem_flatMap, List.mem_map] at first second
        obtain ⟨_, _, _, _, rfl⟩ := first
        obtain ⟨_, _, _, _, same⟩ := second
        exact (List.head_eq_of_cons_eq same).symm

/-- If the circuits of a grid compile, then so do those inside the chips that are entered. -/
theorem interior_compiles {circuits : List (Circuit γ)}
    (outcome : (compileAll options depth grid).outcome = .ok circuits)
    (room : depth < options.maxEmbedDepth) {pos : Pos} (chip : pos ∈ Grid.chips grid)
    {interior : γ} (holds : Grid.interior grid pos = some interior) :
    ∃ inner, (compileAll options (depth + 1) interior).outcome = .ok inner := by
  obtain ⟨⟨cluster, listed, member⟩, there⟩ := Grid.mem_chips.mp chip
  obtain ⟨circuit, _, compiled⟩ := (mem_compileAll outcome).2 cluster listed
  have joined : pos ∈ circuit.members := by rwa [(compile_ok compiled).1, mem_ofMembers]
  obtain ⟨inner, deeper, _⟩ := exists_chip_effect compiled joined there holds room
  exact ⟨inner, deeper⟩

private theorem circuits_of_compileAll {site : Site γ} {circuits : List (Circuit γ)}
    (outcome : (compileAll options site.depth site.grid).outcome = .ok circuits) :
    site.circuits options = circuits := by
  rw [Site.circuits, outcome]
  rfl

/-- If the circuits of a grid compile, then so do those of each site, and reported is what
is reported at the sites. -/
theorem perm_reports_sites {circuits : List (Circuit γ)}
    (outcome : (compileAll options depth grid).outcome = .ok circuits) :
    (∀ site ∈ sites options depth grid,
      (compileAll options site.depth site.grid).outcome = .ok (site.circuits options)) ∧
    (compileAll options depth grid).reports.Perm
      ((sites options depth grid).flatMap (Site.reports options)) := by
  unfold sites
  induction left : options.maxEmbedDepth - depth generalizing depth grid circuits with
  | zero =>
      obtain ⟨_, reports⟩ := perm_reports outcome
      have own : (⟨[], depth, grid⟩ : Site γ).circuits options = circuits :=
        circuits_of_compileAll outcome
      have none : (Grid.chips grid).flatMap (reportsInside options depth grid) = [] := by
        exact List.flatMap_eq_nil_iff.mpr fun pos _ => reportsInside_of_limit (by omega) pos
      rw [none, List.append_nil] at reports
      rw [sitesWithin, List.flatMap_singleton, Site.reports, own]
      refine ⟨fun site listed => ?_, reports⟩
      rw [List.mem_singleton.mp listed, own]
      exact outcome
  | succ levels ih =>
      obtain ⟨_, reports⟩ := perm_reports outcome
      have room : depth < options.maxEmbedDepth := by omega
      have own : (⟨[], depth, grid⟩ : Site γ).circuits options = circuits :=
        circuits_of_compileAll outcome
      rw [sitesWithin, List.flatMap_cons, List.flatMap_assoc, Site.reports, own]
      constructor
      · intro site listed
        rcases List.mem_cons.mp listed with rfl | deeper
        · rw [own]
          exact outcome
        · simp only [List.mem_flatMap, Option.mem_toList, List.mem_map] at deeper
          obtain ⟨pos, chip, interior, holds, inner, entered, rfl⟩ := deeper
          obtain ⟨nested, compiles⟩ := interior_compiles outcome room chip holds
          exact (ih compiles (by omega)).1 inner entered
      · refine reports.trans (List.Perm.append_left _ ?_)
        refine List.Perm.flatMap_left _ fun pos chip => ?_
        rw [reportsInside_of_room room, List.flatMap_assoc]
        refine List.Perm.flatMap_left _ fun interior holds => ?_
        obtain ⟨nested, compiles⟩ :=
          interior_compiles outcome room chip (Option.mem_toList.mp holds)
        rw [List.flatMap_map]
        exact (ih compiles (by omega)).2

/-- No site is entered beyond the limit of nesting. -/
theorem Enters.depth_le {site : Site γ} (enters : Enters options depth grid site) :
    site.depth ≤ max depth options.maxEmbedDepth := by
  induction enters with
  | outermost => exact le_max_left _ _
  | inside room _ _ _ ih => exact ih.trans (max_le (by omega) (le_max_right _ _))

/-- Each chip that is passed over in the circuits of a site has an effect, and none that
changes a state. -/
def Site.Idles (options : CompileOptions) (site : Site γ) : Prop :=
  ∀ circuit ∈ site.circuits options, ∀ pos ∈ circuit.members,
    Grid.behavior site.grid pos = some .chip →
    (passedOver? options site.depth site.grid pos).isSome →
    .block pos ∈ circuit.pipeline.map Effect.target ∧
      ∀ effect ∈ circuit.pipeline, effect.target = .block pos →
        ∀ state : EvalState γ, state.add (effect.response state) = state

private theorem Site.idles {site : Site γ}
    (outcome : (compileAll options site.depth site.grid).outcome = .ok (site.circuits options)) :
    site.Idles options := by
  intro circuit listed pos member chip passed
  obtain ⟨_, _, compiled⟩ := (mem_compileAll outcome).1 circuit listed
  exact passedOver_idle compiled member chip passed

/-- **What compiling reports.** Compiling the circuits of a grid at a depth ends, also where
chips hold grids without end: its searches do, and following chips comes to one result, no
deeper than the limit or the first depth. If it succeeds, then so it does at each site that it
enters, and it has reported the circuits of the sites, the chips there that hold no grid and
those whose grids are too deep, once each and nothing else. These chips change no state. -/
theorem compileAll_accounts (options : CompileOptions) (depth : Nat) (grid : γ) :
    (∀ other : γ, Grid.SearchesEnd other options.recordTraceEdges) ∧
    (∀ result, Compiles options (max depth options.maxEmbedDepth) depth grid result ↔
      result = compileAll options depth grid) ∧
    (∀ site, Enters options depth grid site → site.depth ≤ max depth options.maxEmbedDepth) ∧
    ∀ circuits, (compileAll options depth grid).outcome = .ok circuits →
      ((sites options depth grid).map Site.path).Nodup ∧
      (∀ site, site ∈ sites options depth grid ↔ Enters options depth grid site) ∧
      (∀ site ∈ sites options depth grid,
        (compileAll options site.depth site.grid).outcome = .ok (site.circuits options) ∧
          (site.circuits options).map members = Grid.clusters site.grid ∧ site.Idles options) ∧
      (compileAll options depth grid).reports.Perm
        ((sites options depth grid).flatMap (Site.reports options)) := by
  refine ⟨fun other => Grid.searchesEnd other _, fun result => ⟨Compiles.unique, ?_⟩,
    fun site => Enters.depth_le, fun circuits outcome => ?_⟩
  · rintro rfl
    exact compiles_compileAll (le_max_left _ _) (le_max_right _ _)
  · obtain ⟨compiled, reports⟩ := perm_reports_sites outcome
    refine ⟨nodup_sites options depth grid, fun site => mem_sites, fun site listed => ?_, reports⟩
    have inner := compiled site listed
    exact ⟨inner, (perm_reports inner).1, Site.idles inner⟩

/-- A chip that holds itself without end is entered twice and then passed over. -/
theorem endlessChip_accounts :
    ∃ circuits, (compileAll { maxEmbedDepth := 2 } 0 EndlessChip.grid).outcome = .ok circuits ∧
      (compileAll { maxEmbedDepth := 2 } 0 EndlessChip.grid).reports =
        [.depthExceeded .origin 2, .compiled 2 1 0 1, .compiled 1 1 0 1, .compiled 0 1 0 1] ∧
      (compileAll { maxEmbedDepth := 2 } 0 EndlessChip.grid).reports.Perm
        ((sites { maxEmbedDepth := 2 } 0 EndlessChip.grid).flatMap
          (Site.reports { maxEmbedDepth := 2 })) := by
  obtain ⟨circuits, outcome, _⟩ := Compilation.exists_ok
    (compileAll { maxEmbedDepth := 2 } 0 EndlessChip.grid) List.length 1 (by decide +kernel)
  obtain ⟨_, _, _, accounts⟩ := compileAll_accounts { maxEmbedDepth := 2 } 0 EndlessChip.grid
  exact ⟨circuits, outcome, by decide +kernel, (accounts circuits outcome).2.2.2⟩

end Circuit

end VoxelCircuit

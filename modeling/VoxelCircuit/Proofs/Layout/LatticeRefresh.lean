import VoxelCircuit.Engine.CircuitSet
import VoxelCircuit.Proofs.Engine.Embedded
import VoxelCircuit.Proofs.Layout.LatticeCircuits

/-! # Refreshing a lattice

A lattice has a circuit for each row, in the order of the rows. Refreshing them in turn lights
one lamp after another, and when all are lit nothing more is requested
(`VoxelCircuit.Profile.gateLattice_lights`).
-/

namespace VoxelCircuit.Profile

variable {rows gates lit row : Nat}

section Compiling

variable {ω : Type} [Grid ω] {grid : VoxelGrid (World ω)} {options : CompileOptions} {depth : Nat}

/-- The circuits of a lattice compile. -/
theorem IsLattice.exists_circuits (lattice : IsLattice rows gates lit grid)
    (options : CompileOptions) (depth : Nat) :
    ∃ circuits, (Circuit.compileAll options depth (World.voxel grid)).outcome = .ok circuits := by
  rw [Circuit.compileAll_eq]
  refine Compilation.each_succeeds _ fun cluster listed => ?_
  obtain ⟨member, joined, _⟩ := List.any_eq_true.mp (List.mem_filter.mp listed).2
  refine Circuit.compileWith_succeeds (Grid.enclosed_voxel grid) ?_
    (Circuit.mem_ofMembers.mpr joined)
  intro pos interior compile chip
  cases (lattice.behavior pos _).mp chip

/-- There is one circuit for each row, in the order of the rows. -/
theorem IsLattice.row_circuits (lattice : IsLattice rows gates lit grid)
    {circuits : List (Circuit (World ω))}
    (outcome : (Circuit.compileAll options depth (World.voxel grid)).outcome = .ok circuits) :
    List.Forall₂ (fun row circuit => RowCircuit rows gates row options depth grid circuit)
      (List.range rows) circuits := by
  obtain ⟨count, found⟩ := lattice.clusters_eq_rows
  rw [Circuit.compileAll_eq, Compilation.each_ok] at outcome
  obtain ⟨lengths, each⟩ := List.forall₂_iff_get.mp outcome
  refine List.forall₂_iff_get.mpr ⟨by rw [List.length_range, ← lengths, count], ?_⟩
  intro row below belowAlso
  have listed : row < (Grid.clusters (World.voxel grid)).length := lengths ▸ belowAlso
  obtain ⟨plain, members⟩ := Circuit.plain_of_cluster lattice.no_junction
    (List.getElem_mem listed) (each row listed belowAlso)
  rw [List.get_eq_getElem, List.getElem_range]
  refine ⟨⟨lit, lattice⟩, plain, by simpa using below, fun pos => ?_⟩
  rw [members]
  exact found row _ (List.getElem?_eq_getElem listed) pos

end Compiling

variable {ω : Type} [EditableGrid ω] {now after : VoxelGrid (World ω)}
  {circuit : Circuit (World ω)} {circuits : List (Circuit (World ω))}

/-- The edit that lights the lamp of a row. -/
def lightEdit (gates row : Nat) : Edit :=
  .setDatum ⟨2 * gates + 2, 0, 2 * row⟩ 1

/-- A circuit asks for the lamp of a row to be lit until it is lit, and for nothing else. -/
def Lights (rows gates row : Nat) (circuit : Circuit (World ω)) : Prop :=
  ∀ lit now, IsLattice rows gates lit now → (circuit.evaluate (.editing (.voxel now))).edits =
    if row < lit then [] else [lightEdit gates row]

private theorem RowCircuit.lights {options : CompileOptions} {depth : Nat}
    {grid : VoxelGrid (World ω)}
    (rowCircuit : RowCircuit rows gates row options depth grid circuit) :
    Lights rows gates row circuit :=
  fun _ _ today => rowCircuit.edits_eq today

omit [EditableGrid ω] in
/-- Lighting the next lamp lights the lamps up to there. -/
theorem IsLattice.light (lattice : IsLattice rows gates row now) (below : row < rows)
    (edited : now.Edited [lightEdit gates row] after) : IsLattice rows gates (row + 1) after := by
  have others : ∀ pos, pos ≠ (lightEdit gates row).pos → after.cell pos = now.cell pos :=
    fun pos other => edited.cell_of_others (by simpa using other.symm)
  have own := edited.cell_of_single
  have same : ∀ pos, (after.cell pos).id = (now.cell pos).id ∧
      (after.cell pos).orientation = (now.cell pos).orientation := by
    intro pos
    by_cases mine : pos = (lightEdit gates row).pos
    · rw [mine, own]
      exact ⟨rfl, rfl⟩
    · rw [others pos mine]
      exact ⟨rfl, rfl⟩
  constructor
  · intro pos behavior
    rw [← lattice.behavior, VoxelGrid.behavior, VoxelGrid.behavior, edited.catalog, (same pos).1]
  · intro pos
    rw [(same pos).2, lattice.orientation]
  · intro pos stands
    rw [others pos ?_, lattice.pads pos stands]
    rintro rfl
    cases stands.unique (.lamp below)
  · intro other belowAlso
    by_cases mine : other = row
    · subst mine
      rw [if_pos (Nat.lt_succ_self other)]
      exact congrArg Cell.datum own
    · rw [others _ fun same => mine (by simpa [lightEdit, Edit.pos] using same),
        lattice.lamps other belowAlso]
      have apart : other < row + 1 ↔ other < row := by omega
      simp only [apart]

/-- A refresh of the circuit of a row whose lamp is lit changes nothing. -/
theorem Lights.refresh_lit (lights : Lights rows gates row circuit)
    (today : IsLattice rows gates lit now) (done : row < lit) :
    (circuit.refresh (.voxel now)).outcome = .ok [] ∧
      (circuit.refresh (.voxel now)).grid = .voxel now := by
  have none : (circuit.evaluate (.editing (.voxel now))).edits = [] := by
    rw [lights lit now today, if_pos done]
  simp only [Circuit.refresh, EvalState.written, none, EditableGrid.applyAll, Except.map, and_self]

/-- A refresh of the circuit of the next row lights its lamp. -/
theorem Lights.refresh_unlit (lights : Lights rows gates row circuit) (below : row < rows)
    (today : IsLattice rows gates row now) : ∃ after,
      (circuit.refresh (.voxel now)).outcome = .ok [lightEdit gates row] ∧
        (circuit.refresh (.voxel now)).grid = .voxel after ∧
          IsLattice rows gates (row + 1) after := by
  have one : (circuit.evaluate (.editing (.voxel now))).edits = [lightEdit gates row] := by
    rw [lights row now today, if_neg (Nat.lt_irrefl row)]
  have accepts : ∀ edit ∈ (circuit.evaluate (.editing (.voxel now))).edits, now.Accepts edit := by
    intro edit requested
    rw [one, List.mem_singleton] at requested
    subst requested
    exact ⟨today.mem_bounds (.lamp below), nofun⟩
  have outcome := Circuit.refresh_succeeds accepts
  obtain ⟨_, _, after, left, edited⟩ := Circuit.refresh_ok outcome
  rw [one] at outcome edited
  exact ⟨after, outcome, left, today.light below edited⟩

private theorem refreshEach_cons_ok {edits : List Edit} {rest : List (Circuit (World ω))}
    {world : World ω} (done : (circuit.refresh world).outcome = .ok edits) :
    CircuitSet.refreshEach world (circuit :: rest) =
      let others := CircuitSet.refreshEach (circuit.refresh world).grid rest
      ((circuit.refresh world).circuit :: others.1, others.2.1, others.2.2.map (edits ++ ·)) := by
  rw [CircuitSet.refreshEach]
  generalize circuit.refresh world = refresh at done ⊢
  obtain ⟨again, after, outcome⟩ := refresh
  cases done
  rfl

/-- Refreshing the circuits of rows whose lamps are lit changes nothing. -/
theorem refreshEach_lit {list : List Nat} (each : List.Forall₂ (Lights rows gates) list circuits)
    (today : IsLattice rows gates lit now) (done : ∀ row ∈ list, row < lit) :
    ∃ others, CircuitSet.refreshEach (World.voxel now) circuits = (others, .voxel now, .ok []) := by
  induction each with
  | nil => exact ⟨[], rfl⟩
  | cons lights _ ih =>
      obtain ⟨outcome, kept⟩ := lights.refresh_lit today (done _ List.mem_cons_self)
      obtain ⟨others, rest⟩ := ih fun row member => done row (List.mem_cons_of_mem _ member)
      rw [refreshEach_cons_ok outcome, kept, rest]
      exact ⟨_, rfl⟩

/-- Refreshing the circuits of the rows from one on lights their lamps in turn. -/
theorem refreshEach_unlit {count : Nat}
    (each : List.Forall₂ (Lights rows gates) (List.range' row count) circuits)
    (within : row + count ≤ rows) (today : IsLattice rows gates row now) :
    ∃ others after, CircuitSet.refreshEach (World.voxel now) circuits =
        (others, .voxel after, .ok ((List.range' row count).map (lightEdit gates))) ∧
      List.Forall₂ (Lights rows gates) (List.range' row count) others ∧
        IsLattice rows gates (row + count) after := by
  induction count generalizing row circuits now with
  | zero =>
      cases each
      exact ⟨[], now, rfl, .nil, today⟩
  | succ count ih =>
      rw [List.range'_succ] at each
      obtain ⟨circuit, rest, lights, later, rfl⟩ := List.forall₂_cons_left_iff.mp each
      obtain ⟨middle, outcome, left, lit⟩ := lights.refresh_unlit (by omega) today
      obtain ⟨others, after, refreshed, still, last⟩ := ih later (by omega) lit
      have again : Lights rows gates row (circuit.refresh (.voxel now)).circuit := lights
      rw [refreshEach_cons_ok outcome, left, refreshed, List.range'_succ]
      refine ⟨_, after, rfl, .cons again still, ?_⟩
      rwa [Nat.add_right_comm] at last

/-- **A lattice lights its lamps.** Let the lattice of some rows and gates be built, with sides
that do not overflow. Rebuilding a set of circuits for it succeeds and leaves one circuit for
each row. Refreshing them all then requests that the datum of each lamp be 1, once each in the
order of the rows and nothing else, and leaves it so; refreshing them all again requests
nothing. -/
theorem gateLattice_lights {rows gates : UInt32} {grid : VoxelGrid (World ω)}
    (width : 2 * gates.toNat + 3 < UInt32.size) (depth : 2 * rows.toNat < UInt32.size)
    (built : gateLattice rows gates = .ok grid) {σ : Type} (engine : Engine σ)
    (set : CircuitSet (World ω)) :
    ∃ rebuilt first, (set.rebuild engine (World.voxel grid)).outcome = .ok rebuilt ∧
      rebuilt.size = rows.toNat ∧ first = rebuilt.refreshAll (World.voxel grid) ∧
      first.outcome = .ok ((latticeLamps rows gates).map fun lamp => .setDatum lamp 1) ∧
      (∀ lamp ∈ latticeLamps rows gates, Grid.datum first.grid lamp = 1) ∧
      (first.set.refreshAll first.grid).outcome = .ok [] := by
  have lattice := isLattice_of_built width depth built
  have lamps := latticeLamps_eq (gateLattice_ok width depth built).1 depth
  obtain ⟨circuits, compiled⟩ := lattice.exists_circuits engine.options 0
  have each := lattice.row_circuits compiled
  have lights : List.Forall₂ (Lights rows.toNat gates.toNat) (List.range' 0 rows.toNat)
      circuits := by
    rw [← List.range_eq_range']
    exact each.imp fun _ _ rowCircuit => rowCircuit.lights
  obtain ⟨others, after, refreshed, still, lit⟩ := refreshEach_unlit lights (by omega) lattice
  rw [Nat.zero_add] at lit
  obtain ⟨again, unchanged⟩ := refreshEach_lit still lit fun row member => by
    simpa using List.mem_range'_1.mp member
  refine ⟨⟨circuits, set.generation + 1⟩, ⟨⟨others, set.generation + 1⟩, .voxel after,
    .ok ((List.range' 0 rows.toNat).map (lightEdit gates.toNat))⟩, ?_, ?_, ?_, ?_, ?_, ?_⟩
  · exact Compilation.andThen_ok.mpr ⟨circuits, compiled, rfl⟩
  · rw [CircuitSet.size, ← each.length_eq, List.length_range]
  · rw [CircuitSet.refreshAll, refreshed]
  · rw [lamps, List.map_map, ← List.range_eq_range']
    rfl
  · intro lamp member
    rw [lamps, List.mem_map] at member
    obtain ⟨row, below, rfl⟩ := member
    exact (lit.lamps row (List.mem_range.mp below)).trans (if_pos (List.mem_range.mp below))
  · rw [CircuitSet.refreshAll, unchanged]

/-- A lattice of two rows of one gate each lights two lamps. -/
theorem smallLattice_lights :
    ∃ (grid : VoxelGrid (World EndlessChip)) (rebuilt : CircuitSet (World EndlessChip))
      (first : CircuitSet.Refreshed (World EndlessChip) (List Edit)),
      gateLattice 2 1 = .ok grid ∧
      (CircuitSet.empty.rebuild .usual (World.voxel grid)).outcome = .ok rebuilt ∧
      rebuilt.size = 2 ∧ first = rebuilt.refreshAll (World.voxel grid) ∧
      first.outcome = .ok [.setDatum ⟨4, 0, 0⟩ 1, .setDatum ⟨4, 0, 2⟩ 1] ∧
      (first.set.refreshAll first.grid).outcome = .ok [] := by
  have built : (gateLattice 2 1 : Except GridError (VoxelGrid (World EndlessChip))).isOk =
      true := by
    decide +kernel
  cases lattice : (gateLattice 2 1 : Except GridError (VoxelGrid (World EndlessChip))) with
  | error error =>
      rw [lattice] at built
      cases built
  | ok grid =>
      obtain ⟨rebuilt, first, compiled, size, refreshed, lit, _, still⟩ :=
        gateLattice_lights (by decide) (by decide) lattice .usual .empty
      exact ⟨grid, rebuilt, first, rfl, compiled, size, refreshed, lit, still⟩

end VoxelCircuit.Profile

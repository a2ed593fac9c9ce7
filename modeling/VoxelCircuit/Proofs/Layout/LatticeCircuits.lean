import VoxelCircuit.Proofs.Circuit.Ownership
import VoxelCircuit.Proofs.Circuit.PairedNets
import VoxelCircuit.Proofs.Circuit.Refresh
import VoxelCircuit.Proofs.Circuit.Success
import VoxelCircuit.Proofs.Layout.LatticeRows

/-! # What the circuits of a lattice do

Along a row of a lattice each gate is open and hands on the number that the pad at the start
drives, so that it comes to the lamp at the end by induction along the row
(`VoxelCircuit.Profile.RowCircuit.carries`).
-/

namespace VoxelCircuit

private theorem Grid.Corridor.x_lt {γ : Type} [Grid γ] {grid : γ} {pos last : Pos}
    (corridor : Corridor grid .posX pos last) : pos.x < last.x := by
  induction corridor with
  | step => simp [Pos.step, Direction.vector]
  | through _ _ _ ih =>
      simp only [Pos.step, Direction.vector]
      omega

namespace Profile

variable {rows gates lit : Nat} {ω : Type} [Grid ω] {grid : VoxelGrid (World ω)}

/-- What drives along a row, before a wire: the pad at its start, and each gate. -/
theorem stands_driver {row place : Nat} (below : row < rows) (within : place ≤ gates) :
    ∃ behavior, Stands rows gates ⟨2 * place, 0, 2 * row⟩ behavior ∧
      behavior.role .posX = .output := by
  cases place with
  | zero => exact ⟨.pad, .source below, rfl⟩
  | succ place =>
      refine ⟨.gate, ?_, rfl⟩
      have there : (2 * ((place + 1 : Nat) : Int)) = 2 * place + 2 := by omega
      rw [there]
      exact .gate below within

namespace IsLattice

variable (lattice : IsLattice rows gates lit grid)
include lattice

private theorem behavior_eq {pos : Pos} {behavior : Behavior}
    (stands : Stands rows gates pos behavior) :
    Grid.behavior (World.voxel grid) pos = some behavior :=
  (lattice.behavior pos behavior).mpr stands

private theorem orientation_eq (pos : Pos) : Grid.orientation (World.voxel grid) pos = .identity :=
  lattice.orientation pos

private theorem roleAt_eq {pos : Pos} {behavior : Behavior}
    (stands : Stands rows gates pos behavior) (direction : Direction) :
    Grid.roleAt (World.voxel grid) ⟨pos, direction⟩ = behavior.role direction := by
  rw [Grid.roleAt, lattice.behavior_eq stands]
  dsimp only
  rw [lattice.orientation_eq]
  conv_lhs => rw [← Orientation.identity_transform direction]
  exact Behavior.faceRole_transform behavior .identity direction

/-- The blocks of a lattice stand within the bounds of the grid. -/
theorem mem_bounds {pos : Pos} {behavior : Behavior} (stands : Stands rows gates pos behavior) :
    pos ∈ Grid.bounds (World.voxel grid) :=
  (Grid.enclosed_voxel grid).mem_bounds (lattice.active_iff.mpr ⟨behavior, stands⟩)

/-- A block that is not wire is linked along a corridor to one that faces it. -/
theorem links {pos last : Pos} {direction : Direction} {first second : Behavior}
    (corridor : Grid.Corridor (World.voxel grid) direction pos last)
    (stands : Stands rows gates pos first) (standsThere : Stands rows gates last second)
    (drives : first.role direction = .output) (reads : second.role direction.opposite = .input) :
    Grid.Links (World.voxel grid) ⟨pos, direction⟩ ⟨last, direction.opposite⟩ where
  faces := by
    refine Grid.facing?_eq_some_iff.mpr ⟨corridor, lattice.mem_bounds standsThere, ?_, rfl⟩
    refine Grid.activeBeyondWire_iff.mpr ⟨second, lattice.behavior_eq standsThere, ?_⟩
    cases second <;> first | rfl | cases reads
  drives := (lattice.roleAt_eq stands direction).trans drives
  reads := (lattice.roleAt_eq standsThere _).trans reads

/-- What drives along a row is linked through a wire to the next block there. -/
theorem links_along {row place : Nat} (below : row < rows) (within : place ≤ gates)
    {behavior : Behavior} (next : Stands rows gates ⟨2 * place + 2, 0, 2 * row⟩ behavior)
    (reads : behavior.role .negX = .input) :
    Grid.Links (World.voxel grid) ⟨⟨2 * place, 0, 2 * row⟩, .posX⟩
      ⟨⟨2 * place + 2, 0, 2 * row⟩, .negX⟩ := by
  obtain ⟨driver, stands, drives⟩ := stands_driver below within
  have wire : Stands rows gates _ .wire := .wire below within
  have path : Grid.Corridor (World.voxel grid) .posX ⟨2 * place, 0, 2 * row⟩
      ⟨2 * place + 2, 0, 2 * row⟩ :=
    .through (.step _) (lattice.mem_bounds wire) (lattice.behavior_eq wire)
  exact lattice.links path stands next drives reads

/-- The pad on top of a gate is linked to it. -/
theorem links_down {row place : Nat} (below : row < rows) (within : place < gates) :
    Grid.Links (World.voxel grid) ⟨⟨2 * place + 2, 1, 2 * row⟩, .negY⟩
      ⟨⟨2 * place + 2, 0, 2 * row⟩, .posY⟩ := by
  have path : Grid.Corridor (World.voxel grid) .negY ⟨2 * place + 2, 1, 2 * row⟩
      ⟨2 * place + 2, 0, 2 * row⟩ := .step _
  exact lattice.links path (.opener below within) (.gate below within) rfl rfl

/-- How far along its row a block is that reads; pads come before all of these. -/
theorem rank_lt {driver reader : Face} (links : Grid.Links (World.voxel grid) driver reader) :
    (if driver.pos.y = 0 then driver.pos.x.toNat else 0) <
      if reader.pos.y = 0 then reader.pos.x.toNat else 0 := by
  obtain ⟨first, stands⟩ :=
    lattice.active_iff.mp (Grid.active_of_activeBeyondWire links.driver_active)
  obtain ⟨second, standsThere⟩ :=
    lattice.active_iff.mp (Grid.active_of_activeBeyondWire links.reader_active)
  obtain ⟨faces, drives, reads⟩ := links
  obtain ⟨corridor, _⟩ := Grid.facing?_eq_some_iff.mp faces
  obtain ⟨source, direction⟩ := driver
  obtain ⟨target, opposite⟩ := reader
  rw [lattice.roleAt_eq stands] at drives
  rw [lattice.roleAt_eq standsThere] at reads
  have ahead : target.y = 0 ∧ 0 < target.x := by
    cases standsThere with
    | source | opener | wire => simp [Behavior.role] at reads
    | gate | lamp => exact ⟨rfl, by simp only; omega⟩
  rw [if_pos ahead.1]
  cases stands with
  | source | opener => simpa using ahead.2
  | wire | lamp => simp [Behavior.role] at drives
  | gate =>
      cases direction <;> simp [Behavior.role] at drives
      have farther := corridor.x_lt
      simp only at farther ⊢
      split <;> omega

private theorem withoutFeedback {options : CompileOptions} {depth : Nat}
    {circuit : Circuit (World ω)} (plain : Circuit.Plain options depth (World.voxel grid) circuit) :
    Grid.WithoutFeedback (World.voxel grid) circuit.graph := by
  apply Grid.withoutFeedback_of_rank fun pos => if pos.y = 0 then pos.x.toNat else 0
  intro source pos feeds
  obtain ⟨_, driver, reader, links, rfl, rfl⟩ := plain.feeds_iff.mp feeds
  exact lattice.rank_lt links

end IsLattice

/-- A compiled circuit of a row of a lattice. -/
structure RowCircuit (rows gates row : Nat) (options : CompileOptions) (depth : Nat)
    (grid : VoxelGrid (World ω)) (circuit : Circuit (World ω)) : Prop where
  lattice : ∃ lit, IsLattice rows gates lit grid
  plain : Circuit.Plain options depth (World.voxel grid) circuit
  below : row < rows
  members : ∀ pos, pos ∈ circuit.members ↔
    (∃ behavior, Stands rows gates pos behavior) ∧ pos.z = 2 * row

/-- The number that the pads of a lattice drive. -/
def high : Signal := .number (.ofInt 1)

namespace RowCircuit

variable {row : Nat} {options : CompileOptions} {depth : Nat} {circuit : Circuit (World ω)}
  {start : EvalState (World ω)}

variable (rowCircuit : RowCircuit rows gates row options depth grid circuit)
include rowCircuit

private theorem acyclic : Grid.Acyclic (World.voxel grid) circuit.graph :=
  rowCircuit.lattice.elim fun _ lattice => (lattice.withoutFeedback rowCircuit.plain).acyclic

/-- Each block of the row but wire responds to its inputs and settles. -/
theorem settled (fresh : start.Fresh) {pos : Pos}
    {behavior : Behavior} (stands : Stands rows gates pos behavior) (there : pos.z = 2 * row)
    (notWire : behavior ≠ .wire) :
    ∃ moment, Circuit.Settled (World.voxel grid) circuit start moment pos
      (.respond pos behavior .identity (Grid.inputsAt (World.voxel grid) circuit.graph pos)) := by
  obtain ⟨_, lattice⟩ := rowCircuit.lattice
  have member := (rowCircuit.members pos).mpr ⟨⟨behavior, stands⟩, there⟩
  have settled := rowCircuit.plain.made.settled_of_member rowCircuit.acyclic fresh member
    (lattice.behavior_eq stands) notWire (by cases stands <;> decide) (by cases stands <;> decide)
  rwa [lattice.orientation_eq] at settled

/-- A reading face has the signal that was driven at the other end of its link. -/
theorem signal_of_links (fresh : start.Fresh) {pos : Pos}
    {behavior : Behavior} (stands : Stands rows gates pos behavior) (there : pos.z = 2 * row)
    {direction : Direction} {driver : Face}
    (links : Grid.Links (World.voxel grid) driver ⟨pos, direction⟩) :
    (Grid.inputsAt (World.voxel grid) circuit.graph pos).signal (circuit.evaluate start) direction =
      (circuit.evaluate start).values.get (.output driver) := by
  obtain ⟨_, lattice⟩ := rowCircuit.lattice
  have member := (rowCircuit.members pos).mpr ⟨⟨behavior, stands⟩, there⟩
  refine rowCircuit.plain.made.signal_of_links rowCircuit.acyclic fresh rowCircuit.plain.pairs
    member ?_
  rwa [lattice.orientation_eq, Orientation.identity_transform]

/-- What a block of the row drives follows from its final inputs. -/
theorem output_eq (fresh : start.Fresh) {pos : Pos} {behavior : Behavior}
    (stands : Stands rows gates pos behavior) (there : pos.z = 2 * row) {signal : Signal}
    (driven : behavior.driven? pos .identity (Grid.inputsAt (World.voxel grid) circuit.graph pos)
      (circuit.evaluate start) = some signal) {direction : Direction}
    (drives : (behavior.role direction).drives = true) :
    (circuit.evaluate start).values.get (.output ⟨pos, direction⟩) = signal := by
  obtain ⟨_, _, notWire⟩ := Behavior.not_junction_of_driven driven
  obtain ⟨moment, settled⟩ := rowCircuit.settled fresh stands there notWire
  have output := settled.output_eq driven drives
  rw [Orientation.identity_transform] at output
  rw [Values.get, output, Option.getD_some]

variable {now : VoxelGrid (World ω)}

/-- The pads of the row drive 1. -/
theorem pad_drives (today : IsLattice rows gates lit now) {pos : Pos}
    (stands : Stands rows gates pos .pad) (there : pos.z = 2 * row) (direction : Direction) :
    (circuit.evaluate (.editing (.voxel now))).values.get (.output ⟨pos, direction⟩) = high := by
  refine rowCircuit.output_eq ⟨rfl, rfl⟩ stands there (congrArg some ?_) rfl
  rw [high, Circuit.evaluate, Pipeline.run, (Effect.runAll_setting circuit.pipeline _).1]
  exact congrArg (fun level => Signal.number (.ofInt level)) (today.pads pos stands)

/-- Each gate of the row is open and hands on what comes along the row. -/
theorem carries (today : IsLattice rows gates lit now) {place : Nat} (within : place ≤ gates) :
    (circuit.evaluate (.editing (.voxel now))).values.get
      (.output ⟨⟨2 * place, 0, 2 * row⟩, .posX⟩) = high := by
  obtain ⟨_, lattice⟩ := rowCircuit.lattice
  have below := rowCircuit.below
  have fresh : (EvalState.editing (World.voxel now)).Fresh := ⟨rfl, rfl⟩
  induction place with
  | zero => exact rowCircuit.pad_drives today (.source below) rfl .posX
  | succ place ih =>
      have inner : place < gates := within
      have gate : Stands rows gates _ .gate := .gate below inner
      have behind := rowCircuit.signal_of_links fresh gate rfl
        (lattice.links_along below inner.le gate rfl)
      have opened := rowCircuit.signal_of_links fresh gate rfl (lattice.links_down below inner)
      rw [ih inner.le] at behind
      rw [rowCircuit.pad_drives today (.opener below inner) rfl] at opened
      refine rowCircuit.output_eq fresh gate rfl (congrArg some ?_) rfl
      have on : ((Grid.inputsAt (World.voxel grid) circuit.graph
          ⟨2 * place + 2, 0, 2 * row⟩).any (circuit.evaluate (.editing (.voxel now)))
            [.posY, .posZ, .negY, .negZ]).truthy = true := by
        rw [Inputs.any, Signal.truthy_merge, List.map_cons, opened]
        rfl
      rw [if_pos on, behind]

/-- The lamp of the row merges a truthy signal. -/
theorem lamp_lit (today : IsLattice rows gates lit now) :
    ((Grid.inputsAt (World.voxel grid) circuit.graph ⟨2 * gates + 2, 0, 2 * row⟩).any
      (circuit.evaluate (.editing (.voxel now))) Direction.all).truthy = true := by
  obtain ⟨_, lattice⟩ := rowCircuit.lattice
  have below := rowCircuit.below
  have fresh : (EvalState.editing (World.voxel now)).Fresh := ⟨rfl, rfl⟩
  have shown := rowCircuit.signal_of_links fresh (.lamp below) rfl
    (lattice.links_along below (Nat.le_refl gates) (.lamp below) rfl)
  rw [rowCircuit.carries today (Nat.le_refl gates)] at shown
  rw [Inputs.any, Signal.truthy_merge, List.any_map, List.any_eq_true]
  exact ⟨.negX, Direction.mem_all _, by rw [Function.comp, shown]; rfl⟩

private theorem edits_of_others (fresh : start.Fresh) {pos : Pos} {behavior : Behavior}
    (stands : Stands rows gates pos behavior) (there : pos.z = 2 * row)
    (other : behavior ≠ .indicator) :
    (circuit.evaluate start).edits.filter (fun edit => edit.pos = pos) = [] := by
  obtain ⟨_, lattice⟩ := rowCircuit.lattice
  cases behavior
  case wire =>
    have passive : Grid.activeBeyondWire (World.voxel grid) pos = false := by
      rw [Grid.activeBeyondWire, lattice.behavior_eq stands]
      rfl
    exact (Circuit.idle_of_no_effect fresh (rowCircuit.plain.made.no_effect (.idle passive))).2
  case pad | gate =>
    obtain ⟨moment, settled⟩ :=
      rowCircuit.settled fresh stands there fun same => by cases same
    rw [settled.requested]
    rfl
  case indicator => exact (other rfl).elim
  all_goals cases stands

/-- No block of the row but its lamp requests anything. -/
theorem pos_of_mem_edits (fresh : start.Fresh) {edit : Edit}
    (requested : edit ∈ (circuit.evaluate start).edits) :
    edit.pos = ⟨2 * gates + 2, 0, 2 * row⟩ := by
  have owns := rowCircuit.plain.made.owns rowCircuit.plain.closed
  have member := owns.pos_of_mem_edits fresh requested
  obtain ⟨⟨behavior, stands⟩, there⟩ := (rowCircuit.members edit.pos).mp member
  by_cases lamp : behavior = .indicator
  · subst lamp
    generalize edit.pos = pos at stands there
    cases stands
    exact (Pos.mk.injEq ..).mpr ⟨rfl, rfl, there⟩
  · have none := rowCircuit.edits_of_others fresh stands there lamp
    exact (List.filter_eq_nil_iff.mp none edit requested (decide_eq_true rfl)).elim

/-- The circuit of a row requests that its lamp be lit, unless it is lit. -/
theorem edits_eq (today : IsLattice rows gates lit now) :
    (circuit.evaluate (.editing (.voxel now))).edits =
      if row < lit then [] else [.setDatum ⟨2 * gates + 2, 0, 2 * row⟩ 1] := by
  have fresh : (EvalState.editing (World.voxel now)).Fresh := ⟨rfl, rfl⟩
  have below := rowCircuit.below
  obtain ⟨moment, settled⟩ := rowCircuit.settled fresh (.lamp below) rfl nofun
  have merged : (Grid.inputsAt (World.voxel grid) circuit.graph ⟨2 * gates + 2, 0, 2 * row⟩).any
      moment Direction.all = (Grid.inputsAt (World.voxel grid) circuit.graph
        ⟨2 * gates + 2, 0, 2 * row⟩).any (circuit.evaluate (.editing (.voxel now)))
          Direction.all := by
    rw [Inputs.any, Inputs.any, List.map_congr_left fun direction _ => settled.signals direction]
  have datum : Grid.datum moment.grid ⟨2 * gates + 2, 0, 2 * row⟩ = if row < lit then 1 else 0 := by
    rw [settled.setting.1]
    exact today.lamps row below
  have allowed : moment.allowEdits = true := settled.setting.2.1
  have own : (circuit.evaluate (.editing (.voxel now))).edits.filter
      (fun edit => edit.pos = ⟨2 * gates + 2, 0, 2 * row⟩) =
        (circuit.evaluate (.editing (.voxel now))).edits :=
    List.filter_eq_self.mpr fun edit requested =>
      decide_eq_true (rowCircuit.pos_of_mem_edits fresh requested)
  rw [← own, settled.requested]
  simp only [Effect.response, Behavior.response, Behavior.indicate, merged,
    rowCircuit.lamp_lit today, allowed, datum]
  by_cases done : row < lit
  · simp [done, Response.nothing]
  · simp [done, Response.ofEdits]

end RowCircuit

end Profile

end VoxelCircuit

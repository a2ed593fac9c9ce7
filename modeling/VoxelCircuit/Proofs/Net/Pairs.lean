import VoxelCircuit.Proofs.Net.Opening
import VoxelCircuit.Proofs.Net.Wiring

/-! # Nets without junctions

Only junctions carry a net on to more than two faces. Where a grid has none, a net that can
carry a signal is a pair of faces that look at each other, one of which drives and the other
reads, and each such pair at a member is a net (`VoxelCircuit.Grid.netsPair_of_trace`).
-/

namespace VoxelCircuit.Grid

open Relation

variable {γ : Type} [Grid γ] {grid : γ}

/-- A face drives what another reads, with nothing but wire between them. -/
structure Links (grid : γ) (driver reader : Face) : Prop where
  faces : facing? grid driver = some reader
  drives : roleAt grid driver = .output
  reads : roleAt grid reader = .input

/-- The block that drives a link is more than wire. -/
theorem Links.driver_active {driver reader : Face} (links : Links grid driver reader) :
    activeBeyondWire grid driver.pos = true := by
  have role : roleAt grid driver ≠ .none := by rw [links.drives]; decide
  exact roleAt_ne_none role

/-- The block that reads a link is more than wire. -/
theorem Links.reader_active {driver reader : Face} (links : Links grid driver reader) :
    activeBeyondWire grid reader.pos = true := by
  have role : roleAt grid reader ≠ .none := by rw [links.reads]; decide
  exact roleAt_ne_none role

/-- The nets of a graph are pairs of linked faces, and all such pairs at some blocks. -/
structure NetsPair (grid : γ) (members : List Pos) (graph : NetGraph) : Prop where
  pair : ∀ id net, graph.net? id = some net → ∃ driver reader, Links grid driver reader ∧
    net.drivers = [driver] ∧ ∀ face, graph.netAt face = some id ↔ face = driver ∨ face = reader
  joined : ∀ driver reader, Links grid driver reader →
    driver.pos ∈ members ∨ reader.pos ∈ members →
      ∃ id, graph.netAt driver = some id ∧ graph.netAt reader = some id

private theorem roleAt_ne_both {face : Face} (free : behavior grid face.pos ≠ some .junction) :
    roleAt grid face ≠ .both := by
  rw [roleAt]
  cases there : behavior grid face.pos with
  | none => exact fun same => by cases same
  | some found =>
      have other : found ≠ .junction := fun same => free (by rw [there, same])
      have each : ∀ direction, found ≠ .junction → found.role direction ≠ .both := by
        cases found <;> intro direction <;> cases direction <;> decide
      exact each _ other

/-- Two faces claimed for one net are the same or look at each other, if no junction is among
the claimed blocks. -/
theorem facing?_of_claimed (enclosed : Enclosed grid)
    (free : ∀ pos, behavior grid pos ≠ some .junction) {members : List Pos} {recordEdges : Bool}
    {state : TraceState} (reached : TraceReaches grid recordEdges members state)
    (few : state.log.opened ≤ UInt32.size) {net : NetId} {first second : Face}
    (claimed : state.log.claimed? first = some net) (other : state.log.claimed? second = some net) :
    second = first ∨ facing? grid first = some second := by
  have partner : ∀ {near far : Face}, state.log.claimed? near = some net →
      facing? grid near = some far → facing? grid far = some near := by
    intro near far held faces
    have present := (reached.paired enclosed).claims_active near net held
    exact facing?_symm faces (enclosed.inside present) present
  induction (reached.wired few).wired net first second claimed other with
  | refl => exact Or.inl rfl
  | @tail near far path joined ih =>
      obtain ⟨join, nearAt, farAt⟩ := joined
      have onward : facing? grid near = some far := by
        rcases join with forward | backward | ⟨_, junction⟩
        · exact forward
        · exact partner farAt backward
        · exact (free _ junction).elim
      rcases ih nearAt with rfl | back
      · exact Or.inr onward
      · rw [partner claimed back] at onward
        exact Or.inl (Option.some.inj onward).symm

section Logged

variable {ω : Type} [Grid ω] {grid : VoxelGrid (World ω)}
  (free : ∀ pos, grid.behavior pos ≠ some .junction) {members : List Pos} {recordEdges : Bool}
  {log : TraceLog} (logged : traceLog (World.voxel grid) members recordEdges = .ok log)
include free logged

/-- A kept net has a driving and a reading face that look at each other, and no others. -/
theorem pair_of_kept {id : NetId} {net : Net}
    (kept : (netGraph (World.voxel grid) log).net? id = some net) :
    ∃ driver reader, Links (World.voxel grid) driver reader ∧ net.drivers = [driver] ∧
      ∀ face, (netGraph (World.voxel grid) log).netAt face = some id ↔
        face = driver ∨ face = reader := by
  have last := traceLog_ok logged
  obtain ⟨_, rfl, useful⟩ := net?_netGraph.mp kept
  have plain : (netOf (World.voxel grid) log id).hasBoth = false := by
    refine Bool.eq_false_iff.mpr fun both => ?_
    obtain ⟨member, listed, role⟩ := List.any_eq_true.mp both
    rw [decide_eq_true_eq, (mem_netOf_members.mp listed).2] at role
    exact roleAt_ne_both (free _) role
  simp only [Net.useful, plain, Bool.or_false, Bool.and_eq_true, Net.hasInput, Net.hasOutput,
    List.any_eq_true, decide_eq_true_eq] at useful
  obtain ⟨⟨reader, readerListed, readerRole⟩, driver, driverListed, driverRole⟩ := useful
  obtain ⟨readerAt, reads⟩ := mem_netOf_members.mp readerListed
  obtain ⟨driverAt, drives⟩ := mem_netOf_members.mp driverListed
  rw [readerRole] at reads
  rw [driverRole] at drives
  have others : ∀ face, log.claimed? face = some id → face = driver.face ∨
      facing? (World.voxel grid) driver.face = some face := fun face claimed =>
    facing?_of_claimed (enclosed_voxel grid) free last last.opened_lt_serials.le driverAt claimed
  have faces : facing? (World.voxel grid) driver.face = some reader.face := by
    refine (others reader.face readerAt).resolve_left fun same => ?_
    rw [same, ← drives] at reads
    cases reads
  have attached : ∀ face, (netGraph (World.voxel grid) log).netAt face = some id ↔
      face = driver.face ∨ face = reader.face := by
    intro face
    rw [netAt_netGraph]
    constructor
    · rintro ⟨claimed, _⟩
      refine (others face claimed).imp_right fun other => ?_
      rw [faces] at other
      exact (Option.some.inj other).symm
    · rintro (rfl | rfl)
      · exact ⟨driverAt, _, kept⟩
      · exact ⟨readerAt, _, kept⟩
  refine ⟨driver.face, reader.face, ⟨faces, drives.symm, reads.symm⟩, ?_, attached⟩
  have distinct : (netOf (World.voxel grid) log id).drivers.Nodup :=
    (nodup_faces_netOf (World.voxel grid) log id).sublist (List.filter_sublist.map _)
  have single : (netOf (World.voxel grid) log id).drivers.Perm [driver.face] := by
    refine (List.perm_ext_iff_of_nodup distinct (List.nodup_singleton _)).mpr fun face => ?_
    rw [(graphOf_netGraph _ log).mem_drivers kept, attached, List.mem_singleton]
    constructor
    · rintro ⟨rfl | rfl, drives⟩
      · rfl
      · rw [← reads] at drives
        cases drives
    · rintro rfl
      exact ⟨Or.inl rfl, by rw [← drives]; rfl⟩
  exact List.perm_singleton.mp single

/-- Linked faces are claimed for one net if one of them is on a member. -/
theorem claimed_of_links {driver reader : Face} (links : Links (World.voxel grid) driver reader)
    (member : driver.pos ∈ members ∨ reader.pos ∈ members) :
    ∃ id, log.claimed? driver = some id ∧ log.claimed? reader = some id := by
  have last := traceLog_ok logged
  have enclosed := enclosed_voxel grid
  have partner : ∀ {near far : Face} {id : NetId}, log.claimed? near = some id →
      facing? (World.voxel grid) near = some far → log.claimed? far = some id :=
    fun held faces => (last.paired enclosed).partners _ _ _ held (by simp [inFlight]) faces
  have root : ∀ {face : Face}, face.pos ∈ members →
      activeBeyondWire (World.voxel grid) face.pos = true →
        ∃ id, log.claimed? face = some id := fun member active =>
    Option.isSome_iff_exists.mp
      (last.complete.1 _ (mem_rootFaces.mpr ⟨member, active, free _⟩))
  rcases member with first | second
  · obtain ⟨id, claimed⟩ := root first links.driver_active
    exact ⟨id, claimed, partner claimed links.faces⟩
  · have back := facing?_symm links.faces (enclosed.inside links.driver_active) links.driver_active
    obtain ⟨id, claimed⟩ := root second links.reader_active
    exact ⟨id, partner claimed back, claimed⟩

end Logged

/-- A voxel grid is free of junctions if no position within its bounds holds one. -/
theorem free_of_positions {ω : Type} [Grid ω] {grid : VoxelGrid (World ω)}
    (each : ∀ pos ∈ grid.bounds.positions, grid.behavior pos ≠ some .junction) (pos : Pos) :
    grid.behavior pos ≠ some .junction := by
  by_cases inside : pos ∈ grid.bounds
  · exact each pos (Box.mem_positions.mpr inside)
  · rw [VoxelGrid.behavior_of_not_mem inside]
    exact fun junction => by cases junction

/-- **Without junctions nets are pairs.** In a voxel grid without junctions, the nets of a trace
are the pairs of a driving and a reading face that look at each other, at least one of them on
a member. -/
theorem netsPair_of_trace {ω : Type} [Grid ω] {grid : VoxelGrid (World ω)}
    (free : ∀ pos, grid.behavior pos ≠ some .junction) {members : List Pos} {recordEdges : Bool}
    {graph : NetGraph} (traced : trace (World.voxel grid) members recordEdges = .ok graph) :
    NetsPair (World.voxel grid) members graph := by
  obtain ⟨log, logged, rfl⟩ := trace_ok traced
  have last := traceLog_ok logged
  refine ⟨fun id net kept => pair_of_kept free logged kept, fun driver reader links member => ?_⟩
  obtain ⟨id, driverAt, readerAt⟩ := claimed_of_links free logged links member
  have useful := useful_netOf.1 driver reader driverAt readerAt links.drives links.reads
  exact ⟨id, (last.attached driverAt useful).2, (last.attached readerAt useful).2⟩

end VoxelCircuit.Grid

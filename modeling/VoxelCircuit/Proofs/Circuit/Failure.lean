import VoxelCircuit.Layout.Basic
import VoxelCircuit.Layout.EndlessChip
import VoxelCircuit.Proofs.Circuit.Reports
import VoxelCircuit.Proofs.Circuit.Success

/-! # Why compiling fails

Clusters have members, and every effect is found but that of a chip whose inside does not
compile. So there is one cause for which the circuits of a grid do not compile: two nets meet
when a cluster is traced, in the grid itself or in one that its compilation enters. The error
names the chips on the way there (`VoxelCircuit.Circuit.compileAll_fails_by_conflict`).
-/

namespace VoxelCircuit

namespace CompileError

/-- An error as it is told outside chips inside one another, the outermost first. -/
def within (path : List Pos) (error : CompileError) : CompileError :=
  path.foldr .inside error

/-- Among the errors that lead to a conflict within chips there is none but conflicts. -/
theorem ne_emptyCircuit_of_within {path : List Pos} {conflict : NetConflict}
    {cause : CompileError}
    (among : cause ∈ within path (.netConflict conflict) ::
      (within path (.netConflict conflict)).causes) : cause ≠ .emptyCircuit := by
  induction path with
  | nil =>
      rw [List.mem_singleton.mp among]
      exact CompileError.noConfusion
  | cons pos path ih =>
      rcases List.mem_cons.mp among with rfl | deeper
      · exact CompileError.noConfusion
      · exact ih deeper

end CompileError

variable {γ : Type} [Grid γ]

/-- Nets that meet are different, and they meet at a block that is not wire. -/
theorem Grid.trace_error {grid : γ} {members : List Pos} {recordEdges : Bool}
    {conflict : NetConflict} (failed : trace grid members recordEdges = .error conflict) :
    activeBeyondWire grid conflict.face.pos = true ∧ conflict.existing ≠ conflict.incoming := by
  have stopped : traceLog grid members recordEdges = .error conflict := by
    rw [trace] at failed
    cases logged : traceLog grid members recordEdges with
    | ok log => simp [logged, Except.map] at failed
    | error conflict => simpa [logged, Except.map] using failed
  obtain ⟨_, _, _, _, _, fails⟩ := traceLog_error stopped
  obtain ⟨_, _, _, _, _, faces, _, different, rfl⟩ := traceStep_eq_error_iff.mp fails
  exact ⟨(facing?_eq_some_iff.mp faces).2.2.1, different⟩

namespace Circuit

variable {options : CompileOptions} {depth : Nat} {grid : γ} {error : CompileError}

/-- A circuit with members fails to compile when its nets cannot be traced, or when a chip that
it demands has an inside that does not compile. -/
theorem compile_error {source : Circuit γ} {member : Pos} (joined : member ∈ source.members)
    (failed : (compile options depth grid source).outcome = .error error) :
    (∃ conflict, Grid.trace grid source.members options.recordTraceEdges = .error conflict ∧
      error = .netConflict conflict) ∨
    ∃ graph, Grid.trace grid source.members options.recordTraceEdges = .ok graph ∧
      ∃ pos, .block pos ∈ Grid.demandOrder grid graph source.members ∧
        Grid.behavior grid pos = some .chip ∧ depth < options.maxEmbedDepth ∧
          ∃ interior cause, Grid.interior grid pos = some interior ∧
            (compileAll options (depth + 1) interior).outcome = .error cause ∧
              error = .inside pos cause := by
  unfold compile compileWith at failed
  rw [if_neg (isEmpty_joined joined)] at failed
  cases traced : Grid.trace grid source.members options.recordTraceEdges with
  | error conflict =>
      rw [traced] at failed
      cases failed
      exact Or.inl ⟨conflict, rfl, rfl⟩
  | ok graph =>
      simp only [traced] at failed
      rcases Compilation.andThen_error.mp failed with effects | ⟨_, _, later⟩
      · obtain ⟨target, demanded, missing⟩ := Compilation.exists_of_each_error effects
        obtain ⟨pos, interior, deeper, cause, rfl, chip, holds, given, inner, rfl⟩ :=
          effectFor_error missing
        obtain ⟨room, same⟩ := Option.ite_none_right_eq_some.mp given
        cases same
        exact Or.inr ⟨graph, rfl, pos, demanded, chip, room, interior, cause, holds, inner, rfl⟩
      · rcases Compilation.andThen_error.mp later with reported | ⟨_, _, done⟩
        · cases reported
        · cases done

private theorem Enters.depth_eq {site : Site γ} (enters : Enters options depth grid site) :
    site.depth = depth + site.path.length := by
  induction enters with
  | outermost => rfl
  | inside _ _ _ _ ih =>
      simp only [Site.inside, List.length_cons]
      omega

/-- On the way to a site there are as many chips as there is room for at most. -/
theorem Enters.length_le {site : Site γ} (enters : Enters options depth grid site) :
    site.path.length ≤ options.maxEmbedDepth - depth := by
  have within := enters.depth_le
  have deeper := enters.depth_eq
  omega

/-- Two nets meet when a cluster of a site is traced. -/
def Site.Conflicts (options : CompileOptions) (site : Site γ) (conflict : NetConflict) : Prop :=
  ∃ cluster ∈ Grid.clusters site.grid,
    Grid.trace site.grid cluster options.recordTraceEdges = .error conflict

/-- What fails to compile in the circuits of a grid is a conflict at a site. -/
theorem exists_conflict_of_error
    (failed : (compileAll options depth grid).outcome = .error error) :
    ∃ site conflict, Enters options depth grid site ∧ site.Conflicts options conflict ∧
      error = .within site.path (.netConflict conflict) := by
  -- Each level that is entered leaves one less to enter.
  induction left : options.maxEmbedDepth - depth using Nat.strong_induction_on
    generalizing depth grid error with
  | _ levels ih =>
      rw [compileAll_eq] at failed
      obtain ⟨cluster, listed, fails⟩ := Compilation.exists_of_each_error failed
      obtain ⟨member, joined, _⟩ := List.any_eq_true.mp (List.mem_filter.mp listed).2
      have cause := compile_error (mem_ofMembers.mpr joined) fails
      rw [members_ofMembers (Grid.nodup_cluster listed)] at cause
      rcases cause with ⟨conflict, clash, rfl⟩ |
        ⟨graph, traced, pos, demanded, chip, room, interior, inner, holds, nested, rfl⟩
      · exact ⟨⟨[], depth, grid⟩, conflict, .outermost, ⟨cluster, listed, clash⟩, rfl⟩
      · obtain ⟨site, conflict, enters, clash, rfl⟩ := ih _ (by omega) nested rfl
        have onWay := Grid.chip_of_demanded listed traced demanded chip
        exact ⟨site.inside pos, conflict, .inside room onWay holds enters, clash, rfl⟩

/-- With a conflict at a site the circuits of a grid do not compile. -/
theorem error_of_conflict {site : Site γ} {conflict : NetConflict}
    (enters : Enters options depth grid site) (clash : site.Conflicts options conflict) :
    ∃ error, (compileAll options depth grid).outcome = .error error := by
  cases outcome : (compileAll options depth grid).outcome with
  | error error => exact ⟨error, rfl⟩
  | ok circuits =>
      have compiles := (perm_reports_sites outcome).1 site (mem_sites.mpr enters)
      obtain ⟨cluster, listed, meets⟩ := clash
      obtain ⟨circuit, _, compiled⟩ := (mem_compileAll compiles).2 cluster listed
      obtain ⟨members, made⟩ := compile_ok compiled
      rw [members_ofMembers (Grid.nodup_cluster listed)] at members
      have traced := made.traced
      rw [members, meets] at traced
      cases traced

/-- **Why compiling fails.** The circuits of a grid fail to compile if and only if nets meet in
one of the grids that are entered: the grid itself, or one inside a chip, inside a chip of that
one and so on, down to the limit on the depth. The error is such a conflict, told outside the
chips on the way there, and none of the errors in it is that of a circuit without members. The
conflict is at a face of a block that is not wire, and of two different nets. -/
theorem compileAll_fails_by_conflict (options : CompileOptions) (depth : Nat) (grid : γ) :
    ((∃ error, (compileAll options depth grid).outcome = .error error) ↔
      ∃ site conflict, Enters options depth grid site ∧ site.Conflicts options conflict) ∧
    ∀ error, (compileAll options depth grid).outcome = .error error →
      (∀ cause ∈ error :: error.causes, cause ≠ .emptyCircuit) ∧
      ∃ site conflict, error = .within site.path (.netConflict conflict) ∧
        site.path.length ≤ options.maxEmbedDepth - depth ∧
        Enters options depth grid site ∧ site.Conflicts options conflict ∧
        (∃ found, Grid.behavior site.grid conflict.face.pos = some found ∧
          found.isWire = false) ∧
        conflict.existing ≠ conflict.incoming := by
  refine ⟨⟨?_, ?_⟩, fun error failed => ?_⟩
  · rintro ⟨error, failed⟩
    obtain ⟨site, conflict, enters, clash, _⟩ := exists_conflict_of_error failed
    exact ⟨site, conflict, enters, clash⟩
  · rintro ⟨site, conflict, enters, clash⟩
    exact error_of_conflict enters clash
  · obtain ⟨site, conflict, enters, clash, rfl⟩ := exists_conflict_of_error failed
    obtain ⟨cluster, listed, meets⟩ := clash
    obtain ⟨beyondWire, different⟩ := Grid.trace_error meets
    exact ⟨fun cause => CompileError.ne_emptyCircuit_of_within, site, conflict, rfl,
      enters.length_le, enters, ⟨cluster, listed, meets⟩, Grid.activeBeyondWire_iff.mp beyondWire,
      different⟩

/-- Two pads at the ends of a wire. The bounds leave out the second pad, so that its run comes to
the first one and not the other way round. -/
def croppedWire : World EndlessChip :=
  .bounded ((Box.single .origin).extend ⟨1, 0, 0⟩) (.voxel ⟨⟨Layout.standardTypes⟩,
    .clamped 3 1 1, #[⟨⟨2⟩, .identity, 1⟩, ⟨⟨1⟩, .identity, 0⟩, ⟨⟨2⟩, .identity, 0⟩], rfl⟩)

/-- A chip next to air, with a world inside. -/
def chipBesideAir (interior : World EndlessChip) : World EndlessChip :=
  .voxel ⟨⟨[⟨⟨30⟩, "chip", some .chip, some interior⟩]⟩, .clamped 2 1 1,
    #[.air, ⟨⟨30⟩, .identity, 0⟩], rfl⟩

/-- The two nets that meet at the first pad. -/
def padConflict : NetConflict := ⟨⟨.origin, .posX⟩, ⟨0⟩, ⟨9⟩⟩

/-- Where the limit allows to enter both chips around the cropped wire, they are on the way to
the conflict, and at one depth more nothing fails. -/
theorem croppedWire_in_chips_fails :
    (∃ circuits, (compileAll { maxEmbedDepth := 4 } 3
      (chipBesideAir (chipBesideAir croppedWire))).outcome = .ok circuits) ∧
    (compileAll { maxEmbedDepth := 4 } 2 (chipBesideAir (chipBesideAir croppedWire))).outcome =
      .error (.within [⟨1, 0, 0⟩, ⟨1, 0, 0⟩] (.netConflict padConflict)) ∧
    ∃ site conflict, CompileError.within [⟨1, 0, 0⟩, ⟨1, 0, 0⟩] (.netConflict padConflict) =
        .within site.path (.netConflict conflict) ∧ site.path.length ≤ 2 ∧
      Enters { maxEmbedDepth := 4 } 2 (chipBesideAir (chipBesideAir croppedWire)) site ∧
      site.Conflicts { maxEmbedDepth := 4 } conflict := by
  obtain ⟨circuits, compiled, _⟩ := Compilation.exists_ok
    (compileAll { maxEmbedDepth := 4 } 3 (chipBesideAir (chipBesideAir croppedWire)))
    List.length 1 (by decide +kernel)
  have told : (compileAll { maxEmbedDepth := 4 } 2
      (chipBesideAir (chipBesideAir croppedWire))).outcome.map (fun _ => ()) =
      .error (.within [⟨1, 0, 0⟩, ⟨1, 0, 0⟩] (.netConflict padConflict)) := by
    decide +kernel
  cases outcome : (compileAll { maxEmbedDepth := 4 } 2
      (chipBesideAir (chipBesideAir croppedWire))).outcome with
  | ok circuits =>
      rw [outcome] at told
      cases told
  | error error =>
      rw [outcome] at told
      cases told
      obtain ⟨_, site, conflict, same, within, enters, clash, _⟩ :=
        (compileAll_fails_by_conflict { maxEmbedDepth := 4 } 2
          (chipBesideAir (chipBesideAir croppedWire))).2 _ outcome
      exact ⟨⟨circuits, compiled⟩, rfl, site, conflict, same, within, enters, clash⟩

end Circuit

end VoxelCircuit

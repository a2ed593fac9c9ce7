import VoxelCircuit.Proofs.Circuit.ChipEdits
import VoxelCircuit.Proofs.Circuit.RefreshEdits

/-! # Refreshing settles

Evaluating again after a refresh finds the same signals as long as no block can see what the
refresh did. Indicators and rotators write to themselves what nothing else in the circuit
reads, so only replaced blocks and turned chips can be seen. Without these the second
evaluation goes through the states of the first and requests nothing, since each request is
found to be carried out (`VoxelCircuit.Effect.response_again_of_done`). Thus one refresh is
enough (`VoxelCircuit.Circuit.refresh_settles`).
-/

namespace VoxelCircuit

namespace EvalState

variable {γ : Type}

/-- The state of an evaluation of another grid that has come to the same signals and has
requested nothing. -/
def again (state : EvalState γ) (grid : γ) : EvalState γ :=
  { state with grid := grid, requests := [] }

private theorem again_add (state : EvalState γ) (grid : γ) (response : Response) :
    (state.add response).again grid = (state.again grid).add (.ofWrites response.writes) :=
  rfl

end EvalState

namespace Effect

variable {γ : Type} [Grid γ]

private theorem response_forget_requests (effect : Effect γ) (state : EvalState γ) :
    effect.response { state with requests := [] } = effect.response state := by
  cases effect with
  | merge net drivers => simp only [response]
  | respond pos behavior orientation inputs =>
      rw [response, response]
      cases behavior <;> rfl
  | chip pos orientation interior circuits =>
      rw [response, response]
      rfl

/-- A block that sees the same of another grid responds there as it did. -/
theorem response_again {effect : Effect γ} {state : EvalState γ} {grid : γ}
    (sees : effect.SeesAlike state.grid grid) :
    effect.response (state.again grid) = effect.response state := by
  have alike : EvalState.Alike { state with requests := [] } (state.again grid) := by
    refine ⟨?_, fun _ _ => rfl, fun _ => ⟨rfl, rfl⟩⟩
    cases embedded : state.embedding with
    | none => simp only [EvalState.again, embedded]; exact .none
    | some embedding => simp only [EvalState.again, embedded]; exact .some (.refl embedding)
  rw [← response_forget_requests effect state]
  exact ((response_alike effect alike sees).permitted rfl).symm

end Effect

variable {ω : Type} [EditableGrid ω] {now later : VoxelGrid (World ω)} {pos : Pos}

/-- Edits that replace no block leave the type of a block as it is. -/
theorem Edit.id_foldl_cellAfter {edits : List Edit} (cell : Cell)
    (kept : ∀ pos id datum, .replaceBlock pos id datum ∉ edits) :
    (edits.foldl cellAfter cell).id = cell.id := by
  induction edits generalizing cell with
  | nil => rfl
  | cons edit rest ih =>
      rw [List.foldl_cons, ih _ fun pos id datum late => kept pos id datum (.tail _ late)]
      cases edit with
      | setDatum => rfl
      | setOrientation => rfl
      | replaceBlock pos id datum => exact (kept pos id datum List.mem_cons_self).elim

namespace Behavior

/-- An indicator that shows a signal already requests nothing. -/
theorem indicate_of_shown {state : EvalState (World ω)} {lit : Bool}
    (shown : Grid.datum state.grid pos = if lit then 1 else 0) :
    indicate pos lit state = .nothing := by
  rw [indicate, if_neg]
  exact fun asked => asked.2 shown

/-- A block on its own that is asked for a rotation requests the edit which gives it that one,
and requests nothing once it has that one. -/
theorem rotate_settles {first : EvalState (World ω)} (upon : first.grid = .voxel now)
    (alone : first.embedding = none) (signal : Signal)
    (cell : later.cell pos = (rotate pos signal first).edits.foldl Edit.cellAfter (now.cell pos)) :
    rotate pos signal (first.again (.voxel later)) = .nothing ∧
      (rotate pos signal first).writes = [] := by
  unfold rotate at cell ⊢
  cases asked : signal.asNumber with
  | none => exact ⟨rfl, rfl⟩
  | some number =>
      simp only [asked, alone, EvalState.again, Option.isSome_none, Bool.false_eq_true, if_false]
        at cell ⊢
      cases permitted : first.allowEdits with
      | false => exact ⟨rfl, rfl⟩
      | true =>
          simp only [permitted, upon, Response.ofEdits, Bool.not_true, Bool.false_eq_true,
            if_false] at cell ⊢
          refine ⟨?_, trivial⟩
          have turned : Grid.orientation (World.voxel later) pos = .ofNumber number := by
            change (later.cell pos).orientation = _
            rw [cell, cell_after_rotateEdits]
            split
            · assumption
            · rfl
          rw [rotateEdits, if_pos turned]
          rfl

end Behavior

namespace Effect

/-- An effect that requested nothing responds in the grid after a refresh as it did. -/
theorem response_again_of_quiet {effect : Effect (World ω)} {first : EvalState (World ω)}
    (upon : first.grid = .voxel now) (quiet : (effect.response first).edits = [])
    (cell : ∀ pos, effect.target = .block pos → later.cell pos =
      (effect.response first).edits.foldl Edit.cellAfter (now.cell pos))
    (types : ∀ pos, (later.cell pos).id = (now.cell pos).id) :
    effect.response (first.again (.voxel later)) = .ofWrites (effect.response first).writes := by
  have sees : effect.SeesAlike first.grid (.voxel later) := by
    intro pos same
    have here := cell pos same
    rw [quiet, List.foldl_nil] at here
    rw [upon]
    exact ⟨⟨congrArg Cell.orientation here.symm, congrArg Cell.datum here.symm,
      fun direction => (types (pos.step direction)).symm⟩, (types pos).symm⟩
  rw [response_again sees, Response.ofWrites, ← quiet]

/-- **What was done is not asked for again.** In the grid in which the requests of an effect
were carried out, and no block was replaced nor a chip turned, the effect writes what it wrote
and requests nothing. -/
theorem response_again_of_done {effect : Effect (World ω)} {first : EvalState (World ω)}
    (upon : first.grid = .voxel now) (alone : first.embedding = none)
    (permitted : first.allowEdits = true)
    (cell : ∀ pos, effect.target = .block pos → later.cell pos =
      (effect.response first).edits.foldl Edit.cellAfter (now.cell pos))
    (types : ∀ pos, (later.cell pos).id = (now.cell pos).id)
    (kept : ∀ pos id datum, .replaceBlock pos id datum ∉ (effect.response first).edits)
    (unturned : ∀ pos orientation interior circuits,
      effect = .chip pos orientation interior circuits →
        ∀ asked, .setOrientation pos asked ∉ (effect.response first).edits) :
    effect.response (first.again (.voxel later)) = .ofWrites (effect.response first).writes := by
  cases effect with
  | merge net drivers =>
      exact response_again_of_quiet upon (by simp only [response, Response.ofWrites]) cell types
  | chip pos orientation interior circuits =>
      have allowed : Edit.Allowed pos (Grid.datum first.grid pos) (some .chip)
          ((Effect.chip pos orientation interior circuits).response first).edits := by
        rw [response]
        exact .chipResponse ..
      obtain ⟨id, asked, few⟩ := allowed
      refine response_again_of_quiet upon
        (List.eq_nil_iff_forall_not_mem.mpr fun edit requested => ?_) cell types
      rcases List.mem_pair.mp (few.subset requested) with rfl | rfl
      · exact kept _ _ _ requested
      · exact unturned _ _ _ _ rfl _ requested
  | respond pos behavior orientation inputs =>
      cases behavior
      case indicator =>
        have own := cell pos rfl
        rw [response, Behavior.response] at own ⊢
        have shown := Circuit.datum_after_indicate upon permitted pos
          (inputs.any first Direction.all).truthy
        rw [← own] at shown
        rw [response, Behavior.response, Behavior.indicate_writes]
        exact Behavior.indicate_of_shown shown
      case rotator =>
        have own := cell pos rfl
        rw [response, Behavior.response] at own
        obtain ⟨settled, silent⟩ := Behavior.rotate_settles upon alone _ own
        rw [response, response, Behavior.response, Behavior.response, silent]
        exact settled
      case changer =>
        have allowed : Edit.Allowed pos (Grid.datum first.grid pos) (some .changer)
            ((Effect.respond pos .changer orientation inputs).response first).edits := by
          rw [response]
          exact .response ..
        obtain ⟨id, few⟩ := allowed
        refine response_again_of_quiet upon
          (List.eq_nil_iff_forall_not_mem.mpr fun edit requested => ?_) cell types
        rw [List.mem_singleton.mp (few.subset requested)] at requested
        exact kept _ _ _ requested
      all_goals exact response_again_of_quiet upon (by rw [response]; rfl) cell types

end Effect

namespace Circuit

variable {options : CompileOptions} {depth : Nat} {grid : VoxelGrid (World ω)}
  {circuits : List (Circuit (World ω))} {circuit : Circuit (World ω)} {edits : List Edit}

/-- Evaluating after a refresh goes through the states of the evaluation before it. -/
theorem Compiled.evaluate_again {recordEdges : Bool} {grid : World ω}
    (compiled : Compiled grid recordEdges circuit)
    (done : (circuit.refresh (.voxel now)).outcome = .ok edits)
    (left : (circuit.refresh (.voxel now)).grid = .voxel later)
    (kept : ∀ pos id datum, .replaceBlock pos id datum ∉ edits)
    (unturned : ∀ pos asked, .setOrientation pos asked ∈ edits →
      Grid.behavior grid pos ≠ some .chip) :
    circuit.evaluate (.editing (.voxel later)) =
      (circuit.evaluate (.editing (.voxel now))).again (.voxel later) := by
  obtain ⟨requested, _, other, same, edited⟩ := refresh_ok done
  obtain rfl : later = other := World.voxel.inj (left.symm.trans same)
  have fresh : (EvalState.editing (World.voxel now)).Fresh := ⟨rfl, rfl⟩
  have types : ∀ pos, (later.cell pos).id = (now.cell pos).id := by
    intro pos
    rw [edited.cell]
    exact Edit.id_foldl_cellAfter _ fun other id datum asked =>
      kept other id datum (List.mem_of_mem_filter asked)
  refine compiled.evaluate_induction fresh (fun before moment =>
    Effect.runAll before (.editing (.voxel later)) = moment.again (.voxel later)) ?_ ?_
  · rw [Effect.runAll]
    rfl
  intro before effect earlier _ moment _ turn reached
  obtain ⟨upon, permitted, alone⟩ := turn.setting
  have among : ∀ edit ∈ (effect.response moment).edits, edit ∈ edits := fun edit asked =>
    requested ▸ turn.mem_edits asked
  have responds : effect.response (moment.again (.voxel later)) =
      .ofWrites (effect.response moment).writes := by
    refine Effect.response_again_of_done upon alone permitted (fun pos target => ?_) types
      (fun pos id datum asked => kept pos id datum (among _ asked))
      fun pos orientation interior circuits chip asked turned => ?_
    · rw [target] at turn
      exact turn.refresh_cell done left
    · have there : Grid.behavior grid pos = some .chip := by
        subst chip
        have realizes := turn.realizes
        cases realizes with
        | chip there => exact there
      exact unturned pos asked (among _ turned) there
  rw [Effect.runAll_append, reached, Effect.runAll, Effect.runAll, responds,
    EvalState.again_add]

/-- **Refreshing settles in one step.** Take a circuit of a voxel grid, whatever the grid has come
to hold since it was compiled, circles of nets and chips included. If a refresh succeeds and
requests neither that a block be replaced nor that a block be turned which was compiled as a
chip, then another refresh requests nothing, and leaves the snapshot and the grid as they are. -/
theorem refresh_settles
    (compiled : (compileAll options depth (World.voxel grid)).outcome = .ok circuits)
    (listed : circuit ∈ circuits) (done : (circuit.refresh (.voxel now)).outcome = .ok edits)
    (kept : ∀ pos id datum, .replaceBlock pos id datum ∉ edits)
    (unturned : ∀ pos asked, .setOrientation pos asked ∈ edits →
      grid.behavior pos ≠ some .chip) :
    let refreshed := circuit.refresh (.voxel now)
    refreshed.circuit.refresh refreshed.grid = ⟨refreshed.circuit, refreshed.grid, .ok []⟩ := by
  intro refreshed
  obtain ⟨_, _, later, left, _⟩ := refresh_ok done
  have again := (compiled_of_mem_compileAll compiled listed).evaluate_again done left kept unturned
  -- The snapshot is not evaluated, so the refreshed circuit does what the circuit does.
  have evaluates : refreshed.circuit.evaluate (.editing refreshed.grid) =
      (circuit.evaluate (.editing (.voxel now))).again (.voxel later) := by
    rw [show refreshed.grid = .voxel later from left]
    exact again
  rw [refresh, evaluates, show refreshed.grid = .voxel later from left]
  rfl

/-- A datum sensor and a neighbor sensor on either side of a chip output. -/
def sensing : World EndlessChip :=
  .voxel ⟨⟨Layout.standardTypes⟩, .clamped 1 3 1,
    #[⟨⟨7⟩, .identity, 0⟩, ⟨⟨12⟩, .identity, 0⟩, ⟨⟨8⟩, .ofCodeWrapping 12, 0⟩], rfl⟩

/-- Four nor blocks in a ring with a rotator beside it, a chip with the sensors inside, and an
indicator above the chip. -/
def sensingRing (level : Int) : VoxelGrid (World EndlessChip) :=
  ⟨⟨Layout.standardTypes ++ [⟨⟨30⟩, "chip", some .chip, some sensing⟩]⟩, .clamped 4 2 1,
    #[⟨⟨30⟩, .identity, 7⟩, ⟨⟨5⟩, .ofCodeWrapping 4, 0⟩, ⟨⟨5⟩, .identity, 0⟩, .air,
      ⟨⟨3⟩, .identity, level⟩, ⟨⟨5⟩, .identity, 0⟩, ⟨⟨5⟩, .ofCodeWrapping 4, 0⟩,
      ⟨⟨10⟩, .ofCodeWrapping 5, 0⟩], rfl⟩

/-- A refresh lights the indicator and turns the rotator back, and another does nothing. -/
theorem sensingRing_settles :
    ∃ circuits circuit, (compileAll {} 0 (World.voxel (sensingRing 0))).outcome = .ok circuits ∧
      circuit ∈ circuits ∧
      (circuit.refresh (.voxel (sensingRing 5))).outcome =
        .ok [.setDatum ⟨0, 1, 0⟩ 1, .setOrientation ⟨3, 1, 0⟩ .identity] ∧
      (sensingRing 0).behavior ⟨3, 1, 0⟩ ≠ some .chip ∧
      ((circuit.refresh (.voxel (sensingRing 5))).circuit.refresh
        (circuit.refresh (.voxel (sensingRing 5))).grid).outcome = .ok [] := by
  obtain ⟨circuits, compiled, look⟩ := Compilation.exists_ok
    (compileAll {} 0 (World.voxel (sensingRing 0)))
    (List.map fun circuit => (circuit.evaluate (.editing (.voxel (sensingRing 5)))).edits)
    [[.setDatum ⟨0, 1, 0⟩ 1, .setOrientation ⟨3, 1, 0⟩ .identity]] (by decide +kernel)
  obtain ⟨circuit, rfl, edits⟩ := List.map_eq_singleton_iff.mp look
  have accepts : ∀ edit ∈ (circuit.evaluate (.editing (.voxel (sensingRing 5)))).edits,
      (sensingRing 5).Accepts edit := by
    rw [edits]
    intro edit member
    rcases List.mem_pair.mp member with rfl | rfl <;> exact ⟨by decide, nofun⟩
  have done := refresh_succeeds accepts
  rw [edits] at done
  have rotator : (sensingRing 0).behavior ⟨3, 1, 0⟩ ≠ some .chip := by decide +kernel
  have settled := refresh_settles compiled (List.mem_singleton.mpr rfl) done (by simp) (by
    intro pos asked turned
    obtain ⟨rfl, _⟩ : pos = ⟨3, 1, 0⟩ ∧ asked = .identity := by simpa using turned
    exact rotator)
  exact ⟨_, circuit, compiled, List.mem_singleton.mpr rfl, done, rotator,
    congrArg Refresh.outcome settled⟩

end Circuit

end VoxelCircuit

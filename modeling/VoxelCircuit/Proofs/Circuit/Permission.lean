import VoxelCircuit.Proofs.Circuit.ChipEdits
import VoxelCircuit.Proofs.Circuit.Surroundings

/-! # Permission to edit

Whether edits are permitted decides about the edits requested and about the rotation asked
of the block around the grid, and chips pass the permission on to the circuits inside them.
None of this comes back as a signal, at whatever depth
(`VoxelCircuit.Circuit.evaluate_permission`).
-/

namespace VoxelCircuit

variable {γ : Type} [Grid γ] {state : EvalState γ}

namespace Behavior

variable {pos : Pos} {orientation : Orientation}

/-- Without permission a block requests nothing. -/
theorem response_edits_of_forbidden (forbidden : state.allowEdits = false) (behavior : Behavior)
    (inputs : Inputs) : (behavior.response pos orientation inputs state).edits = [] := by
  cases behavior
  case wire | junction | chip => rfl
  case pad | nor | gate | datumSensor | neighborSensor | spontaneous => rfl
  case indicator => simp only [response, indicate, forbidden, Bool.false_eq_true, false_and,
    if_false, Response.nothing]
  case rotator =>
    simp only [response, rotate]
    cases (inputs.any state Direction.all).asNumber with
    | none => rfl
    | some number => simp only [forbidden, Bool.not_false, if_true, Response.nothing]
  case changer =>
    simp only [response, change]
    cases (inputs.any state Direction.all).asNumber with
    | none => rfl
    | some number =>
        cases state.embedding.isSome <;>
          simp only [forbidden, Bool.false_eq_true, if_false, if_true, Response.nothing,
            Response.ofWrites]
  case chipOutput => rfl

private theorem chipResponse_edits_of_forbidden (forbidden : state.allowEdits = false)
    (publication : Publication) :
    (chipResponse pos orientation publication state).edits = [] := by
  simp only [chipResponse, forbidden, Bool.false_eq_true, if_false]

end Behavior

namespace Effect

private theorem edits_of_forbidden (forbidden : state.allowEdits = false) (effect : Effect γ) :
    (effect.response state).edits = [] := by
  cases effect with
  | merge net drivers => simp only [response, Response.ofWrites]
  | respond pos behavior orientation inputs =>
      rw [response]
      exact Behavior.response_edits_of_forbidden forbidden behavior inputs
  | chip pos orientation interior circuits =>
      rw [response]
      exact Behavior.chipResponse_edits_of_forbidden forbidden _

/-- Without permission an evaluation requests nothing. -/
theorem edits_runAll_of_forbidden (effects : List (Effect γ))
    (forbidden : state.allowEdits = false) : (runAll effects state).edits = state.edits := by
  induction effects generalizing state with
  | nil => rw [runAll]
  | cons effect rest ih =>
      have still : (state.add (effect.response state)).allowEdits = false := forbidden
      rw [runAll, ih still, EvalState.edits_add, edits_of_forbidden forbidden, List.append_nil]

end Effect

/-- Two states that differ in nothing but the permission are alike. -/
theorem EvalState.alike_of_permission (state : EvalState γ) (one other : Bool) :
    { state with allowEdits := one }.Alike { state with allowEdits := other } where
  embedding := by
    cases state.embedding with
    | none => exact .none
    | some embedding => exact .some (.refl embedding)
  signal _ _ := rfl
  permitted _ := ⟨rfl, rfl⟩

/-- **Permission to edit does not show in signals.** Evaluating a circuit, with chips nested
in it to whatever depth, on two states that differ in nothing but the permission leaves the
same signals under all keys but that of the rotation asked for; and on the one that forbids
edits it leaves the requests as they were. -/
theorem Circuit.evaluate_permission (circuit : Circuit γ) (state : EvalState γ) :
    (∀ key, key ≠ .rotation →
      (circuit.evaluate { state with allowEdits := true }).values.get? key =
        (circuit.evaluate { state with allowEdits := false }).values.get? key) ∧
    (circuit.evaluate { state with allowEdits := false }).edits = state.edits := by
  have sees : ∀ effect ∈ circuit.pipeline, effect.SeesAlike state.grid state.grid :=
    fun _ _ pos _ => .refl state.grid pos
  refine ⟨fun key apart => ?_, Effect.edits_runAll_of_forbidden circuit.pipeline rfl⟩
  exact (Effect.runAll_alike circuit.pipeline (state.alike_of_permission true false) sees).signal
    key apart

/-- Inside a chip, permission decides about the rotation asked of the chip, and not about the
type. -/
theorem Circuit.askingGrid_permission :
    ∃ circuit start, (compile {} 1 (World.voxel askingGrid)
        (ofMembers [⟨0, 0, 0⟩, ⟨1, 0, 0⟩, ⟨2, 0, 0⟩])).outcome = .ok circuit ∧
      start = EvalState.embedded (.voxel askingGrid)
        ⟨.voxel (askingChip .identity), ⟨0, 0, 0⟩, none⟩ ∧
      Key.replacement ≠ .rotation ∧
      (circuit.evaluate { start with allowEdits := true }).values.get? .replacement =
        (circuit.evaluate { start with allowEdits := false }).values.get? .replacement ∧
      (circuit.evaluate { start with allowEdits := true }).values.get? .rotation ≠
        (circuit.evaluate { start with allowEdits := false }).values.get? .rotation := by
  obtain ⟨circuit, compiled, look⟩ := Compilation.exists_ok
    (compile {} 1 (World.voxel askingGrid) (ofMembers [⟨0, 0, 0⟩, ⟨1, 0, 0⟩, ⟨2, 0, 0⟩]))
    (fun circuit => ((circuit.evaluate ⟨.voxel askingGrid, true,
        some ⟨.voxel (askingChip .identity), ⟨0, 0, 0⟩, none⟩, .empty, []⟩).values.get? .rotation,
      (circuit.evaluate ⟨.voxel askingGrid, false,
        some ⟨.voxel (askingChip .identity), ⟨0, 0, 0⟩, none⟩, .empty, []⟩).values.get? .rotation))
    (some (Orientation.signal ⟨20⟩), none) (by decide +kernel)
  obtain ⟨permitted, forbidden⟩ := Prod.mk.inj look
  refine ⟨circuit, _, compiled, rfl, nofun,
    (evaluate_permission circuit _).1 .replacement nofun, fun equal => ?_⟩
  exact Option.some_ne_none _ (permitted.symm.trans (equal.trans forbidden))

end VoxelCircuit

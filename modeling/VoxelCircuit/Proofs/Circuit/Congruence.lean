import VoxelCircuit.Proofs.Circuit.TurnedResponse

/-! # What a response depends on

A block other than a chip output responds to nothing but the signals on its inputs and the
setting of the evaluation: the grid, the permission for edits and the block around
(`VoxelCircuit.Behavior.response_congr`). Which nets the signals come from, and what else has been
written, does not show. A chip responds to the setting alone. So two effects that differ in the
nets they read do the same wherever these carry the same signals
(`VoxelCircuit.Effect.Rewired.response`).
-/

namespace VoxelCircuit

variable {γ : Type}

/-- Two states of one evaluation: with the same grid, permission and block around. -/
def EvalState.SameSetting (first second : EvalState γ) : Prop :=
  first.grid = second.grid ∧ first.allowEdits = second.allowEdits ∧
    first.embedding = second.embedding

namespace EvalState.SameSetting

variable {first second third : EvalState γ}

/-- Having the same setting is symmetric. -/
theorem symm (same : first.SameSetting second) : second.SameSetting first :=
  ⟨same.1.symm, same.2.1.symm, same.2.2.symm⟩

/-- Having the same setting is transitive. -/
theorem trans (same : first.SameSetting second) (other : second.SameSetting third) :
    first.SameSetting third :=
  ⟨same.1.trans other.1, same.2.1.trans other.2.1, same.2.2.trans other.2.2⟩

end EvalState.SameSetting

variable [Grid γ]

namespace Behavior

variable {first second : EvalState γ} {inputs others : Inputs}

/-- Blocks other than chip outputs that read the same signals in the same setting respond the
same. -/
theorem response_congr {behavior : Behavior} (notOutput : behavior ≠ .chipOutput)
    (same : first.SameSetting second)
    (signals : ∀ direction, inputs.signal first direction = others.signal second direction)
    (pos : Pos) (orientation : Orientation) :
    behavior.response pos orientation inputs first =
      behavior.response pos orientation others second := by
  obtain ⟨grid, allowed, embedding⟩ := same
  have merges : ∀ directions, inputs.any first directions = others.any second directions := by
    intro directions
    rw [Inputs.any, Inputs.any, List.map_congr_left fun direction _ => signals direction]
  cases behavior
  case chipOutput => exact (notOutput rfl).elim
  all_goals
    simp only [response, indicate, rotate, change, sensedDatum, sensedId, EvalState.event, grid,
      allowed, embedding, merges, signals]

end Behavior

/-- An effect of a block and one that differs from it in the nets it reads. -/
inductive Effect.Rewired (inputs others : Inputs) : Effect γ → Effect γ → Prop
  | respond (pos : Pos) (behavior : Behavior) (orientation : Orientation) :
      Rewired inputs others (.respond pos behavior orientation inputs)
        (.respond pos behavior orientation others)
  | chip (pos : Pos) (orientation : Orientation) (interior : γ) (circuits : List (Pipeline γ)) :
      Rewired inputs others (.chip pos orientation interior circuits)
        (.chip pos orientation interior circuits)

namespace Effect

variable {first second : EvalState γ} {inputs others : Inputs}

/-- A chip responds alike in states that have the same setting. -/
theorem chip_response_congr (same : first.SameSetting second) (pos : Pos)
    (orientation : Orientation) (interior : γ) (circuits : List (Pipeline γ)) :
    (Effect.chip pos orientation interior circuits).response first =
      (Effect.chip pos orientation interior circuits).response second := by
  obtain ⟨grid, allowed, embedding⟩ := same
  simp only [response, Behavior.chipResponse, EvalState.inside, EvalState.event, grid, allowed,
    embedding]

/-- Effects of one block that read the same signals in the same setting drive the same on faces
and request the same. -/
theorem Rewired.response {one other : Effect γ} (rewired : Rewired inputs others one other)
    (same : first.SameSetting second)
    (signals : ∀ direction, inputs.signal first direction = others.signal second direction) :
    (one.response first).driven = (other.response second).driven ∧
      (one.response first).edits = (other.response second).edits := by
  cases rewired with
  | respond pos behavior orientation =>
      simp only [Effect.response]
      by_cases output : behavior = .chipOutput
      · subst output
        simp only [Behavior.response, Behavior.publish_driven, and_self]
      · rw [Behavior.response_congr output same signals]
        exact ⟨rfl, rfl⟩
  | chip pos orientation interior circuits =>
      rw [chip_response_congr same]
      exact ⟨rfl, rfl⟩

end Effect

end VoxelCircuit

import Mathlib.Data.List.Basic

/-! # Calls one after another

What a list of calls makes of a state, and what the calls answer. Two kinds of states that
answer every call alike, and stay related, answer all lists of calls alike
(`VoxelCircuit.runCalls_related`).
-/

namespace VoxelCircuit

variable {σ τ κ α : Type}

/-- Make calls one after another: what they leave, and their answers in order. -/
def runCalls (call : σ → κ → σ × α) (state : σ) : List κ → σ × List α
  | [] => (state, [])
  | first :: rest =>
    let here := call state first
    let later := runCalls call here.1 rest
    (later.1, here.2 :: later.2)

/-- States that answer every call alike and stay related answer all calls alike. -/
theorem runCalls_related {related : σ → τ → Prop} {call : σ → κ → σ × α}
    {callOther : τ → κ → τ × α}
    (step : ∀ {state other} kind, related state other →
      (call state kind).2 = (callOther other kind).2 ∧
        related (call state kind).1 (callOther other kind).1)
    {state : σ} {other : τ} (start : related state other) (calls : List κ) :
    (runCalls call state calls).2 = (runCalls callOther other calls).2 ∧
      related (runCalls call state calls).1 (runCalls callOther other calls).1 := by
  induction calls generalizing state other with
  | nil => exact ⟨rfl, start⟩
  | cons first rest ih =>
      obtain ⟨answer, here⟩ := step first start
      obtain ⟨answers, later⟩ := ih here
      exact ⟨congrArg₂ List.cons answer answers, later⟩

/-- A number that each call raises by one, or leaves, as its answer tells, is raised by the
number of the answers that tell so. -/
theorem runCalls_count {call : σ → κ → σ × α} {number : σ → Nat} {raises : α → Bool}
    (step : ∀ state kind, number (call state kind).1 =
      number state + if raises (call state kind).2 then 1 else 0) (state : σ) (calls : List κ) :
    number (runCalls call state calls).1 =
      number state + (runCalls call state calls).2.countP raises := by
  induction calls generalizing state with
  | nil => rfl
  | cons first rest ih =>
      rw [runCalls, List.countP_cons, ih, step]
      omega

end VoxelCircuit

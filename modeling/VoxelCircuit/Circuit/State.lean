import VoxelCircuit.Circuit.Values
import VoxelCircuit.Grid.Basic

/-! # States of an evaluation

What the effects of a circuit work on: the grid, which is only read, the block
that the grid is embedded in, if any, the values written so far and the edits
requested so far.
-/

namespace VoxelCircuit

variable {γ : Type}

/-- The place of a grid inside a block of another grid. -/
structure Embedding (γ : Type) where
  /-- The grid of the block. -/
  outer : γ
  /-- The position of the block. -/
  pos : Pos
  /-- The event that the evaluation was started for. -/
  event : Option Signal

/-- The state of an evaluation. -/
structure EvalState (γ : Type) where
  /-- The grid that is evaluated. -/
  grid : γ
  /-- Whether edits may be requested. -/
  allowEdits : Bool
  /-- The block that the grid is embedded in. -/
  embedding : Option (Embedding γ)
  /-- The signals written so far. -/
  values : Values
  /-- The edits requested so far, the latest first. -/
  requests : List Edit

namespace EvalState

/-- A fresh state of a grid on its own, in which no edits may be requested. -/
def readOnly (grid : γ) : EvalState γ :=
  ⟨grid, false, none, .empty, []⟩

/-- A fresh state of a grid on its own, in which edits may be requested. -/
def editing (grid : γ) : EvalState γ :=
  ⟨grid, true, none, .empty, []⟩

/-- A fresh state of a grid inside a block, in which no edits may be requested. -/
def embedded (grid : γ) (embedding : Embedding γ) : EvalState γ :=
  ⟨grid, false, some embedding, .empty, []⟩

/-- A fresh state of a grid inside a block, with the permission of the state of the
grid around it. -/
def inside (parent : EvalState γ) (grid : γ) (embedding : Embedding γ) : EvalState γ :=
  ⟨grid, parent.allowEdits, some embedding, .empty, []⟩

/-- The edits requested so far, in order. -/
def edits (state : EvalState γ) : List Edit :=
  state.requests.reverse

/-- What an evaluation leaves: the signals written and the edits requested. -/
def written (state : EvalState γ) : Values × List Edit :=
  (state.values, state.edits)

/-- The event that the evaluation was started for. -/
def event (state : EvalState γ) : Option Signal :=
  state.embedding.bind Embedding.event

/-- The signal of a net; no signal where there is no net. -/
def netSignal (state : EvalState γ) : Option NetId → Signal
  | some id => state.values.get (.net id)
  | none => .null

end EvalState

/-- What one effect adds to a state. -/
structure Response where
  /-- The signals that it writes, in order. -/
  writes : List (Key × Signal)
  /-- The edits that it requests, in order. -/
  edits : List Edit
deriving DecidableEq

namespace Response

/-- The response that adds nothing. -/
def nothing : Response := ⟨[], []⟩

/-- A response that writes only. -/
def ofWrites (writes : List (Key × Signal)) : Response := ⟨writes, []⟩

/-- A response that requests edits only. -/
def ofEdits (edits : List Edit) : Response := ⟨[], edits⟩

end Response

namespace EvalState

/-- The state after a response. -/
def add (state : EvalState γ) (response : Response) : EvalState γ :=
  { state with
    values := state.values.setAll response.writes
    requests := response.edits.reverse ++ state.requests }

/-- A response requests its edits after those requested before. -/
@[simp] theorem edits_add (state : EvalState γ) (response : Response) :
    (state.add response).edits = state.edits ++ response.edits := by
  simp [add, edits]

end EvalState

end VoxelCircuit

import VoxelCircuit.Circuit.Demand
import VoxelCircuit.Circuit.Report
import VoxelCircuit.Grid.Cluster

/-! # Circuits

A circuit is a set of member blocks, in the order in which they joined, together
with what compiling made of them: the nets between them and the effects that
evaluate them. The circuits inside a chip are compiled along with the chip, one
level deeper, down to a limit on the depth.
-/

namespace VoxelCircuit

/-- How circuits are compiled. -/
structure CompileOptions where
  /-- The depth from which on chips are passed over. -/
  maxEmbedDepth : Nat := 8
  /-- Whether nets keep the steps walked to find them. -/
  recordTraceEdges : Bool := true
deriving DecidableEq

/-- A circuit in a grid of kind `γ`. -/
structure Circuit (γ : Type) where
  /-- The members in the order in which they joined. -/
  joined : OrderedSet Pos
  /-- The nets of the last compilation. -/
  graph : NetGraph
  /-- The effects of the last compilation. -/
  pipeline : Pipeline γ
  /-- The values of the last refresh. -/
  snapshot : Values

namespace Circuit

variable {γ : Type}

/-- The circuit without members. -/
def empty : Circuit γ := ⟨.empty, .empty, [], .empty⟩

/-- The members in the order in which they joined. -/
def members (circuit : Circuit γ) : List Pos :=
  circuit.joined.keys

/-- Whether a block is a member. -/
def contains (circuit : Circuit γ) (pos : Pos) : Bool :=
  circuit.joined.contains pos

/-- The circuit with one more member; a block that is a member already changes
nothing. -/
def addMember (circuit : Circuit γ) (pos : Pos) : Circuit γ :=
  { circuit with joined := OrderedSet.add circuit.joined pos }

/-- The circuit of a list of members, not compiled. -/
def ofMembers (members : List Pos) : Circuit γ :=
  members.foldl addMember empty

/-- The least box that holds all members. -/
def bounds (circuit : Circuit γ) : Option Box :=
  Box.hull? circuit.members

variable [Grid γ]

/-- The effect for a target, if it has one. `deeper` compiles the grid inside a
chip; without it the depth is used up and chips are passed over. -/
def effectFor (options : CompileOptions)
    (deeper : Option (γ → Compilation (List (Circuit γ)))) (grid : γ) (graph : NetGraph) :
    Target → Compilation (Option (Effect γ))
  | .net id => .done ((graph.net? id).map fun net => .merge id net.drivers)
  | .block pos =>
    let orientation := Grid.orientation grid pos
    match Grid.behavior grid pos with
    | none | some .wire => .done none
    | some .chip =>
      let skipped := Effect.respond pos .chip orientation (Grid.inputsAt grid graph pos)
      match Grid.interior grid pos, deeper with
      | none, _ =>
        (Compilation.report (.missingInterior pos)).andThen fun _ => .done (some skipped)
      | some _, none =>
        (Compilation.report (.depthExceeded pos options.maxEmbedDepth)).andThen fun _ =>
          .done (some skipped)
      | some interior, some deeper =>
        ((deeper interior).mapError (.inside pos)).andThen fun circuits =>
          .done (some (.chip pos orientation interior (circuits.map pipeline)))
    | some behavior =>
      .done (some (.respond pos behavior orientation (Grid.inputsAt grid graph pos)))

/-- The circuit after compiling it for a grid at a depth: its nets are traced, and
each target has its effect in the order of demand. -/
def compileWith (options : CompileOptions)
    (deeper : Option (γ → Compilation (List (Circuit γ)))) (depth : Nat) (grid : γ)
    (circuit : Circuit γ) : Compilation (Circuit γ) :=
  if circuit.joined.isEmpty then .fail .emptyCircuit
  else
    match Grid.trace grid circuit.members options.recordTraceEdges with
    | .error conflict => .fail (.netConflict conflict)
    | .ok graph =>
      (Compilation.each (effectFor options deeper grid graph)
        (Grid.demandOrder grid graph circuit.members)).andThen fun effects =>
          let pipeline := effects.filterMap id
          (Compilation.report (.compiled depth circuit.members.length graph.size
            pipeline.length)).andThen fun _ =>
              .done { circuit with graph := graph, pipeline := pipeline }

/-- The compiled circuits of a grid at a depth, one for each cluster, when chips may
be entered some number of levels further. -/
def compileLevels (options : CompileOptions) :
    (levels : Nat) → (depth : Nat) → γ → Compilation (List (Circuit γ))
  | 0, depth, grid =>
    Compilation.each (fun members => compileWith options none depth grid (ofMembers members))
      (Grid.clusters grid)
  | levels + 1, depth, grid =>
    Compilation.each
      (fun members =>
        compileWith options (some (compileLevels options levels (depth + 1))) depth grid
          (ofMembers members))
      (Grid.clusters grid)

/-- The compiled circuits of a grid at a depth. -/
def compileAll (options : CompileOptions) (depth : Nat) (grid : γ) :
    Compilation (List (Circuit γ)) :=
  compileLevels options (options.maxEmbedDepth - depth) depth grid

/-- The circuit after compiling it for a grid at a depth. -/
def compile (options : CompileOptions) (depth : Nat) (grid : γ) (circuit : Circuit γ) :
    Compilation (Circuit γ) :=
  let deeper :=
    if depth < options.maxEmbedDepth then some (compileAll options (depth + 1)) else none
  compileWith options deeper depth grid circuit

/-- The state after evaluating a circuit once. -/
def evaluate (circuit : Circuit γ) (state : EvalState γ) : EvalState γ :=
  circuit.pipeline.run state

end Circuit

/-- What a refresh leaves behind. -/
structure Refresh (γ : Type) where
  /-- The circuit with its new snapshot. -/
  circuit : Circuit γ
  /-- The grid after the edits, up to the first that was refused. -/
  grid : γ
  /-- The edits requested, or why one of them was refused. -/
  outcome : Except GridError (List Edit)

/-- Evaluate a circuit with edits permitted, keep the values as its snapshot and
apply the edits in order. -/
def Circuit.refresh {γ : Type} [EditableGrid γ] (circuit : Circuit γ) (grid : γ) : Refresh γ :=
  let (values, edits) := (circuit.evaluate (.editing grid)).written
  let (after, outcome) := EditableGrid.applyAll grid edits
  ⟨{ circuit with snapshot := values }, after, outcome.map fun _ => edits⟩

end VoxelCircuit

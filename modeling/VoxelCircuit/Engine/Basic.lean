import VoxelCircuit.Circuit.Basic
import VoxelCircuit.Engine.Event

/-! # Engines

An engine compiles and evaluates circuits under one set of options, passes reports
on or drops them, and sends events. The depth of nesting that it allows is limited,
and the limit is part of its type.
-/

namespace VoxelCircuit

/-- Why the options of an engine are refused. -/
inductive ConfigError where
  /-- The depth of nesting asked for exceeds what engines allow. -/
  | embedDepthTooLarge (configured maximum : Nat)
deriving DecidableEq

/-- The text that reports refused options. -/
def ConfigError.message : ConfigError → String
  | embedDepthTooLarge configured maximum =>
    "max_embed_depth " ++ toString configured ++ " exceeds maximum of " ++ toString maximum

/-- Why an engine cannot do what it is asked for. -/
inductive EngineError where
  /-- A circuit cannot be compiled. -/
  | compile (error : CompileError)
  /-- A grid refuses. -/
  | grid (error : GridError)
deriving DecidableEq

/-- The text of an error. -/
def EngineError.message : EngineError → String
  | compile error => "compile: " ++ error.message
  | grid error => "grid: " ++ error.message

/-- The texts of the errors that led to an error, from the nearest on. -/
def EngineError.causes : EngineError → List String
  | compile error => (error :: error.causes).map CompileError.message
  | grid error => [error.message]

/-- An engine: options, and where its reports and events go. -/
structure Engine (σ : Type) where
  /-- How circuits are compiled. -/
  options : CompileOptions
  /-- The depth of nesting is within the limit. -/
  depth_le : options.maxEmbedDepth ≤ 64
  /-- Whether reports are passed on. -/
  keepsReports : Bool
  /-- Where events are sent. -/
  events : σ

namespace Engine

/-- The greatest depth of nesting that an engine may allow. -/
def depthLimit : Nat := 64

/-- An engine with given options that passes its reports on and ignores events. -/
def ofOptions (options : CompileOptions) : Except ConfigError (Engine EventSink) :=
  if within : options.maxEmbedDepth ≤ 64 then .ok ⟨options, within, true, .ignore⟩
  else .error (.embedDepthTooLarge options.maxEmbedDepth depthLimit)

variable {σ : Type}

/-- The engine with another sink for its events. -/
def sendingTo {τ : Type} (engine : Engine σ) (sink : τ) : Engine τ :=
  ⟨engine.options, engine.depth_le, engine.keepsReports, sink⟩

/-- The reports of a compilation that the engine passes on. -/
def passedOn (engine : Engine σ) (reports : List Report) : List Report :=
  if engine.keepsReports then reports else []

variable {γ : Type} [Grid γ]

/-- The compiled circuits of a grid. -/
def compileAll (engine : Engine σ) (grid : γ) : Compilation (List (Circuit γ)) :=
  Circuit.compileAll engine.options 0 grid

/-- A circuit after compiling it for a grid. -/
def compile (engine : Engine σ) (grid : γ) (circuit : Circuit γ) : Compilation (Circuit γ) :=
  circuit.compile engine.options 0 grid

end Engine

end VoxelCircuit

import VoxelCircuit.Net.Trace

/-! # Reports of a compilation

Compiling a circuit may fail, and whether it does or not it reports what it did
and what it passed over. The reports made before a failure are kept.
-/

namespace VoxelCircuit

/-- What compiling reports on the way. -/
inductive Report where
  /-- A chip without a grid inside is passed over. -/
  | missingInterior (pos : Pos)
  /-- A chip too deep inside other chips is passed over. -/
  | depthExceeded (pos : Pos) (limit : Nat)
  /-- A circuit was compiled: its depth, and the numbers of its members, nets and
  effects. -/
  | compiled (depth members nets effects : Nat)
deriving DecidableEq

namespace Report

/-- How serious a report is: a warning, or a summary for debugging. -/
def level : Report → String
  | missingInterior _ | depthExceeded _ _ => "WARN"
  | compiled _ _ _ _ => "DEBUG"

/-- The text of a report. -/
def text : Report → String
  | missingInterior pos => "ic block at " ++ pos.text ++ " has no nested grid; ignoring"
  | depthExceeded pos limit =>
    "ic block at " ++ pos.text ++ " exceeds embedding depth " ++ toString limit ++ "; ignoring"
  | compiled depth members nets effects =>
    "compiled circuit at depth " ++ toString depth ++ ": " ++ toString members ++ " members, "
      ++ toString nets ++ " nets, " ++ toString effects ++ " effects"

end Report

/-- Why a circuit cannot be compiled. -/
inductive CompileError where
  /-- The circuit has no members. -/
  | emptyCircuit
  /-- Two nets meet in one face. -/
  | netConflict (conflict : NetConflict)
  /-- A circuit inside a chip cannot be compiled. -/
  | inside (pos : Pos) (cause : CompileError)
deriving DecidableEq

namespace CompileError

/-- The text of an error. -/
def message : CompileError → String
  | emptyCircuit => "circuit has no member blocks"
  | netConflict conflict =>
    "conflicting net merge at " ++ conflict.face.pos.text ++ " face "
      ++ conflict.face.direction.text ++ ": claimed by " ++ conflict.existing.text
      ++ ", reached by " ++ conflict.incoming.text
  | inside pos cause => "nested circuit of block at " ++ pos.text ++ ": " ++ cause.message

/-- The errors that led to an error, from the nearest on. -/
def causes : CompileError → List CompileError
  | emptyCircuit | netConflict _ => []
  | inside _ cause => cause :: cause.causes

end CompileError

/-- The outcome of a compilation, with the reports made until then. -/
structure Compilation (α : Type) where
  /-- The reports in order. -/
  reports : List Report
  /-- What was compiled, or why it could not be. -/
  outcome : Except CompileError α

namespace Compilation

variable {α β : Type}

/-- A compilation that reports nothing. -/
def done (value : α) : Compilation α := ⟨[], .ok value⟩

/-- A compilation that fails at once. -/
def fail (error : CompileError) : Compilation α := ⟨[], .error error⟩

/-- A compilation that only reports. -/
def report (report : Report) : Compilation Unit := ⟨[report], .ok ()⟩

/-- One compilation after another, up to the first that fails. -/
def andThen (first : Compilation α) (next : α → Compilation β) : Compilation β :=
  match first.outcome with
  | .ok value =>
    let second := next value
    ⟨first.reports ++ second.reports, second.outcome⟩
  | .error error => ⟨first.reports, .error error⟩

instance : Monad Compilation where
  pure := done
  bind := andThen

/-- A compilation with its error changed. -/
def mapError (compilation : Compilation α) (change : CompileError → CompileError) :
    Compilation α :=
  ⟨compilation.reports, compilation.outcome.mapError change⟩

/-- Compile the rest of a list in order, up to the first that fails, after the reports
and the values of its beginning, both given with the latest first. -/
def eachAfter (compile : α → Compilation β) (reports : List Report) (values : List β) :
    List α → Compilation (List β)
  | [] => ⟨reports.reverse, .ok values.reverse⟩
  | first :: rest =>
    let here := compile first
    match here.outcome with
    | .ok value =>
      eachAfter compile (here.reports.reverse ++ reports) (value :: values) rest
    | .error error => ⟨reports.reverse ++ here.reports, .error error⟩

/-- Compile each of a list in order, up to the first that fails. -/
def each (compile : α → Compilation β) (items : List α) : Compilation (List β) :=
  eachAfter compile [] [] items

/-- What came before is put in front of the reports and the values. -/
theorem eachAfter_eq (compile : α → Compilation β) (reports : List Report) (values : List β)
    (items : List α) :
    eachAfter compile reports values items =
      ⟨reports.reverse ++ (each compile items).reports,
        (each compile items).outcome.map (values.reverse ++ ·)⟩ := by
  induction items generalizing reports values with
  | nil => simp [each, eachAfter, Except.map]
  | cons first rest ih =>
    unfold each eachAfter
    simp only
    split
    · rw [ih, ih (_ ++ [])]
      cases (each compile rest).outcome <;> simp [Except.map]
    · simp [Except.map]

/-- Compiling nothing reports nothing. -/
@[simp] theorem each_nil (compile : α → Compilation β) : each compile [] = done [] :=
  rfl

/-- Compiling each of a list is compiling the first and then each of the rest. -/
theorem each_cons (compile : α → Compilation β) (first : α) (rest : List α) :
    each compile (first :: rest) = (compile first).andThen fun value =>
      (each compile rest).andThen fun values => done (value :: values) := by
  have unfolded : each compile (first :: rest) = eachAfter compile [] [] (first :: rest) := rfl
  rw [unfolded, eachAfter]
  generalize compile first = here
  obtain ⟨reports, outcome⟩ := here
  cases outcome with
  | error error => rfl
  | ok value =>
    simp only [eachAfter_eq, andThen]
    cases (each compile rest).outcome <;> simp [Except.map, done]

end Compilation

end VoxelCircuit

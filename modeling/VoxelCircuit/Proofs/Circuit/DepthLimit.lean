import VoxelCircuit.Layout.Basic
import VoxelCircuit.Layout.EndlessChip
import VoxelCircuit.Proofs.Circuit.Compile

/-! # Limits on the depth of nesting

The limit on the depth comes into a compilation at one place only: a chip at the limit is
passed over, and a report says so. Compiling without such a report is therefore the same
with every higher limit (`VoxelCircuit.Circuit.compileAll_of_higher_limit`), whether it
succeeds or fails.
-/

namespace VoxelCircuit

namespace Compilation

variable {α β : Type}

/-- No chip was reported to be too deep inside other chips. -/
def WithinDepth (compilation : Compilation α) : Prop :=
  ∀ pos limit, .depthExceeded pos limit ∉ compilation.reports

private theorem WithinDepth.first {first : Compilation α} {next : α → Compilation β}
    (within : (first.andThen next).WithinDepth) : first.WithinDepth := by
  intro pos limit reported
  refine within pos limit ?_
  unfold andThen
  cases first.outcome with
  | ok value => exact List.mem_append_left _ reported
  | error error => exact reported

private theorem WithinDepth.next {first : Compilation α} {next : α → Compilation β}
    (within : (first.andThen next).WithinDepth) {value : α}
    (outcome : first.outcome = .ok value) : (next value).WithinDepth := by
  intro pos limit reported
  refine within pos limit ?_
  rw [andThen, outcome]
  exact List.mem_append_right _ reported

/-- Two sequences agree where their parts do as far as nothing is too deep. -/
theorem WithinDepth.andThen_eq {first firstAgain : Compilation α} {next again : α → Compilation β}
    (within : (first.andThen next).WithinDepth)
    (begins : first.WithinDepth → firstAgain = first)
    (goes : ∀ value, (next value).WithinDepth → again value = next value) :
    firstAgain.andThen again = first.andThen next := by
  rw [begins within.first]
  cases outcome : first.outcome with
  | error error => simp only [andThen, outcome]
  | ok value => simp only [andThen, outcome, goes value (within.next outcome)]

/-- Compiling each of a list in two ways agrees where the ways agree on each item that is
compiled with nothing too deep. -/
theorem WithinDepth.each_eq {compile again : α → Compilation β} {items : List α}
    (within : (each compile items).WithinDepth)
    (agree : ∀ item, (compile item).WithinDepth → again item = compile item) :
    each again items = each compile items := by
  induction items with
  | nil => rfl
  | cons item rest ih =>
      rw [each_cons] at within
      rw [each_cons, each_cons]
      refine within.andThen_eq (agree item) fun value later => ?_
      exact later.andThen_eq ih fun _ _ => rfl

end Compilation

namespace Circuit

variable {γ : Type}

/-- The grids inside chips that were compiled with nothing too deep in one way are compiled
to the same in another. -/
def Extends (deeper wider : Option (γ → Compilation (List (Circuit γ)))) : Prop :=
  ∀ compile, deeper = some compile → ∃ again, wider = some again ∧
    ∀ interior, (compile interior).WithinDepth → again interior = compile interior

variable [Grid γ] {options higher : CompileOptions}
  {deeper wider : Option (γ → Compilation (List (Circuit γ)))}

private theorem effectFor_of_extends (wide : Extends deeper wider) {grid : γ} {graph : NetGraph}
    {target : Target} (within : (effectFor options deeper grid graph target).WithinDepth) :
    effectFor higher wider grid graph target = effectFor options deeper grid graph target := by
  cases targetCase options deeper grid target with
  | net id => rfl
  | idle passive => rw [effectFor_idle passive, effectFor_idle passive]
  | plain there active notChip =>
      rw [effectFor_plain there active notChip, effectFor_plain there active notChip]
  | @skipped pos report chip skips =>
      rw [effectFor_skipped chip skips] at within ⊢
      cases skips with
      | hollow none => rw [effectFor_skipped chip (.hollow none)]
      | deep _ _ => exact (within.first pos options.maxEmbedDepth List.mem_cons_self).elim
  | @entered pos interior compile chip holds given =>
      obtain ⟨again, rfl, agree⟩ := wide compile given
      subst given
      rw [effectFor_entered chip holds] at within ⊢
      rw [effectFor_entered chip holds]
      refine within.andThen_eq (fun nested => ?_) fun _ _ => rfl
      rw [agree interior nested]

private theorem compileWith_of_extends (wide : Extends deeper wider)
    (traces : higher.recordTraceEdges = options.recordTraceEdges) {depth : Nat} {grid : γ}
    {circuit : Circuit γ} (within : (compileWith options deeper depth grid circuit).WithinDepth) :
    compileWith higher wider depth grid circuit =
      compileWith options deeper depth grid circuit := by
  unfold compileWith at within ⊢
  by_cases vacant : circuit.joined.isEmpty = true
  · rw [if_pos vacant, if_pos vacant]
  · rw [if_neg vacant] at within ⊢
    rw [if_neg vacant, traces]
    cases traced : Grid.trace grid circuit.members options.recordTraceEdges with
    | error conflict => rfl
    | ok graph =>
        simp only [traced] at within ⊢
        refine within.andThen_eq (fun effects => ?_) fun _ _ => rfl
        exact effects.each_eq fun target => effectFor_of_extends wide

/-- **A higher limit matters only where the limit was hit.** If compiling the circuits of a
grid at some depth reports no chip that exceeds the limit, then with a higher limit it comes
to the same result and reports: the circuits are equal, with their members, nets and effects,
or the error is. -/
theorem compileAll_of_higher_limit
    (traces : higher.recordTraceEdges = options.recordTraceEdges)
    (limits : options.maxEmbedDepth ≤ higher.maxEmbedDepth) (depth : Nat) (grid : γ)
    (within : (compileAll options depth grid).WithinDepth) :
    compileAll higher depth grid = compileAll options depth grid := by
  -- The limit is farther away from each level than from the levels inside its chips.
  induction left : options.maxEmbedDepth - depth generalizing depth grid with
  | zero =>
      rw [compileAll_eq] at within
      rw [compileAll_eq, compileAll_eq]
      refine within.each_eq fun members => compileWith_of_extends ?_ traces
      intro compile given
      rw [if_neg (by omega)] at given
      cases given
  | succ levels ih =>
      rw [compileAll_eq] at within
      rw [compileAll_eq, compileAll_eq]
      refine within.each_eq fun members => compileWith_of_extends ?_ traces
      intro compile given
      rw [if_pos (by omega)] at given
      cases given
      refine ⟨compileAll higher (depth + 1), if_pos (by omega), fun interior nested => ?_⟩
      exact ih (depth + 1) interior nested (by omega)

/-- A pad and a chip output inside a chip inside a chip. -/
def stackedChips : VoxelGrid (World EndlessChip) :=
  let pads := .voxel ⟨⟨Layout.standardTypes⟩, .clamped 2 1 1,
    #[⟨⟨2⟩, .identity, 5⟩, ⟨⟨12⟩, .identity, 0⟩], rfl⟩
  let chip := .voxel ⟨⟨[⟨⟨30⟩, "chip", some .chip, some pads⟩]⟩, .clamped 1 1 1,
    #[⟨⟨30⟩, .identity, 4⟩], rfl⟩
  ⟨⟨[⟨⟨30⟩, "chip", some .chip, some chip⟩]⟩, .clamped 1 1 1, #[⟨⟨30⟩, .identity, 4⟩], rfl⟩

/-- A limit of two suffices for a chip inside a chip. -/
theorem stackedChips_of_higher_limit :
    (compileAll { maxEmbedDepth := 2 } 0 (World.voxel stackedChips)).reports =
        [.compiled 2 2 1 3, .compiled 1 1 0 1, .compiled 0 1 0 1] ∧
      compileAll { maxEmbedDepth := 8 } 0 (World.voxel stackedChips) =
        compileAll { maxEmbedDepth := 2 } 0 (World.voxel stackedChips) := by
  have reports : (compileAll { maxEmbedDepth := 2 } 0 (World.voxel stackedChips)).reports =
      [.compiled 2 2 1 3, .compiled 1 1 0 1, .compiled 0 1 0 1] := by
    decide +kernel
  have within : (compileAll { maxEmbedDepth := 2 } 0 (World.voxel stackedChips)).WithinDepth := by
    intro pos limit reported
    rw [reports] at reported
    simp at reported
  have traces : ({ maxEmbedDepth := 8 } : CompileOptions).recordTraceEdges =
      ({ maxEmbedDepth := 2 } : CompileOptions).recordTraceEdges := rfl
  have limits : ({ maxEmbedDepth := 2 } : CompileOptions).maxEmbedDepth ≤
      ({ maxEmbedDepth := 8 } : CompileOptions).maxEmbedDepth := by decide
  exact ⟨reports, compileAll_of_higher_limit traces limits 0 _ within⟩

end Circuit

end VoxelCircuit

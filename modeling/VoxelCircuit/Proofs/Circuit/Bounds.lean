import VoxelCircuit.Layout.EndlessChip
import VoxelCircuit.Proofs.Circuit.Compile
import VoxelCircuit.Proofs.Space.Hull

/-! # The bounds of a circuit

A circuit can keep the box around its members and grow it by each block that joins, in place of
going through its members. Blocks that are members already leave the box alone, and so do
compilations and refreshes; so the box stays the least one with all members in it, in whatever
order they join (`VoxelCircuit.BoxedCircuit.boxes_scanned_and_tight`).
-/

namespace VoxelCircuit

variable {γ : Type}

/-- What can change a circuit. -/
inductive CircuitCall (γ : Type) where
  /-- Let a block join. -/
  | join (pos : Pos)
  /-- Compile the circuit for a grid at a depth. -/
  | compile (options : CompileOptions) (depth : Nat) (grid : γ)
  /-- Refresh the circuit on a grid. -/
  | refresh (grid : γ)

/-- The circuit after a call. A compilation that fails leaves it as it is. -/
def Circuit.perform [EditableGrid γ] (circuit : Circuit γ) : CircuitCall γ → Circuit γ
  | .join pos => circuit.addMember pos
  | .compile options depth grid =>
    match (circuit.compile options depth grid).outcome with
    | .ok compiled => compiled
    | .error _ => circuit
  | .refresh grid => (circuit.refresh grid).circuit

/-- A circuit with the box around its members. -/
structure BoxedCircuit (γ : Type) where
  /-- The circuit. -/
  circuit : Circuit γ
  /-- The box around the members, if there are any. -/
  box : Option Box

namespace BoxedCircuit

/-- The circuit without members. -/
def empty : BoxedCircuit γ := ⟨.empty, none⟩

/-- The circuit after a call, with its box. The box grows when a block joins that is no member
yet. -/
def perform [EditableGrid γ] (boxed : BoxedCircuit γ) (call : CircuitCall γ) :
    BoxedCircuit γ where
  circuit := boxed.circuit.perform call
  box :=
    match call with
    | .join pos =>
      if boxed.circuit.contains pos then boxed.box
      else some (boxed.box.elim (.single pos) (·.extend pos))
    | .compile .. | .refresh .. => boxed.box

end BoxedCircuit

namespace Circuit

variable [EditableGrid γ]

private theorem members_perform_compile (circuit : Circuit γ) (options : CompileOptions)
    (depth : Nat) (grid : γ) :
    (circuit.perform (.compile options depth grid)).members = circuit.members := by
  rw [perform]
  cases compiled : (circuit.compile options depth grid).outcome with
  | ok after => exact (compile_ok compiled).1
  | error _ => rfl

/-- The members of a circuit are the blocks that have joined it. -/
theorem mem_foldl_perform {calls : List (CircuitCall γ)} {circuit : Circuit γ} {pos : Pos} :
    pos ∈ (calls.foldl perform circuit).members ↔ pos ∈ circuit.members ∨ .join pos ∈ calls := by
  induction calls generalizing circuit with
  | nil => simp
  | cons first rest ih =>
      rw [List.foldl_cons, ih]
      cases first with
      | join other => simp [perform, mem_addMember, or_assoc]
      | compile options depth grid => simp [members_perform_compile]
      | refresh grid => simp [perform, refresh, members]

end Circuit

namespace BoxedCircuit

variable [EditableGrid γ] {boxed : BoxedCircuit γ}

/-- A box that is the bounds of the circuit is so after each call. -/
theorem box_perform (agree : boxed.box = boxed.circuit.bounds) (call : CircuitCall γ) :
    (boxed.perform call).box = (boxed.perform call).circuit.bounds := by
  cases call with
  | join pos =>
      simp only [perform, Circuit.perform, Circuit.bounds, Circuit.members_addMember, agree]
      split
      · rfl
      · rw [Box.hull?_concat]
  | compile options depth grid =>
      simp only [perform, Circuit.bounds, Circuit.members_perform_compile, agree]
  | refresh grid => exact agree

private theorem foldl_perform (agree : boxed.box = boxed.circuit.bounds)
    (calls : List (CircuitCall γ)) :
    (calls.foldl perform boxed).circuit = calls.foldl Circuit.perform boxed.circuit ∧
      (calls.foldl perform boxed).box = (calls.foldl Circuit.perform boxed.circuit).bounds := by
  induction calls generalizing boxed with
  | nil => exact ⟨rfl, agree⟩
  | cons first rest ih => exact ih (box_perform agree first)

/-- **Boxes are scanned in order and grown to hulls.** A scan of a box comes to exactly the cells
in it, each once and in scan order, as ranges one in another do. Growing a box from one cell by
others comes to the least box with all of them in it, and stays within words of thirty-two bits
if the cells, and those just past them, do. So whatever is done with a circuit, the box that it
grows is its bounds: the least box with all blocks in it that have joined, and none before the
first. Joined in another order, or more than once, they make the same box. -/
theorem boxes_scanned_and_tight (calls : List (CircuitCall γ)) :
    (∀ box : Box, box.positions = box.ranges ∧ box.positions.Pairwise Pos.Precedes ∧
      box.positions.Nodup ∧ ∀ pos, pos ∈ box.positions ↔ pos ∈ box) ∧
    (∀ (first : Pos) (rest : List Pos),
      let box := rest.foldl Box.extend (.single first)
      IsLeast (Box.holding (first :: rest)) box ∧
        ((∀ pos ∈ first :: rest, pos.Fits ∧ (Box.single pos).high.Fits) →
          box.low.Fits ∧ box.high.Fits)) ∧
    let circuit := calls.foldl Circuit.perform .empty
    let boxed := calls.foldl perform empty
    (boxed.circuit = circuit ∧ boxed.box = circuit.bounds) ∧
    (∀ pos, pos ∈ circuit.members ↔ .join pos ∈ calls) ∧
    (∀ box, circuit.bounds = some box ↔ IsLeast (Box.holding circuit.members) box) ∧
    (circuit.bounds = none ↔ circuit.members = []) ∧
    ∀ others : List (CircuitCall γ), (∀ pos, .join pos ∈ others ↔ .join pos ∈ calls) →
      (others.foldl Circuit.perform .empty).bounds = circuit.bounds ∧
        (others.foldl perform empty).box = boxed.box := by
  have joined : ∀ {calls : List (CircuitCall γ)} {pos : Pos},
      pos ∈ (calls.foldl Circuit.perform .empty).members ↔ .join pos ∈ calls := by
    intro calls pos
    rw [Circuit.mem_foldl_perform, Circuit.empty, Circuit.members, Table.keys_empty]
    exact or_iff_right List.not_mem_nil
  have grown : ∀ calls : List (CircuitCall γ),
      (calls.foldl perform empty).circuit = calls.foldl Circuit.perform .empty ∧
        (calls.foldl perform empty).box = (calls.foldl Circuit.perform .empty).bounds :=
    foldl_perform rfl
  refine ⟨fun box => ?_, fun first rest => ⟨Box.isLeast_foldl_extend first rest, fun fit => ?_⟩, ?_⟩
  · exact ⟨box.positions_eq_ranges, box.positions_pairwise,
      Pos.nodup_of_pairwise_precedes box.positions_pairwise, fun _ => Box.mem_positions⟩
  · obtain ⟨⟨own, after⟩, others⟩ := List.forall_mem_cons.mp fit
    exact ((Box.Made.single own after).foldl_extend others).fits
  · intro circuit boxed
    refine ⟨grown calls, fun pos => joined, fun box => Box.hull?_eq_some_iff,
      Box.hull?_eq_none_iff, fun others same => ?_⟩
    -- The hull of the members does not depend on their order, and the box grown is this hull.
    have bounds : (others.foldl Circuit.perform .empty).bounds = circuit.bounds :=
      Box.hull?_congr fun pos => joined.trans ((same pos).trans joined.symm)
    exact ⟨bounds, (grown others).2.trans (bounds.trans (grown calls).2.symm)⟩

/-- Two blocks far from each other join, and one of them joins again after a refresh. -/
def farBlocks : List (CircuitCall EndlessChip) :=
  [.join ⟨2147483646, -1, 0⟩, .join ⟨-2147483648, 0, 1⟩, .refresh .grid,
    .join ⟨2147483646, -1, 0⟩]

/-- Two blocks make the same box when they join the other way round. -/
theorem farBlocks_tight :
    let box := Box.ofCorners? ⟨-2147483648, -1, 0⟩ ⟨2147483647, 1, 2⟩
    (farBlocks.foldl perform empty).box = box ∧
      ([.join ⟨-2147483648, 0, 1⟩, .compile {} 0 .grid, .join ⟨2147483646, -1, 0⟩].foldl
        perform (empty : BoxedCircuit EndlessChip)).box = box := by
  intro box
  obtain ⟨_, _, _, _, _, _, order⟩ := boxes_scanned_and_tight farBlocks
  have shown : (farBlocks.foldl perform empty).box = box := by decide +kernel
  refine ⟨shown, (order _ fun pos => ?_).2.trans shown⟩
  simp [farBlocks, or_comm]

end BoxedCircuit

end VoxelCircuit

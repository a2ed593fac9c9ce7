import Mathlib.Data.List.Basic
import VoxelCircuit.Engine.CircuitSet

/-! # Refreshing circuits one by one

The circuits of a set can be refreshed one at a time, each through one of its blocks.
Refreshes replace nothing but snapshots, so blocks remain in the circuits they are in. To
refresh all circuits at once is to refresh them one by one in the order of their
compilation (`VoxelCircuit.CircuitSet.refreshAll_eq`).
-/

namespace VoxelCircuit

/-- What is made by changing an answer is the change of an answer. -/
theorem exists_of_map_ok {ε α β : Type} {change : α → β} {outcome : Except ε α} {changed : β}
    (made : outcome.map change = .ok changed) :
    ∃ answer, outcome = .ok answer ∧ change answer = changed := by
  cases outcome with
  | error error => cases made
  | ok answer => exact ⟨answer, rfl, Except.ok.inj made⟩

/-- The circuit without what its last refresh left. -/
def Circuit.unrefreshed {γ : Type} (circuit : Circuit γ) : Circuit γ :=
  { circuit with snapshot := .empty }

namespace CircuitSet

variable {γ : Type} {set other : CircuitSet γ} {pos : Pos} {place : Nat}

/-- Two sets have the same circuits, whatever the last refreshes left. -/
def SameCircuits (set other : CircuitSet γ) : Prop :=
  set.circuits.map Circuit.unrefreshed = other.circuits.map Circuit.unrefreshed

/-- The place of the circuit that a block is a member of. -/
def place? (set : CircuitSet γ) (pos : Pos) : Option Nat :=
  set.circuits.findIdx? fun circuit => circuit.contains pos

/-- The circuit of a block is the one in its place. -/
theorem circuitAt?_eq (set : CircuitSet γ) (pos : Pos) :
    set.circuitAt? pos = (set.place? pos).bind (set.circuits[·]?) :=
  List.find?_eq_bind_findIdx?_getElem?

/-- An order has one block of each circuit, and no other block. -/
def VisitsEach (set : CircuitSet γ) (order : List Pos) : Prop :=
  (order.map set.place?).Perm ((List.range set.size).map some)

/-- An order has one block of each circuit, in the order of the circuits. -/
def VisitsInTurn (set : CircuitSet γ) (order : List Pos) : Prop :=
  order.map set.place? = (List.range set.size).map some

/-- An order of one block of each circuit in turn has one block of each. -/
theorem VisitsInTurn.visitsEach {order : List Pos} (inTurn : set.VisitsInTurn order) :
    set.VisitsEach order :=
  .of_eq inTurn

/-- An order with one block of each circuit has blocks of all places, one of each. -/
theorem VisitsEach.exists_places {order : List Pos} (visits : set.VisitsEach order) :
    ∃ places : List Nat, places.Perm (List.range set.size) ∧
      order.map set.place? = places.map some := by
  have found : ∀ pos ∈ order, set.place? pos = some ((set.place? pos).getD 0) := by
    intro pos listed
    obtain ⟨place, _, same⟩ :=
      List.mem_map.mp (visits.mem_iff.mp (List.mem_map_of_mem (f := set.place?) listed))
    rw [← same, Option.getD_some]
  have read := List.filterMap_eq_map_iff_forall_eq_some.mpr found
  refine ⟨order.filterMap set.place?, ?_, ?_⟩
  · have places := visits.filterMap id
    rwa [List.filterMap_map, List.filterMap_map, Function.id_comp, Function.id_comp,
      List.filterMap_some] at places
  · rw [read, List.map_map]
    exact List.map_congr_left found

/-- Sets of the same circuits have each block in the same place. -/
theorem SameCircuits.place?_eq (same : set.SameCircuits other) (pos : Pos) :
    set.place? pos = other.place? pos := by
  have read : ∀ set : CircuitSet γ, set.place? pos =
      (set.circuits.map Circuit.unrefreshed).findIdx? fun circuit => circuit.contains pos := by
    intro set
    rw [List.findIdx?_map]
    rfl
  rw [read, read, same]

variable [EditableGrid γ] {grid : γ} {circuits : List (Circuit γ)}

/-- Refresh the circuits of some blocks one after another, up to the first with an edit that
is refused. -/
def refreshInOrder : CircuitSet γ → γ → List Pos → Refreshed γ (List (Option (List Edit)))
  | set, grid, [] => ⟨set, grid, .ok []⟩
  | set, grid, pos :: rest =>
    let here := set.refreshAt grid pos
    match here.outcome with
    | .error error => ⟨here.set, here.grid, .error error⟩
    | .ok answer =>
      let later := refreshInOrder here.set here.grid rest
      ⟨later.set, later.grid, later.outcome.map (answer :: ·)⟩

/-- Refreshing the first circuit with a block refreshes the one in its place. -/
theorem refreshFirst_eq
    (found : (circuits.findIdx? fun circuit => circuit.contains pos) = some place)
    {circuit : Circuit γ} (there : circuits[place]? = some circuit) (grid : γ) :
    refreshFirst grid pos circuits = (circuits.set place (circuit.refresh grid).circuit,
      (circuit.refresh grid).grid, (circuit.refresh grid).outcome.map some) := by
  induction circuits generalizing place with
  | nil => cases there
  | cons first rest ih =>
      rw [List.findIdx?_cons] at found
      rw [refreshFirst]
      by_cases here : first.contains pos = true
      · rw [if_pos here] at found ⊢
        cases found
        cases there
        rfl
      · rw [if_neg here] at found ⊢
        obtain ⟨later, among, rfl⟩ := Option.map_eq_some_iff.mp found
        rw [ih among there]
        rfl

/-- Refreshing the circuit of a block leaves all circuits in their places. -/
theorem refreshAt_sameCircuits (set : CircuitSet γ) (grid : γ) (pos : Pos) :
    (set.refreshAt grid pos).set.SameCircuits set := by
  have kept : ∀ circuits : List (Circuit γ),
      (refreshFirst grid pos circuits).1.map Circuit.unrefreshed =
        circuits.map Circuit.unrefreshed := by
    intro circuits
    induction circuits with
    | nil => rfl
    | cons first rest ih =>
        rw [refreshFirst]
        by_cases here : first.contains pos = true
        · rw [if_pos here]
          rfl
        · rw [if_neg here]
          exact congrArg (first.unrefreshed :: ·) ih
  exact kept set.circuits

/-- Refreshing all circuits leaves them in their places. -/
theorem refreshAll_sameCircuits (set : CircuitSet γ) (grid : γ) :
    (set.refreshAll grid).set.SameCircuits set := by
  have kept : ∀ (circuits : List (Circuit γ)) (grid : γ),
      (refreshEach grid circuits).1.map Circuit.unrefreshed =
        circuits.map Circuit.unrefreshed := by
    intro circuits
    induction circuits with
    | nil => exact fun _ => rfl
    | cons first rest ih =>
        intro grid
        have here : (first.refresh grid).circuit.unrefreshed = first.unrefreshed := rfl
        rw [refreshEach, List.map_cons, ← here]
        obtain ⟨again, after, error | edits⟩ := first.refresh grid
        · rfl
        · exact congrArg (again.unrefreshed :: ·) (ih after)
  exact kept set.circuits grid

/-- The edits of circuits refreshed one by one. -/
def editsOf (answers : List (Option (List Edit))) : List Edit :=
  answers.flatMap fun answer => answer.getD []

private theorem map_editsOf_cons (edits : List Edit)
    (outcome : Except GridError (List (Option (List Edit)))) :
    (outcome.map (some edits :: ·)).map editsOf = (outcome.map editsOf).map (edits ++ ·) := by
  cases outcome <;> rfl

/-- Circuits at the end of a set are refreshed in turn, through one block each. -/
theorem refreshInOrder_eq_refreshEach (before circuits : List (Circuit γ)) (generation : Nat)
    (grid : γ) {order : List Pos} (inTurn : order.map (place? ⟨before ++ circuits, generation⟩) =
      (List.range' before.length circuits.length).map some) :
    let refreshed := refreshInOrder ⟨before ++ circuits, generation⟩ grid order
    refreshed.set = ⟨before ++ (refreshEach grid circuits).1, generation⟩ ∧
      refreshed.grid = (refreshEach grid circuits).2.1 ∧
        refreshed.outcome.map editsOf = (refreshEach grid circuits).2.2 := by
  induction circuits generalizing before grid order with
  | nil =>
      obtain rfl := List.map_eq_nil_iff.mp inTurn
      exact ⟨rfl, rfl, rfl⟩
  | cons circuit rest ih =>
      rw [List.length_cons, List.range'_succ] at inTurn
      obtain ⟨pos, others, rfl, found, inTurn⟩ := List.map_eq_cons_iff.mp inTurn
      have there : (before ++ circuit :: rest)[before.length]? = some circuit := by simp
      have here : refreshAt ⟨before ++ circuit :: rest, generation⟩ grid pos =
          ⟨⟨before ++ (circuit.refresh grid).circuit :: rest, generation⟩,
            (circuit.refresh grid).grid, (circuit.refresh grid).outcome.map some⟩ := by
        simp [refreshAt, refreshFirst_eq found there]
      -- The circuits after this one are found through their blocks as before.
      have onward := refreshAt_sameCircuits ⟨before ++ circuit :: rest, generation⟩ grid pos
      rw [here] at onward
      rw [← funext onward.place?_eq] at inTurn
      rw [refreshInOrder, here, refreshEach]
      generalize circuit.refresh grid = refresh at inTurn ⊢
      obtain ⟨again, after, error | edits⟩ := refresh
      · exact ⟨rfl, rfl, rfl⟩
      · have visits : others.map (place? ⟨before ++ [again] ++ rest, generation⟩) =
            (List.range' (before ++ [again]).length rest.length).map some := by
          simpa using inTurn
        have later := ih (before ++ [again]) after visits
        rw [List.append_assoc, List.append_assoc] at later
        obtain ⟨circuits, grid, outcome⟩ := later
        exact ⟨circuits, grid,
          (map_editsOf_cons ..).trans (congrArg (Except.map (edits ++ ·)) outcome)⟩

/-- **To refresh all circuits is to refresh them one by one in turn.** -/
theorem refreshAll_eq (set : CircuitSet γ) (grid : γ) {order : List Pos}
    (inTurn : set.VisitsInTurn order) :
    set.refreshAll grid = ⟨(set.refreshInOrder grid order).set,
      (set.refreshInOrder grid order).grid,
        (set.refreshInOrder grid order).outcome.map editsOf⟩ := by
  rw [VisitsInTurn, size, List.range_eq_range'] at inTurn
  obtain ⟨circuits, after, outcome⟩ :=
    refreshInOrder_eq_refreshEach [] set.circuits set.generation grid inTurn
  exact (Refreshed.mk.injEq ..).mpr ⟨circuits.symm, after.symm, outcome.symm⟩

end CircuitSet

end VoxelCircuit

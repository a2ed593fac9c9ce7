import VoxelCircuit.Circuit.Demand
import VoxelCircuit.Proofs.Net.Shift

/-! # Demand in shifted grids

A depth-first search does not depend on what its targets are called. So in a shifted grid the
targets of a circuit are demanded in the order of the circuit, each shifted
(`VoxelCircuit.Grid.Shifted.demandOrder`).
-/

namespace VoxelCircuit

namespace Search

open Function

variable {α : Type} [Ord α] [Std.TransOrd α] {rename : α → α}
  {demands others : α → List α} {first second : Search α}

/-- One search is another with its targets renamed. -/
structure Renamed (rename : α → α) (first second : Search α) : Prop where
  seen : ∀ target, second.seen.contains (rename target) = first.seen.contains target
  left : second.left = first.left.map rename

private theorem Renamed.foldl {visit other : Search α → α → Search α} (targets : List α)
    (visits : ∀ {first second : Search α}, Renamed rename first second → ∀ target,
      Renamed rename (visit first target) (other second (rename target)))
    (renamed : Renamed rename first second) :
    Renamed rename (targets.foldl visit first) ((targets.map rename).foldl other second) := by
  induction targets generalizing first second with
  | nil => exact renamed
  | cons target rest ih => exact ih (visits renamed target)

variable [Std.LawfulEqOrd α]

/-- A visit of a renamed target is the visit renamed. -/
theorem Renamed.visit (injective : Injective rename)
    (same : ∀ target, others (rename target) = (demands target).map rename) (depth : Nat)
    (renamed : Renamed rename first second) (target : α) :
    Renamed rename (Search.visit demands depth first target)
      (Search.visit others depth second (rename target)) := by
  induction depth generalizing first second target with
  | zero => exact renamed
  | succ depth ih =>
      simp only [Search.visit, renamed.seen]
      by_cases old : first.seen.contains target = true
      · simp only [old, if_true]
        exact renamed
      · simp only [old, Bool.false_eq_true, if_false, same]
        have entered : Renamed rename { first with seen := first.seen.insert target }
            { second with seen := second.seen.insert (rename target) } := by
          refine ⟨fun other => ?_, renamed.left⟩
          rw [Bool.eq_iff_iff]
          simp only [Std.ExtTreeSet.contains_insert, renamed.seen, Bool.or_eq_true, beq_iff_eq,
            Std.compare_eq_iff_eq, injective.eq_iff]
        have after := entered.foldl (demands target) fun renamed target => ih renamed target
        exact ⟨after.seen, by simp only [after.left, List.map_cons]⟩

private theorem leavingOrder_renamed (injective : Injective rename)
    (same : ∀ target, others (rename target) = (demands target).map rename) (depth : Nat)
    (roots : List α) :
    leavingOrder others depth (roots.map rename) =
      (leavingOrder demands depth roots).map rename := by
  have start : Renamed rename (empty : Search α) empty := ⟨fun _ => by simp [empty], rfl⟩
  have last := start.foldl roots fun renamed target => renamed.visit injective same depth target
  rw [leavingOrder, leavingOrder, last.left, List.map_reverse]

end Search

/-- The target that a shift takes a target to. -/
def Target.shift (offset : Pos) : Target → Target
  | .block pos => .block (offset.shift pos)
  | .net id => .net id

private theorem Target.shift_injective (offset : Pos) : Function.Injective (shift offset) := by
  intro first second same
  cases first <;> cases second <;> simp_all [shift]

namespace NetGraph

variable (offset : Pos) (graph : NetGraph)

/-- A shifted face is on the net that the face is on. -/
@[simp] theorem netAt_shift (face : Face) :
    (graph.shift offset).netAt (face.shift offset) = graph.netAt face := by
  rw [netAt, shift, Table.get?_map (Face.shift_injective offset), Option.map_id, id, netAt]

/-- A shifted graph has the shifted nets under the same names. -/
@[simp] theorem net?_shift (net : NetId) :
    (graph.shift offset).net? net = (graph.net? net).map (Net.shift offset) :=
  Table.get?_map Function.injective_id (Net.shift offset) graph.byId net

/-- The nets of a shifted graph are the shifted nets. -/
@[simp] theorem nets_shift : (graph.shift offset).nets = graph.nets.map (Net.shift offset) :=
  Table.values_map Function.injective_id (Net.shift offset) graph.byId

/-- A shifted graph has the same names of nets. -/
@[simp] theorem ids_shift : (graph.shift offset).ids = graph.ids := by
  rw [ids, shift, Table.keys_map Function.injective_id, List.map_id, ids]

/-- A shifted graph has as many nets. -/
@[simp] theorem size_shift : (graph.shift offset).size = graph.size :=
  Table.size_map Function.injective_id (Net.shift offset) graph.byId

end NetGraph

/-- The drivers of a shifted net are the shifted drivers. -/
theorem Net.drivers_shift (offset : Pos) (net : Net) :
    (net.shift offset).drivers = net.drivers.map (Face.shift offset) := by
  simp only [drivers, shift, List.filter_map, List.map_map]
  rfl

namespace Grid.Shifted

variable {γ : Type} [Grid γ] {offset : Pos} {first second : γ} {graph : NetGraph}

/-- A shifted block has the inputs that the block has. -/
theorem inputsAt (shifted : Shifted offset first second) (pos : Pos) :
    Grid.inputsAt second (graph.shift offset) (offset.shift pos) =
      Grid.inputsAt first graph pos := by
  have attached : ∀ direction, (graph.shift offset).netAt ⟨offset.shift pos, direction⟩ =
      graph.netAt ⟨pos, direction⟩ := fun direction => graph.netAt_shift offset ⟨pos, direction⟩
  simp only [Grid.inputsAt, shifted.behavior, shifted.orientation, attached]

private theorem demands (shifted : Shifted offset first second) (target : Target) :
    Grid.demands second (graph.shift offset) (target.shift offset) =
      (Grid.demands first graph target).map (Target.shift offset) := by
  cases target with
  | block pos =>
      simp only [Target.shift, Grid.demands, shifted.inputsAt, List.map_map]
      rfl
  | net net =>
      simp only [Target.shift, Grid.demands, NetGraph.net?_shift]
      cases graph.net? net with
      | none => rfl
      | some found =>
          simp only [Option.map_some, Net.drivers_shift, List.map_map]
          rfl

private theorem demandDepth (offset : Pos) (graph : NetGraph) (members : List Pos) :
    Grid.demandDepth (graph.shift offset) (members.map offset.shift) =
      Grid.demandDepth graph members := by
  have attached : ((graph.nets.map (Net.shift offset)).flatMap Net.members).length =
      (graph.nets.flatMap Net.members).length := by
    simp only [List.flatMap_map, List.length_flatMap, Net.shift, List.length_map]
  simp only [Grid.demandDepth, NetGraph.nets_shift, List.length_map, attached]

/-- Targets are demanded in their order, shifted. -/
theorem demandOrder (shifted : Shifted offset first second) (graph : NetGraph)
    (members : List Pos) :
    Grid.demandOrder second (graph.shift offset) (members.map offset.shift) =
      (Grid.demandOrder first graph members).map (Target.shift offset) := by
  have roots : (members.map offset.shift).map Target.block ++
      (graph.shift offset).ids.map Target.net =
        (members.map Target.block ++ graph.ids.map Target.net).map (Target.shift offset) := by
    simp only [NetGraph.ids_shift, List.map_append, List.map_map]
    rfl
  rw [Grid.demandOrder, Grid.demandOrder, roots, demandDepth]
  exact Search.leavingOrder_renamed (Target.shift_injective offset) shifted.demands _ _

end Grid.Shifted

end VoxelCircuit

import VoxelCircuit.Circuit.Effect
import VoxelCircuit.Net.Run
import Std.Data.ExtTreeSet

/-! # Demand order

The effects of a circuit run in the order in which their targets are demanded: a
block after the nets that it reads, a net after the blocks that drive it. This is
the order in which a depth-first search of these demands leaves its targets. Where
the demands run in a circle, the search takes no notice of a target that it has
entered already, and so the target that was entered first comes last.
-/

namespace VoxelCircuit

/-- The progress of a depth-first search. -/
structure Search (α : Type) [Ord α] [Std.TransOrd α] where
  /-- What was entered so far. -/
  seen : Std.ExtTreeSet α
  /-- What was left so far, the latest first. -/
  left : List α

namespace Search

variable {α : Type} [Ord α] [Std.TransOrd α]

/-- The search before it begins. -/
def empty : Search α := ⟨∅, []⟩

/-- Visit a target: enter it unless that was done before, visit what it demands in
order, and leave it. The depth bounds how far demands are followed. -/
def visit (demands : α → List α) : (depth : Nat) → Search α → α → Search α
  | 0, search, _ => search
  | depth + 1, search, target =>
    if search.seen.contains target then search
    else
      let after := (demands target).foldl (visit demands depth)
        { search with seen := search.seen.insert target }
      { after with left := target :: after.left }

/-- The targets that a search from some roots in order reaches, in the order of
leaving them. -/
def leavingOrder (demands : α → List α) (depth : Nat) (roots : List α) : List α :=
  (roots.foldl (visit demands depth) empty).left.reverse

end Search

namespace Grid

variable {γ : Type} [Grid γ]

/-- The nets at the reading faces of a block, by the faces it would have unturned. -/
def inputsAt (grid : γ) (graph : NetGraph) (pos : Pos) : Inputs :=
  .tabulate fun direction =>
    match behavior grid pos with
    | some behavior =>
      if (behavior.role direction).reads then
        graph.netAt ⟨pos, (orientation grid pos).transform direction⟩
      else none
    | none => none

/-- What a target demands: a block the nets that it reads, in the order of its
unturned faces, and a net the blocks that drive it, in the order of attachment. -/
def demands (grid : γ) (graph : NetGraph) : Target → List Target
  | .block pos => (Direction.all.filterMap (inputsAt grid graph pos).get).map .net
  | .net id =>
    match graph.net? id with
    | some net => net.drivers.map fun face => .block face.pos
    | none => []

/-- A depth that no chain of demands of different targets exceeds: one more than
the number of targets. -/
def demandDepth (graph : NetGraph) (members : List Pos) : Nat :=
  members.length + graph.nets.length + (graph.nets.flatMap Net.members).length + 1

/-- The order in which the members of a circuit and its nets are demanded: first
each member in turn, then each net. -/
def demandOrder (grid : γ) (graph : NetGraph) (members : List Pos) : List Target :=
  Search.leavingOrder (demands grid graph) (demandDepth graph members)
    (members.map .block ++ graph.ids.map .net)

end Grid

end VoxelCircuit

import VoxelCircuit.Proofs.Circuit.Equations
import VoxelCircuit.Proofs.Circuit.Interior

/-! # Circuits without feedback

A block feeds another that reads a net which it drives. Where no chain of blocks, each feeding
the next, returns to its start, no net depends on itself, and what holds of a block as soon as
it holds of all that feed it holds of every block
(`VoxelCircuit.Grid.WithoutFeedback.wellFounded`). At the end of an evaluation each net carries
what its drivers drive, and each block has responded to the nets that it reads
(`VoxelCircuit.Circuit.Compiled.settled`).
-/

namespace VoxelCircuit

open Relation

namespace Grid

variable {γ : Type} [Grid γ]

/-- No chain of blocks, each feeding the next, returns to its start. -/
def WithoutFeedback (grid : γ) (graph : NetGraph) : Prop :=
  ∀ pos, ¬TransGen (Feeds grid graph) pos pos

variable {grid : γ} {graph : NetGraph}

/-- A rank that rises from each block to those that it feeds rules out feedback. -/
theorem withoutFeedback_of_rank (rank : Pos → Nat)
    (rises : ∀ source pos, Feeds grid graph source pos → rank source < rank pos) :
    WithoutFeedback grid graph := by
  have rising : ∀ {source pos}, TransGen (Feeds grid graph) source pos →
      rank source < rank pos := by
    intro source pos chain
    induction chain with
    | single feeds => exact rises _ _ feeds
    | tail _ feeds ih => exact ih.trans (rises _ _ feeds)
  exact fun pos chain => Nat.lt_irrefl _ (rising chain)

/-- It is enough to look at the attached faces. -/
theorem withoutFeedback_of_attachments (rank : Pos → Nat)
    (ranked : ∀ driver ∈ graph.attachments.entries, ∀ reader ∈ graph.attachments.entries,
      driver.2 = reader.2 → (roleAt grid driver.1).drives = true →
        (roleAt grid reader.1).reads = true → rank driver.1.pos < rank reader.1.pos) :
    WithoutFeedback grid graph := by
  apply withoutFeedback_of_rank rank
  rintro source pos ⟨net, ⟨driving, driven, drives⟩, reading, read, reads⟩
  exact ranked (⟨source, driving⟩, net) (Table.mem_entries.mpr driven) (⟨pos, reading⟩, net)
    (Table.mem_entries.mpr read) rfl drives reads

/-- Nets that depend on each other have a chain of blocks between them. -/
theorem feeds_of_dependsOn {net source : NetId}
    (path : TransGen (DependsOn grid graph) net source) :
    ∃ first last, Reads grid graph first source ∧ ReflTransGen (Feeds grid graph) first last ∧
      Drives grid graph last net := by
  induction path with
  | single depends =>
      obtain ⟨pos, drives, reads, _⟩ := depends
      exact ⟨pos, pos, reads, .refl, drives⟩
  | tail _ depends ih =>
      obtain ⟨first, last, reads, chain, drives⟩ := ih
      obtain ⟨pos, feeding, farther, _⟩ := depends
      exact ⟨pos, last, farther, .head ⟨_, feeding, reads⟩ chain, drives⟩

namespace WithoutFeedback

/-- Where no block feeds itself, no net depends on itself. -/
theorem acyclic (without : WithoutFeedback grid graph) : Acyclic grid graph := by
  intro net path
  obtain ⟨first, last, reads, chain, drives⟩ := feeds_of_dependsOn path
  exact without first (.tail' chain ⟨net, drives, reads⟩)

/-- Following the blocks that feed a block comes to an end. -/
theorem wellFounded (without : WithoutFeedback grid graph) (graphOf : GraphOf grid graph) :
    WellFounded (Feeds grid graph) := by
  have demanded := demandOrder_demanded graphOf []
  -- The induction is on what comes before a block in the order of demand.
  have listed : ∀ (count : Nat) (earlier later : List Target) (pos : Pos),
      earlier.length < count → demandOrder grid graph [] = earlier ++ .block pos :: later →
        Acc (Feeds grid graph) pos := by
    intro count
    induction count with
    | zero => exact fun _ _ _ none => absurd none (Nat.not_lt_zero _)
    | succ count ih =>
        intro earlier later pos short order
        refine ⟨pos, fun source feeds => ?_⟩
        obtain ⟨net, drives, reads⟩ := feeds
        obtain ⟨sooner, between, rfl⟩ := List.append_of_mem
          (reads_before_of_not_fed graphOf (without pos) demanded order reads)
        rw [List.append_assoc, List.cons_append] at order
        obtain ⟨first, middle, rfl⟩ := List.append_of_mem
          (driver_before_of_not_fed graphOf (without source) demanded order drives)
        refine ih first _ source ?_ (by rw [order, List.append_assoc, List.cons_append])
        simp only [List.length_append, List.length_cons] at short
        omega
  refine ⟨fun pos => ⟨pos, fun source feeds => ?_⟩⟩
  obtain ⟨net, drives, _⟩ := feeds
  obtain ⟨earlier, later, order⟩ := List.append_of_mem (demanded.driver source net drives)
  exact listed _ earlier later source (Nat.lt_succ_self _) order

end WithoutFeedback

end Grid

namespace Circuit

variable {γ : Type} [Grid γ] {grid : γ} {circuit : Circuit γ} {start : EvalState γ}
  {recordEdges : Bool}

/-- An effect of a block saw the signals that an evaluation ends with, and what it added to
its state is found there. -/
structure Settled (grid : γ) (circuit : Circuit γ) (start now : EvalState γ) (pos : Pos)
    (current : Effect γ) : Prop where
  setting : now.grid = start.grid ∧ now.allowEdits = start.allowEdits ∧
    now.embedding = start.embedding
  signals : ∀ direction, (Grid.inputsAt grid circuit.graph pos).signal now direction =
    (Grid.inputsAt grid circuit.graph pos).signal (circuit.evaluate start) direction
  unwritten : ∀ direction, now.values.get? (.output ⟨pos, direction⟩) = none
  written : ∀ direction, (circuit.evaluate start).values.get? (.output ⟨pos, direction⟩) =
    (now.values.setAll (current.response now).writes).get? (.output ⟨pos, direction⟩)
  requested : (circuit.evaluate start).edits.filter (fun edit => edit.pos = pos) =
    (current.response now).edits

/-- A block drives at the end what follows from its inputs at the end. -/
theorem Settled.output_eq {now : EvalState γ} {pos : Pos} {behavior : Behavior}
    {orientation : Orientation}
    (settled : Settled grid circuit start now pos
      (.respond pos behavior orientation (Grid.inputsAt grid circuit.graph pos))) {signal : Signal}
    (driven : behavior.driven? pos orientation (Grid.inputsAt grid circuit.graph pos)
      (circuit.evaluate start) = some signal) {direction : Direction}
    (drives : (behavior.role direction).drives = true) :
    (circuit.evaluate start).values.get? (.output ⟨pos, orientation.transform direction⟩) =
      some signal := by
  obtain ⟨grids, _, embeddings⟩ := Effect.runAll_setting circuit.pipeline start
  have current : behavior.driven? pos orientation (Grid.inputsAt grid circuit.graph pos) now =
      some signal := by
    rw [← driven]
    exact Behavior.driven?_congr (settled.setting.1.trans grids.symm)
      (settled.setting.2.2.trans embeddings.symm) settled.signals
  rw [settled.written, Effect.response, Behavior.response_of_driven current]
  apply Values.get?_setAll_of_uniform
  · exact ⟨_, Behavior.mem_drive_writes.mpr ⟨direction, drives, rfl⟩, rfl⟩
  · intro write member _
    obtain ⟨_, _, rfl⟩ := Behavior.mem_drive_writes.mp member
    rfl

namespace Compiled

variable (compiled : Compiled grid recordEdges circuit)
include compiled

/-- Each turn of a block other than a junction settles what it does. -/
theorem settled_of_turn (acyclic : Grid.Acyclic grid circuit.graph) (fresh : start.Fresh)
    {pos : Pos} (other : Grid.behavior grid pos ≠ some .junction) {current : Effect γ}
    {earlier later : List Target} {now : EvalState γ}
    (order : Grid.demandOrder grid circuit.graph circuit.members = earlier ++ .block pos :: later)
    (turn : Turn grid circuit start (.block pos) (some current) earlier now) :
    Settled grid circuit start now pos current where
  setting := turn.setting
  signals := by
    have graphOf := Grid.graphOf_trace compiled.traced
    exact turn.signal_eq fun id reads => Grid.reads_before graphOf acyclic
      (Grid.demandOrder_demanded graphOf circuit.members) order reads other
  unwritten direction := turn.unwritten compiled fresh rfl
  written direction := turn.written current rfl _ rfl
  requested := turn.requested current rfl pos rfl

/-- Each effect of a block other than a junction settles. -/
theorem settled (acyclic : Grid.Acyclic grid circuit.graph) (fresh : start.Fresh) {pos : Pos}
    (other : Grid.behavior grid pos ≠ some .junction) {current : Effect γ}
    (listed : current ∈ circuit.pipeline) (mine : current.target = .block pos) :
    ∃ now, Settled grid circuit start now pos current := by
  obtain ⟨earlier, later, now, order, turn⟩ := compiled.turn_of_mem fresh listed
  rw [mine] at order turn
  exact ⟨now, compiled.settled_of_turn acyclic fresh other order turn⟩

/-- A member that is no wire, no chip and no junction responds to its inputs and settles. -/
theorem settled_of_member (acyclic : Grid.Acyclic grid circuit.graph) (fresh : start.Fresh)
    {pos : Pos} (member : pos ∈ circuit.members) {behavior : Behavior}
    (there : Grid.behavior grid pos = some behavior) (notWire : behavior ≠ .wire)
    (notChip : behavior ≠ .chip) (notJunction : behavior ≠ .junction) :
    ∃ now, Settled grid circuit start now pos (.respond pos behavior (Grid.orientation grid pos)
      (Grid.inputsAt grid circuit.graph pos)) := by
  have demanded := Grid.demandOrder_demanded (Grid.graphOf_trace compiled.traced) circuit.members
  obtain ⟨effect, earlier, later, now, order, turn⟩ :=
    compiled.turn fresh (demanded.member pos member)
  obtain rfl := turn.realizes.respond_eq there notWire notChip
  refine ⟨now, compiled.settled_of_turn acyclic fresh (fun junction => ?_) order turn⟩
  rw [there] at junction
  exact notJunction (Option.some.inj junction)

/-- At the end a net merges what its drivers have written. -/
theorem netSignal_eq (acyclic : Grid.Acyclic grid circuit.graph) (fresh : start.Fresh) {id : NetId}
    {net : Net} (kept : circuit.graph.net? id = some net) :
    (circuit.evaluate start).values.get (.net id) =
      Signal.merge (net.drivers.filterMap fun face =>
        (circuit.evaluate start).values.get? (.output face)) := by
  have graphOf := Grid.graphOf_trace compiled.traced
  have demanded := Grid.demandOrder_demanded graphOf circuit.members
  obtain ⟨effect, earlier, later, now, order, turn⟩ :=
    compiled.turn fresh (demanded.net id net kept)
  rw [Values.get, turn.net_eq kept fun face driver other => ?_, Option.getD_some]
  exact Grid.drivers_before graphOf acyclic demanded order
    ⟨face.direction, (graphOf.mem_drivers kept).mp driver⟩ other

/-- A target that no effect realizes has none. -/
theorem no_effect {target : Target} (none : Effect.Realizes grid circuit.graph target .none) :
    ∀ current ∈ circuit.pipeline, current.target ≠ target := by
  intro current listed same
  have among : target ∈ circuit.pipeline.map Effect.target :=
    List.mem_map.mpr ⟨current, listed, same⟩
  rw [compiled.targets_eq, List.mem_filter] at among
  have absent := none.map_target
  rw [if_pos among.2] at absent
  cases absent

end Compiled

/-- A block without an effect ends up without signals of its own and without requests. -/
theorem idle_of_no_effect (fresh : start.Fresh) {pos : Pos}
    (none : ∀ current ∈ circuit.pipeline, current.target ≠ .block pos) :
    (∀ direction, (circuit.evaluate start).values.get? (.output ⟨pos, direction⟩) = .none) ∧
      (circuit.evaluate start).edits.filter (fun edit => edit.pos = pos) = [] := by
  constructor
  · intro direction
    rw [evaluate, Pipeline.run, Effect.get?_runAll_of_owner start rfl none, fresh.1,
      Table.get?_empty]
  · rw [evaluate, Pipeline.run, Effect.edits_runAll_of_others none, EvalState.edits, fresh.2]
    rfl

end Circuit

end VoxelCircuit

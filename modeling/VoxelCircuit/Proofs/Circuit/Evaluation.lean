import VoxelCircuit.Proofs.Circuit.Compile
import VoxelCircuit.Proofs.Circuit.Demand
import VoxelCircuit.Proofs.Circuit.Footprint

/-! # Turns

Each target of a compiled circuit has one turn in an evaluation, in the order of demand.
At its turn the values of the targets before it are what they will be at the end, and
what it writes and requests then is what is found of it at the end
(`VoxelCircuit.Circuit.Compiled.turn`).
-/

namespace VoxelCircuit

variable {γ : Type}

/-- Nothing was written or requested in a state. -/
def EvalState.Fresh (state : EvalState γ) : Prop :=
  state.values = .empty ∧ state.requests = []

variable [Grid γ] {grid : γ} {graph : NetGraph}

/-- An effect realizes its own target only. -/
theorem Effect.Realizes.target_eq {target : Target} {effect : Effect γ}
    (realizes : Effect.Realizes grid graph target (some effect)) : effect.target = target := by
  cases realizes with
  | net merges =>
      obtain ⟨net, _, rfl⟩ := Option.map_eq_some_iff.mp merges.symm
      rfl
  | block => rfl
  | chip => rfl

/-- A target that can have an effect: a net that is kept, or a block with a behavior other
than that of wire. -/
def Grid.hasEffect (grid : γ) (graph : NetGraph) : Target → Bool
  | .net id => (graph.net? id).isSome
  | .block pos => activeBeyondWire grid pos

/-- A target is realized by an effect of its own or has none to be realized by. -/
theorem Effect.Realizes.map_target {target : Target} {effect : Option (Effect γ)}
    (realizes : Effect.Realizes grid graph target effect) :
    effect.map Effect.target = if Grid.hasEffect grid graph target then some target else none := by
  cases realizes with
  | @net id _ merges =>
      subst merges
      rw [Grid.hasEffect]
      cases graph.net? id <;> rfl
  | idle passive =>
      simp only [Grid.hasEffect, passive, Option.map_none, Bool.false_eq_true, if_false]
  | block there active =>
      rw [Grid.hasEffect, Grid.activeBeyondWire_iff.mpr ⟨_, there, active⟩]
      rfl
  | chip there =>
      rw [Grid.hasEffect, Grid.activeBeyondWire_iff.mpr ⟨_, there, rfl⟩]
      rfl

/-- A junction drives its nets without writing anything. -/
theorem Effect.Realizes.silent_junction {target : Target} {effect : Effect γ}
    (realizes : Effect.Realizes grid graph target (some effect)) {face : Face}
    (junction : Grid.behavior grid face.pos = some .junction) (state : EvalState γ)
    {write : Key × Signal} (member : write ∈ (effect.response state).writes) :
    write.1 ≠ .output face := by
  intro same
  have owned := owner?_of_mem_writes member
  rw [same, realizes.target_eq] at owned
  rcases owned with mine | none
  · obtain rfl : Target.block face.pos = target := Option.some.inj mine
    cases realizes with
    | block there active =>
        rw [junction] at there
        cases there
        simp [Effect.response, Behavior.response, Response.nothing] at member
    | chip there =>
        rw [junction] at there
        cases there
  · cases none

/-- A block that is neither wire nor a chip responds to its inputs. -/
theorem Effect.Realizes.respond_eq {pos : Pos} {behavior : Behavior} {effect : Option (Effect γ)}
    (realizes : Effect.Realizes grid graph (.block pos) effect)
    (there : Grid.behavior grid pos = some behavior) (notWire : behavior ≠ .wire)
    (notChip : behavior ≠ .chip) :
    effect = some (.respond pos behavior (Grid.orientation grid pos)
      (Grid.inputsAt grid graph pos)) := by
  cases realizes with
  | idle passive =>
      rw [Grid.activeBeyondWire, there] at passive
      simp [Behavior.isWire, notWire] at passive
  | block other =>
      rw [there] at other
      cases other
      rfl
  | chip other =>
      rw [there] at other
      exact (notChip (Option.some.inj other)).elim

namespace Circuit

/-- A moment of an evaluation at which a target has its turn. -/
structure Turn (grid : γ) (circuit : Circuit γ) (start : EvalState γ) (target : Target)
    (effect : Option (Effect γ)) (earlier : List Target) (now : EvalState γ) : Prop where
  realizes : Effect.Realizes grid circuit.graph target effect
  moment : ∃ before after, circuit.pipeline = before ++ (effect.toList ++ after) ∧
    now = Effect.runAll before start
  setting : now.grid = start.grid ∧ now.allowEdits = start.allowEdits ∧
    now.embedding = start.embedding
  settled : ∀ source ∈ earlier, ∀ key, key.owner? = some source →
    now.values.get? key = (circuit.evaluate start).values.get? key
  silent : ∀ face : Face, Grid.behavior grid face.pos = some .junction →
    now.values.get? (.output face) = (circuit.evaluate start).values.get? (.output face)
  written : ∀ current, effect = some current → ∀ key, key.owner? = some target →
    (circuit.evaluate start).values.get? key =
      (now.values.setAll (current.response now).writes).get? key
  requested : ∀ current, effect = some current → ∀ pos, target = .block pos →
    (circuit.evaluate start).edits.filter (fun edit => edit.pos = pos) =
      (current.response now).edits

/-- The inputs of a block whose nets were merged before its turn are as they will be. -/
theorem Turn.signal_eq {circuit : Circuit γ} {start now : EvalState γ} {pos : Pos}
    {earlier : List Target} {effect : Option (Effect γ)}
    (turn : Turn grid circuit start (.block pos) effect earlier now)
    (merged : ∀ id, Grid.Reads grid circuit.graph pos id → .net id ∈ earlier)
    (direction : Direction) :
    (Grid.inputsAt grid circuit.graph pos).signal now direction =
      (Grid.inputsAt grid circuit.graph pos).signal (circuit.evaluate start) direction := by
  unfold Inputs.signal
  cases attached : (Grid.inputsAt grid circuit.graph pos).get direction with
  | none => rfl
  | some id =>
      have before := merged id (Grid.reads_iff.mpr ⟨direction, attached⟩)
      have same := turn.settled (.net id) before (.net id) rfl
      simp only [EvalState.netSignal, Values.get, same]

/-- Once the nets that a block reads have had their turns, it reads what they have in the end. -/
theorem Turn.any_eq {circuit : Circuit γ} {start now : EvalState γ} {pos : Pos}
    {earlier : List Target} {effect : Option (Effect γ)}
    (turn : Turn grid circuit start (.block pos) effect earlier now)
    (merged : ∀ id, Grid.Reads grid circuit.graph pos id → .net id ∈ earlier)
    (directions : List Direction) :
    (Grid.inputsAt grid circuit.graph pos).any now directions =
      (Grid.inputsAt grid circuit.graph pos).any (circuit.evaluate start) directions := by
  rw [Inputs.any, Inputs.any,
    List.map_congr_left fun direction _ => turn.signal_eq merged direction]

/-- The effects of some targets are effects of these targets. -/
theorem exists_target_of_mem {targets : List Target} {effects : List (Option (Effect γ))}
    (realized : List.Forall₂ (Effect.Realizes grid graph) targets effects) {current : Effect γ}
    (member : current ∈ effects.filterMap id) :
    ∃ target ∈ targets, Effect.Realizes grid graph target (some current) := by
  induction realized with
  | nil => cases member
  | @cons target effect targets effects realizes _ ih =>
      rcases List.mem_filterMap.mp member with ⟨found, listed, same⟩
      obtain rfl : found = some current := same
      rcases List.mem_cons.mp listed with rfl | others
      · exact ⟨target, List.mem_cons_self, realizes⟩
      · obtain ⟨other, place, realizes⟩ := ih (List.mem_filterMap.mpr ⟨_, others, rfl⟩)
        exact ⟨other, List.mem_cons_of_mem _ place, realizes⟩

private theorem map_target_of_realized {targets : List Target} {effects : List (Option (Effect γ))}
    (realized : List.Forall₂ (Effect.Realizes grid graph) targets effects) :
    (effects.filterMap id).map Effect.target = targets.filter (Grid.hasEffect grid graph) := by
  induction realized with
  | nil => rfl
  | @cons target effect targets effects realizes _ ih =>
      have own := realizes.map_target
      by_cases effective : Grid.hasEffect grid graph target = true
      · rw [if_pos effective] at own
        obtain ⟨current, rfl, same⟩ := Option.map_eq_some_iff.mp own
        rw [List.filterMap_cons_some (f := id) rfl, List.filter_cons_of_pos effective,
          List.map_cons, same, ih]
      · rw [if_neg effective] at own
        obtain rfl := Option.map_eq_none_iff.mp own
        rw [List.filterMap_cons_none (f := id) rfl, List.filter_cons_of_neg effective, ih]

/-- The targets of a pipeline are those with an effect, in the order of demand. -/
theorem Compiled.targets_eq {recordEdges : Bool} {circuit : Circuit γ}
    (compiled : Compiled grid recordEdges circuit) :
    circuit.pipeline.map Effect.target =
      (Grid.demandOrder grid circuit.graph circuit.members).filter
        (Grid.hasEffect grid circuit.graph) := by
  obtain ⟨effects, realized, pipeline⟩ := compiled.realized
  rw [pipeline, map_target_of_realized realized]

/-- No target has two effects in a pipeline. -/
theorem Compiled.nodup_targets {recordEdges : Bool} {circuit : Circuit γ}
    (compiled : Compiled grid recordEdges circuit) :
    (circuit.pipeline.map Effect.target).Nodup := by
  rw [compiled.targets_eq]
  exact (Grid.demandOrder_demanded (Grid.graphOf_trace compiled.traced)
    circuit.members).nodup.filter _

/-- An effect has one place in a pipeline. -/
theorem Compiled.split_unique {recordEdges : Bool} {circuit : Circuit γ}
    (compiled : Compiled grid recordEdges circuit)
    {current : Effect γ} {before before' after after' : List (Effect γ)}
    (one : circuit.pipeline = before ++ current :: after)
    (other : circuit.pipeline = before' ++ current :: after') : before = before' := by
  have distinct := compiled.nodup_targets.of_map
  rw [one, List.nodup_middle, List.nodup_cons, List.mem_append, not_or] at distinct
  exact ((List.append_cons_inj_of_notMem distinct.1.1 distinct.1.2).mp
    (one.symm.trans other)).1

/-- A pipeline divides at a target as the order of demand does. -/
theorem Compiled.split {recordEdges : Bool} {circuit : Circuit γ}
    (compiled : Compiled grid recordEdges circuit) {earlier later : List Target} {target : Target}
    (order : Grid.demandOrder grid circuit.graph circuit.members = earlier ++ target :: later) :
    ∃ before effect after, circuit.pipeline = before ++ (effect.toList ++ after) ∧
      Effect.Realizes grid circuit.graph target effect ∧
      (∀ current ∈ before, ∃ source ∈ earlier,
        Effect.Realizes grid circuit.graph source (some current)) ∧
      ∀ current ∈ after, ∃ source ∈ later,
        Effect.Realizes grid circuit.graph source (some current) := by
  obtain ⟨effects, realized, pipeline⟩ := compiled.realized
  rw [order] at realized
  have before := (List.forall₂_take_append _ _ _ realized.flip).flip
  have rest := (List.forall₂_drop_append _ _ _ realized.flip).flip
  obtain ⟨effect, after, realizes, afterRealized, tail⟩ := List.forall₂_cons_left_iff.mp rest
  refine ⟨(effects.take earlier.length).filterMap id, effect, after.filterMap id, ?_, realizes,
    fun _ member => exists_target_of_mem before member,
    fun _ member => exists_target_of_mem afterRealized member⟩
  rw [pipeline]
  conv_lhs => rw [← List.take_append_drop earlier.length effects, tail]
  rw [List.filterMap_append, List.filterMap_cons]
  cases effect <;> rfl

/-- Every target of a compiled circuit has a turn in an evaluation from a fresh state. -/
theorem Compiled.turn {recordEdges : Bool} {circuit : Circuit γ}
    (compiled : Compiled grid recordEdges circuit) {start : EvalState γ} (fresh : start.Fresh)
    {target : Target}
    (listed : target ∈ Grid.demandOrder grid circuit.graph circuit.members) :
    ∃ effect earlier later now,
      Grid.demandOrder grid circuit.graph circuit.members = earlier ++ target :: later ∧
        Turn grid circuit start target effect earlier now := by
  obtain ⟨earlier, later, order⟩ := List.append_of_mem listed
  have distinct :=
    (Grid.demandOrder_demanded (Grid.graphOf_trace compiled.traced) circuit.members).nodup
  rw [order] at distinct
  obtain ⟨_, laterDistinct, apart⟩ := List.nodup_append.mp distinct
  obtain ⟨before, effect, after, whole, realizes, beforeOf, afterOf⟩ := compiled.split order
  set now := Effect.runAll before start with moment
  have final : circuit.evaluate start =
      Effect.runAll after (Effect.runAll effect.toList now) := by
    rw [evaluate, Pipeline.run, whole, Effect.runAll_append, Effect.runAll_append]
  have afterOthers : ∀ source, source = target ∨ source ∈ earlier →
      ∀ current ∈ after, current.target ≠ source := by
    intro source place current member same
    obtain ⟨other, place', otherRealizes⟩ := afterOf current member
    rw [otherRealizes.target_eq] at same
    subst same
    rcases place with rfl | early
    · exact (List.nodup_cons.mp laterDistinct).1 place'
    · exact apart _ early _ (List.mem_cons_of_mem _ place') rfl
  have beforeOthers : ∀ current ∈ before, current.target ≠ target := by
    intro current member same
    obtain ⟨other, place, otherRealizes⟩ := beforeOf current member
    rw [otherRealizes.target_eq] at same
    exact apart other place target List.mem_cons_self same
  refine ⟨effect, earlier, later, now, order, ⟨realizes, ⟨before, after, whole, moment⟩,
    Effect.runAll_setting _ _, ?_, ?_, ?_, ?_⟩⟩
  · intro source early key owner
    have own : ∀ current ∈ effect.toList, current.target ≠ source := by
      intro current member same
      rw [Option.mem_toList.mp member] at realizes
      rw [realizes.target_eq] at same
      exact apart source early target List.mem_cons_self same.symm
    have kept := Effect.get?_runAll_of_owner now owner own
    rw [final, Effect.get?_runAll_of_owner _ owner (afterOthers source (Or.inr early)), kept]
  · intro face junction
    rw [final, ← Effect.runAll_append]
    refine (Effect.get?_runAll_of_silent fun current member state write written => ?_).symm
    rcases List.mem_append.mp member with own | later
    · rw [Option.mem_toList.mp own] at realizes
      exact realizes.silent_junction junction state written
    · obtain ⟨other, _, otherRealizes⟩ := afterOf current later
      exact otherRealizes.silent_junction junction state written
  · intro current same key owner
    rw [final, Effect.get?_runAll_of_owner _ owner (afterOthers target (Or.inl rfl)), same]
    simp only [Option.toList, Effect.runAll, EvalState.add]
  · intro current same pos block
    have none : now.edits.filter (fun edit => edit.pos = pos) = [] := by
      rw [Effect.edits_runAll_of_others (block ▸ beforeOthers), EvalState.edits, fresh.2]
      rfl
    have own : (current.response now).edits.filter (fun edit => edit.pos = pos) =
        (current.response now).edits := by
      rw [List.filter_eq_self]
      intro edit member
      rw [same] at realizes
      have place := (Effect.target_of_mem_edits member).symm.trans realizes.target_eq
      rw [block] at place
      exact decide_eq_true (Target.block.inj place)
    rw [final, Effect.edits_runAll_of_others (block ▸ afterOthers target (Or.inl rfl)), same]
    simp only [Option.toList, Effect.runAll, EvalState.edits_add, List.filter_append, none, own,
      List.nil_append]

/-- A block that drives nothing comes after the nets it reads. -/
theorem Compiled.sink_after {recordEdges : Bool} {circuit : Circuit γ}
    (compiled : Compiled grid recordEdges circuit) {earlier later : List Target} {pos : Pos}
    (order : Grid.demandOrder grid circuit.graph circuit.members =
      earlier ++ .block pos :: later)
    {behavior : Behavior} (there : Grid.behavior grid pos = some behavior)
    (sink : ∀ direction, (behavior.role direction).drives = false) {id : NetId}
    (reads : Grid.Reads grid circuit.graph pos id) : .net id ∈ earlier := by
  have graphOf := Grid.graphOf_trace compiled.traced
  apply Grid.sink_reads_before graphOf (Grid.demandOrder_demanded graphOf circuit.members) order
    reads
  intro net ⟨direction, _, drives⟩
  rw [Grid.roleAt, there] at drives
  simp only [Behavior.faceRole, sink] at drives
  cases drives

/-- A block that drives nothing has its turn when the nets it reads are merged. -/
theorem Compiled.turn_of_sink {recordEdges : Bool} {circuit : Circuit γ}
    (compiled : Compiled grid recordEdges circuit) {start : EvalState γ} (fresh : start.Fresh)
    {pos : Pos} {behavior : Behavior}
    (listed : .block pos ∈ Grid.demandOrder grid circuit.graph circuit.members)
    (there : Grid.behavior grid pos = some behavior)
    (sink : ∀ direction, (behavior.role direction).drives = false) :
    ∃ effect earlier now, Turn grid circuit start (.block pos) effect earlier now ∧
      ∀ id, Grid.Reads grid circuit.graph pos id → .net id ∈ earlier := by
  obtain ⟨effect, earlier, later, now, order, turn⟩ := compiled.turn fresh listed
  exact ⟨effect, earlier, now, turn, fun _ reads => compiled.sink_after order there sink reads⟩

end Circuit

end VoxelCircuit

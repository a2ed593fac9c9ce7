import VoxelCircuit.Proofs.Circuit.Interior
import VoxelCircuit.Proofs.Circuit.Ownership
import VoxelCircuit.Proofs.Circuit.Targets

/-! # What a circuit publishes

All chip outputs of a circuit write to the same six places, and all its changers to one, each
after the nets that it reads. So what is found there at the end has come together block after
block, in the order of the pipeline (`VoxelCircuit.Circuit.Compiled.gathered`): from the chip
outputs the merge of the nets on their faces as these are at the end
(`VoxelCircuit.Circuit.Compiled.published_eq`), and from the changers the type that the last of
them asks for (`VoxelCircuit.Circuit.Compiled.replacement_eq`).
-/

namespace VoxelCircuit

namespace Signal

instance : Std.Associative Signal.or :=
  ⟨or_assoc⟩

private theorem mergePresent_append (first second : List Signal) :
    mergePresent (first ++ second) =
      Option.merge Signal.or (mergePresent first) (mergePresent second) := by
  cases first with
  | nil => rw [List.nil_append, mergePresent, Option.merge_none_left]
  | cons signal rest =>
      cases second with
      | nil => rw [List.append_nil, mergePresent, mergePresent, Option.merge_none_right]
      | cons other more =>
          rw [List.cons_append, mergePresent, mergePresent, mergePresent, Option.merge_some_some,
            List.foldl_append, List.foldl_cons, List.foldl_assoc]

/-- A merge of signals is the first truthy one, or else the last. -/
theorem mergePresent_eq (signals : List Signal) :
    mergePresent signals = (signals.find? truthy).or signals.getLast? := by
  induction signals using List.reverseRecOn with
  | nil => rfl
  | append_singleton before signal ih =>
      have single : mergePresent [signal] = some signal := rfl
      rw [mergePresent_append, ih, single, List.find?_append, List.getLast?_concat]
      cases found : before.find? truthy with
      | some first => simp [Signal.or, List.find?_some found]
      | none =>
          cases last : before.getLast? with
          | none => by_cases on : signal.truthy = true <;> simp [on]
          | some other =>
              have off := List.find?_eq_none.mp found other (List.mem_of_getLast? last)
              by_cases on : signal.truthy = true <;> simp [Signal.or, off, on]

/-- Signals merge to a truthy one exactly if one of them is truthy. -/
theorem truthy_mergePresent (signals : List Signal) :
    (mergePresent signals).any truthy = signals.any truthy := by
  cases signals with
  | nil => rfl
  | cons signal rest => rw [mergePresent_cons, Option.any_some, truthy_merge]

/-- Signals merge to nothing only if there are none. -/
theorem mergePresent_eq_none {signals : List Signal} :
    mergePresent signals = none ↔ signals = [] := by
  cases signals <;> simp [mergePresent]

/-- Merging the merges of lists is merging all that is in them. -/
theorem mergePresent_flatMap {α : Type} (items : List α) (signals : α → List Signal) :
    mergePresent (items.filterMap fun item => mergePresent (signals item)) =
      mergePresent (items.flatMap signals) := by
  induction items with
  | nil => rfl
  | cons item rest ih =>
      rw [List.flatMap_cons, mergePresent_append, ← ih, List.filterMap_cons]
      cases mergePresent (signals item) with
      | none => rw [Option.merge_none_left]
      | some signal => exact mergePresent_append [signal] _

end Signal

/-- The behavior of the blocks that write under a key which no target owns. -/
def Key.publisher? : Key → Option Behavior
  | published _ => some .chipOutput
  | replacement => some .changer
  | rotation => some .rotator
  | output _ | net _ => none

private theorem Key.readsOnly_of_publisher {key : Key} {behavior : Behavior}
    (shared : key.publisher? = some behavior) : behavior.ReadsOnly := by
  cases key with
  | published => exact Or.inr (Or.inr (Option.some.inj shared).symm)
  | replacement => exact Or.inr (Or.inl (Option.some.inj shared).symm)
  | rotation => exact Or.inl (Option.some.inj shared).symm
  | output | net => cases shared

variable {γ : Type} [Grid γ] {grid : γ} {graph : NetGraph}

/-- What is published under a key is written by blocks of one behavior. -/
theorem Effect.publisher_of_mem_writes {effect : Effect γ} {behavior : Behavior}
    {state : EvalState γ} {write : Key × Signal} (member : write ∈ (effect.response state).writes)
    (shared : write.1.publisher? = some behavior) :
    ∃ pos orientation inputs, effect = .respond pos behavior orientation inputs := by
  cases effect with
  | merge net drivers =>
      simp only [response, Response.ofWrites, List.mem_singleton] at member
      rw [member] at shared
      cases shared
  | respond pos other orientation inputs =>
      simp only [response] at member
      cases Behavior.written_of_mem member with
      | driven => cases shared
      | published | replacement | rotation =>
          cases shared
          exact ⟨pos, orientation, inputs, rfl⟩
  | chip pos orientation interior circuits =>
      simp only [response, Behavior.chipResponse, List.mem_filterMap] at member
      obtain ⟨direction, _, found⟩ := member
      obtain ⟨signal, _, rfl⟩ := Option.map_eq_some_iff.mp found
      cases shared

/-- The block that an effect is for, if this behavior is what the block has. -/
def Effect.blockOf? (grid : γ) (behavior : Behavior) (effect : Effect γ) : Option Pos :=
  effect.target.block?.filter fun pos => Grid.behavior grid pos = some behavior

/-- An effect is that of a block which publishes under a key, or leaves what is there. -/
theorem Effect.Realizes.publishes {target : Target} {effect : Effect γ} {key : Key}
    {behavior : Behavior} (realizes : Effect.Realizes grid graph target (some effect))
    (shared : key.publisher? = some behavior) :
    (∃ pos, target = .block pos ∧ Grid.behavior grid pos = some behavior ∧
      effect = .respond pos behavior (Grid.orientation grid pos) (Grid.inputsAt grid graph pos)) ∨
    (effect.blockOf? grid behavior = none ∧
      ∀ state, ∀ write ∈ (effect.response state).writes, write.1 ≠ key) := by
  obtain ⟨notWire, notChip⟩ := (Key.readsOnly_of_publisher shared).active
  by_cases publisher : ∃ pos, target = .block pos ∧ Grid.behavior grid pos = some behavior
  · obtain ⟨pos, rfl, there⟩ := publisher
    exact Or.inl ⟨pos, rfl, there, Option.some.inj (realizes.respond_eq there notWire notChip)⟩
  · refine Or.inr ⟨?_, fun state write member same => ?_⟩
    · rw [Effect.blockOf?, Option.filter_eq_none_iff, realizes.target_eq]
      intro pos block there
      cases target with
      | net => cases block
      | block place =>
          cases block
          exact publisher ⟨_, rfl, of_decide_eq_true there⟩
    · obtain ⟨pos, orientation, inputs, rfl⟩ :=
        Effect.publisher_of_mem_writes member (same ▸ shared)
      obtain rfl := realizes.target_eq
      cases realizes with
      | block there => exact publisher ⟨pos, rfl, there⟩

omit [Grid γ] in
/-- A chip output merges what it reads into what is published on each of its faces. -/
theorem Behavior.get?_publish (orientation : Orientation) (inputs : Inputs) (state : EvalState γ)
    (direction : Direction) :
    (state.values.setAll (publish orientation inputs state).writes).get? (.published direction) =
      Option.merge Signal.or (state.values.get? (.published direction))
        ((inputs.get (orientation.untransform direction)).map fun _ =>
          inputs.signal state (orientation.untransform direction)) := by
  have writes : (publish orientation inputs state).writes =
      Direction.all.filterMap fun other =>
        ((inputs.get (orientation.untransform other)).map fun _ =>
          ((state.values.get? (.published other)).map fun before =>
            before.or (inputs.signal state (orientation.untransform other))).getD
              (inputs.signal state (orientation.untransform other))).map fun found =>
                (Key.published other, found) := by
    rw [publish, Response.ofWrites]
    refine List.filterMap_congr fun other _ => ?_
    dsimp only
    cases inputs.get (orientation.untransform other) <;> rfl
  rw [writes, Values.get?_setAll_each fun _ _ same => Key.published.inj same]
  cases inputs.get (orientation.untransform direction) with
  | none => rw [Option.map_none, Option.map_none, Option.none_or, Option.merge_none_right]
  | some id => cases state.values.get? (.published direction) <;> rfl

namespace Circuit

variable {circuit : Circuit γ} {recordEdges : Bool} {start : EvalState γ} {behavior : Behavior}

/-- The blocks of one behavior that have effects in a circuit, in the order of the pipeline. -/
def inTurn (circuit : Circuit γ) (grid : γ) (behavior : Behavior) : List Pos :=
  circuit.pipeline.filterMap (Effect.blockOf? grid behavior)

/-- The blocks of one behavior that have effects in a circuit are the members of that behavior. -/
theorem Compiled.mem_inTurn (compiled : Compiled grid recordEdges circuit) (owns : circuit.Owns)
    (active : behavior ≠ .wire) {pos : Pos} : pos ∈ circuit.inTurn grid behavior ↔
      pos ∈ circuit.members ∧ Grid.behavior grid pos = some behavior := by
  simp only [inTurn, List.mem_filterMap, Effect.blockOf?, Option.filter_eq_some_iff,
    decide_eq_true_eq]
  constructor
  · rintro ⟨effect, listed, block, there⟩
    refine ⟨owns effect listed pos ?_, there⟩
    cases target : effect.target with
    | net => rw [target] at block; cases block
    | block place => rw [target] at block; rw [Option.some.inj block]
  · rintro ⟨member, there⟩
    have spec := Grid.demandOrder_demanded (Grid.graphOf_trace compiled.traced) circuit.members
    have effective : Grid.hasEffect grid circuit.graph (.block pos) = true :=
      Grid.activeBeyondWire_iff.mpr ⟨behavior, there, by simp [Behavior.isWire, active]⟩
    obtain ⟨effect, listed, same⟩ :=
      List.mem_map.mp (compiled.mem_targets.mpr ⟨spec.member pos member, effective⟩)
    exact ⟨effect, listed, by rw [same]; rfl, there⟩

/-- **What is published under a key comes together block after block.** If each block of the
behavior that writes under a key adds at its turn what it tells to what was told before, then
at the end there is what all of them tell in the order of the pipeline. -/
theorem Compiled.gathered {key : Key} {told : Pos → Option Signal}
    {gather : List Signal → Option Signal} (compiled : Compiled grid recordEdges circuit)
    (fresh : start.Fresh) (shared : key.publisher? = some behavior) (vacant : gather [] = none)
    (adds : ∀ pos now, Grid.behavior grid pos = some behavior →
      now.embedding = start.embedding →
      (∀ direction, (Grid.inputsAt grid circuit.graph pos).signal now direction =
        (Grid.inputsAt grid circuit.graph pos).signal (circuit.evaluate start) direction) →
      ∀ before, now.values.get? key = gather before →
        (now.values.setAll (behavior.response pos (Grid.orientation grid pos)
          (Grid.inputsAt grid circuit.graph pos) now).writes).get? key =
            gather (before ++ (told pos).toList)) :
    (circuit.evaluate start).values.get? key =
      gather ((circuit.inTurn grid behavior).filterMap told) := by
  have readsOnly := Key.readsOnly_of_publisher shared
  refine compiled.evaluate_induction fresh (fun before now => now.values.get? key =
    gather ((before.filterMap (Effect.blockOf? grid behavior)).filterMap told)) ?_ ?_
  · rw [fresh.1, Table.get?_empty, List.filterMap_nil, List.filterMap_nil, vacant]
  intro before effect earlier later now order turn reached
  rw [List.filterMap_append, List.filterMap_append, EvalState.add]
  rcases turn.realizes.publishes shared with ⟨pos, target, there, rfl⟩ | ⟨none, silent⟩
  · have tells : Effect.blockOf? grid behavior (.respond pos behavior
        (Grid.orientation grid pos) (Grid.inputsAt grid circuit.graph pos)) = some pos := by
      rw [Effect.blockOf?, Option.filter_eq_some_iff]
      exact ⟨rfl, decide_eq_true there⟩
    rw [target] at order turn
    have merged : ∀ id, Grid.Reads grid circuit.graph pos id → .net id ∈ earlier :=
      fun _ reads => compiled.sink_after order there readsOnly.sink reads
    rw [List.filterMap_cons_some tells, List.filterMap_nil, Effect.response,
      adds pos now there turn.setting.2.2 (turn.signal_eq merged) _ reached]
    cases tell : told pos with
    | none => rw [List.filterMap_cons_none tell]; rfl
    | some signal => rw [List.filterMap_cons_some tell]; rfl
  · rw [List.filterMap_cons_none none, List.filterMap_nil, List.filterMap_nil,
      List.append_nil, ← reached, Values.get?_setAll_of_silent _ (silent now)]

/-- What the nets on one face of each chip output of a circuit carry, in the order of the
pipeline. -/
def outputSignals (circuit : Circuit γ) (grid : γ) (values : Values) (direction : Direction) :
    List Signal :=
  (circuit.inTurn grid .chipOutput).filterMap fun pos =>
    (circuit.graph.netAt ⟨pos, direction⟩).map fun id => values.get (.net id)

/-- The types that the changers of a circuit ask for, in the order of the pipeline. -/
def askedTypes (circuit : Circuit γ) (grid : γ) (state : EvalState γ) : List BlockId :=
  (circuit.inTurn grid .changer).filterMap fun pos =>
    ((Grid.inputsAt grid circuit.graph pos).any state Direction.all).asNumber.map .ofNumber

/-- On each face there is published the merge of the nets that chip outputs have there. -/
theorem Compiled.published_eq (compiled : Compiled grid recordEdges circuit)
    (fresh : start.Fresh) (direction : Direction) :
    (circuit.evaluate start).values.get? (.published direction) =
      Signal.mergePresent
        (circuit.outputSignals grid (circuit.evaluate start).values direction) := by
  refine compiled.gathered fresh rfl rfl fun pos now there _ signals before reached => ?_
  rw [Behavior.response, Behavior.get?_publish, reached, Signal.mergePresent_append, signals,
    Inputs.signal, Grid.get_inputsAt there fun _ => rfl, Orientation.transform_untransform]
  cases circuit.graph.netAt ⟨pos, direction⟩ <;> rfl

/-- Inside a block, the type asked for is that which the last of the changers asks for. -/
theorem Compiled.replacement_eq (compiled : Compiled grid recordEdges circuit)
    (fresh : start.Fresh) (embedded : start.embedding.isSome) :
    (circuit.evaluate start).values.get? .replacement =
      (circuit.askedTypes grid (circuit.evaluate start)).getLast?.map BlockId.signal := by
  rw [askedTypes, ← List.getLast?_map, List.map_filterMap]
  refine compiled.gathered fresh rfl rfl fun pos now there embedding signals before reached => ?_
  have merges : (Grid.inputsAt grid circuit.graph pos).any now Direction.all =
      (Grid.inputsAt grid circuit.graph pos).any (circuit.evaluate start) Direction.all := by
    rw [Inputs.any, Inputs.any, List.map_congr_left fun direction _ => signals direction]
  rw [Behavior.response, merges, Behavior.change, embedding, embedded]
  cases ((Grid.inputsAt grid circuit.graph pos).any (circuit.evaluate start)
      Direction.all).asNumber with
  | none =>
      rw [Option.map_none, Option.map_none, Option.toList_none, List.append_nil, ← reached]
      rfl
  | some number =>
      rw [Option.map_some, Option.map_some, Option.toList_some, List.getLast?_concat]
      exact (Table.get?_insert ..).trans (if_pos rfl)

end Circuit

end VoxelCircuit

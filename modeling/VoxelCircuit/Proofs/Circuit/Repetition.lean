import VoxelCircuit.Layout.Basic
import VoxelCircuit.Layout.EndlessChip
import VoxelCircuit.Proofs.Circuit.Congruence
import VoxelCircuit.Proofs.Circuit.Feedback
import VoxelCircuit.Proofs.Circuit.Publishing

/-! # Evaluating again

A state that an evaluation leaves is full of signals, and a second evaluation starts from these.
At the turn of a target all that it reads has been written anew by then, as it was before, if no
block feeds itself (`VoxelCircuit.Circuit.Turn.readsSame`). So each effect responds as it did. A
chip output merges what it reads into what it finds, and finds what was published at the end of the
first evaluation; but merging signals into their own merge changes nothing. Hence every evaluation
after the first leaves the values as they are and requests the same edits once more
(`VoxelCircuit.Circuit.evaluate_repeated`).
-/

namespace VoxelCircuit

/-- The signal that is found under a key when one was written there where another was before: a
later one takes the place of it, except that what is published merges. -/
def Key.found : Key → Option Signal → Option Signal → Option Signal
  | published _, before, written => Option.merge Signal.or before written
  | output _, before, written | net _, before, written | replacement, before, written
  | rotation, before, written => written.or before

namespace Key

/-- The same signal once more changes nothing. -/
theorem found_self (key : Key) (signal : Option Signal) : key.found signal signal = signal := by
  cases key <;> cases signal <;> simp [found, Signal.or]

private theorem found_none (key : Key) (signal : Option Signal) :
    key.found signal none = signal := by
  cases key <;> cases signal <;> rfl

end Key

namespace Values

/-- The values that a second evaluation has come to, when the first left some values and had come
to others at the same moment. -/
def Resumed (final now later : Values) : Prop :=
  ∀ key, later.get? key = key.found (final.get? key) (now.get? key)

variable {final now later : Values}

/-- Where a first evaluation has its final signal, a second one has it too. -/
theorem Resumed.get?_eq (resumed : Resumed final now later) {key : Key}
    (settled : now.get? key = final.get? key) : later.get? key = now.get? key := by
  rw [resumed, settled, Key.found_self]

/-- The same writes in both evaluations keep them together, as long as they publish nothing. -/
theorem Resumed.setAll (resumed : Resumed final now later) {writes : List (Key × Signal)}
    (unpublished : ∀ write ∈ writes, ∀ direction, write.1 ≠ .published direction) :
    Resumed final (now.setAll writes) (later.setAll writes) := by
  unfold Values.setAll
  induction writes generalizing now later with
  | nil => exact resumed
  | cons write rest ih =>
      refine ih (fun key => ?_) fun other member =>
        unpublished other (List.mem_cons_of_mem _ member)
      rw [Table.get?_insert, Table.get?_insert]
      by_cases same : key = write.1
      · rw [if_pos same, if_pos same]
        cases key with
        | published direction =>
            exact (unpublished write List.mem_cons_self direction same.symm).elim
        | output | net | replacement | rotation => rfl
      · rw [if_neg same, if_neg same, resumed]

/-- Writes leave the keys in their places. -/
theorem keys_prefix_setAll (values : Values) (writes : List (Key × Signal)) :
    values.keys <+: (values.setAll writes).keys := by
  unfold Values.setAll
  induction writes generalizing values with
  | nil => exact List.prefix_rfl
  | cons write rest ih => exact (Table.keys_prefix_insert _ _ _).trans (ih _)

end Values

variable {γ : Type} [Grid γ] {grid : γ}

namespace Effect

/-- An effect reads the same in two states: a merge the signals that are driven on its net, a block
other than a junction those on its inputs. -/
def ReadsSame (now later : EvalState γ) : Effect γ → Prop
  | merge _ drivers =>
    ∀ face ∈ drivers, later.values.get? (.output face) = now.values.get? (.output face)
  | respond _ behavior _ inputs =>
    behavior ≠ .junction → ∀ direction, inputs.signal later direction = inputs.signal now direction
  | chip _ _ _ _ => True

variable {now later : EvalState γ} {effect : Effect γ}

/-- Effects other than chip outputs that read the same in the same setting respond the same. -/
theorem ReadsSame.response_eq (reads : effect.ReadsSame now later) (same : later.SameSetting now)
    (other : ∀ pos orientation inputs, effect ≠ .respond pos .chipOutput orientation inputs) :
    effect.response later = effect.response now := by
  cases effect with
  | merge net drivers => simp only [response, List.filterMap_congr reads]
  | respond pos behavior orientation inputs =>
      rw [response, response]
      by_cases junction : behavior = .junction
      · subst junction
        rfl
      · refine Behavior.response_congr (fun output => ?_) same (reads junction) pos orientation
        exact other pos orientation inputs (by rw [output])
  | chip pos orientation interior circuits =>
      exact chip_response_congr same pos orientation interior circuits

/-- An effect that reads the same in both evaluations keeps them together and requests the same. -/
theorem ReadsSame.resumed {final : Values} (reads : effect.ReadsSame now later)
    (same : later.SameSetting now) (resumed : Values.Resumed final now.values later.values) :
    Values.Resumed final (now.add (effect.response now)).values
        (later.add (effect.response later)).values ∧
      (effect.response later).edits = (effect.response now).edits := by
  by_cases output : ∃ pos orientation inputs, effect = .respond pos .chipOutput orientation inputs
  · obtain ⟨pos, orientation, inputs, rfl⟩ := output
    refine ⟨fun key => ?_, rfl⟩
    simp only [response, Behavior.response, EvalState.add]
    by_cases published : ∃ direction, key = .published direction
    · obtain ⟨direction, rfl⟩ := published
      rw [Behavior.get?_publish, Behavior.get?_publish, resumed, reads (by decide)]
      have merges : Std.Associative (Option.merge Signal.or) := inferInstance
      exact merges.assoc _ _ _
    · have silent : ∀ state : EvalState γ,
          ∀ write ∈ (Behavior.publish orientation inputs state).writes, write.1 ≠ key := by
        intro state write member own
        obtain ⟨direction, same⟩ := Behavior.published_of_mem member
        exact published ⟨direction, own.symm.trans same⟩
      rw [Values.get?_setAll_of_silent _ (silent now),
        Values.get?_setAll_of_silent _ (silent later), resumed]
  · simp only [not_exists] at output
    rw [reads.response_eq same output]
    refine ⟨resumed.setAll fun write member direction published => ?_, rfl⟩
    obtain ⟨pos, orientation, inputs, own⟩ :=
      publisher_of_mem_writes member (by rw [published]; rfl)
    exact output pos orientation inputs own

/-- Effects leave the keys of the values in their places. -/
theorem keys_prefix_runAll (effects : List (Effect γ)) (state : EvalState γ) :
    state.values.keys <+: (runAll effects state).values.keys := by
  induction effects generalizing state with
  | nil => rw [runAll]
  | cons effect rest ih =>
      rw [runAll]
      exact (Values.keys_prefix_setAll state.values (effect.response state).writes).trans
        (ih (state.add (effect.response state)))

end Effect

namespace Circuit

variable {circuit : Circuit γ} {recordEdges : Bool} {start now later again : EvalState γ}

/-- At the turn of a target a second evaluation reads what the first one read, if no block but
junctions feeds itself: all of it has been settled. -/
theorem Turn.readsSame {effect : Effect γ} {earlier rest : List Target}
    (turn : Turn grid circuit start effect.target (some effect) earlier now)
    (compiled : Compiled grid recordEdges circuit)
    (without : Grid.WithoutLoops grid circuit.graph)
    (order : Grid.demandOrder grid circuit.graph circuit.members =
      earlier ++ effect.target :: rest)
    (resumed : Values.Resumed (circuit.evaluate start).values now.values later.values) :
    effect.ReadsSame now later := by
  have graphOf := Grid.graphOf_trace compiled.traced
  have demanded := Grid.demandOrder_demanded graphOf circuit.members
  have settled : ∀ source ∈ earlier, ∀ key, key.owner? = some source →
      later.values.get? key = now.values.get? key := fun source early key owner =>
    resumed.get?_eq (turn.settled source early key owner)
  have realizes := turn.realizes
  generalize effect.target = target at order realizes
  cases realizes with
  | net merges =>
      obtain ⟨net, kept, rfl⟩ := Option.map_eq_some_iff.mp merges.symm
      intro face driver
      by_cases junction : Grid.behavior grid face.pos = some .junction
      · exact resumed.get?_eq (turn.silent face junction)
      · refine settled (.block face.pos) ?_ _ rfl
        exact Grid.driver_before_of_not_fed graphOf (without _ junction) demanded order
          ⟨face.direction, (graphOf.mem_drivers kept).mp driver⟩
  | @block pos behavior there active =>
      intro other direction
      unfold Inputs.signal
      cases attached : (Grid.inputsAt grid circuit.graph pos).get direction with
      | none => rfl
      | some id =>
          have apart : Grid.behavior grid pos ≠ some .junction := fun junction =>
            other (Option.some.inj (there.symm.trans junction))
          have merged := Grid.reads_before_of_not_fed graphOf (without pos apart) demanded order
            (Grid.reads_iff.mpr ⟨direction, attached⟩)
          simp only [EvalState.netSignal, Values.get, settled (.net id) merged (.net id) rfl]
  | chip => trivial

/-- A second evaluation stays together with the first one up to its end. -/
theorem Compiled.resumed (compiled : Compiled grid recordEdges circuit)
    (without : Grid.WithoutLoops grid circuit.graph) (fresh : start.Fresh)
    (same : again.SameSetting start) (values : again.values = (circuit.evaluate start).values) :
    Values.Resumed (circuit.evaluate start).values (circuit.evaluate start).values
        (circuit.evaluate again).values ∧
      (circuit.evaluate again).edits = again.edits ++ (circuit.evaluate start).edits := by
  refine compiled.evaluate_induction fresh (fun before now =>
    Values.Resumed (circuit.evaluate start).values now.values (Effect.runAll before again).values ∧
      (Effect.runAll before again).edits = again.edits ++ now.edits) ?_ ?_
  · rw [Effect.runAll]
    refine ⟨fun key => ?_, ?_⟩
    · rw [values, fresh.1, Table.get?_empty, Key.found_none]
    · rw [EvalState.edits, EvalState.edits, fresh.2, List.reverse_nil, List.append_nil]
  · intro before effect earlier later now order turn together
    obtain ⟨resumed, edits⟩ := together
    have setting : (Effect.runAll before again).SameSetting now :=
      EvalState.SameSetting.trans (Effect.runAll_setting before again)
        (same.trans (EvalState.SameSetting.symm turn.setting))
    have reads := turn.readsSame compiled without order resumed
    obtain ⟨kept, requested⟩ := reads.resumed setting resumed
    rw [Effect.runAll_append, Effect.runAll, Effect.runAll]
    refine ⟨kept, ?_⟩
    rw [EvalState.edits_add, EvalState.edits_add, edits, requested, List.append_assoc]

/-- **A second evaluation.** An evaluation that starts with the values which another has left leaves
the same values, in the same places, and requests the same edits. -/
theorem Compiled.evaluate_resumed (compiled : Compiled grid recordEdges circuit)
    (without : Grid.WithoutLoops grid circuit.graph) (fresh : start.Fresh)
    (same : again.SameSetting start) (values : again.values = (circuit.evaluate start).values) :
    (circuit.evaluate again).values = (circuit.evaluate start).values ∧
      (circuit.evaluate again).edits = again.edits ++ (circuit.evaluate start).edits := by
  obtain ⟨resumed, edits⟩ := compiled.resumed without fresh same values
  refine ⟨Table.eq_of_prefix ?_ fun key => (resumed key).trans (Key.found_self ..), edits⟩
  rw [← values]
  exact Effect.keys_prefix_runAll circuit.pipeline again

/-- **Evaluating several times.** If no chain of blocks, each feeding the next, returns to a block
other than a junction, then evaluating a compiled circuit several times on a fresh state leaves the
values that one evaluation leaves, and the edits that one evaluation requests, once for each. -/
theorem evaluate_repeated {options : CompileOptions} {depth : Nat} {source : Circuit γ}
    (compiled : (compile options depth grid source).outcome = .ok circuit)
    (without : Grid.WithoutLoops grid circuit.graph) (fresh : start.Fresh) {times : Nat}
    (some : 0 < times) :
    (circuit.evaluate^[times] start).values = (circuit.evaluate start).values ∧
      (circuit.evaluate^[times] start).edits =
        (List.replicate times (circuit.evaluate start).edits).flatten := by
  have made := (compile_ok compiled).2
  have setting : ∀ count, (circuit.evaluate^[count] start).SameSetting start := by
    intro count
    induction count with
    | zero => exact ⟨rfl, rfl, rfl⟩
    | succ count ih =>
        rw [Function.iterate_succ_apply']
        exact EvalState.SameSetting.trans (Effect.runAll_setting circuit.pipeline _) ih
  induction times, some using Nat.le_induction with
  | base => simp
  | succ count _ ih =>
      obtain ⟨values, edits⟩ := made.evaluate_resumed without fresh (setting count) ih.1
      rw [Function.iterate_succ_apply', List.replicate_succ', List.flatten_append, edits, ih.2]
      exact ⟨values, by simp⟩

/-- A pad at a junction, and around it an indicator, a changer and a chip output. -/
def junctionStar : World EndlessChip :=
  .voxel ⟨⟨Layout.standardTypes⟩, .clamped 3 3 1,
    #[.air, ⟨⟨3⟩, .identity, 0⟩, .air,
      ⟨⟨2⟩, .identity, 5⟩, ⟨⟨4⟩, .identity, 0⟩, ⟨⟨12⟩, .identity, 0⟩,
      .air, ⟨⟨11⟩, .identity, 0⟩, .air], rfl⟩

/-- The blocks of the star. -/
def starBlocks : List Pos :=
  [⟨1, 0, 0⟩, ⟨0, 1, 0⟩, ⟨1, 1, 0⟩, ⟨2, 1, 0⟩, ⟨1, 2, 0⟩]

/-- A fresh state of the star inside a block of another one, where edits may be requested. -/
def insideStar : EvalState (World EndlessChip) :=
  (EvalState.editing junctionStar).inside junctionStar ⟨junctionStar, ⟨0, 0, 0⟩, none⟩

/-- Three evaluations of the star publish its datum and ask for the type of that number as one does,
and have the indicator lit three times. -/
theorem junctionStar_repeated :
    ∃ circuit, (compile {} 1 junctionStar (ofMembers starBlocks)).outcome = .ok circuit ∧
      Grid.WithoutLoops junctionStar circuit.graph ∧
      (circuit.evaluate^[3] insideStar).values = (circuit.evaluate insideStar).values ∧
      (circuit.evaluate insideStar).values.get? (.published .negX) = some (.number (.ofInt 5)) ∧
      (circuit.evaluate insideStar).values.get? .replacement = some (BlockId.signal ⟨5⟩) ∧
      (circuit.evaluate^[3] insideStar).edits =
        [.setDatum ⟨1, 0, 0⟩ 1, .setDatum ⟨1, 0, 0⟩ 1, .setDatum ⟨1, 0, 0⟩ 1] := by
  obtain ⟨circuit, compiled, seen⟩ := Compilation.exists_ok
    (compile {} 1 junctionStar (ofMembers starBlocks))
    (fun circuit => decide ((∀ driver ∈ circuit.graph.attachments.entries,
        ∀ reader ∈ circuit.graph.attachments.entries, driver.1.pos = reader.1.pos →
          (Grid.roleAt junctionStar driver.1).drives = true →
            (Grid.roleAt junctionStar reader.1).reads = true →
              ¬(driver.2 = reader.2 ∧
                Grid.behavior junctionStar driver.1.pos = some .junction) →
                  reader.2.serial.toNat < driver.2.serial.toNat) ∧
      (circuit.evaluate insideStar).values.get? (.published .negX) =
        some (.number (.ofInt 5)) ∧
      (circuit.evaluate insideStar).values.get? .replacement = some (BlockId.signal ⟨5⟩) ∧
      (circuit.evaluate insideStar).edits = [.setDatum ⟨1, 0, 0⟩ 1]))
    true (by decide +kernel)
  obtain ⟨ranked, shown, asked, lit⟩ := of_decide_eq_true seen
  have without : Grid.WithoutLoops junctionStar circuit.graph :=
    (Grid.acyclic_of_attachments (fun id => id.serial.toNat) ranked).withoutLoops
  obtain ⟨values, edits⟩ := evaluate_repeated compiled without
    (show insideStar.Fresh from ⟨rfl, rfl⟩) (show 0 < 3 by decide)
  rw [lit] at edits
  exact ⟨circuit, compiled, without, values, shown, asked, edits⟩

end Circuit

end VoxelCircuit

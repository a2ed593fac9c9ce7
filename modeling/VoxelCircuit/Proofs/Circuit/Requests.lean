import VoxelCircuit.Layout.Basic
import VoxelCircuit.Layout.EndlessChip
import VoxelCircuit.Proofs.Circuit.Evaluation

/-! # What rotators and changers act on

A rotator and a changer merge the signals on all six faces, with no signal for each face
that no net is attached to. No signal takes the place of a falsy one before it, and so
what they act on is the merge of the attached faces alone only if that is truthy or no
signal at all, or if the last of the faces, -X to +Z aside, is attached
(`VoxelCircuit.Circuit.acts_on_attached_iff`).
-/

namespace VoxelCircuit

/-- Two signals are the same unless both are falsy. -/
def Signal.SameOn (first second : Signal) : Prop :=
  first = second ∨ (first.truthy = false ∧ second.truthy = false)

private theorem Signal.SameOn.or {first second : Signal} (same : first.SameOn second)
    (next : Signal) :
    first.or next = second.or next := by
  rcases same with rfl | ⟨firstOff, secondOff⟩
  · rfl
  · simp [Signal.or, firstOff, secondOff]

private theorem Signal.SameOn.or_null {first second : Signal} (same : first.SameOn second) :
    (first.or .null).SameOn second := by
  rcases same with rfl | ⟨firstOff, secondOff⟩
  · cases on : first.truthy
    · exact Or.inr ⟨by rw [Signal.truthy_or, on, Signal.truthy, Bool.or_self], on⟩
    · exact Or.inl (by simp [Signal.or, on])
  · exact Or.inr ⟨by rw [Signal.truthy_or, firstOff, Signal.truthy, Bool.or_self], secondOff⟩

/-- Leaving out what is absent changes a merge only where it is falsy. -/
theorem Signal.merge_present {α : Type} (present : α → Option Signal) (items : List α) :
    (merge (items.map fun item => (present item).getD .null)).SameOn
      (merge (items.filterMap present)) := by
  unfold merge
  suffices every : ∀ first second : Signal, first.SameOn second →
      ((items.map fun item => (present item).getD .null).foldl Signal.or first).SameOn
        ((items.filterMap present).foldl Signal.or second) from every _ _ (Or.inl rfl)
  induction items with
  | nil => exact fun _ _ same => same
  | cons item rest ih =>
      intro first second same
      rw [List.map_cons, List.foldl_cons, List.filterMap_cons]
      cases present item with
      | none => exact ih _ _ same.or_null
      | some signal => exact ih _ _ (Or.inl (same.or signal))

namespace Inputs

variable {γ : Type} (inputs : Inputs) (state : EvalState γ)

/-- The signal at a face that a net is attached to. -/
def attached? (direction : Direction) : Option Signal :=
  (inputs.get direction).map fun id => state.netSignal (some id)

/-- The merge of the signals at the faces that a net is attached to. -/
def attached (directions : List Direction) : Signal :=
  Signal.merge (directions.filterMap (inputs.attached? state))

private theorem signal_eq (direction : Direction) :
    inputs.signal state direction = (inputs.attached? state direction).getD .null := by
  rw [signal, attached?]
  cases inputs.get direction <;> rfl

/-- Merging all faces is merging the attached ones, if that is truthy or the last face
is attached, and else it is no signal. -/
theorem any_all :
    inputs.any state Direction.all =
      if (inputs.attached state Direction.all).truthy ∨ (inputs.get .negZ).isSome then
        inputs.attached state Direction.all else .null := by
  have signals : inputs.signal state = fun direction =>
      (inputs.attached? state direction).getD .null := funext (inputs.signal_eq state)
  have split : Direction.all = [.posX, .posY, .posZ, .negX, .negY] ++ [.negZ] := rfl
  have front := Signal.merge_present (inputs.attached? state) [.posX, .posY, .posZ, .negX, .negY]
  rw [any, attached, signals, split, List.map_append, List.filterMap_append]
  unfold Signal.merge at front ⊢
  rw [List.foldl_append, List.foldl_append]
  cases last : inputs.get .negZ with
  | none =>
      have absent : inputs.attached? state .negZ = none := by rw [attached?, last, Option.map_none]
      simp only [List.map_cons, List.map_nil, List.filterMap_cons, absent, List.filterMap_nil,
        Option.getD_none, List.foldl_cons, List.foldl_nil, Option.isSome_none, Bool.false_eq_true,
        or_false]
      simp only [List.map_cons, List.map_nil, List.filterMap_cons, List.filterMap_nil,
        List.foldl_cons, List.foldl_nil] at front
      rcases front with same | ⟨off, offAttached⟩
      · rw [same, Signal.or]
      · rw [Signal.or, off, if_neg (by simp), offAttached, if_neg (by simp)]
  | some id =>
      have present : inputs.attached? state .negZ = some (state.netSignal (some id)) := by
        rw [attached?, last, Option.map_some]
      simp only [Option.isSome_some, or_true, if_true, List.map_cons, List.map_nil,
        List.filterMap_cons, present, List.filterMap_nil, Option.getD_some, List.foldl_cons,
        List.foldl_nil]
      simp only [List.map_cons, List.map_nil, List.filterMap_cons, List.filterMap_nil,
        List.foldl_cons, List.foldl_nil] at front
      exact front.or _

private theorem any_all_eq_attached_iff :
    inputs.any state Direction.all = inputs.attached state Direction.all ↔
      (inputs.attached state Direction.all).truthy ∨
        inputs.attached state Direction.all = .null ∨ (inputs.get .negZ).isSome := by
  rw [any_all]
  by_cases condition : (inputs.attached state Direction.all).truthy ∨ (inputs.get .negZ).isSome
  · rw [if_pos condition]
    exact ⟨fun _ => condition.imp id Or.inr, fun _ => rfl⟩
  · rw [if_neg condition]
    refine ⟨fun same => Or.inr (Or.inl same.symm), fun either => ?_⟩
    rcases either with on | none | last
    · exact (condition (Or.inl on)).elim
    · exact none.symm
    · exact (condition (Or.inr last)).elim

/-- With one attached face the merge of the attached faces is its signal. -/
theorem attached_of_single {face : Direction} {id : NetId} (single : inputs.get face = some id)
    (others : ∀ other, other ≠ face → inputs.get other = none) :
    inputs.attached state Direction.all = state.netSignal (some id) := by
  have present : ∀ direction, inputs.attached? state direction =
      if direction = face then some (state.netSignal (some id)) else none := by
    intro direction
    by_cases same : direction = face
    · rw [if_pos same, same, attached?, single, Option.map_some]
    · rw [if_neg same, attached?, others direction same, Option.map_none]
  rw [attached, funext present]
  cases face <;> rfl

end Inputs

variable {γ : Type} [Grid γ]

/-- The edits that a rotator or a changer is to request of a grid on its own, when it
acts on a number. -/
def Behavior.asked (behavior : Behavior) (grid : γ) (pos : Pos) (number : Number) : List Edit :=
  match behavior with
  | rotator => rotateEdits grid pos (.ofNumber number)
  | changer => replaceEdits grid pos (.ofNumber number)
  | _ => []

/-- A number asks for the id and for the rotation that its floor counts to. -/
theorem Number.floor_asks (number : Number) {value : Int} (floor : number.floor? = some value) :
    BlockId.ofNumber number = .ofIntWrapping value ∧
      (-2 ^ 63 ≤ value → value < 2 ^ 63 →
        Orientation.ofNumber number = .ofCodeWrapping value) := by
  refine ⟨by rw [BlockId.ofNumber, floor], fun least most => ?_⟩
  have clamped : number.clampedFloor = value := by
    simp only [clampedFloor, floor, Int64.toInt_minValue, Int64.toInt_maxValue]
    omega
  rw [Orientation.ofNumber, clamped]

/-- At the top level and with edits permitted, a rotator and a changer request what the
number that they act on asks for. -/
theorem Behavior.edits_of_acting {behavior : Behavior} {pos : Pos} {orientation : Orientation}
    {inputs : Inputs} {state : EvalState γ} (kind : behavior = .rotator ∨ behavior = .changer)
    (allowed : state.allowEdits) (alone : state.embedding = none) :
    (behavior.response pos orientation inputs state).edits =
      ((inputs.any state Direction.all).asNumber.map (behavior.asked state.grid pos)).getD [] := by
  rcases kind with rfl | rfl
  · rw [response, rotate]
    cases (inputs.any state Direction.all).asNumber with
    | none => rfl
    | some number => simp [allowed, alone, asked, Response.ofEdits]
  · rw [response, change]
    cases (inputs.any state Direction.all).asNumber with
    | none => rfl
    | some number => simp [allowed, alone, asked, Response.ofEdits]

namespace Circuit

variable {grid : γ} {circuit : Circuit γ} {start now : EvalState γ} {pos : Pos}
  {behavior : Behavior} {options : CompileOptions} {depth : Nat} {source : Circuit γ}

/-- A member that drives nothing has its turn when the nets it reads are merged. -/
theorem exists_turn_of_sink (compiled : (compile options depth grid source).outcome = .ok circuit)
    (fresh : start.Fresh) (member : pos ∈ circuit.members)
    (there : Grid.behavior grid pos = some behavior)
    (sink : ∀ direction, (behavior.role direction).drives = false) :
    ∃ effect earlier now, Turn grid circuit start (.block pos) effect earlier now ∧
      ∀ id, Grid.Reads grid circuit.graph pos id → .net id ∈ earlier := by
  have made := (compile_ok compiled).2
  have demanded := Grid.demandOrder_demanded (Grid.graphOf_trace made.traced) circuit.members
  exact made.turn_of_sink fresh (demanded.member pos member) there sink

/-- **Rotators and changers act on the attached faces, with one exception.** A rotator or
a changer that is a member of a compiled circuit acts on the merge of the final signals
of its attached faces, exactly if that merge is truthy or no signal or the -Z face of the
unturned block is attached. With one attached face, at the top level and with edits
permitted, it requests what the number on that face asks for, exactly if the number is
not falsy, or arrives at that -Z face, or asks for nothing new. What it asks for is the
id, or the rotation, that its floor counts to, as long as the floor is a word of sixty-four
bits. -/
theorem acts_on_attached_iff (compiled : (compile options depth grid source).outcome = .ok circuit)
    (fresh : start.Fresh) (member : pos ∈ circuit.members)
    (there : Grid.behavior grid pos = some behavior)
    (kind : behavior = .rotator ∨ behavior = .changer) :
    (∃ before after, circuit.pipeline = before ++ .respond pos behavior
        (Grid.orientation grid pos) (Grid.inputsAt grid circuit.graph pos) :: after ∧
      ((Grid.inputsAt grid circuit.graph pos).any (Effect.runAll before start) Direction.all =
          (Grid.inputsAt grid circuit.graph pos).attached (circuit.evaluate start) Direction.all ↔
        ((Grid.inputsAt grid circuit.graph pos).attached (circuit.evaluate start)
            Direction.all).truthy ∨
          (Grid.inputsAt grid circuit.graph pos).attached (circuit.evaluate start)
            Direction.all = .null ∨
          ((Grid.inputsAt grid circuit.graph pos).get .negZ).isSome)) ∧
    ∀ face id number, (Grid.inputsAt grid circuit.graph pos).get face = some id →
      (∀ other, other ≠ face → (Grid.inputsAt grid circuit.graph pos).get other = none) →
      ((circuit.evaluate start).netSignal (some id)).asNumber = some number →
      start.allowEdits → start.embedding = none →
        ((circuit.evaluate start).edits.filter (fun edit => edit.pos = pos) =
            behavior.asked start.grid pos number ↔
          ((circuit.evaluate start).netSignal (some id)).truthy ∨ face = .negZ ∨
            behavior.asked start.grid pos number = []) ∧
        ∀ value, number.floor? = some value → BlockId.ofNumber number = .ofIntWrapping value ∧
          (-2 ^ 63 ≤ value → value < 2 ^ 63 →
            Orientation.ofNumber number = .ofCodeWrapping value) := by
  have sink : ∀ direction, (behavior.role direction).drives = false := by
    rcases kind with rfl | rfl <;> exact fun _ => rfl
  obtain ⟨effect, earlier, now, turn, merged⟩ :=
    exists_turn_of_sink compiled fresh member there sink
  have realized := turn.realizes.respond_eq there (by rcases kind with rfl | rfl <;> decide)
    (by rcases kind with rfl | rfl <;> decide)
  have acted := turn.any_eq merged Direction.all
  constructor
  · obtain ⟨before, after, whole, moment⟩ := turn.moment
    rw [realized] at whole
    refine ⟨before, after, whole, ?_⟩
    rw [← moment, acted]
    exact Inputs.any_all_eq_attached_iff _ _
  · intro face id number single others carried allowed alone
    have last : ((Grid.inputsAt grid circuit.graph pos).get .negZ).isSome ↔ face = .negZ := by
      by_cases same : face = .negZ
      · simp [← same, single]
      · simp [others .negZ fun equal => same equal.symm, same]
    rw [Inputs.any_all _ (circuit.evaluate start),
      Inputs.attached_of_single _ _ single others] at acted
    simp only [last] at acted
    obtain ⟨grids, edits, embeddings⟩ := turn.setting
    refine ⟨?_, fun value floor => number.floor_asks floor⟩
    rw [turn.requested _ realized pos rfl, Effect.response,
      Behavior.edits_of_acting kind (edits ▸ allowed) (embeddings ▸ alone), acted, grids]
    by_cases condition : ((circuit.evaluate start).netSignal (some id)).truthy ∨ face = .negZ
    · rw [if_pos condition, carried]
      exact ⟨fun _ => condition.imp_right Or.inl, fun _ => rfl⟩
    · rw [if_neg condition]
      refine ⟨fun same => Or.inr (Or.inr same.symm), fun either => ?_⟩
      rcases either with on | faced | nothing
      · exact (condition (Or.inl on)).elim
      · exact (condition (Or.inr faced)).elim
      · exact nothing.symm

/-- A changer, and an unlit pad that it reads on its +X face. -/
def unlitChanger : VoxelGrid (World EndlessChip) :=
  ⟨⟨Layout.standardTypes⟩, (GridExtent.ofSides? 2 1 1).get rfl,
    #[⟨⟨11⟩, .identity, 0⟩, ⟨⟨2⟩, .identity, 0⟩], rfl⟩

/-- The condition for the changer that reads an unlit pad. -/
theorem unlitChanger_requests_iff :
    ∃ circuit, (compile {} 0 (World.voxel unlitChanger)
        (ofMembers [⟨0, 0, 0⟩, ⟨1, 0, 0⟩])).outcome = .ok circuit ∧
      ((circuit.evaluate (.editing (World.voxel unlitChanger))).edits.filter
          (fun edit => edit.pos = ⟨0, 0, 0⟩) =
            Behavior.changer.asked (World.voxel unlitChanger) ⟨0, 0, 0⟩ (.ofInt 0) ↔
        ((circuit.evaluate (.editing (World.voxel unlitChanger))).netSignal (some ⟨0⟩)).truthy ∨
          Direction.posX = .negZ ∨
            Behavior.changer.asked (World.voxel unlitChanger) ⟨0, 0, 0⟩ (.ofInt 0) = []) := by
  obtain ⟨circuit, compiled, look⟩ := Compilation.exists_ok
    (compile {} 0 (World.voxel unlitChanger) (ofMembers [⟨0, 0, 0⟩, ⟨1, 0, 0⟩]))
    (fun circuit => (circuit.members,
      Grid.inputsAt (World.voxel unlitChanger) circuit.graph ⟨0, 0, 0⟩,
      (circuit.evaluate (.editing (World.voxel unlitChanger))).netSignal (some ⟨0⟩)))
    (([⟨0, 0, 0⟩, ⟨1, 0, 0⟩], ⟨some ⟨0⟩, none, none, none, none, none⟩,
      .number (.ofInt 0))) (by decide +kernel)
  simp only [Prod.mk.injEq] at look
  obtain ⟨members, inputs, signal⟩ := look
  have others : ∀ other, other ≠ .posX →
      (Grid.inputsAt (World.voxel unlitChanger) circuit.graph ⟨0, 0, 0⟩).get other = none := by
    intro other apart
    rw [inputs]
    cases other <;> first | rfl | exact (apart rfl).elim
  exact ⟨circuit, compiled, ((acts_on_attached_iff compiled ⟨rfl, rfl⟩ (by rw [members]; decide)
    (by decide +kernel) (Or.inr rfl)).2 .posX ⟨0⟩ (.ofInt 0) (by rw [inputs]; rfl) others
      (by rw [signal]; rfl) rfl rfl).1⟩

/-- Rotators and changers do not always act on the attached faces: the changer that reads
an unlit pad acts on no signal instead of on the number 0, and is not replaced by air. -/
theorem unlitChanger_not_replaced :
    ∃ circuit, (compile {} 0 (World.voxel unlitChanger)
        (ofMembers [⟨0, 0, 0⟩, ⟨1, 0, 0⟩])).outcome = .ok circuit ∧
      Grid.inputsAt (World.voxel unlitChanger) circuit.graph ⟨0, 0, 0⟩ =
          ⟨some ⟨0⟩, none, none, none, none, none⟩ ∧
        (circuit.evaluate (.editing (World.voxel unlitChanger))).netSignal (some ⟨0⟩) =
          .number (.ofInt 0) ∧
        (Grid.inputsAt (World.voxel unlitChanger) circuit.graph ⟨0, 0, 0⟩).any
          (circuit.evaluate (.editing (World.voxel unlitChanger))) Direction.all = .null ∧
        (Grid.inputsAt (World.voxel unlitChanger) circuit.graph ⟨0, 0, 0⟩).attached
          (circuit.evaluate (.editing (World.voxel unlitChanger))) Direction.all =
            .number (.ofInt 0) ∧
        (circuit.evaluate (.editing (World.voxel unlitChanger))).edits = [] ∧
          Behavior.changer.asked (World.voxel unlitChanger) ⟨0, 0, 0⟩ (.ofInt 0) =
            [.replaceBlock ⟨0, 0, 0⟩ .air 0] := by
  obtain ⟨circuit, compiled, look⟩ := Compilation.exists_ok
    (compile {} 0 (World.voxel unlitChanger) (ofMembers [⟨0, 0, 0⟩, ⟨1, 0, 0⟩]))
    (fun circuit => (Grid.inputsAt (World.voxel unlitChanger) circuit.graph ⟨0, 0, 0⟩,
      (circuit.evaluate (.editing (World.voxel unlitChanger))).netSignal (some ⟨0⟩),
      (Grid.inputsAt (World.voxel unlitChanger) circuit.graph ⟨0, 0, 0⟩).any
        (circuit.evaluate (.editing (World.voxel unlitChanger))) Direction.all,
      (Grid.inputsAt (World.voxel unlitChanger) circuit.graph ⟨0, 0, 0⟩).attached
        (circuit.evaluate (.editing (World.voxel unlitChanger))) Direction.all,
      (circuit.evaluate (.editing (World.voxel unlitChanger))).edits))
    ((⟨some ⟨0⟩, none, none, none, none, none⟩, .number (.ofInt 0), .null,
      .number (.ofInt 0), [])) (by decide +kernel)
  simp only [Prod.mk.injEq] at look
  obtain ⟨inputs, signal, acted, attached, edits⟩ := look
  exact ⟨circuit, compiled, inputs, signal, acted, attached, edits, by decide +kernel⟩

end Circuit

end VoxelCircuit

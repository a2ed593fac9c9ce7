import VoxelCircuit.Layout.Basic
import VoxelCircuit.Layout.EndlessChip
import VoxelCircuit.Proofs.Circuit.Evaluation
import VoxelCircuit.Proofs.Grid.Edits

/-! # What a refresh leaves in the grid

A refresh that succeeds makes the edits of one evaluation in the grid, and each cell takes
only the edits that its own block requests (`VoxelCircuit.Circuit.Turn.refresh_cell`).
Blocks that drive nothing are never demanded, so they have their turn after all nets that
they read, whatever circles there are among the nets; thus indicators show the signals
that the refresh ends with (`VoxelCircuit.Circuit.refresh_shows_final`).
-/

namespace VoxelCircuit

variable {γ : Type}

/-- Indicators aside, the behaviors that read on all faces. -/
def Behavior.ReadsOnly (behavior : Behavior) : Prop :=
  behavior = .rotator ∨ behavior = .changer ∨ behavior = .chipOutput

/-- A behavior that only reads is neither wire nor a chip. -/
theorem Behavior.ReadsOnly.active {behavior : Behavior} (readsOnly : behavior.ReadsOnly) :
    behavior ≠ .wire ∧ behavior ≠ .chip := by
  rcases readsOnly with rfl | rfl | rfl <;> decide

private theorem Behavior.ReadsOnly.role_eq {behavior : Behavior} (readsOnly : behavior.ReadsOnly)
    (direction : Direction) : behavior.role direction = .input := by
  rcases readsOnly with rfl | rfl | rfl <;> rfl

/-- A behavior that only reads drives no face. -/
theorem Behavior.ReadsOnly.sink {behavior : Behavior} (readsOnly : behavior.ReadsOnly)
    (direction : Direction) : (behavior.role direction).drives = false := by
  rw [readsOnly.role_eq, FaceRole.drives]

private theorem Behavior.ReadsOnly.reads {behavior : Behavior} (readsOnly : behavior.ReadsOnly)
    (direction : Direction) : (behavior.role direction).reads = true := by
  rw [readsOnly.role_eq, FaceRole.reads]

/-- A merge is truthy when one of its signals is. -/
theorem Signal.truthy_merge (signals : List Signal) :
    (merge signals).truthy = signals.any truthy := by
  have onward : ∀ first : Signal, (signals.foldl Signal.or first).truthy =
      (first.truthy || signals.any truthy) := by
    induction signals with
    | nil => simp
    | cons signal rest ih =>
        intro first
        rw [List.foldl_cons, ih, truthy_or, List.any_cons, Bool.or_assoc]
  rw [merge, onward]
  rfl

/-- Some net at a face of a block carries a truthy signal. -/
def NetGraph.LitAt (graph : NetGraph) (values : Values) (pos : Pos) : Prop :=
  ∃ direction id, graph.netAt ⟨pos, direction⟩ = some id ∧
    (values.get (.net id)).truthy = true

namespace Circuit

section Turn

variable [Grid γ] {grid : γ} {circuit : Circuit γ} {start now : EvalState γ} {pos : Pos}
  {earlier : List Target} {effect : Option (Effect γ)}

/-- What an indicator merges at its turn is truthy when a net at one of its faces is so at
the end. -/
theorem Turn.any_truthy_iff (turn : Turn grid circuit start (.block pos) effect earlier now)
    (merged : ∀ id, Grid.Reads grid circuit.graph pos id → .net id ∈ earlier)
    (there : Grid.behavior grid pos = some .indicator) :
    ((Grid.inputsAt grid circuit.graph pos).any now Direction.all).truthy = true ↔
      circuit.graph.LitAt (circuit.evaluate start).values pos := by
  have reads : ∀ direction, (Grid.inputsAt grid circuit.graph pos).get direction =
      circuit.graph.netAt ⟨pos, (Grid.orientation grid pos).transform direction⟩ :=
    Grid.get_inputsAt there fun _ => rfl
  rw [turn.any_eq merged, Inputs.any, Signal.truthy_merge, List.any_map, List.any_eq_true]
  constructor
  · intro shown
    obtain ⟨direction, _, lit⟩ := shown
    simp only [Function.comp, Inputs.signal] at lit
    cases attached : (Grid.inputsAt grid circuit.graph pos).get direction with
    | none => simp [attached, EvalState.netSignal, Signal.truthy] at lit
    | some id =>
        rw [attached] at lit
        exact ⟨_, id, (reads direction).symm.trans attached, lit⟩
  · intro shown
    obtain ⟨direction, id, attached, lit⟩ := shown
    refine ⟨(Grid.orientation grid pos).untransform direction, Direction.mem_all _, ?_⟩
    have found := reads ((Grid.orientation grid pos).untransform direction)
    rw [Orientation.transform_untransform, attached] at found
    simp only [Function.comp, Inputs.signal, found]
    exact lit

end Turn

section Refresh

variable {ω : Type} [EditableGrid ω] {circuit : Circuit (World ω)}
  {now after : VoxelGrid (World ω)} {edits : List Edit}

/-- A refresh that is done has made the edits of the evaluation, all of them accepted. -/
theorem refresh_ok (done : (circuit.refresh (.voxel now)).outcome = .ok edits) :
    edits = (circuit.evaluate (.editing (.voxel now))).edits ∧
      (∀ edit ∈ edits, now.Accepts edit) ∧
        ∃ after, (circuit.refresh (.voxel now)).grid = .voxel after ∧ now.Edited edits after := by
  unfold refresh at done ⊢
  simp only [EvalState.written] at done ⊢
  cases applied : EditableGrid.applyAll (World.voxel now)
      (circuit.evaluate (.editing (.voxel now))).edits with
  | mk world outcome =>
      cases outcome with
      | error error => simp [applied, Except.map] at done
      | ok =>
          simp only [applied, Except.map, Except.ok.injEq] at done
          subst done
          obtain ⟨accepts, edited⟩ := VoxelGrid.applyAll_ok applied
          exact ⟨rfl, accepts, edited⟩

/-- A refresh of which all edits are accepted is done. -/
theorem refresh_succeeds (accepts : ∀ edit ∈ (circuit.evaluate (.editing (.voxel now))).edits,
    now.Accepts edit) : (circuit.refresh (.voxel now)).outcome =
      .ok (circuit.evaluate (.editing (.voxel now))).edits := by
  obtain ⟨world, applied⟩ := VoxelGrid.applyAll_succeeds accepts
  simp only [refresh, EvalState.written, applied, Except.map]

/-- Each cell takes the edits that its own block requests at its turn. -/
theorem Turn.refresh_cell {grid : World ω} {pos : Pos} {current : Effect (World ω)}
    {earlier : List Target} {moment : EvalState (World ω)}
    (turn : Turn grid circuit (.editing (.voxel now)) (.block pos) (some current) earlier moment)
    (done : (circuit.refresh (.voxel now)).outcome = .ok edits)
    (left : (circuit.refresh (.voxel now)).grid = .voxel after) :
    after.cell pos = (current.response moment).edits.foldl Edit.cellAfter (now.cell pos) := by
  obtain ⟨rfl, _, other, same, edited⟩ := refresh_ok done
  obtain rfl : after = other := World.voxel.inj (left.symm.trans same)
  rw [edited.cell, turn.requested current rfl pos rfl]

/-- The request of an indicator leaves 1 or 0 in its cell. -/
theorem datum_after_indicate {state : EvalState (World ω)} (grids : state.grid = .voxel now)
    (allowed : state.allowEdits = true) (pos : Pos) (lit : Bool) :
    ((Behavior.indicate pos lit state).edits.foldl Edit.cellAfter (now.cell pos)).datum =
      if lit then 1 else 0 := by
  have read : Grid.datum state.grid pos = (now.cell pos).datum := by rw [grids]; rfl
  by_cases shown : (now.cell pos).datum = if lit then 1 else 0
  · simp only [Behavior.indicate, read, shown, allowed, ne_eq, not_true_eq_false, and_false,
      if_false]
    exact shown
  · simp only [Behavior.indicate, read, shown, allowed, ne_eq, not_false_eq_true, and_self,
      if_true]
    rfl

/-- **A refresh shows the final signals.** Whatever circles there are among the nets of a
compiled circuit, and whatever the grid has come to hold since: an indicator's datum is 1
after a refresh that succeeds if a net at one of its faces is truthy in the snapshot, and
otherwise 0; and whenever a rotator, a changer or a chip output is evaluated, each of the
nets at its faces has the signal that it has at the end. -/
theorem refresh_shows_final (now : VoxelGrid (World ω)) {options : CompileOptions} {depth : Nat}
    {grid : VoxelGrid (World ω)} {source : Circuit (World ω)}
    (compiled : (compile options depth (World.voxel grid) source).outcome = .ok circuit) :
    (∀ pos ∈ circuit.members, grid.behavior pos = some .indicator →
      ∀ edits, (circuit.refresh (.voxel now)).outcome = .ok edits →
        (circuit.graph.LitAt (circuit.refresh (.voxel now)).circuit.snapshot pos →
          Grid.datum (circuit.refresh (.voxel now)).grid pos = 1) ∧
        (¬circuit.graph.LitAt (circuit.refresh (.voxel now)).circuit.snapshot pos →
          Grid.datum (circuit.refresh (.voxel now)).grid pos = 0)) ∧
    (∀ pos ∈ circuit.members, ∀ behavior, grid.behavior pos = some behavior →
      behavior.ReadsOnly → ∃ before orientation inputs after,
        circuit.pipeline = before ++ .respond pos behavior orientation inputs :: after) ∧
    ∀ before pos behavior orientation inputs after,
      circuit.pipeline = before ++ .respond pos behavior orientation inputs :: after →
        behavior.ReadsOnly → ∀ start : EvalState (World ω), start.Fresh → ∀ direction id,
          circuit.graph.netAt ⟨pos, orientation.transform direction⟩ = some id →
            inputs.get direction = some id ∧
              (Effect.runAll before start).netSignal (some id) =
                (circuit.evaluate start).netSignal (some id) := by
  have made := (compile_ok compiled).2
  have demanded := Grid.demandOrder_demanded (Grid.graphOf_trace made.traced) circuit.members
  have fresh : (EvalState.editing (World.voxel now)).Fresh := ⟨rfl, rfl⟩
  refine ⟨fun pos member there edits done => ?_, fun pos member behavior there readsOnly => ?_, ?_⟩
  · obtain ⟨effect, earlier, moment, turn, merged⟩ :=
      made.turn_of_sink fresh (demanded.member pos member) there fun _ => rfl
    have realized := turn.realizes.respond_eq there (by decide) (by decide)
    subst realized
    obtain ⟨_, _, after, left, _⟩ := refresh_ok done
    have cell := turn.refresh_cell done left
    rw [Effect.response, Behavior.response] at cell
    have datum := datum_after_indicate turn.setting.1 turn.setting.2.1 pos
      ((Grid.inputsAt (World.voxel grid) circuit.graph pos).any moment Direction.all).truthy
    rw [← cell] at datum
    have lit := turn.any_truthy_iff merged there
    have read : Grid.datum (circuit.refresh (.voxel now)).grid pos = (after.cell pos).datum := by
      rw [left]
      rfl
    refine ⟨fun shows => ?_, fun dark => ?_⟩
    · rw [read, datum, if_pos (lit.mpr shows)]
    · rw [read, datum, if_neg fun shows => dark (lit.mp shows)]
  · obtain ⟨effect, earlier, moment, turn, _⟩ :=
      made.turn_of_sink fresh (demanded.member pos member) there readsOnly.sink
    obtain ⟨before, after, whole, _⟩ := turn.moment
    rw [turn.realizes.respond_eq there readsOnly.active.1 readsOnly.active.2] at whole
    exact ⟨before, _, _, after, whole⟩
  · intro before pos behavior orientation inputs after whole readsOnly start fresh direction
      net attached
    obtain ⟨effects, realized, pipeline⟩ := made.realized
    have member : .respond pos behavior orientation inputs ∈ effects.filterMap id := by
      rw [← pipeline, whole]
      exact List.mem_append_right _ List.mem_cons_self
    obtain ⟨target, listed, realizes⟩ := exists_target_of_mem realized member
    obtain rfl := realizes.target_eq
    cases realizes with
    | block there _ =>
        obtain ⟨effect, earlier, moment, turn, merged⟩ :=
          made.turn_of_sink fresh listed there readsOnly.sink
        obtain ⟨before', after', whole', same⟩ := turn.moment
        rw [turn.realizes.respond_eq there readsOnly.active.1 readsOnly.active.2] at whole'
        obtain rfl := made.split_unique whole whole'
        have reads := (Grid.get_inputsAt there readsOnly.reads direction).trans attached
        have signal := turn.signal_eq merged direction
        rw [Inputs.signal, Inputs.signal, reads] at signal
        exact ⟨reads, same ▸ signal⟩

/-- Four nor blocks in a ring, each reading the one before, an indicator and a rotator that
read two of them. -/
def inverterRing : VoxelGrid (World EndlessChip) :=
  ⟨⟨Layout.standardTypes⟩, .clamped 4 2 1,
    #[⟨⟨3⟩, .identity, 0⟩, ⟨⟨5⟩, .ofCodeWrapping 4, 0⟩, ⟨⟨5⟩, .identity, 0⟩, .air,
      .air, ⟨⟨5⟩, .identity, 0⟩, ⟨⟨5⟩, .ofCodeWrapping 4, 0⟩, ⟨⟨10⟩, .identity, 0⟩], rfl⟩

/-- The indicator of the ring is lit, and the rotator reads what its net carries at the end. -/
theorem inverterRing_shows_final :
    ∃ circuit, (compile {} 0 (World.voxel inverterRing) (ofMembers [⟨2, 0, 0⟩, ⟨0, 0, 0⟩,
        ⟨1, 0, 0⟩, ⟨1, 1, 0⟩, ⟨2, 1, 0⟩, ⟨3, 1, 0⟩])).outcome = .ok circuit ∧
      Grid.datum (circuit.refresh (.voxel inverterRing)).grid ⟨0, 0, 0⟩ = 1 ∧
        ∃ before orientation inputs after,
          circuit.pipeline = before ++ .respond ⟨3, 1, 0⟩ .rotator orientation inputs :: after ∧
            inputs.get (orientation.untransform .negX) = some ⟨2⟩ ∧
              (Effect.runAll before (.editing (World.voxel inverterRing))).netSignal (some ⟨2⟩) =
                (circuit.evaluate (.editing (World.voxel inverterRing))).netSignal (some ⟨2⟩) := by
  obtain ⟨circuit, compiled, look⟩ := Compilation.exists_ok
    (compile {} 0 (World.voxel inverterRing) (ofMembers [⟨2, 0, 0⟩, ⟨0, 0, 0⟩, ⟨1, 0, 0⟩,
      ⟨1, 1, 0⟩, ⟨2, 1, 0⟩, ⟨3, 1, 0⟩]))
    (fun circuit => (circuit.graph.netAt ⟨⟨0, 0, 0⟩, .posX⟩,
      circuit.graph.netAt ⟨⟨3, 1, 0⟩, .negX⟩,
      (circuit.refresh (.voxel inverterRing)).circuit.snapshot.get (.net ⟨20⟩),
      (circuit.evaluate (.editing (.voxel inverterRing))).edits))
    (some ⟨20⟩, some ⟨2⟩, .bool true, [.setDatum ⟨0, 0, 0⟩ 1, .setOrientation ⟨3, 1, 0⟩ ⟨1⟩])
    (by decide +kernel)
  simp only [Prod.mk.injEq] at look
  obtain ⟨lamp, turned, signal, edits⟩ := look
  have members : ∀ pos ∈ ([⟨0, 0, 0⟩, ⟨3, 1, 0⟩] : List Pos), pos ∈ circuit.members := by
    rw [(compile_ok compiled).1]
    decide +kernel
  have accepts : ∀ edit ∈ (circuit.evaluate (.editing (.voxel inverterRing))).edits,
      inverterRing.Accepts edit := by
    rw [edits]
    intro edit member
    rcases List.mem_pair.mp member with rfl | rfl <;> exact ⟨by decide, nofun⟩
  have done := refresh_succeeds accepts
  obtain ⟨shows, has, reads⟩ := refresh_shows_final inverterRing compiled
  refine ⟨circuit, compiled, ?_, ?_⟩
  · refine (shows ⟨0, 0, 0⟩ (members _ (by simp)) (by decide +kernel) _ done).1 ?_
    exact ⟨.posX, ⟨20⟩, lamp, by rw [signal]; rfl⟩
  · obtain ⟨before, orientation, inputs, after, whole⟩ :=
      has ⟨3, 1, 0⟩ (members _ (by simp)) .rotator (by decide +kernel) (Or.inl rfl)
    have read := reads before _ _ _ _ after whole (Or.inl rfl) (.editing (World.voxel inverterRing))
      ⟨rfl, rfl⟩ (orientation.untransform .negX) ⟨2⟩
      (by rwa [Orientation.transform_untransform])
    exact ⟨before, orientation, inputs, after, whole, read⟩

end Refresh

end Circuit

end VoxelCircuit

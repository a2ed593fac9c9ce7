import VoxelCircuit.Proofs.Circuit.PairedNets
import VoxelCircuit.Proofs.Circuit.TurnedResponse
import VoxelCircuit.Proofs.Circuit.Ownership
import VoxelCircuit.Proofs.Circuit.Reports
import VoxelCircuit.Proofs.Circuit.Success
import VoxelCircuit.Proofs.Net.Turned

/-! # Evaluation in turned grids

Where a motion takes the blocks of a voxel grid to those of another, it takes the circuits of
the one to those of the other. Their nets have other serial numbers and are demanded in another
order, and so they evaluate alike only where nothing depends on that: without junctions and
without feedback (`VoxelCircuit.Circuit.evaluate_turned`).
-/

namespace VoxelCircuit

variable {γ : Type} [Grid γ] {motion : Motion} {first second : γ}

/-- Two states hold the same for a block and the block that a motion takes it to: the same
signals on its faces, and the same requests, turns of the block aside. -/
structure EvalState.AgreeAt (motion : Motion) (first second : EvalState γ) (pos : Pos) : Prop where
  outputs : ∀ direction, first.values.get? (.output ⟨pos, direction⟩) =
    second.values.get? (.output (motion.face ⟨pos, direction⟩))
  plain : Edit.plain (second.edits.filter fun edit => edit.pos = motion.place pos) =
    (Edit.plain (first.edits.filter fun edit => edit.pos = pos)).map (Edit.moved motion)

/-- The chips of an enclosed grid are all in its circuits. -/
theorem Grid.mem_chips_of_enclosed {grid : γ} (enclosed : Grid.Enclosed grid) {pos : Pos}
    (chip : Grid.behavior grid pos = some .chip) : pos ∈ Grid.chips grid := by
  have beyond := Grid.activeBeyondWire_iff.mpr ⟨_, chip, rfl⟩
  obtain ⟨cluster, listed, member, _⟩ :=
    (Grid.mem_same_cluster_iff enclosed).mpr ⟨.refl, pos, .refl, beyond⟩
  exact Grid.mem_chips.mpr ⟨⟨cluster, listed, member⟩, chip⟩

/-- A block with an effect has a behavior. -/
theorem Effect.Realizes.active {grid : γ} {graph : NetGraph} {pos : Pos} {effect : Effect γ}
    (realizes : Effect.Realizes grid graph (.block pos) (some effect)) :
    Grid.active grid pos = true := by
  cases realizes with
  | block there | chip there => rw [Grid.active, there]; rfl

private theorem EvalState.Turned.of_setting {start again now later : EvalState γ}
    (turned : start.Turned motion again)
    (setting : now.grid = start.grid ∧ now.allowEdits = start.allowEdits ∧
      now.embedding = start.embedding)
    (settingAgain : later.grid = again.grid ∧ later.allowEdits = again.allowEdits ∧
      later.embedding = again.embedding) : now.Turned motion later where
  grid := by rw [setting.1, settingAgain.1]; exact turned.grid
  alone := by rw [setting.2.2, settingAgain.2.2]; exact turned.alone
  allowed := by rw [setting.2.1, settingAgain.2.1]; exact turned.allowed

namespace Circuit

/-- A motion takes the members of a circuit to those of another. -/
def MovedTo (motion : Motion) (circuit other : Circuit γ) : Prop :=
  ∀ pos, motion.place pos ∈ other.members ↔ pos ∈ circuit.members

variable {options : CompileOptions} {depth : Nat} {one other : Circuit γ}

/-- Two circuits of which one has the blocks of the other where a motion takes them. -/
structure Counterparts (motion : Motion) (options : CompileOptions) (depth : Nat)
    (first second : γ) (one other : Circuit γ) : Prop where
  turned : Grid.Turned motion first second
  plain : Plain options depth first one
  again : Plain options depth second other
  moved : MovedTo motion one other

namespace Counterparts

private theorem feeds_iff (counterparts : Counterparts motion options depth first second one other)
    {source pos : Pos} : Grid.Feeds second other.graph (motion.place source) (motion.place pos) ↔
      Grid.Feeds first one.graph source pos := by
  obtain ⟨turned, plain, again, moved⟩ := counterparts
  rw [plain.feeds_iff, again.feeds_iff, moved]
  refine and_congr_right fun _ => ?_
  rw [motion.face_surjective.exists]
  refine exists_congr fun driver => ?_
  rw [motion.face_surjective.exists]
  refine exists_congr fun reader => ?_
  rw [turned.links plain.enclosed again.enclosed]
  simp only [Motion.face, motion.place_inj]

private theorem withoutFeedback
    (counterparts : Counterparts motion options depth first second one other)
    (without : Grid.WithoutFeedback first one.graph) :
    Grid.WithoutFeedback second other.graph := by
  intro pos chain
  obtain ⟨source, rfl⟩ := motion.place_surjective pos
  exact without source ((motion.transGen_iff fun _ _ => counterparts.feeds_iff).mp chain)

variable {start again : EvalState γ}

/-- A block reads the same signals as the block that a motion takes it to, if the blocks that
feed them drive the same. -/
theorem signals (counterparts : Counterparts motion options depth first second one other)
    (without : Grid.WithoutFeedback first one.graph) (fresh : start.Fresh)
    (freshAgain : again.Fresh)
    {pos : Pos} (member : pos ∈ one.members) (present : Grid.active first pos = true)
    (agree : ∀ source, Grid.Feeds first one.graph source pos →
      EvalState.AgreeAt motion (one.evaluate start) (other.evaluate again) source)
    (direction : Direction) :
    (Grid.inputsAt first one.graph pos).signal (one.evaluate start) direction =
      (Grid.inputsAt second other.graph (motion.place pos)).signal (other.evaluate again)
        direction := by
  have moved : (⟨motion.place pos, (Grid.orientation second (motion.place pos)).transform
      direction⟩ : Face) = motion.face ⟨pos, (Grid.orientation first pos).transform direction⟩ := by
    rw [counterparts.turned.orientation pos present, Orientation.mul_transform]
    rfl
  have carries : ∀ driver, Grid.Links second (motion.face driver)
      (motion.face ⟨pos, (Grid.orientation first pos).transform direction⟩) ↔
        Grid.Links first driver ⟨pos, (Grid.orientation first pos).transform direction⟩ := fun _ =>
    counterparts.turned.links counterparts.plain.enclosed counterparts.again.enclosed
  by_cases driven : ∃ driver,
      Grid.Links first driver ⟨pos, (Grid.orientation first pos).transform direction⟩
  · obtain ⟨driver, links⟩ := driven
    have feeds := counterparts.plain.feeds_iff.mpr ⟨member, driver, _, links, rfl, rfl⟩
    rw [counterparts.plain.made.signal_of_links without.acyclic fresh counterparts.plain.pairs
        member links,
      counterparts.again.made.signal_of_links (counterparts.withoutFeedback without).acyclic
        freshAgain counterparts.again.pairs ((counterparts.moved pos).mpr member)
        (moved ▸ (carries driver).mpr links),
      Values.get, Values.get, (agree _ feeds).outputs driver.direction]
  · rw [counterparts.plain.made.signal_of_no_links counterparts.plain.pairs
        (fun driver links => driven ⟨driver, links⟩),
      counterparts.again.made.signal_of_no_links counterparts.again.pairs]
    intro driver links
    obtain ⟨source, rfl⟩ := motion.face_surjective driver
    rw [moved] at links
    exact driven ⟨source, (carries source).mp links⟩

/-- A block without effects agrees with the block that a motion takes it to, if that has none
either. -/
theorem agreeAt_idle (fresh : start.Fresh) (freshAgain : again.Fresh) {pos : Pos}
    (none : ∀ current ∈ one.pipeline, current.target ≠ .block pos)
    (noneAgain : ∀ current ∈ other.pipeline, current.target ≠ .block (motion.place pos)) :
    EvalState.AgreeAt motion (one.evaluate start) (other.evaluate again) pos := by
  obtain ⟨outputs, edits⟩ := idle_of_no_effect fresh none
  obtain ⟨outputsAgain, editsAgain⟩ := idle_of_no_effect freshAgain noneAgain
  refine ⟨fun direction => ?_, by rw [edits, editsAgain]; rfl⟩
  rw [outputs, Motion.face, outputsAgain]

/-- A block with an effect agrees with the block that a motion takes it to, if the blocks that
feed them do. -/
theorem agreeAt_effect (counterparts : Counterparts motion options depth first second one other)
    (without : Grid.WithoutFeedback first one.graph) (fresh : start.Fresh)
    (freshAgain : again.Fresh) (states : start.Turned motion again) (grids : start.grid = first)
    {pos : Pos} (member : pos ∈ one.members) (present : Grid.active first pos = true)
    (agree : ∀ source, Grid.Feeds first one.graph source pos →
      EvalState.AgreeAt motion (one.evaluate start) (other.evaluate again) source)
    {current currentAgain : Effect γ} (listed : current ∈ one.pipeline)
    (listedAgain : currentAgain ∈ other.pipeline) (mine : current.target = .block pos)
    (mineAgain : currentAgain.target = .block (motion.place pos))
    (moved : Effect.Moved motion (Grid.inputsAt first one.graph pos)
      (Grid.inputsAt second other.graph (motion.place pos)) current currentAgain) :
    EvalState.AgreeAt motion (one.evaluate start) (other.evaluate again) pos := by
  have ⟨_, plain, plainAgain, _⟩ := counterparts
  obtain ⟨now, settled⟩ :=
    plain.made.settled without.acyclic fresh (plain.free pos) listed mine
  obtain ⟨nowAgain, settledAgain⟩ := plainAgain.made.settled
    (counterparts.withoutFeedback without).acyclic freshAgain (plainAgain.free _) listedAgain
      mineAgain
  have same : (current.response now).Moved motion (currentAgain.response nowAgain) := by
    refine moved.response mine ?_ ?_ fun direction => ?_
    · exact states.of_setting settled.setting settledAgain.setting
    · rw [settled.setting.1, grids]
      exact present
    · rw [settled.signals, settledAgain.signals]
      exact counterparts.signals without fresh freshAgain member present agree direction
  refine ⟨fun direction => ?_, ?_⟩
  · rw [settled.written, Motion.face, settledAgain.written]
    apply Values.get?_setAll_moved same
    rw [settled.unwritten, Motion.face, settledAgain.unwritten]
  · rw [settled.requested, settledAgain.requested, same.plain]

/-- Without feedback counterparts agree, by induction on the blocks that feed a block. -/
theorem agreeAt (counterparts : Counterparts motion options depth first second one other)
    (without : Grid.WithoutFeedback first one.graph) (fresh : start.Fresh)
    (freshAgain : again.Fresh) (states : start.Turned motion again) (grids : start.grid = first)
    (pos : Pos) : EvalState.AgreeAt motion (one.evaluate start) (other.evaluate again) pos := by
  have ⟨turned, plain, plainAgain, places⟩ := counterparts
  induction pos using (without.wellFounded plain.graphOf).induction with
  | _ pos agree =>
    by_cases member : pos ∈ one.members
    · obtain ⟨source, compiled⟩ := plain.compiled
      obtain ⟨sourceAgain, compiledAgain⟩ := plainAgain.compiled
      obtain ⟨effect, found, listed⟩ := exists_member_effect compiled member
      obtain ⟨effectAgain, foundAgain, listedAgain⟩ :=
        exists_member_effect compiledAgain ((places pos).mpr member)
      have realizes := effectFor_ok found
      have realizesAgain := effectFor_ok foundAgain
      cases effectFor_turned turned found foundAgain with
      | none =>
          exact agreeAt_idle fresh freshAgain (plain.made.no_effect realizes)
            (plainAgain.made.no_effect realizesAgain)
      | some moved =>
          exact counterparts.agreeAt_effect without fresh freshAgain states grids member
            realizes.active agree (listed _ rfl) (listedAgain _ rfl) realizes.target_eq
              realizesAgain.target_eq moved
    · refine agreeAt_idle fresh freshAgain (fun current listed mine => ?_)
        fun current listed mine => ?_
      · exact member (plain.made.owns plain.closed current listed pos mine)
      · exact member ((places pos).mp
          (plainAgain.made.owns plainAgain.closed current listed _ mine))

end Counterparts

/-- If the circuits of a grid compile, then those of the grid turned do. -/
theorem compileAll_turned (turned : Grid.Turned motion first second)
    (enclosed : Grid.Enclosed first) (alsoEnclosed : Grid.Enclosed second)
    {circuits : List (Circuit γ)}
    (outcome : (compileAll options depth first).outcome = .ok circuits) :
    ∃ others, (compileAll options depth second).outcome = .ok others := by
  rw [compileAll_eq]
  refine Compilation.each_succeeds _ fun cluster listed => ?_
  obtain ⟨member, joined, _⟩ := List.any_eq_true.mp (List.mem_filter.mp listed).2
  refine compileWith_succeeds alsoEnclosed ?_ (mem_ofMembers.mpr joined)
  intro pos interior compile chip inside deeper
  obtain ⟨source, rfl⟩ := motion.place_surjective pos
  rw [turned.behavior] at chip
  rw [turned.interior] at inside
  by_cases room : depth < options.maxEmbedDepth
  · rw [if_pos room] at deeper
    cases deeper
    exact interior_compiles outcome room (Grid.mem_chips_of_enclosed enclosed chip) inside
  · rw [if_neg room] at deeper
    cases deeper

/-- **Turning a grid turns what it does.** Let one voxel grid have the blocks of another where
a motion takes them, turned along, and no others, and let there be no junctions. If the circuits
of the one compile, then so do those of the other, and each has a counterpart there. Evaluating
a circuit without feedback and its counterpart on fresh states of their grids ends with the same
signals on each face of a block and the face that the motion takes it to, and with the same
requests for the block and the one that the motion takes it to, except for those that turn it. -/
theorem evaluate_turned {ω : Type} [Grid ω] {grid other : VoxelGrid (World ω)}
    (into : VoxelGrid.TurnedInto motion grid other)
    (free : ∀ pos, grid.behavior pos ≠ some .junction) {circuits : List (Circuit (World ω))}
    (outcome : (compileAll options depth (World.voxel grid)).outcome = .ok circuits) :
    ∃ others, (compileAll options depth (World.voxel other)).outcome = .ok others ∧
      ∀ circuit ∈ circuits, (∃ counterpart ∈ others, MovedTo motion circuit counterpart) ∧
        ∀ counterpart ∈ others, MovedTo motion circuit counterpart →
          Grid.WithoutFeedback (World.voxel grid) circuit.graph → ∀ allowed pos,
            EvalState.AgreeAt motion
              (circuit.evaluate ⟨.voxel grid, allowed, none, .empty, []⟩)
              (counterpart.evaluate ⟨.voxel other, allowed, none, .empty, []⟩) pos := by
  have turned := into.turned
  have enclosed := Grid.enclosed_voxel grid
  have alsoEnclosed := Grid.enclosed_voxel other
  have alsoFree : ∀ pos, other.behavior pos ≠ some .junction := by
    intro pos
    obtain ⟨source, rfl⟩ := motion.place_surjective pos
    exact fun junction => free source ((turned.behavior source).symm.trans junction)
  obtain ⟨others, again⟩ := compileAll_turned turned enclosed alsoEnclosed outcome
  refine ⟨others, again, fun circuit listed => ?_⟩
  obtain ⟨cluster, clustered, compiled⟩ := (mem_compileAll outcome).1 circuit listed
  obtain ⟨plain, members⟩ := plain_of_cluster free clustered compiled
  constructor
  · obtain ⟨image, imaged, same⟩ := turned.exists_cluster enclosed alsoEnclosed clustered
    obtain ⟨counterpart, found, compiledAgain⟩ := (mem_compileAll again).2 image imaged
    refine ⟨counterpart, found, fun pos => ?_⟩
    rw [(plain_of_cluster alsoFree imaged compiledAgain).2, same, members]
  · intro counterpart found moved without allowed pos
    obtain ⟨image, imaged, compiledAgain⟩ := (mem_compileAll again).1 counterpart found
    have plainAgain := (plain_of_cluster alsoFree imaged compiledAgain).1
    have counterparts : Counterparts motion options depth (World.voxel grid) (World.voxel other)
        circuit counterpart := ⟨turned, plain, plainAgain, moved⟩
    have states : EvalState.Turned motion
        ⟨World.voxel grid, allowed, none, .empty, []⟩
        ⟨World.voxel other, allowed, none, .empty, []⟩ :=
      ⟨turned, ⟨rfl, rfl⟩, rfl⟩
    exact counterparts.agreeAt without ⟨rfl, rfl⟩ ⟨rfl, rfl⟩ states rfl pos

/-- A quarter turn about +Z, and a step along +X. -/
def quarterTurn : Motion := ⟨.ofCodeWrapping 6, ⟨1, 0, 0⟩⟩

/-- The inverted pad after a quarter turn. -/
def turnedPad : VoxelGrid (World EndlessChip) :=
  ⟨⟨Layout.standardTypes⟩, .clamped 2 2 1,
    #[.air, ⟨⟨2⟩, .ofCodeWrapping 6, 0⟩, ⟨⟨3⟩, .ofCodeWrapping 6, 0⟩,
      ⟨⟨5⟩, .ofCodeWrapping 6, 0⟩], rfl⟩

/-- A pad, a nor block and an indicator do the same after a quarter turn. -/
theorem invertedPad_turned :
    VoxelGrid.TurnedInto quarterTurn invertedPad turnedPad ∧
      (∀ pos, invertedPad.behavior pos ≠ some .junction) ∧
      ∃ circuit circuits others,
        (compileAll {} 0 (World.voxel invertedPad)).outcome = .ok circuits ∧ circuit ∈ circuits ∧
        (compileAll {} 0 (World.voxel turnedPad)).outcome = .ok others ∧
        Grid.WithoutFeedback (World.voxel invertedPad) circuit.graph ∧
        ∃ counterpart ∈ others, MovedTo quarterTurn circuit counterpart ∧ ∀ pos,
          EvalState.AgreeAt quarterTurn (circuit.evaluate (.editing (.voxel invertedPad)))
            (counterpart.evaluate (.editing (.voxel turnedPad))) pos := by
  have into : VoxelGrid.TurnedInto quarterTurn invertedPad turnedPad :=
    .of_cells rfl (by decide +kernel) (by decide +kernel)
  have free : ∀ pos, invertedPad.behavior pos ≠ some .junction := by
    intro pos junction
    by_cases inside : pos ∈ invertedPad.bounds
    · have each : ∀ pos ∈ invertedPad.bounds.positions,
          invertedPad.behavior pos ≠ some .junction := by decide +kernel
      exact each pos (Box.mem_positions.mpr inside) junction
    · rw [VoxelGrid.behavior_of_not_mem inside] at junction
      cases junction
  obtain ⟨circuits, outcome, seen⟩ := Compilation.exists_ok
    (compileAll {} 0 (World.voxel invertedPad))
    (fun circuits => decide (circuits ≠ [] ∧ ∀ circuit ∈ circuits,
      ∀ driver ∈ circuit.graph.attachments.entries,
        ∀ reader ∈ circuit.graph.attachments.entries, driver.2 = reader.2 →
          (Grid.roleAt (World.voxel invertedPad) driver.1).drives = true →
            (Grid.roleAt (World.voxel invertedPad) reader.1).reads = true →
              (driver.1.pos.x + driver.1.pos.y).toNat < (reader.1.pos.x + reader.1.pos.y).toNat))
    true (by decide +kernel)
  obtain ⟨some, ranked⟩ := of_decide_eq_true seen
  obtain ⟨circuit, listed⟩ := List.exists_mem_of_ne_nil circuits some
  have without : Grid.WithoutFeedback (World.voxel invertedPad) circuit.graph :=
    Grid.withoutFeedback_of_attachments (fun pos => (pos.x + pos.y).toNat) (ranked circuit listed)
  obtain ⟨others, again, turned⟩ := evaluate_turned into free outcome
  obtain ⟨⟨counterpart, found, moved⟩, agree⟩ := turned circuit listed
  exact ⟨into, free, circuit, circuits, others, outcome, listed, again, without, counterpart, found,
    moved, agree counterpart found moved without true⟩

end Circuit

end VoxelCircuit

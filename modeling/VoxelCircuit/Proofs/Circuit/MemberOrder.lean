import VoxelCircuit.Layout.Basic
import VoxelCircuit.Layout.EndlessChip
import VoxelCircuit.Proofs.Circuit.Congruence
import VoxelCircuit.Proofs.Circuit.PairedNets
import VoxelCircuit.Proofs.Circuit.Publishing
import VoxelCircuit.Proofs.Circuit.Success

/-! # The order of the members

The blocks of a cluster may join a circuit in any order. The order shows in the serial numbers of
the nets, in the members of each net and in the pipeline. Without junctions it does not show in
which faces are on one net (`VoxelCircuit.Grid.NetsPair.together_iff`). Without feedback it does
not show in the signals either: what a block drives follows from what the blocks drive that feed
it, and those are the same (`VoxelCircuit.Circuit.Reordered.equalAt`).
-/

namespace VoxelCircuit

open Relation

variable {γ : Type} [Grid γ] {grid : γ}

/-- Two faces are on one net. -/
def NetGraph.Together (graph : NetGraph) (face other : Face) : Prop :=
  ∃ id, graph.netAt face = some id ∧ graph.netAt other = some id

private theorem NetGraph.isSome_netAt {graph : NetGraph} {face : Face} :
    (graph.netAt face).isSome ↔ graph.Together face face := by
  simp only [Option.isSome_iff_exists, Together, and_self]

/-- Two states hold the same for a block: the same signals on its faces and the same requests in
the same order. -/
structure EvalState.EqualAt (first second : EvalState γ) (pos : Pos) : Prop where
  outputs : ∀ direction, first.values.get? (.output ⟨pos, direction⟩) =
    second.values.get? (.output ⟨pos, direction⟩)
  edits : first.edits.filter (fun edit => edit.pos = pos) =
    second.edits.filter fun edit => edit.pos = pos

namespace Signal

/-- Whether a merge is there, and whether it is truthy, depends on which signals are merged and
not on how often or in which order. -/
theorem map_truthy_mergePresent {one other : List Signal}
    (same : ∀ signal, signal ∈ one ↔ signal ∈ other) :
    (mergePresent one).map truthy = (mergePresent other).map truthy := by
  have anyTruthy : one.any truthy = other.any truthy := by
    rw [Bool.eq_iff_iff, List.any_eq_true, List.any_eq_true]
    simp only [same]
  have vacant : one = [] ↔ other = [] := by
    simp only [List.eq_nil_iff_forall_not_mem, same]
  rw [← truthy_mergePresent, ← truthy_mergePresent] at anyTruthy
  rw [← mergePresent_eq_none, ← mergePresent_eq_none] at vacant
  cases first : mergePresent one with
  | none => rw [vacant.mp first]
  | some signal =>
      cases second : mergePresent other with
      | none => rw [vacant.mpr second] at first; cases first
      | some _ =>
          rw [first, second, Option.any_some, Option.any_some] at anyTruthy
          rw [Option.map_some, Option.map_some, anyTruthy]

end Signal

namespace Grid

variable {members : List Pos} {graph : NetGraph}

/-- Which faces are on one net can be read off the grid and the members. -/
theorem NetsPair.together_iff (pairs : NetsPair grid members graph) (graphOf : GraphOf grid graph)
    (among : ∀ face id, graph.netAt face = some id → face.pos ∈ members) {face other : Face} :
    graph.Together face other ↔ ∃ driver reader, Links grid driver reader ∧
      driver.pos ∈ members ∧ reader.pos ∈ members ∧
        (face = driver ∨ face = reader) ∧ (other = driver ∨ other = reader) := by
  constructor
  · rintro ⟨id, faceAt, otherAt⟩
    obtain ⟨net, kept⟩ := graphOf.kept faceAt
    obtain ⟨driver, reader, links, _, both⟩ := pairs.pair id net kept
    exact ⟨driver, reader, links, among _ id ((both driver).mpr (Or.inl rfl)),
      among _ id ((both reader).mpr (Or.inr rfl)), (both face).mp faceAt, (both other).mp otherAt⟩
  · rintro ⟨driver, reader, links, member, _, first, second⟩
    obtain ⟨id, driverAt, readerAt⟩ := pairs.joined driver reader links (Or.inl member)
    refine ⟨id, ?_, ?_⟩
    · rcases first with rfl | rfl
      · exact driverAt
      · exact readerAt
    · rcases second with rfl | rfl
      · exact driverAt
      · exact readerAt

end Grid

namespace Circuit

variable {options : CompileOptions} {depth : Nat}

/-- The effect of a block that is found for one net graph is found for every net graph, and differs
in nothing but the nets that it reads. -/
theorem effectFor_rewired {deeper : Option (γ → Compilation (List (Circuit γ)))}
    {graph : NetGraph} {pos : Pos} {effect : Option (Effect γ)}
    (found : (effectFor options deeper grid graph (.block pos)).outcome = .ok effect)
    (graphs : NetGraph) :
    ∃ other, (effectFor options deeper grid graphs (.block pos)).outcome = .ok other ∧
      Option.Rel (Effect.Rewired (Grid.inputsAt grid graph pos) (Grid.inputsAt grid graphs pos))
        effect other := by
  cases targetCase options deeper grid (.block pos) with
  | idle passive =>
      rw [effectFor_idle passive] at found
      cases found
      exact ⟨none, by rw [effectFor_idle passive]; rfl, .none⟩
  | plain there active notChip =>
      rw [effectFor_plain there active notChip] at found
      cases found
      exact ⟨_, by rw [effectFor_plain there active notChip]; rfl, .some (.respond ..)⟩
  | skipped chip skips =>
      rw [effectFor_skipped chip skips] at found
      cases found
      exact ⟨_, by rw [effectFor_skipped chip skips]; rfl, .some (.respond ..)⟩
  | entered chip holds given =>
      subst given
      rw [effectFor_entered chip holds] at found
      obtain ⟨circuits, nested, done⟩ := Compilation.andThen_ok.mp found
      cases done
      refine ⟨_, ?_, .some (.chip ..)⟩
      rw [effectFor_entered chip holds]
      exact Compilation.andThen_ok.mpr ⟨circuits, nested, rfl⟩

/-- Two plain circuits of one cluster. -/
structure Reordered (options : CompileOptions) (depth : Nat) (grid : γ) (one other : Circuit γ) :
    Prop where
  plain : Plain options depth grid one
  again : Plain options depth grid other
  members : ∀ pos, pos ∈ other.members ↔ pos ∈ one.members

namespace Reordered

variable {one other : Circuit γ} {start : EvalState γ}
  (reordered : Reordered options depth grid one other)
include reordered

/-- The same faces are on one net. -/
theorem together_iff {face partner : Face} :
    other.graph.Together face partner ↔ one.graph.Together face partner := by
  obtain ⟨plain, again, members⟩ := reordered
  rw [plain.pairs.together_iff plain.graphOf plain.among,
    again.pairs.together_iff again.graphOf again.among]
  simp only [members]

private theorem feeds_iff {source pos : Pos} :
    Grid.Feeds grid other.graph source pos ↔ Grid.Feeds grid one.graph source pos := by
  rw [reordered.plain.feeds_iff, reordered.again.feeds_iff, reordered.members]

private theorem withoutFeedback (without : Grid.WithoutFeedback grid one.graph) :
    Grid.WithoutFeedback grid other.graph := fun pos chain =>
  without pos (chain.lift id fun _ _ => reordered.feeds_iff.mp)

/-- A block reads the same signals in both circuits, if the blocks that feed it drive the same. -/
theorem signals (without : Grid.WithoutFeedback grid one.graph) (fresh : start.Fresh) {pos : Pos}
    (member : pos ∈ one.members)
    (equal : ∀ source, Grid.Feeds grid one.graph source pos →
      EvalState.EqualAt (one.evaluate start) (other.evaluate start) source)
    (direction : Direction) :
    (Grid.inputsAt grid one.graph pos).signal (one.evaluate start) direction =
      (Grid.inputsAt grid other.graph pos).signal (other.evaluate start) direction := by
  have withoutAgain := reordered.withoutFeedback without
  obtain ⟨plain, again, members⟩ := reordered
  by_cases driven : ∃ driver,
      Grid.Links grid driver ⟨pos, (Grid.orientation grid pos).transform direction⟩
  · obtain ⟨driver, links⟩ := driven
    have feeds := plain.feeds_iff.mpr ⟨member, driver, _, links, rfl, rfl⟩
    rw [plain.made.signal_of_links without.acyclic fresh plain.pairs member links,
      again.made.signal_of_links withoutAgain.acyclic fresh again.pairs ((members pos).mpr member)
        links,
      Values.get, Values.get, (equal _ feeds).outputs driver.direction]
  · have none := fun driver links => driven ⟨driver, links⟩
    rw [plain.made.signal_of_no_links plain.pairs none,
      again.made.signal_of_no_links again.pairs none]

/-- A block does the same in both circuits, if the blocks that feed it drive the same. -/
theorem equalAt_effect (without : Grid.WithoutFeedback grid one.graph) (fresh : start.Fresh)
    {pos : Pos} (member : pos ∈ one.members)
    (equal : ∀ source, Grid.Feeds grid one.graph source pos →
      EvalState.EqualAt (one.evaluate start) (other.evaluate start) source)
    {current currentAgain : Effect γ} (listed : current ∈ one.pipeline)
    (listedAgain : currentAgain ∈ other.pipeline) (mine : current.target = .block pos)
    (mineAgain : currentAgain.target = .block pos)
    (rewired : Effect.Rewired (Grid.inputsAt grid one.graph pos)
      (Grid.inputsAt grid other.graph pos) current currentAgain) :
    EvalState.EqualAt (one.evaluate start) (other.evaluate start) pos := by
  obtain ⟨now, settled⟩ := reordered.plain.made.settled without.acyclic fresh
    (reordered.plain.free pos) listed mine
  obtain ⟨nowAgain, settledAgain⟩ := reordered.again.made.settled
    (reordered.withoutFeedback without).acyclic fresh (reordered.again.free pos) listedAgain
      mineAgain
  have setting : now.SameSetting nowAgain :=
    EvalState.SameSetting.trans settled.setting (EvalState.SameSetting.symm settledAgain.setting)
  obtain ⟨driven, edits⟩ := rewired.response setting fun direction => by
    rw [settled.signals, settledAgain.signals]
    exact reordered.signals without fresh member equal direction
  refine ⟨fun direction => ?_, ?_⟩
  · rw [settled.written, settledAgain.written, Values.get?_setAll_output,
      Values.get?_setAll_output, driven, settled.unwritten, settledAgain.unwritten]
  · rw [settled.requested, settledAgain.requested, edits]

/-- Without feedback both circuits leave the same for each block, by induction on the blocks that
feed it. -/
theorem equalAt (without : Grid.WithoutFeedback grid one.graph) (fresh : start.Fresh) (pos : Pos) :
    EvalState.EqualAt (one.evaluate start) (other.evaluate start) pos := by
  have ⟨plain, again, members⟩ := reordered
  have idle : ∀ {pos}, (∀ current ∈ one.pipeline, current.target ≠ .block pos) →
      (∀ current ∈ other.pipeline, current.target ≠ .block pos) →
        EvalState.EqualAt (one.evaluate start) (other.evaluate start) pos := by
    intro pos none noneAgain
    obtain ⟨outputs, edits⟩ := idle_of_no_effect fresh none
    obtain ⟨outputsAgain, editsAgain⟩ := idle_of_no_effect fresh noneAgain
    exact ⟨fun direction => by rw [outputs, outputsAgain], by rw [edits, editsAgain]⟩
  induction pos using (without.wellFounded plain.graphOf).induction with
  | _ pos equal =>
    by_cases member : pos ∈ one.members
    · obtain ⟨_, compiled⟩ := plain.compiled
      obtain ⟨_, compiledAgain⟩ := again.compiled
      obtain ⟨effect, found, listed⟩ := exists_member_effect compiled member
      obtain ⟨effectAgain, foundAgain, listedAgain⟩ :=
        exists_member_effect compiledAgain ((members pos).mpr member)
      have realizes := effectFor_ok found
      have realizesAgain := effectFor_ok foundAgain
      obtain ⟨_, same, rewired⟩ := effectFor_rewired found other.graph
      rw [foundAgain] at same
      cases same
      cases rewired with
      | none => exact idle (plain.made.no_effect realizes) (again.made.no_effect realizesAgain)
      | some rewired =>
          exact reordered.equalAt_effect without fresh member equal (listed _ rfl)
            (listedAgain _ rfl) realizes.target_eq realizesAgain.target_eq rewired
    · refine idle (fun current listed mine => ?_) fun current listed mine => ?_
      · exact member (plain.made.owns plain.closed current listed pos mine)
      · exact member ((members pos).mp (again.made.owns again.closed current listed pos mine))

/-- A chip output reads the same on a face in both circuits, or has no net there in both. -/
theorem told_eq (without : Grid.WithoutFeedback grid one.graph) (fresh : start.Fresh) {pos : Pos}
    (member : pos ∈ one.members) (there : Grid.behavior grid pos = some .chipOutput)
    (direction : Direction) :
    ((one.graph.netAt ⟨pos, direction⟩).map fun id => (one.evaluate start).values.get (.net id)) =
      (other.graph.netAt ⟨pos, direction⟩).map fun id =>
        (other.evaluate start).values.get (.net id) := by
  have signals := reordered.signals without fresh member
    (fun source _ => reordered.equalAt without fresh source)
    ((Grid.orientation grid pos).untransform direction)
  rw [Inputs.signal, Inputs.signal, Grid.get_inputsAt there fun _ => rfl,
    Grid.get_inputsAt there fun _ => rfl, Orientation.transform_untransform] at signals
  have attached : (other.graph.netAt ⟨pos, direction⟩).isSome ↔
      (one.graph.netAt ⟨pos, direction⟩).isSome := by
    rw [NetGraph.isSome_netAt, NetGraph.isSome_netAt, reordered.together_iff]
  cases first : one.graph.netAt ⟨pos, direction⟩ <;>
    cases second : other.graph.netAt ⟨pos, direction⟩ <;>
      simp_all [EvalState.netSignal]

/-- What is published on a face is there in both circuits, or in neither, and is truthy in both,
or in neither. -/
theorem published (without : Grid.WithoutFeedback grid one.graph) (fresh : start.Fresh)
    (direction : Direction) :
    ((one.evaluate start).values.get? (.published direction)).map Signal.truthy =
      ((other.evaluate start).values.get? (.published direction)).map Signal.truthy := by
  have ⟨plain, again, members⟩ := reordered
  have blocks : ∀ {circuit : Circuit γ}, Plain options depth grid circuit → ∀ pos,
      pos ∈ circuit.inTurn grid .chipOutput ↔
        pos ∈ circuit.members ∧ Grid.behavior grid pos = some .chipOutput := fun plain _ =>
    plain.made.mem_inTurn (plain.made.owns plain.closed) (by decide)
  rw [plain.made.published_eq fresh, again.made.published_eq fresh]
  refine Signal.map_truthy_mergePresent fun signal => ?_
  simp only [outputSignals, List.mem_filterMap, blocks plain, blocks again, members]
  refine exists_congr fun pos => and_congr_right fun among => ?_
  rw [reordered.told_eq without fresh among.1 among.2]

end Reordered

/-- If a circuit of a closed set of members compiles, then so does every circuit of these. -/
theorem compile_of_same_members {source again circuit : Circuit γ} (enclosed : Grid.Enclosed grid)
    (closed : Grid.Closed grid source.members)
    (members : ∀ pos, pos ∈ again.members ↔ pos ∈ source.members) {member : Pos}
    (joined : member ∈ source.members)
    (compiled : (compile options depth grid source).outcome = .ok circuit) :
    ∃ other, (compile options depth grid again).outcome = .ok other := by
  have same := (compile_ok compiled).1
  refine compileWith_of_effects enclosed (fun graph traced target demanded => ?_)
    ((members member).mpr joined)
  cases target with
  | net id => exact ⟨_, rfl⟩
  | block pos =>
      have among := Grid.demandOrder_among (closed.congr members) (fun _ listed => listed) traced
        demanded
      obtain ⟨effect, found, _⟩ := exists_member_effect compiled (same ▸ (members pos).mp among)
      obtain ⟨other, again, _⟩ := effectFor_rewired found graph
      exact ⟨other, again⟩

/-- **Member order does not matter.** In a voxel grid without junctions, take the blocks of a
cluster in two orders. Their circuits compile if the grids inside the chips are voxel grids, and
where the one compiles so does the other. The same faces are on one net in both. If no chain of
blocks, each feeding the next, returns to its start, then evaluating both on a fresh state leaves
the same signals on the faces of each block and the same requests for it in the same order, and
what is published on a face is there and truthy in both or in neither. -/
theorem evaluate_reordered {ω : Type} [Grid ω] (options : CompileOptions) (depth : Nat)
    {grid : VoxelGrid (World ω)}
    (free : ∀ pos, grid.behavior pos ≠ some .junction) {cluster one other : List Pos}
    (listed : cluster ∈ Grid.clusters (World.voxel grid)) (first : one.Perm cluster)
    (second : other.Perm cluster) :
    (World.Voxels (options.maxEmbedDepth - depth) (.voxel grid) → ∃ circuit,
      (compile options depth (World.voxel grid) (ofMembers one)).outcome = .ok circuit) ∧
    ∀ circuit, (compile options depth (World.voxel grid) (ofMembers one)).outcome = .ok circuit →
      ∃ counterpart,
        (compile options depth (World.voxel grid) (ofMembers other)).outcome = .ok counterpart ∧
        (∀ face partner,
          counterpart.graph.Together face partner ↔ circuit.graph.Together face partner) ∧
        (Grid.WithoutFeedback (World.voxel grid) circuit.graph → ∀ start : EvalState (World ω),
          start.Fresh →
            (∀ pos, EvalState.EqualAt (circuit.evaluate start) (counterpart.evaluate start) pos) ∧
            ∀ direction,
              ((circuit.evaluate start).values.get? (.published direction)).map Signal.truthy =
                ((counterpart.evaluate start).values.get? (.published direction)).map
                  Signal.truthy) := by
  have closed := (Grid.clusters_closed listed).1
  obtain ⟨member, joined, _⟩ := List.any_eq_true.mp (List.mem_filter.mp listed).2
  have members : ∀ {list : List Pos}, list.Perm cluster → ∀ pos,
      pos ∈ (ofMembers list : Circuit (World ω)).members ↔ pos ∈ cluster := fun order pos => by
    rw [mem_ofMembers, order.mem_iff]
  refine ⟨compile_succeeds ((members first member).mpr joined), fun circuit compiled => ?_⟩
  obtain ⟨counterpart, again⟩ := compile_of_same_members (Grid.enclosed_voxel grid)
    (closed.congr (members first))
    (fun pos => (members second pos).trans (members first pos).symm)
    ((members first member).mpr joined) compiled
  obtain ⟨plain, mine⟩ := plain_of_order free listed first compiled
  obtain ⟨plainAgain, others⟩ := plain_of_order free listed second again
  have reordered : Reordered options depth (World.voxel grid) circuit counterpart :=
    ⟨plain, plainAgain, fun pos => (others pos).trans (mine pos).symm⟩
  refine ⟨counterpart, again, fun _ _ => reordered.together_iff, fun without start fresh => ?_⟩
  exact ⟨reordered.equalAt without fresh, reordered.published without fresh⟩

/-- A pad behind a gate, another pad that opens the gate, a chip output in front of it and an
indicator beside the second pad. -/
def gatedRow : VoxelGrid (World EndlessChip) :=
  ⟨⟨Layout.standardTypes⟩, .clamped 3 2 1,
    #[⟨⟨2⟩, .identity, 7⟩, ⟨⟨6⟩, .identity, 0⟩, ⟨⟨12⟩, .identity, 0⟩,
      .air, ⟨⟨2⟩, .identity, 1⟩, ⟨⟨3⟩, .identity, 0⟩], rfl⟩

/-- The blocks of the gated row in the order in which they are found. -/
def gatedBlocks : List Pos :=
  [⟨0, 0, 0⟩, ⟨1, 0, 0⟩, ⟨2, 0, 0⟩, ⟨1, 1, 0⟩, ⟨2, 1, 0⟩]

/-- The gated row publishes its first datum, and something truthy if its blocks join in the
opposite order; the indicator is lit in both. -/
theorem gatedRow_reordered :
    gatedBlocks ∈ Grid.clusters (World.voxel gatedRow) ∧ ∃ circuit counterpart,
      (compile {} 0 (World.voxel gatedRow) (ofMembers gatedBlocks)).outcome = .ok circuit ∧
      (compile {} 0 (World.voxel gatedRow) (ofMembers gatedBlocks.reverse)).outcome =
        .ok counterpart ∧
      Grid.WithoutFeedback (World.voxel gatedRow) circuit.graph ∧
      let one := circuit.evaluate (.editing (.voxel gatedRow))
      let other := counterpart.evaluate (.editing (.voxel gatedRow))
      one.values.get? (.published .negX) = some (.number (.ofInt 7)) ∧
        (other.values.get? (.published .negX)).map Signal.truthy = some true ∧
        one.edits = [.setDatum ⟨2, 1, 0⟩ 1] ∧
        other.edits.filter (fun edit => edit.pos = ⟨2, 1, 0⟩) = [.setDatum ⟨2, 1, 0⟩ 1] := by
  have free : ∀ pos, gatedRow.behavior pos ≠ some .junction :=
    Grid.free_of_positions (by decide +kernel)
  have listed : gatedBlocks ∈ Grid.clusters (World.voxel gatedRow) := by decide +kernel
  have flat : ∀ type ∈ gatedRow.catalog.types, type.interior = none := by decide +kernel
  obtain ⟨compiles, reordered⟩ := evaluate_reordered {} 0 free listed (.refl _)
    gatedBlocks.reverse_perm
  obtain ⟨circuit, compiled⟩ := compiles (World.voxels_of_flat flat _)
  obtain ⟨counterpart, again, _, same⟩ := reordered circuit compiled
  have seen : ((compile {} 0 (World.voxel gatedRow) (ofMembers gatedBlocks)).outcome.toOption.map
      fun circuit => decide ((∀ driver ∈ circuit.graph.attachments.entries,
        ∀ reader ∈ circuit.graph.attachments.entries, driver.2 = reader.2 →
          (Grid.roleAt (World.voxel gatedRow) driver.1).drives = true →
            (Grid.roleAt (World.voxel gatedRow) reader.1).reads = true →
              (2 * driver.1.pos.x - driver.1.pos.y).toNat <
                (2 * reader.1.pos.x - reader.1.pos.y).toNat) ∧
        (circuit.evaluate (.editing (.voxel gatedRow))).values.get? (.published .negX) =
          some (.number (.ofInt 7)) ∧
        (circuit.evaluate (.editing (.voxel gatedRow))).edits = [.setDatum ⟨2, 1, 0⟩ 1])) =
      some true := by
    decide +kernel
  rw [compiled, Except.toOption, Option.map_some, Option.some.injEq] at seen
  obtain ⟨ranked, shown, asked⟩ := of_decide_eq_true seen
  have without : Grid.WithoutFeedback (World.voxel gatedRow) circuit.graph :=
    Grid.withoutFeedback_of_attachments (fun pos => (2 * pos.x - pos.y).toNat) ranked
  obtain ⟨equal, published⟩ := same without (.editing (.voxel gatedRow)) ⟨rfl, rfl⟩
  refine ⟨listed, circuit, counterpart, compiled, again, without, shown, ?_, asked, ?_⟩
  · rw [← published .negX, shown]
    rfl
  · rw [← (equal ⟨2, 1, 0⟩).edits, asked]
    rfl

end Circuit

end VoxelCircuit

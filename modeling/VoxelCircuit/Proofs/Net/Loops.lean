import Mathlib.Data.List.Chain
import VoxelCircuit.Proofs.Net.Coverage

/-! # Junctions off loops

The pending branches of a trace form a path: each block was come to by a run from the
one below it. So a junction is come to again before it is done with only if it lies on a
loop, and for another net only if some block of the loop is no junction. Where no
junction lies on such a loop, the nets cover what is joined
(`VoxelCircuit.Grid.netsCover_of_no_loop`).
-/

namespace VoxelCircuit

namespace Grid

open Relation

variable {γ : Type} [Grid γ]

/-- A run leads from one block to another, and neither is the one that is avoided. -/
def StepsAround (grid : γ) (avoided first second : Pos) : Prop :=
  first ≠ avoided ∧ second ≠ avoided ∧
    ∃ direction target, facing? grid ⟨first, direction⟩ = some target ∧ target.pos = second

/-- Runs lead from one face of a block to another around the block itself, and through
some block that is no junction. -/
def OnLoop (grid : γ) (pos : Pos) : Prop :=
  ∃ out into departure arrival via, out ≠ into ∧
    facing? grid ⟨pos, out⟩ = some departure ∧ facing? grid ⟨pos, into⟩ = some arrival ∧
      behavior grid via ≠ some .junction ∧
        ReflTransGen (StepsAround grid pos) departure.pos via ∧
          ReflTransGen (StepsAround grid pos) via arrival.pos

/-- A task was led to by the branch below it: its run starts there, or a run from a
claimed face there came to its block. From a junction it is on the same net. -/
inductive Leads (grid : γ) (log : TraceLog) : (upper lower : TraceTask) → Prop
  | follow {net held : NetId} {face : Face} {pending : List Direction}
      (sameNet : behavior grid face.pos = some .junction → net = held) :
      Leads grid log (.follow net face) (.branch held face.pos pending)
  | branch {net held : NetId} {pos : Pos} {later pending : List Direction}
      {direction : Direction} {target : Face}
      (sameNet : behavior grid pos = some .junction → net = held)
      (faces : facing? grid ⟨pos, direction⟩ = some target)
      (claimed : (log.claimed? ⟨pos, direction⟩).isSome) :
      Leads grid log (.branch net target.pos later) (.branch held pos pending)

private theorem Leads.mono {grid : γ} {log after : TraceLog} {upper lower : TraceTask}
    (leads : Leads grid log upper lower)
    (claims : ∀ face net, log.claimed? face = some net → after.claimed? face = some net) :
    Leads grid after upper lower := by
  cases leads with
  | follow sameNet => exact .follow sameNet
  | branch sameNet faces claimed =>
      obtain ⟨held, found⟩ := Option.isSome_iff_exists.mp claimed
      exact .branch sameNet faces (by rw [claims _ held found]; rfl)

/-- Whether a branch was led to does not depend on what it has pending. -/
theorem Leads.branch_pending {grid : γ} {log : TraceLog} {net : NetId} {pos : Pos}
    {pending later : List Direction} {lower : TraceTask}
    (leads : Leads grid log (.branch net pos pending) lower) :
    Leads grid log (.branch net pos later) lower := by
  cases leads with
  | branch sameNet faces claimed => exact .branch sameNet faces claimed

/-- Each pending task was led to by the one below it. -/
def Threaded (grid : γ) (state : TraceState) : Prop :=
  state.tasks.IsChain (Leads grid state.log)

private theorem Threaded.advance {grid : γ} {recordEdges : Bool} {before after : TraceState}
    (threaded : Threaded grid before) (paired : Paired grid before)
    (step : Advances grid recordEdges before after) : Threaded grid after := by
  have claims : ∀ face net, before.log.claimed? face = some net →
      after.log.claimed? face = some net := fun _ _ => step.claimed
  have grown : ∀ {tasks : List TraceTask}, tasks.IsChain (Leads grid before.log) →
      tasks.IsChain (Leads grid after.log) := fun chain =>
    chain.imp fun _ _ leads => leads.mono claims
  cases step with
  | @work roots task rest tasks log after move =>
      have below := grown (List.IsChain.of_cons threaded)
      cases move with
      | breaksOff | returns | settles => exact below
      | @arrives net face target faces unclaimed =>
          cases rest with
          | nil => exact .singleton _
          | cons lower others =>
              have flying := claims face net (paired.flying net face List.mem_cons_self)
              cases List.IsChain.rel threaded with
              | follow sameNet =>
                  exact .cons_cons (.branch sameNet faces (by rw [flying]; rfl)) below
      | @prolongs net pos pending skipped left direction split claimed unclaimed junction =>
          refine .cons_cons (.follow fun _ => rfl) ?_
          cases rest with
          | nil => exact .singleton _
          | cons lower others =>
              exact .cons_cons (List.IsChain.rel (grown threaded)).branch_pending below
      | @opens net pos pending skipped left direction split claimed unclaimed junction =>
          refine .cons_cons (.follow fun other => (junction other).elim) ?_
          cases rest with
          | nil => exact .singleton _
          | cons lower others =>
              exact .cons_cons (List.IsChain.rel (grown threaded)).branch_pending below
  | pass => exact threaded
  | start => exact .singleton _

private theorem TraceReaches.threaded {grid : γ} {recordEdges : Bool} {members : List Pos}
    {state : TraceState} (enclosed : Enclosed grid)
    (reached : TraceReaches grid recordEdges members state) : Threaded grid state := by
  induction reached with
  | refl => exact .nil
  | tail before step ih => exact ih.advance (TraceReaches.paired enclosed before) step

/-- What leads to the topmost task from the last branch at a junction: runs around the
junction that start from a claimed face of it. The task is still on the net of the branch
unless the runs pass through a block that is no junction. -/
theorem around_of_isChain {grid : γ} {log : TraceLog} {junction : Pos} {top : TraceTask}
    {rest : List TraceTask} (threaded : (top :: rest).IsChain (Leads grid log))
    (branches : ∃ net pending, .branch net junction pending ∈ top :: rest) :
    top.pos = junction ∨
      ∃ net pending direction departure, .branch net junction pending ∈ top :: rest ∧
        facing? grid ⟨junction, direction⟩ = some departure ∧
          (log.claimed? ⟨junction, direction⟩).isSome ∧
            ReflTransGen (StepsAround grid junction) departure.pos top.pos ∧
              ((behavior grid junction = some .junction → top.net = net) ∨
                ∃ via, behavior grid via ≠ some .junction ∧
                  ReflTransGen (StepsAround grid junction) departure.pos via ∧
                    ReflTransGen (StepsAround grid junction) via top.pos) := by
  induction rest generalizing top with
  | nil =>
      obtain ⟨net, pending, member⟩ := branches
      rw [← List.mem_singleton.mp member]
      exact Or.inl rfl
  | cons lower rest ih =>
      by_cases here : top.pos = junction
      · exact Or.inl here
      right
      have below : ∃ net pending, .branch net junction pending ∈ lower :: rest := by
        obtain ⟨net, pending, member⟩ := branches
        rcases List.mem_cons.mp member with rfl | deeper
        · exact (here rfl).elim
        · exact ⟨net, pending, deeper⟩
      have leads := List.IsChain.rel threaded
      by_cases start : lower.pos = junction
      · cases leads with
        | follow => exact (here start).elim
        | @branch net held pos later pending direction target sameNet faces claimed =>
            subst start
            exact ⟨held, pending, direction, target,
              List.mem_cons_of_mem _ List.mem_cons_self, faces, claimed, .refl, Or.inl sameNet⟩
      · obtain ⟨net, pending, direction, departure, member, faces, claimed, walk, nets⟩ :=
          (ih (List.IsChain.of_cons threaded) below).resolve_left start
        have onward : ReflTransGen (StepsAround grid junction) lower.pos top.pos := by
          cases leads with
          | follow => exact .refl
          | branch _ faces _ => exact .single ⟨start, here, _, _, faces, rfl⟩
        refine ⟨net, pending, direction, departure, List.mem_cons_of_mem _ member, faces, claimed,
          walk.trans onward, ?_⟩
        rcases nets with same | ⟨via, other, before, after⟩
        · by_cases passes : behavior grid lower.pos = some .junction
          · left
            intro junctionThere
            rw [← same junctionThere]
            cases leads with
            | follow sameNet => exact sameNet passes
            | branch sameNet => exact sameNet passes
          · exact Or.inr ⟨lower.pos, passes, walk, onward⟩
        · exact Or.inr ⟨via, other, before, after.trans onward⟩

/-- A trace of an enclosed grid that is about to split a junction for the first time goes
around a loop. -/
theorem SplitsJunction.onLoop {grid : γ} {recordEdges : Bool} {members : List Pos}
    {state : TraceState} (enclosed : Enclosed grid)
    (reached : TraceReaches grid recordEdges members state) (undivided : Undivided grid state)
    (splits : SplitsJunction grid state) :
    ∃ pos, behavior grid pos = some .junction ∧ OnLoop grid pos := by
  obtain ⟨roots, tasks, log⟩ := state
  obtain ⟨net, face, rest, target, direction, held, rfl, faces, junction, claimed, different⟩ :=
    splits
  have paired := reached.paired enclosed
  have own := paired.flying net face List.mem_cons_self
  have ownActive := paired.claims_active face net own
  have unclaimed : log.claimed? target = none := by
    cases there : log.claimed? target with
    | none => rfl
    | some existing =>
        have same := paired.same_net enclosed faces there
        exact (different (undivided.whole target.pos junction direction target.direction held net
          claimed (same ▸ there))).elim
  have branches : ∃ other pending,
      .branch other target.pos pending ∈ TraceTask.follow net face :: rest := by
    rcases reached.accounted.blocks ⟨target.pos, direction⟩ (by rw [claimed]; rfl) with root | all
    · exact ((mem_rootFaces.mp root).2.2 junction).elim
    · rcases all target.direction with found | ⟨other, pending, member, _⟩
      · rw [show log.claimed? ⟨target.pos, target.direction⟩ = none from unclaimed] at found
        cases found
      · exact ⟨other, pending, member⟩
  refine ⟨target.pos, junction, ?_⟩
  rcases around_of_isChain (reached.threaded enclosed) branches with here | around
  · have onJunction : log.claimed? ⟨target.pos, face.direction⟩ = some net := by
      rw [← here]
      exact own
    exact (different (undivided.whole target.pos junction direction face.direction held net claimed
      onJunction)).elim
  · obtain ⟨other, pending, out, departure, member, leaves, left, walk, nets⟩ := around
    obtain ⟨first, firstClaimed⟩ := undivided.branches other target.pos pending member
    have same := undivided.whole target.pos junction direction first held other claimed firstClaimed
    obtain ⟨via, notJunction, before, after⟩ := nets.resolve_left fun stays =>
      different (same.trans (stays junction).symm)
    refine ⟨out, target.direction, departure, face, via, ?_, leaves, ?_, notJunction, before, after⟩
    · intro back
      rw [back, show log.claimed? ⟨target.pos, target.direction⟩ = none from unclaimed] at left
      cases left
    · exact facing?_symm faces (enclosed.inside ownActive) ownActive

/-- **Off loops the nets cover what is joined.** In an enclosed grid in which no junction
lies on a loop with a block that is no junction, the nets of every trace cover all joins
between the traced blocks. -/
theorem netsCover_of_no_loop {grid : γ} {members : List Pos} {recordEdges : Bool}
    {graph : NetGraph} (enclosed : Enclosed grid)
    (noLoop : ∀ pos, behavior grid pos = some .junction → ¬OnLoop grid pos)
    (traced : trace grid members recordEdges = .ok graph) : NetsCover grid members graph := by
  have undivided : ∀ state, TraceReaches grid recordEdges members state →
      Undivided grid state := by
    intro state reached
    induction reached with
    | refl => exact undivided_initial grid members
    | tail before step ih =>
        refine ih.advance (fun splits => ?_) step
        obtain ⟨pos, junction, loop⟩ := splits.onLoop enclosed before ih
        exact noLoop pos junction loop
  apply (netsCover_iff enclosed traced).mpr
  intro state reached splits
  obtain ⟨pos, junction, loop⟩ := splits.onLoop enclosed reached (undivided state reached)
  exact noLoop pos junction loop

end Grid

end VoxelCircuit

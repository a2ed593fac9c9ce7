import VoxelCircuit.Proofs.Circuit.Refresh
import VoxelCircuit.Proofs.Engine.Schedule
import VoxelCircuit.Proofs.Engine.Separation

/-! # Refreshing in any order

Circuits of one grid can be refreshed one by one in any order. None of them sees or edits
what another edits, so each does what it would do on the grid before all of them; and the
edits of one cell come from one circuit (`VoxelCircuit.CircuitSet.refresh_in_any_order`).
-/

namespace VoxelCircuit

/-- Joining lists in another order changes nothing if no two of them have an item. -/
theorem flatMap_eq_of_perm {α β : Type} {items : α → List β} {first second : List α}
    (perm : first.Perm second)
    (single : ∀ one ∈ first, ∀ other ∈ first, one ≠ other → items one = [] ∨ items other = []) :
    first.flatMap items = second.flatMap items := by
  induction perm with
  | nil => rfl
  | cons item _ ih =>
      rw [List.flatMap_cons, List.flatMap_cons, ih fun one member other memberOther =>
        single one (List.mem_cons_of_mem _ member) other (List.mem_cons_of_mem _ memberOther)]
  | swap one other rest =>
      simp only [List.flatMap_cons, ← List.append_assoc]
      by_cases same : one = other
      · rw [same]
      · rcases single one (by simp) other (by simp) same with none | none <;> simp [none]
  | trans before _ ihBefore ihAfter =>
      rw [ihBefore single, ihAfter fun one member other memberOther =>
        single one (before.mem_iff.mpr member) other (before.mem_iff.mpr memberOther)]

namespace CircuitSet

variable {γ : Type}

/-- Whether circuits are separate does not depend on their last refreshes. -/
theorem Separate.of_sameCircuits {set other : CircuitSet γ} (separate : Separate other.circuits)
    (same : set.SameCircuits other) : Separate set.circuits := by
  have found : ∀ {place : Nat} {circuit : Circuit γ}, set.circuits[place]? = some circuit →
      ∃ first, other.circuits[place]? = some first ∧ first.members = circuit.members ∧
        (first.Owns ↔ circuit.Owns) := by
    intro place circuit there
    have read := congrArg (fun circuits => circuits[place]?) same
    rw [List.getElem?_map, List.getElem?_map, there] at read
    obtain ⟨first, known, equal⟩ := Option.map_eq_some_iff.mp read.symm
    exact ⟨first, known, (congrArg Circuit.members equal :), .of_eq (congrArg Circuit.Owns equal :)⟩
  refine ⟨fun circuit listed => ?_, fun circuit listed => ?_,
    fun {place other} {circuit neighbor} there thereOther different => ?_⟩
  · obtain ⟨place, there⟩ := List.mem_iff_getElem?.mp listed
    obtain ⟨first, known, members, _⟩ := found there
    exact members ▸ separate.occupied first (List.mem_of_getElem? known)
  · obtain ⟨place, there⟩ := List.mem_iff_getElem?.mp listed
    obtain ⟨first, known, _, owns⟩ := found there
    exact owns.mp (separate.owns first (List.mem_of_getElem? known))
  · obtain ⟨first, known, members, _⟩ := found there
    obtain ⟨second, knownOther, membersOther, _⟩ := found thereOther
    rw [← members, ← membersOther]
    exact separate.apart known knownOther different

/-- Separate circuits have a block each that leads to them. -/
theorem Separate.exists_inTurn {set : CircuitSet γ} (separate : Separate set.circuits) :
    ∃ order, set.VisitsInTurn order := by
  have leads : ∀ place, ∃ pos, place < set.size → set.place? pos = some place := by
    intro place
    by_cases below : place < set.size
    · have there := List.getElem?_eq_getElem below
      obtain ⟨pos, member⟩ := separate.occupied _ (List.mem_of_getElem? there)
      refine ⟨pos, fun _ => List.findIdx?_eq_some_iff_getElem.mpr
        ⟨below, Table.contains_iff.mpr member, fun earlier before => ?_⟩⟩
      have known := List.getElem?_eq_getElem (before.trans below)
      exact fun both => (separate.apart there known (Nat.ne_of_gt before) pos member).1
        (Table.contains_iff.mp both)
    · exact ⟨.origin, fun inside => absurd inside below⟩
  choose block reaches using leads
  refine ⟨(List.range set.size).map block, ?_⟩
  rw [VisitsInTurn, List.map_map]
  exact List.map_congr_left fun place listed => reaches place (List.mem_range.mp listed)

variable [EditableGrid γ]

/-- The edits that the circuit in a place requests of a grid. -/
def editsAt (set : CircuitSet γ) (grid : γ) (place : Nat) : List Edit :=
  ((set.circuits[place]?).map fun circuit => (circuit.evaluate (.editing grid)).edits).getD []

variable {ω : Type} [EditableGrid ω] {set after : CircuitSet (World ω)}
  {now here : VoxelGrid (World ω)} {places : List Nat} {place : Nat}

/-- The circuits in some places were refreshed, each as on the grid before all of them. -/
structure Visited (set : CircuitSet (World ω)) (now : VoxelGrid (World ω)) (places : List Nat)
    (after : CircuitSet (World ω)) (here : VoxelGrid (World ω)) : Prop where
  circuit : ∀ place : Nat, after.circuits[place]? = (set.circuits[place]?).map fun circuit =>
    if place ∈ places then (circuit.refresh (.voxel now)).circuit else circuit
  generation : after.generation = set.generation
  edited : now.Edited (places.flatMap (set.editsAt (.voxel now))) here

private theorem Visited.start (set : CircuitSet (World ω)) (now : VoxelGrid (World ω)) :
    Visited set now [] set now where
  circuit place := by simp
  generation := rfl
  edited := .refl now

private theorem Visited.sameCircuits (visited : Visited set now places after here) :
    after.SameCircuits set := by
  apply List.ext_getElem?
  intro place
  rw [List.getElem?_map, List.getElem?_map, visited.circuit, Option.map_map]
  congr 1
  funext circuit
  simp only [Function.comp]
  split <;> rfl

private theorem mem_editsAt (separate : Separate set.circuits) {grid : World ω} {edit : Edit}
    (requested : edit ∈ set.editsAt grid place) :
    ∃ circuit, set.circuits[place]? = some circuit ∧ edit.pos ∈ circuit.members := by
  unfold editsAt at requested
  cases found : set.circuits[place]? with
  | none => simp [found] at requested
  | some circuit =>
      rw [found] at requested
      exact ⟨circuit, rfl, (separate.owns circuit (List.mem_of_getElem? found)).pos_of_mem_edits
        ⟨rfl, rfl⟩ requested⟩

/-- A circuit does after others what it would have done before them. -/
theorem Visited.evaluate_eq (separate : Separate set.circuits)
    (visited : Visited set now places after here) {circuit : Circuit (World ω)}
    (found : set.circuits[place]? = some circuit) (fresh : place ∉ places) :
    (circuit.evaluate (.editing (.voxel here))).written =
      (circuit.evaluate (.editing (.voxel now))).written := by
  have cells : ∀ pos, (∀ other neighbor, set.circuits[other]? = some neighbor → place ≠ other →
      pos ∉ neighbor.members) → here.cell pos = now.cell pos := by
    intro pos foreign
    apply visited.edited.cell_of_others
    intro edit listed same
    obtain ⟨other, among, requested⟩ := List.mem_flatMap.mp listed
    obtain ⟨neighbor, there, member⟩ := mem_editsAt separate requested
    refine foreign other neighbor there (fun equal => fresh (equal ▸ among)) (same ▸ member)
  have owns := separate.owns circuit (List.mem_of_getElem? found)
  refine owns.evaluate_congr fun pos member => ?_
  have own := cells pos fun other neighbor there different =>
    (separate.apart found there different pos member).1
  have next : ∀ direction, here.cell (pos.step direction) = now.cell (pos.step direction) :=
    fun direction => cells _ fun other neighbor there different =>
      (separate.apart found there different pos member).2 direction
  exact ⟨⟨congrArg Cell.orientation own, congrArg Cell.datum own,
    fun direction => congrArg Cell.id (next direction)⟩, congrArg Cell.id own⟩

private theorem editsAt_eq {circuit : Circuit (World ω)}
    (found : set.circuits[place]? = some circuit) (grid : World ω) :
    set.editsAt grid place = (circuit.evaluate (.editing grid)).edits := by
  rw [editsAt, found, Option.map_some, Option.getD_some]

private theorem Visited.add (separate : Separate set.circuits)
    (visited : Visited set now places after here) {circuit : Circuit (World ω)}
    (found : set.circuits[place]? = some circuit) (fresh : place ∉ places)
    {later : VoxelGrid (World ω)} (edited : here.Edited (set.editsAt (.voxel now) place) later) :
    Visited set now (places ++ [place])
      { after with circuits := after.circuits.set place (circuit.refresh (.voxel here)).circuit }
      later where
  circuit other := by
    have kept : after.circuits[place]? = some circuit := by
      rw [visited.circuit, found, Option.map_some, if_neg fresh]
    rw [List.getElem?_set]
    by_cases own : place = other
    · subst own
      have values := (Prod.mk.inj (visited.evaluate_eq separate found fresh)).1
      have snapshot : (circuit.refresh (.voxel here)).circuit =
          (circuit.refresh (.voxel now)).circuit :=
        congrArg (fun values => { circuit with snapshot := values }) values
      rw [if_pos rfl, if_pos (List.getElem?_eq_some_iff.mp kept).1, found, snapshot]
      simp
    · rw [if_neg own, visited.circuit]
      simp only [List.mem_append, List.mem_singleton, Ne.symm own, or_false]
  generation := visited.generation
  edited := by
    rw [List.flatMap_append, List.flatMap_singleton]
    exact visited.edited.trans edited

/-- Refreshing one more circuit does what it would have done before the others, and succeeds
if its edits would have been accepted then. -/
theorem Visited.refreshAt (separate : Separate set.circuits)
    (visited : Visited set now places after here) {pos : Pos}
    (found : set.place? pos = some place) (fresh : place ∉ places) :
    (∀ answer, (after.refreshAt (.voxel here) pos).outcome = .ok answer →
      answer = some (set.editsAt (.voxel now) place) ∧
        (∀ edit ∈ set.editsAt (.voxel now) place, now.Accepts edit) ∧
          ∃ later, (after.refreshAt (.voxel here) pos).grid = .voxel later ∧
            Visited set now (places ++ [place]) (after.refreshAt (.voxel here) pos).set later) ∧
    ((∀ edit ∈ set.editsAt (.voxel now) place, now.Accepts edit) →
      ∃ answer, (after.refreshAt (.voxel here) pos).outcome = .ok answer) := by
  have among : after.place? pos = some place := by rw [visited.sameCircuits.place?_eq, found]
  obtain ⟨below, _, _⟩ := List.findIdx?_eq_some_iff_getElem.mp found
  have there : set.circuits[place]? = some set.circuits[place] := List.getElem?_eq_getElem below
  have kept : after.circuits[place]? = some set.circuits[place] := by
    rw [visited.circuit, there, Option.map_some, if_neg fresh]
  have edits : (set.circuits[place].evaluate (.editing (.voxel here))).edits =
      set.editsAt (.voxel now) place := by
    rw [editsAt_eq there]
    exact (Prod.mk.inj (visited.evaluate_eq separate there fresh)).2
  rw [CircuitSet.refreshAt, refreshFirst_eq among kept]
  refine ⟨fun answer succeeds => ?_, fun accepts => ?_⟩
  · obtain ⟨made, done, rfl⟩ := exists_of_map_ok succeeds
    obtain ⟨rfl, accepted, later, left, edited⟩ := Circuit.refresh_ok done
    rw [edits] at accepted edited ⊢
    exact ⟨rfl, fun edit member => visited.edited.accepts_iff.mp (accepted edit member),
      later, left, visited.add separate there fresh edited⟩
  · rw [← edits] at accepts
    exact ⟨_, congrArg (Except.map some) (Circuit.refresh_succeeds fun edit member =>
      visited.edited.accepts_iff.mpr (accepts edit member))⟩

/-- Refreshing circuits in some order does what each would have done before the others. -/
theorem Visited.refreshInOrder (separate : Separate set.circuits) (order : List Pos)
    {rest : List Nat} (visited : Visited set now places after here)
    (visits : order.map set.place? = rest.map some) (distinct : (places ++ rest).Nodup) :
    (∀ answers, (after.refreshInOrder (.voxel here) order).outcome = .ok answers →
      answers = rest.map (fun place => some (set.editsAt (.voxel now) place)) ∧
        (∀ place ∈ rest, ∀ edit ∈ set.editsAt (.voxel now) place, now.Accepts edit) ∧
          ∃ later, (after.refreshInOrder (.voxel here) order).grid = .voxel later ∧
            Visited set now (places ++ rest) (after.refreshInOrder (.voxel here) order).set later) ∧
    ((∀ place ∈ rest, ∀ edit ∈ set.editsAt (.voxel now) place, now.Accepts edit) →
      ∃ answers, (after.refreshInOrder (.voxel here) order).outcome = .ok answers) := by
  induction order generalizing after here places rest with
  | nil =>
      obtain rfl := List.map_eq_nil_iff.mp visits.symm
      rw [List.append_nil]
      refine ⟨fun answers succeeds => ?_, fun _ => ⟨[], rfl⟩⟩
      cases succeeds
      exact ⟨rfl, by simp, here, rfl, visited⟩
  | cons pos others ih =>
      obtain ⟨place, rest, rfl, found, visits⟩ := List.map_eq_cons_iff.mp visits.symm
      have fresh : place ∉ places := fun old =>
        (List.nodup_append.mp distinct).2.2 place old place List.mem_cons_self rfl
      have moved : places ++ place :: rest = places ++ [place] ++ rest := by simp
      obtain ⟨does, succeeds⟩ := visited.refreshAt separate found.symm fresh
      rw [CircuitSet.refreshInOrder]
      cases outcome : (after.refreshAt (.voxel here) pos).outcome with
      | error error =>
          refine ⟨fun answers made => ?_, fun accepts => ?_⟩
          · cases made
          · obtain ⟨answer, made⟩ := succeeds (accepts place List.mem_cons_self)
            rw [outcome] at made
            cases made
      | ok answer =>
          obtain ⟨rfl, accepted, later, left, onward⟩ := does answer outcome
          rw [moved] at distinct
          obtain ⟨doesRest, succeedsRest⟩ := ih onward visits.symm distinct
          simp only [left, moved]
          refine ⟨fun answers all => ?_, fun accepts => ?_⟩
          · obtain ⟨answersRest, made, rfl⟩ := exists_of_map_ok all
            obtain ⟨rfl, acceptedRest, reached⟩ := doesRest answersRest made
            exact ⟨rfl, List.forall_mem_cons.mpr ⟨accepted, acceptedRest⟩, reached⟩
          · obtain ⟨answersRest, made⟩ := succeedsRest (List.forall_mem_cons.mp accepts).2
            exact ⟨_, congrArg (Except.map _) made⟩

/-- What refreshes leave is decided by which circuits had one. -/
theorem Visited.unique (separate : Separate set.circuits) {others : List Nat}
    {final : CircuitSet (World ω)} {there : VoxelGrid (World ω)}
    (visited : Visited set now places after here) (again : Visited set now others final there)
    (perm : places.Perm others) : after = final ∧ here = there := by
  constructor
  · have circuits : after.circuits = final.circuits := by
      apply List.ext_getElem?
      intro place
      rw [visited.circuit, again.circuit]
      simp only [perm.mem_iff]
    have generation := visited.generation.trans again.generation.symm
    cases after
    cases final
    simp only at circuits generation
    rw [circuits, generation]
  · refine VoxelGrid.ext_cell (visited.edited.catalog.trans again.edited.catalog.symm)
      (visited.edited.extent.trans again.edited.extent.symm) fun pos => ?_
    rw [visited.edited.cell, again.edited.cell, List.filter_flatMap, List.filter_flatMap,
      flatMap_eq_of_perm perm]
    -- Two circuits with edits of one cell would share it as a member.
    intro one _ other _ different
    by_contra both
    obtain ⟨some, someOther⟩ := not_or.mp both
    obtain ⟨edit, requested⟩ := List.exists_mem_of_ne_nil _ some
    obtain ⟨second, requestedOther⟩ := List.exists_mem_of_ne_nil _ someOther
    rw [List.mem_filter, decide_eq_true_iff] at requested requestedOther
    obtain ⟨circuit, found, member⟩ := mem_editsAt separate requested.1
    obtain ⟨neighbor, foundOther, memberOther⟩ := mem_editsAt separate requestedOther.1
    rw [requested.2] at member
    rw [requestedOther.2] at memberOther
    exact (separate.apart found foundOther different pos member).1 memberOther

/-- **The circuits of a grid can be refreshed in any order.** If a voxel grid was compiled,
whatever it holds by now and whatever refreshes there were since, and if its circuits are
refreshed one by one and no edit is refused, then none is in any other order, each circuit
returns the same edits, and the same snapshots and the same grid are left. To refresh all
at once is to refresh them one by one in the order of their clusters. -/
theorem refresh_in_any_order {σ : Type} {engine : Engine σ} {grid : VoxelGrid (World ω)}
    {before rebuilt current : CircuitSet (World ω)}
    (compiled : (before.rebuild engine (.voxel grid)).outcome = .ok rebuilt)
    (same : current.SameCircuits rebuilt) (now : VoxelGrid (World ω)) :
    (∀ first second answers, current.VisitsEach first → current.VisitsEach second →
      (current.refreshInOrder (.voxel now) first).outcome = .ok answers →
        ∃ others, (current.refreshInOrder (.voxel now) second).outcome = .ok others ∧
          (∃ edits : Nat → List Edit,
            answers = first.map (fun pos => (current.place? pos).map edits) ∧
              others = second.map fun pos => (current.place? pos).map edits) ∧
          (current.refreshInOrder (.voxel now) first).set =
            (current.refreshInOrder (.voxel now) second).set ∧
          (current.refreshInOrder (.voxel now) first).grid =
            (current.refreshInOrder (.voxel now) second).grid) ∧
    (∃ order, current.VisitsInTurn order) ∧
    ∀ order, current.VisitsInTurn order → current.VisitsEach order ∧
      current.refreshAll (.voxel now) = ⟨(current.refreshInOrder (.voxel now) order).set,
        (current.refreshInOrder (.voxel now) order).grid,
          (current.refreshInOrder (.voxel now) order).outcome.map editsOf⟩ := by
  have separate := (separate_of_rebuild compiled).of_sameCircuits same
  refine ⟨fun first second answers visits visitsOther done => ?_, separate.exists_inTurn,
    fun order inTurn => ⟨inTurn.visitsEach, refreshAll_eq current _ inTurn⟩⟩
  have start := Visited.start current now
  obtain ⟨places, perm, found⟩ := visits.exists_places
  obtain ⟨placesOther, permOther, foundOther⟩ := visitsOther.exists_places
  obtain ⟨does, _⟩ := start.refreshInOrder separate first found
    (perm.nodup_iff.mpr List.nodup_range)
  obtain ⟨doesOther, succeeds⟩ := start.refreshInOrder separate second foundOther
    (permOther.nodup_iff.mpr List.nodup_range)
  obtain ⟨rfl, accepted, here, left, visited⟩ := does answers done
  obtain ⟨others, doneOther⟩ := succeeds fun place listed =>
    accepted place ((perm.trans permOther.symm).mem_iff.mpr listed)
  obtain ⟨rfl, _, there, leftOther, visitedOther⟩ := doesOther others doneOther
  obtain ⟨sets, rfl⟩ := visited.unique separate visitedOther (perm.trans permOther.symm)
  -- The circuit in a place answers the edits of its place.
  have answer : ∀ {order : List Pos} {places : List Nat},
      order.map current.place? = places.map some →
        places.map (fun place => some (current.editsAt (.voxel now) place)) =
          order.map fun pos => (current.place? pos).map (current.editsAt (.voxel now)) := by
    intro order places found
    have mapped := congrArg (List.map (Option.map (current.editsAt (.voxel now)))) found
    rw [List.map_map, List.map_map] at mapped
    exact mapped.symm
  exact ⟨_, doneOther, ⟨_, answer found, answer foundOther⟩, sets, left.trans leftOther.symm⟩

/-- A pad with a datum beside an indicator, and apart from them a changer beside a pad with
datum 20. -/
def twoPairs (first : Int) : VoxelGrid (World EndlessChip) :=
  ⟨⟨Layout.standardTypes⟩, .clamped 5 1 1,
    #[⟨⟨2⟩, .identity, first⟩, ⟨⟨3⟩, .identity, 0⟩, .air, ⟨⟨11⟩, .identity, 0⟩,
      ⟨⟨2⟩, .identity, 20⟩], rfl⟩

/-- Two pairs that were refreshed before are refreshed alike from either end. -/
theorem twoPairs_in_any_order :
    ∃ rebuilt, (empty.rebuild ⟨{}, by decide, false, EventSink.ignore⟩
        (World.voxel (twoPairs 0))).outcome = .ok rebuilt ∧
      ∃ current, current = (rebuilt.refreshAt (World.voxel (twoPairs 0)) ⟨1, 0, 0⟩).set ∧
        (current.refreshInOrder (World.voxel (twoPairs 1)) [⟨4, 0, 0⟩, ⟨1, 0, 0⟩]).outcome =
          .ok [some [.replaceBlock ⟨3, 0, 0⟩ ⟨20⟩ 0], some [.setDatum ⟨1, 0, 0⟩ 1]] ∧
        (current.refreshAll (World.voxel (twoPairs 1))).set =
          (current.refreshInOrder (World.voxel (twoPairs 1)) [⟨4, 0, 0⟩, ⟨1, 0, 0⟩]).set ∧
        (current.refreshAll (World.voxel (twoPairs 1))).grid =
          (current.refreshInOrder (World.voxel (twoPairs 1)) [⟨4, 0, 0⟩, ⟨1, 0, 0⟩]).grid := by
  obtain ⟨rebuilt, compiled, look⟩ := Compilation.exists_ok
    (empty.rebuild ⟨{}, by decide, false, EventSink.ignore⟩ (World.voxel (twoPairs 0)))
    (fun rebuilt =>
      let current := (rebuilt.refreshAt (World.voxel (twoPairs 0)) ⟨1, 0, 0⟩).set
      (current.size, [current.place? ⟨1, 0, 0⟩, current.place? ⟨4, 0, 0⟩],
        decide ((current.refreshInOrder (World.voxel (twoPairs 1))
          [⟨1, 0, 0⟩, ⟨4, 0, 0⟩]).outcome = .ok [some [.setDatum ⟨1, 0, 0⟩ 1],
            some [.replaceBlock ⟨3, 0, 0⟩ ⟨20⟩ 0]])))
    (2, [some 0, some 1], true) (by decide +kernel)
  simp only [Prod.mk.injEq, List.cons.injEq, decide_eq_true_iff, and_true] at look
  obtain ⟨size, ⟨first, last⟩, done⟩ := look
  refine ⟨rebuilt, compiled, _, rfl, ?_⟩
  obtain ⟨agree, _, whole⟩ := refresh_in_any_order compiled
    (refreshAt_sameCircuits rebuilt (World.voxel (twoPairs 0)) ⟨1, 0, 0⟩) (twoPairs 1)
  generalize (rebuilt.refreshAt (World.voxel (twoPairs 0)) ⟨1, 0, 0⟩).set = current at *
  have inTurn : current.VisitsInTurn [⟨1, 0, 0⟩, ⟨4, 0, 0⟩] := by
    rw [VisitsInTurn, size, List.map_cons, List.map_cons, first, last]
    rfl
  have visits : current.VisitsEach [⟨4, 0, 0⟩, ⟨1, 0, 0⟩] :=
    .trans (.swap ..) inTurn.visitsEach
  obtain ⟨others, doneOther, ⟨edits, own, ownOther⟩, sets, grids⟩ :=
    agree _ _ _ inTurn.visitsEach visits done
  simp only [List.map_cons, List.map_nil, first, last, Option.map_some, List.cons.injEq,
    Option.some.injEq, and_true] at own ownOther
  rw [(whole _ inTurn).2, doneOther, ownOther, ← own.1, ← own.2]
  exact ⟨rfl, sets, grids⟩

end CircuitSet

end VoxelCircuit

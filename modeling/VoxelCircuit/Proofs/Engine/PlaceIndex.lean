import VoxelCircuit.Proofs.Calls
import VoxelCircuit.Proofs.Engine.Embedded
import VoxelCircuit.Proofs.Engine.RefreshOrder

/-! # The index of a circuit set

A circuit set can keep, apart from its circuits, a table of the place of the circuit of each
block, which is written anew with the circuits and left alone by refreshes. Since circuits
share no members, the table and the circuits stay in step whatever is asked of the set: a
block is found in the table exactly if it is a member of a circuit, and what is answered
through the table is what the circuits answer (`VoxelCircuit.IndexedSet.calls_keep_index`).
-/

namespace VoxelCircuit

/-- The place of the group of each block; of two groups with a block the later counts. -/
def placesOf (groups : List (List Pos)) : Table Pos Nat :=
  .ofList (groups.zipIdx.flatMap fun group => group.1.map fun pos => (pos, group.2))

/-- Some groups do not meet, and a table has the place of the group of each of their blocks. -/
structure Indexes (places : Table Pos Nat) (groups : List (List Pos)) : Prop where
  apart : groups.Pairwise List.Disjoint
  place_iff : ∀ {pos : Pos} {place : Nat}, places.get? pos = some place ↔
    ∃ group, groups[place]? = some group ∧ pos ∈ group

/-- The table of groups that do not meet indexes them. -/
theorem indexes_placesOf {groups : List (List Pos)} (apart : groups.Pairwise List.Disjoint)
    (distinct : ∀ group ∈ groups, group.Nodup) : Indexes (placesOf groups) groups := by
  have keys : (groups.zipIdx.flatMap fun group => group.1.map fun pos => (pos, group.2)).map
      Prod.fst = groups.flatten := by
    rw [List.map_flatMap]
    simp only [List.map_map, Function.comp_def, List.map_id']
    rw [List.flatMap_def, List.zipIdx_map_fst]
  refine ⟨apart, fun {pos place} => ?_⟩
  -- No block is entered twice, so that no entry takes the place of another.
  rw [placesOf, Table.get?_ofList (keys ▸ List.nodup_flatten.mpr ⟨distinct, apart⟩),
    List.mem_flatMap]
  constructor
  · intro entered
    obtain ⟨⟨group, number⟩, listed, member⟩ := entered
    obtain ⟨block, inside, same⟩ := List.mem_map.mp member
    cases same
    exact ⟨group, List.mk_mem_zipIdx_iff_getElem?.mp listed, inside⟩
  · intro placed
    obtain ⟨group, found, inside⟩ := placed
    exact ⟨(group, place), List.mk_mem_zipIdx_iff_getElem?.mpr found, List.mem_map.mpr
      ⟨pos, inside, rfl⟩⟩

/-- A circuit set with a table of the place of the circuit of each block. -/
structure IndexedSet (γ : Type) where
  /-- The circuits. -/
  set : CircuitSet γ
  /-- The place of the circuit of each block. -/
  places : Table Pos Nat

/-- What can be asked of a circuit set. -/
inductive SetCall (γ : Type) where
  /-- Compile the circuits of a grid in place of those there are. -/
  | rebuild (engine : Engine EventSink) (grid : γ)
  /-- Refresh all circuits in turn. -/
  | refreshAll (grid : γ)
  /-- Refresh the circuit that a block is a member of. -/
  | refreshAt (grid : γ) (pos : Pos)

/-- What a circuit set answers. -/
inductive SetAnswer (γ : Type) where
  /-- The reports that were passed on, and how many circuits there are now. -/
  | rebuilt (reports : List Report) (outcome : Except CompileError Nat)
  /-- The grid that is left, and the edits of all circuits. -/
  | refreshedAll (grid : γ) (outcome : Except GridError (List Edit))
  /-- The grid that is left, and the edits of the circuit, if there is one. -/
  | refreshedAt (grid : γ) (outcome : Except GridError (Option (List Edit)))

/-- Whether circuits were compiled in place of those before. -/
def SetAnswer.installs {γ : Type} : SetAnswer γ → Bool
  | rebuilt _ (.ok _) => true
  | rebuilt _ (.error _) | refreshedAll .. | refreshedAt .. => false

/-- Do what is asked of a circuit set. A rebuild that fails leaves the set as it is. -/
def CircuitSet.perform {γ : Type} [EditableGrid γ] (set : CircuitSet γ) :
    SetCall γ → CircuitSet γ × SetAnswer γ
  | .rebuild engine grid =>
    let compilation := set.rebuild engine grid
    let reports := engine.passedOn compilation.reports
    match compilation.outcome with
    | .ok rebuilt => (rebuilt, .rebuilt reports (.ok rebuilt.size))
    | .error error => (set, .rebuilt reports (.error error))
  | .refreshAll grid =>
    let refreshed := set.refreshAll grid
    (refreshed.set, .refreshedAll refreshed.grid refreshed.outcome)
  | .refreshAt grid pos =>
    let refreshed := set.refreshAt grid pos
    (refreshed.set, .refreshedAt refreshed.grid refreshed.outcome)

namespace IndexedSet

variable {σ γ : Type}

/-- The set before any circuits were compiled. -/
def empty : IndexedSet γ := ⟨.empty, .empty⟩

/-- The circuit that a block is a member of, by the table. -/
def circuitAt? (indexed : IndexedSet γ) (pos : Pos) : Option (Circuit γ) :=
  (indexed.places.get? pos).bind (indexed.set.circuits[·]?)

/-- The set with the circuits of a grid compiled anew, and their table. -/
def rebuild [Grid γ] (indexed : IndexedSet γ) (engine : Engine σ) (grid : γ) :
    Compilation (IndexedSet γ) :=
  (indexed.set.rebuild engine grid).andThen fun rebuilt =>
    .done ⟨rebuilt, placesOf (rebuilt.circuits.map Circuit.members)⟩

variable [EditableGrid γ]

/-- Refresh the circuit that a block is a member of, by the table, if there is one. -/
def refreshAt (indexed : IndexedSet γ) (grid : γ) (pos : Pos) :
    CircuitSet.Refreshed γ (Option (List Edit)) :=
  match indexed.places.get? pos with
  | none => ⟨indexed.set, grid, .ok none⟩
  | some place =>
    match indexed.set.circuits[place]? with
    | none => ⟨indexed.set, grid, .ok none⟩
    | some circuit =>
      let refresh := circuit.refresh grid
      ⟨{ indexed.set with circuits := indexed.set.circuits.set place refresh.circuit },
        refresh.grid, refresh.outcome.map some⟩

/-- Do what is asked of a set with a table. Refreshes leave the table as it is. -/
def perform (indexed : IndexedSet γ) : SetCall γ → IndexedSet γ × SetAnswer γ
  | .rebuild engine grid =>
    let compilation := indexed.rebuild engine grid
    let reports := engine.passedOn compilation.reports
    match compilation.outcome with
    | .ok rebuilt => (rebuilt, .rebuilt reports (.ok rebuilt.set.size))
    | .error error => (indexed, .rebuilt reports (.error error))
  | .refreshAll grid =>
    let refreshed := indexed.set.refreshAll grid
    (⟨refreshed.set, indexed.places⟩, .refreshedAll refreshed.grid refreshed.outcome)
  | .refreshAt grid pos =>
    let refreshed := indexed.refreshAt grid pos
    (⟨refreshed.set, indexed.places⟩, .refreshedAt refreshed.grid refreshed.outcome)

end IndexedSet

namespace CircuitSet

variable {γ : Type} {set other : CircuitSet γ}

private theorem SameCircuits.map_members (same : set.SameCircuits other) :
    set.circuits.map Circuit.members = other.circuits.map Circuit.members := by
  have members := congrArg (List.map Circuit.members) same
  rwa [List.map_map, List.map_map] at members

private theorem Separate.pairwise_members [Grid γ] (separate : Separate set.circuits) :
    (set.circuits.map Circuit.members).Pairwise List.Disjoint := by
  rw [List.pairwise_map, List.pairwise_iff_getElem]
  intro place later below belowLater before pos member both
  exact (separate.apart (List.getElem?_eq_getElem below) (List.getElem?_eq_getElem belowLater)
    (Nat.ne_of_lt before) pos member).1 both

/-- Circuits of which none has a block as a member are passed over. -/
theorem refreshFirst_of_foreign [EditableGrid γ] {circuits : List (Circuit γ)} {pos : Pos}
    (foreign : ∀ circuit ∈ circuits, circuit.contains pos = false) (grid : γ) :
    refreshFirst grid pos circuits = (circuits, grid, .ok none) := by
  induction circuits with
  | nil => rfl
  | cons first rest ih =>
      rw [refreshFirst, foreign first List.mem_cons_self, if_neg Bool.false_ne_true,
        ih fun circuit later => foreign circuit (List.mem_cons_of_mem _ later)]

/-- A set after a call counts one more compilation if the call was one and succeeded. -/
theorem generation_perform [EditableGrid γ] (set : CircuitSet γ) (call : SetCall γ) :
    (set.perform call).1.generation =
      set.generation + if (set.perform call).2.installs then 1 else 0 := by
  cases call with
  | rebuild engine grid =>
      cases compiled : (set.rebuild engine grid).outcome with
      | error error => simp [perform, compiled, SetAnswer.installs]
      | ok rebuilt =>
          obtain ⟨circuits, _, done⟩ := Compilation.andThen_ok.mp compiled
          cases done
          simp [perform, compiled, SetAnswer.installs]
  | refreshAll grid => rfl
  | refreshAt grid pos => rfl

end CircuitSet

namespace IndexedSet

variable {σ γ : Type} {indexed : IndexedSet γ} {pos : Pos}

/-- The table of a set has the place of the circuit of each member, and circuits share none. -/
def Sound (indexed : IndexedSet γ) : Prop :=
  Indexes indexed.places (indexed.set.circuits.map Circuit.members)

private theorem sound_empty : (empty : IndexedSet γ).Sound := by
  refine ⟨.nil, ?_⟩
  simp [empty, CircuitSet.empty]

private theorem Sound.place_iff (sound : indexed.Sound) {place : Nat} :
    indexed.places.get? pos = some place ↔
      ∃ circuit, indexed.set.circuits[place]? = some circuit ∧ pos ∈ circuit.members := by
  rw [Indexes.place_iff sound, List.getElem?_map]
  simp

/-- The place of a block in the table is the first place where a circuit has it as a member. -/
theorem Sound.place?_eq (sound : indexed.Sound) (pos : Pos) :
    indexed.set.place? pos = indexed.places.get? pos := by
  cases found : indexed.set.place? pos with
  | some place =>
      obtain ⟨below, member, _⟩ := List.findIdx?_eq_some_iff_getElem.mp found
      exact (sound.place_iff.mpr ⟨_, List.getElem?_eq_getElem below,
        Table.contains_iff.mp member⟩).symm
  | none =>
      cases read : indexed.places.get? pos with
      | none => rfl
      | some place =>
          obtain ⟨circuit, there, member⟩ := sound.place_iff.mp read
          have foreign := List.findIdx?_eq_none_iff.mp found _ (List.mem_of_getElem? there)
          rw [Circuit.contains, Table.contains_iff.mpr member] at foreign
          cases foreign

private theorem Sound.circuitAt?_eq (sound : indexed.Sound) (pos : Pos) :
    indexed.circuitAt? pos = indexed.set.circuitAt? pos := by
  rw [circuitAt?, CircuitSet.circuitAt?_eq, sound.place?_eq]

private theorem Sound.circuitAt?_eq_some_iff (sound : indexed.Sound) {circuit : Circuit γ} :
    indexed.circuitAt? pos = some circuit ↔
      circuit ∈ indexed.set.circuits ∧ pos ∈ circuit.members := by
  rw [circuitAt?, Option.bind_eq_some_iff]
  constructor
  · intro found
    obtain ⟨place, read, there⟩ := found
    obtain ⟨other, known, member⟩ := sound.place_iff.mp read
    obtain rfl := Option.some.inj (there.symm.trans known)
    exact ⟨List.mem_of_getElem? there, member⟩
  · intro installed
    obtain ⟨place, there⟩ := List.mem_iff_getElem?.mp installed.1
    exact ⟨place, sound.place_iff.mpr ⟨circuit, there, installed.2⟩, there⟩

private theorem Sound.of_sameCircuits (sound : indexed.Sound) {set : CircuitSet γ}
    (same : set.SameCircuits indexed.set) : Sound ⟨set, indexed.places⟩ := by
  rw [Sound, same.map_members]
  exact sound

variable [EditableGrid γ]

/-- Compiling circuits anew writes the table of the new circuits. -/
theorem sound_of_rebuild {set rebuilt : CircuitSet γ} {engine : Engine σ} {grid : γ}
    (compiled : (set.rebuild engine grid).outcome = .ok rebuilt) :
    Sound ⟨rebuilt, placesOf (rebuilt.circuits.map Circuit.members)⟩ := by
  refine indexes_placesOf (CircuitSet.separate_of_rebuild compiled).pairwise_members
    fun group listed => ?_
  obtain ⟨circuit, _, rfl⟩ := List.mem_map.mp listed
  exact circuit.joined.nodup_keys

/-- A refresh through the table is one that looks for the circuit. -/
theorem Sound.refreshAt_eq (sound : indexed.Sound) (grid : γ) (pos : Pos) :
    indexed.refreshAt grid pos = indexed.set.refreshAt grid pos := by
  have place := sound.place?_eq pos
  unfold refreshAt
  cases read : indexed.places.get? pos with
  | none =>
      rw [read] at place
      have foreign := List.findIdx?_eq_none_iff.mp place
      rw [CircuitSet.refreshAt, CircuitSet.refreshFirst_of_foreign foreign]
  | some number =>
      rw [read] at place
      obtain ⟨circuit, there, _⟩ := sound.place_iff.mp read
      simp only [there]
      rw [CircuitSet.refreshAt, CircuitSet.refreshFirst_eq place there]

/-- What is asked of a set with its table is done as without the table, and the table of what
is left is again that of its circuits. -/
theorem Sound.perform (sound : indexed.Sound) (call : SetCall γ) :
    (indexed.perform call).2 = (indexed.set.perform call).2 ∧
      (indexed.perform call).1.set = (indexed.set.perform call).1 ∧
        (indexed.perform call).1.Sound := by
  cases call with
  | rebuild engine grid =>
      cases compiled : (indexed.set.rebuild engine grid).outcome with
      | error error =>
          simp only [IndexedSet.perform, CircuitSet.perform, rebuild, Compilation.andThen, compiled]
          exact ⟨trivial, trivial, sound⟩
      | ok rebuilt =>
          simp only [IndexedSet.perform, CircuitSet.perform, rebuild, Compilation.andThen, compiled,
            Compilation.done, List.append_nil]
          exact ⟨trivial, trivial, sound_of_rebuild compiled⟩
  | refreshAll grid =>
      exact ⟨rfl, rfl, sound.of_sameCircuits (indexed.set.refreshAll_sameCircuits grid)⟩
  | refreshAt grid pos =>
      simp only [IndexedSet.perform, CircuitSet.perform, sound.refreshAt_eq]
      exact ⟨trivial, trivial, sound.of_sameCircuits (indexed.set.refreshAt_sameCircuits grid pos)⟩

/-- A rebuild that fails changes nothing. -/
theorem perform_of_failed {engine : Engine EventSink} {grid : γ} {reports : List Report}
    {error : CompileError}
    (failed : (indexed.perform (.rebuild engine grid)).2 = .rebuilt reports (.error error)) :
    (indexed.perform (.rebuild engine grid)).1 = indexed := by
  unfold IndexedSet.perform at failed ⊢
  cases compiled : (indexed.rebuild engine grid).outcome with
  | error cause => simp only [compiled]
  | ok rebuilt =>
      simp only [compiled] at failed
      cases failed

/-- A set has the circuits and the table of another, whatever the last refreshes left. -/
def Keeps (before after : IndexedSet γ) : Prop :=
  after.set.SameCircuits before.set ∧ after.places = before.places ∧
    after.set.generation = before.set.generation

private theorem Sound.keeps (sound : indexed.Sound) (grid : γ) :
    indexed.Keeps (indexed.perform (.refreshAll grid)).1 ∧
      ∀ pos, indexed.Keeps (indexed.perform (.refreshAt grid pos)).1 := by
  refine ⟨⟨indexed.set.refreshAll_sameCircuits grid, rfl, rfl⟩, fun pos => ?_⟩
  simp only [IndexedSet.perform, Keeps, sound.refreshAt_eq]
  exact ⟨indexed.set.refreshAt_sameCircuits grid pos, trivial, rfl⟩

/-- All that is asked of a set with its table is done as without the table. -/
theorem runCalls_sound (calls : List (SetCall γ)) :
    (runCalls IndexedSet.perform .empty calls).2 = (runCalls CircuitSet.perform .empty calls).2 ∧
      (runCalls IndexedSet.perform .empty calls).1.set =
        (runCalls CircuitSet.perform .empty calls).1 ∧
      (runCalls IndexedSet.perform .empty calls).1.Sound := by
  let related (indexed : IndexedSet γ) (set : CircuitSet γ) : Prop :=
    indexed.set = set ∧ indexed.Sound
  have start : related .empty .empty := ⟨rfl, sound_empty⟩
  refine runCalls_related (fun {indexed set} call here => ?_) start calls
  obtain ⟨rfl, sound⟩ := here
  exact sound.perform call

/-- **The table of a circuit set stays in step with the circuits.** Whatever is asked of a
circuit set, on whatever grids, and whether it succeeds or fails: the answers are those that
the circuits give without the table, no block is a member of two circuits, the circuit that
is found for a block is the one that has the block as a member, if there is one, and as many
generations are counted as rebuilds have succeeded. A rebuild that fails changes nothing, and
refreshes change nothing but snapshots. -/
theorem calls_keep_index (calls : List (SetCall γ)) :
    let indexed := (runCalls IndexedSet.perform .empty calls).1
    let set := (runCalls CircuitSet.perform .empty calls).1
    let answers := (runCalls CircuitSet.perform .empty calls).2
    ((runCalls IndexedSet.perform .empty calls).2 = answers ∧ indexed.set = set) ∧
    (set.circuits.Pairwise fun first second => first.members.Disjoint second.members) ∧
    (∀ pos, indexed.circuitAt? pos = set.circuitAt? pos ∧
      (∀ circuit, indexed.circuitAt? pos = some circuit ↔
        circuit ∈ set.circuits ∧ pos ∈ circuit.members) ∧
      (indexed.circuitAt? pos = none ↔ ∀ circuit ∈ set.circuits, pos ∉ circuit.members)) ∧
    set.generation = answers.countP SetAnswer.installs ∧
    (∀ engine grid reports error,
      (indexed.perform (.rebuild engine grid)).2 = .rebuilt reports (.error error) →
        (indexed.perform (.rebuild engine grid)).1 = indexed) ∧
    ∀ grid, indexed.Keeps (indexed.perform (.refreshAll grid)).1 ∧
      ∀ pos, indexed.Keeps (indexed.perform (.refreshAt grid pos)).1 := by
  intro indexed set answers
  obtain ⟨same, (sets : indexed.set = set), (sound : indexed.Sound)⟩ := runCalls_sound calls
  have found : ∀ {pos circuit}, indexed.circuitAt? pos = some circuit ↔
      circuit ∈ set.circuits ∧ pos ∈ circuit.members := by
    intro pos circuit
    rw [← sets]
    exact sound.circuitAt?_eq_some_iff
  refine ⟨⟨same, sets⟩, ?_, fun pos => ⟨?_, fun circuit => found, ?_⟩, ?_, ?_, sound.keeps⟩
  · rw [← List.pairwise_map, ← sets]
    exact sound.apart
  · rw [← sets]
    exact sound.circuitAt?_eq pos
  · rw [Option.eq_none_iff_forall_ne_some]
    exact forall_congr' fun circuit => (not_congr found).trans not_and
  · exact (runCalls_count CircuitSet.generation_perform .empty calls).trans (Nat.zero_add _)
  · exact fun engine grid reports error => perform_of_failed

/-- Two pairs are compiled, one of them is refreshed, and a chip does not compile. -/
def pairsAndChip : List (SetCall (World EndlessChip)) :=
  [.rebuild .usual (.voxel (CircuitSet.twoPairs 0)),
    .refreshAt (.voxel (CircuitSet.twoPairs 1)) ⟨1, 0, 0⟩,
    .rebuild .usual (.voxel (Engine.chipAround Engine.narrow))]

/-- One generation is counted, and the circuits of the pairs are found through the table. -/
theorem pairsAndChip_keep_index :
    let indexed := (runCalls IndexedSet.perform .empty pairsAndChip).1
    indexed.set.generation = 1 ∧
      (∃ circuit ∈ indexed.set.circuits, ⟨1, 0, 0⟩ ∈ circuit.members ∧
        indexed.circuitAt? ⟨1, 0, 0⟩ = some circuit) ∧
      indexed.circuitAt? ⟨2, 0, 0⟩ = none := by
  intro indexed
  obtain ⟨⟨_, sets⟩, _, found, counted, _⟩ := calls_keep_index pairsAndChip
  have shown : (indexed.circuitAt? ⟨1, 0, 0⟩).isSome = true := by decide +kernel
  obtain ⟨circuit, there⟩ := Option.isSome_iff_exists.mp shown
  obtain ⟨installed, member⟩ := ((found ⟨1, 0, 0⟩).2.1 circuit).mp there
  rw [sets]
  refine ⟨counted.trans (by decide +kernel), ⟨circuit, installed, member, there⟩, ?_⟩
  exact (found ⟨2, 0, 0⟩).1.trans (Option.isNone_iff_eq_none.mp (by decide +kernel))

end IndexedSet

end VoxelCircuit

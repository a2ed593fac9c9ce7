import Mathlib.Tactic.Common
import VoxelCircuit.Circuit.Effect

/-! # Footprints of effects

An effect writes under the keys of its own target, apart from what the circuits of a
grid publish together, and requests edits of its own block alone. So the effects of
other targets leave the values of a target, and the requests for it, as they are.
-/

namespace VoxelCircuit

/-- The target whose effect writes under a key. What is published has none. -/
def Key.owner? : Key → Option Target
  | .output face => some (.block face.pos)
  | .net id => some (.net id)
  | .published _ | .replacement | .rotation => none

namespace Values

/-- Writes to other keys leave the value of a key as it is. -/
theorem get?_setAll_of_silent (values : Values) {writes : List (Key × Signal)} {key : Key}
    (silent : ∀ write ∈ writes, write.1 ≠ key) :
    (values.setAll writes).get? key = values.get? key := by
  unfold setAll
  induction writes generalizing values with
  | nil => rfl
  | cons write rest ih =>
      rw [List.foldl_cons, ih _ fun other member => silent other (List.mem_cons_of_mem _ member),
        Table.get?_insert, if_neg (silent write List.mem_cons_self).symm]

/-- Writes that agree on a key leave what they agree on. -/
theorem get?_setAll_of_uniform {values : Values} {writes : List (Key × Signal)} {key : Key}
    {signal : Signal} (written : ∃ write ∈ writes, write.1 = key)
    (uniform : ∀ write ∈ writes, write.1 = key → write.2 = signal) :
    (values.setAll writes).get? key = some signal := by
  unfold setAll
  induction writes generalizing values with
  | nil => simp at written
  | cons write rest ih =>
      rw [List.foldl_cons]
      by_cases later : ∃ other ∈ rest, other.1 = key
      · exact ih later fun other member => uniform other (List.mem_cons_of_mem _ member)
      · have first : write.1 = key := by
          obtain ⟨other, member, same⟩ := written
          rcases List.mem_cons.mp member with rfl | after
          · exact same
          · exact (later ⟨other, after, same⟩).elim
        have kept := get?_setAll_of_silent (values.insert write.1 write.2)
          fun other member same => later ⟨other, member, same⟩
        rw [setAll] at kept
        rw [kept, Table.get?_insert, if_pos first.symm,
          uniform write List.mem_cons_self first]

/-- Writes of a signal for each direction that has one, each under its own key. -/
theorem get?_setAll_each {values : Values} {key : Direction → Key}
    (apart : Function.Injective key) (signal : Direction → Option Signal) (direction : Direction) :
    (values.setAll (Direction.all.filterMap fun other =>
      (signal other).map fun found => (key other, found))).get? (key direction) =
        (signal direction).or (values.get? (key direction)) := by
  have written : ∀ write ∈ Direction.all.filterMap fun other =>
      (signal other).map fun found => (key other, found),
        write.1 = key direction → signal direction = some write.2 := by
    intro write member same
    obtain ⟨other, _, found⟩ := List.mem_filterMap.mp member
    obtain ⟨value, has, rfl⟩ := Option.map_eq_some_iff.mp found
    rw [← apart same, has]
  cases has : signal direction with
  | none =>
      rw [get?_setAll_of_silent, Option.none_or]
      intro write member same
      rw [written write member same] at has
      cases has
  | some value =>
      rw [Option.some_or]
      refine get?_setAll_of_uniform ⟨(key direction, value), ?_, rfl⟩ fun write member same => ?_
      · exact List.mem_filterMap.mpr ⟨direction, Direction.mem_all _, by rw [has]; rfl⟩
      · exact Option.some.inj ((written write member same).symm.trans has)

end Values

namespace Behavior

variable {γ : Type} [Grid γ] {pos : Pos} {orientation : Orientation} {signal : Signal}
  {state : EvalState γ} {write : Key × Signal} {edit : Edit}

/-- Driving writes the signal on each face that drives. -/
theorem mem_drive_writes {behavior : Behavior} :
    write ∈ (behavior.drive pos orientation signal).writes ↔
      ∃ direction, (behavior.role direction).drives = true ∧
        write = (.output ⟨pos, orientation.transform direction⟩, signal) := by
  simp only [drive, Response.ofWrites, drivingFaces, List.mem_map, List.mem_filter,
    Direction.mem_all, true_and, eq_comm]

private theorem mem_replaceEdits {grid : γ} {id : BlockId}
    (member : edit ∈ replaceEdits grid pos id) :
    edit.pos = pos := by
  unfold replaceEdits at member
  split at member
  · cases member
  · rw [List.mem_singleton.mp member, Edit.pos]

private theorem mem_rotateEdits {grid : γ} (member : edit ∈ rotateEdits grid pos orientation) :
    edit.pos = pos := by
  unfold rotateEdits at member
  split at member
  · cases member
  · rw [List.mem_singleton.mp member, Edit.pos]

/-- An indicator writes nothing. -/
theorem indicate_writes (lit : Bool) : (indicate pos lit state).writes = [] := by
  by_cases asked : state.allowEdits ∧ Grid.datum state.grid pos ≠ if lit then 1 else 0
  · rw [indicate, if_pos asked, Response.ofEdits]
  · rw [indicate, if_neg asked, Response.nothing]

private theorem mem_indicate_edits {lit : Bool} (member : edit ∈ (indicate pos lit state).edits) :
    edit.pos = pos := by
  by_cases asked : state.allowEdits ∧ Grid.datum state.grid pos ≠ if lit then 1 else 0
  · rw [indicate, if_pos asked] at member
    rw [List.mem_singleton.mp member, Edit.pos]
  · rw [indicate, if_neg asked] at member
    cases member

private theorem mem_chipResponse_edits {publication : Publication}
    (member : edit ∈ (chipResponse pos orientation publication state).edits) : edit.pos = pos := by
  unfold chipResponse at member
  dsimp only at member
  split at member
  · rcases List.mem_append.mp member with replaced | turned
    · cases asked : publication.replacement.bind Signal.asNumber with
      | none =>
          rw [asked] at replaced
          cases replaced
      | some number =>
          rw [asked] at replaced
          exact mem_replaceEdits replaced
    · cases asked : publication.rotation.bind Signal.asNumber with
      | none =>
          rw [asked] at turned
          cases turned
      | some number =>
          rw [asked] at turned
          exact mem_rotateEdits turned
  · cases member

/-- What a block of a behavior may write: a signal on a face of its own or, for the block around
its grid, a signal on a face, an id to take and a rotation to turn to. -/
inductive Written (pos : Pos) : Behavior → Key × Signal → Prop
  | driven {behavior : Behavior} (direction : Direction) (signal : Signal) :
      Written pos behavior (.output ⟨pos, direction⟩, signal)
  | published (direction : Direction) (signal : Signal) :
      Written pos .chipOutput (.published direction, signal)
  | replacement (id : BlockId) : Written pos .changer (.replacement, id.signal)
  | rotation (asked : Orientation) : Written pos .rotator (.rotation, asked.signal)

/-- What a behavior writes is among what it may write. -/
theorem written_of_mem {behavior : Behavior} {inputs : Inputs}
    (member : write ∈ (behavior.response pos orientation inputs state).writes) :
    Written pos behavior write := by
  have driven : ∀ {behavior : Behavior} {signal : Signal},
      write ∈ (behavior.drive pos orientation signal).writes → Written pos behavior write := by
    intro behavior signal written
    obtain ⟨direction, _, rfl⟩ := mem_drive_writes.mp written
    exact .driven _ _
  cases behavior
  case wire | junction | chip => simp [response, Response.nothing] at member
  case pad | nor | gate | datumSensor | neighborSensor | spontaneous => exact driven member
  case indicator =>
    rw [response, indicate_writes] at member
    cases member
  case rotator =>
    simp only [response, rotate] at member
    split at member
    · simp [Response.nothing] at member
    · split at member
      · simp [Response.nothing] at member
      · split at member
        · rw [List.mem_singleton.mp member]
          exact .rotation _
        · simp [Response.ofEdits] at member
  case changer =>
    simp only [response, change] at member
    split at member
    · simp [Response.nothing] at member
    · split at member
      · rw [List.mem_singleton.mp member]
        exact .replacement _
      · split at member <;> simp [Response.ofEdits, Response.nothing] at member
  case chipOutput =>
    simp only [response, publish, Response.ofWrites, List.mem_filterMap] at member
    obtain ⟨direction, _, found⟩ := member
    split at found
    · cases found
      exact .published _ _
    · cases found

/-- A block requests edits of itself alone. -/
theorem pos_of_mem_edits {behavior : Behavior} {inputs : Inputs}
    (member : edit ∈ (behavior.response pos orientation inputs state).edits) : edit.pos = pos := by
  cases behavior
  case wire | junction | chip => simp [response, Response.nothing] at member
  case pad | nor | gate | datumSensor | neighborSensor | spontaneous =>
    simp [response, drive, Response.ofWrites] at member
  case indicator => exact mem_indicate_edits member
  case rotator =>
    simp only [response, rotate] at member
    split at member
    · simp [Response.nothing] at member
    · split at member
      · simp [Response.nothing] at member
      · split at member
        · simp [Response.ofWrites] at member
        · exact mem_rotateEdits member
  case changer =>
    simp only [response, change] at member
    split at member
    · simp [Response.nothing] at member
    · split at member
      · simp [Response.ofWrites] at member
      · split at member
        · exact mem_replaceEdits member
        · simp [Response.nothing] at member
  case chipOutput => simp [response, publish, Response.ofWrites] at member

end Behavior

namespace Effect

variable {γ : Type} [Grid γ] {effect : Effect γ} {state : EvalState γ}

/-- An effect writes under the keys of its target, or publishes. -/
theorem owner?_of_mem_writes {write : Key × Signal}
    (member : write ∈ (effect.response state).writes) :
    write.1.owner? = some effect.target ∨ write.1.owner? = none := by
  cases effect with
  | merge net drivers =>
      simp only [response, Response.ofWrites, List.mem_singleton] at member
      rw [member]
      exact Or.inl rfl
  | respond pos behavior orientation inputs =>
      simp only [response] at member
      cases Behavior.written_of_mem member with
      | driven => exact Or.inl rfl
      | published | replacement | rotation => exact Or.inr rfl
  | chip pos orientation interior circuits =>
      simp only [response, Behavior.chipResponse, List.mem_filterMap] at member
      obtain ⟨direction, _, found⟩ := member
      obtain ⟨signal, _, rfl⟩ := Option.map_eq_some_iff.mp found
      exact Or.inl rfl

/-- An effect requests edits of its block alone. -/
theorem target_of_mem_edits {edit : Edit} (member : edit ∈ (effect.response state).edits) :
    effect.target = .block edit.pos := by
  cases effect with
  | merge net drivers => simp [response, Response.ofWrites] at member
  | respond pos behavior orientation inputs =>
      simp only [response] at member
      rw [Behavior.pos_of_mem_edits member, target]
  | chip pos orientation interior circuits =>
      simp only [response] at member
      rw [Behavior.mem_chipResponse_edits member, target]

/-- To run two lists of effects is to run one after the other. -/
theorem runAll_append (first second : List (Effect γ)) (state : EvalState γ) :
    runAll (first ++ second) state = runAll second (runAll first state) := by
  induction first generalizing state with
  | nil => simp only [List.nil_append, runAll]
  | cons effect rest ih => simp only [List.cons_append, runAll, ih]

/-- Effects change neither the grid nor the permission nor the block around the grid. -/
theorem runAll_setting (effects : List (Effect γ)) (state : EvalState γ) :
    (runAll effects state).grid = state.grid ∧
      (runAll effects state).allowEdits = state.allowEdits ∧
        (runAll effects state).embedding = state.embedding := by
  induction effects generalizing state with
  | nil => simp only [runAll, and_self]
  | cons effect rest ih =>
      rw [runAll]
      exact ih (state.add (effect.response state))

/-- Effects that never write under a key leave what is there. -/
theorem get?_runAll_of_silent {effects : List (Effect γ)} {key : Key}
    (silent : ∀ effect ∈ effects, ∀ state : EvalState γ,
      ∀ write ∈ (effect.response state).writes, write.1 ≠ key) :
    (runAll effects state).values.get? key = state.values.get? key := by
  induction effects generalizing state with
  | nil => rw [runAll]
  | cons effect rest ih =>
      rw [runAll, ih fun other member => silent other (List.mem_cons_of_mem _ member)]
      exact Values.get?_setAll_of_silent _ (silent effect List.mem_cons_self state)

/-- The effects of other targets leave the values of a target. -/
theorem get?_runAll_of_owner (state : EvalState γ) {effects : List (Effect γ)} {key : Key}
    {target : Target} (owner : key.owner? = some target)
    (others : ∀ effect ∈ effects, effect.target ≠ target) :
    (runAll effects state).values.get? key = state.values.get? key := by
  apply get?_runAll_of_silent
  intro effect member state write written same
  have owned := owner?_of_mem_writes written
  rw [same, owner] at owned
  rcases owned with mine | none
  · exact others effect member (Option.some.inj mine).symm
  · cases none

/-- The effects of other targets request no edits of a block. -/
theorem edits_runAll_of_others {effects : List (Effect γ)} {pos : Pos}
    (others : ∀ effect ∈ effects, effect.target ≠ .block pos) :
    (runAll effects state).edits.filter (fun edit => edit.pos = pos) =
      state.edits.filter fun edit => edit.pos = pos := by
  induction effects generalizing state with
  | nil => rw [runAll]
  | cons effect rest ih =>
      have none : (effect.response state).edits.filter (fun edit => edit.pos = pos) = [] := by
        rw [List.filter_eq_nil_iff]
        intro edit member same
        refine others effect List.mem_cons_self ?_
        rw [target_of_mem_edits member, of_decide_eq_true same]
      rw [runAll, ih fun other member => others other (List.mem_cons_of_mem _ member),
        EvalState.edits_add, List.filter_append, none, List.append_nil]

end Effect

end VoxelCircuit

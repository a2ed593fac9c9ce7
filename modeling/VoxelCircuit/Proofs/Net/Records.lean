import VoxelCircuit.Proofs.Net.Graph
import VoxelCircuit.Proofs.Table.Map

/-! # Traces with records

A log tells for each face the net that it was claimed for, and the nets are read off it at the
end. A tracer with records keeps the nets beside the claims while they grow. Each net that is
opened gets a record; each claim of a face is written in the table of claims, and the face is
attached to the record of its net, where its role sets a flag. At the end the records that
cannot carry a signal are dropped by their flags, and the claims are pruned apart from them by
the serial numbers that are left.

Nothing in a record refers to the table. That the two stay in step is an invariant of the
tracing machine: the book of a tracer is at each step the one that tells what its log tells
(`VoxelCircuit.TraceBook.ofLog`). So both come to the same conflict, or to the same nets with the
same attachments (`VoxelCircuit.Grid.traceWithRecords_eq`).
-/

namespace VoxelCircuit

/-- A net while it grows: the faces attached so far, and which roles were among them. -/
structure NetRecord where
  /-- The serial number. -/
  id : NetId
  /-- The attached faces in the order of their attachment. -/
  members : List NetMember
  /-- The steps that were walked to find them. -/
  edges : List (Pos × Pos)
  /-- A face that reads the net was attached. -/
  hasInput : Bool
  /-- A face that drives the net was attached. -/
  hasOutput : Bool
  /-- A face of a junction was attached. -/
  hasBoth : Bool
deriving DecidableEq

namespace NetRecord

/-- The record of a net that nothing is attached to. -/
def fresh (id : NetId) : NetRecord := ⟨id, [], [], false, false, false⟩

/-- Set the flag of a role. -/
def flag (record : NetRecord) : FaceRole → NetRecord
  | .input => { record with hasInput := true }
  | .output => { record with hasOutput := true }
  | .both => { record with hasBoth := true }
  | .none => record

/-- Attach a face: set the flag of its role, and list it last. -/
def attach (record : NetRecord) (member : NetMember) : NetRecord :=
  { record.flag member.role with members := record.members ++ [member] }

/-- Note the steps of a run. -/
def walk (record : NetRecord) (steps : List (Pos × Pos)) : NetRecord :=
  { record with edges := record.edges ++ steps }

/-- Whether the flags say that the net can carry a signal. -/
def useful (record : NetRecord) : Bool :=
  (record.hasInput && record.hasOutput) || record.hasBoth

/-- The net without its flags. -/
def net (record : NetRecord) : Net := ⟨record.id, record.members, record.edges⟩

/-- The record of a net of which all faces are known. -/
def ofNet (net : Net) : NetRecord :=
  ⟨net.id, net.members, net.edges, net.hasInput, net.hasOutput, net.hasBoth⟩

/-- Attaching faces one by one sets the flags that all of them together do. -/
theorem ofNet_attach (net : Net) (member : NetMember) :
    ofNet { net with members := net.members ++ [member] } = (ofNet net).attach member := by
  obtain ⟨face, role⟩ := member
  cases role <;> simp [ofNet, attach, flag, Net.hasInput, Net.hasOutput, Net.hasBoth]

end NetRecord

/-- The nets that a tracer with records keeps, and the faces attached to them. -/
structure RecordGraph where
  /-- The records by the serial numbers of their nets. -/
  byId : Table NetId NetRecord
  /-- The attached faces, each with its net. -/
  attachments : Table Face NetId

namespace RecordGraph

/-- The records in the order of the table. -/
def nets (graph : RecordGraph) : List NetRecord :=
  graph.byId.values

/-- The net attached to a face. -/
def netAt (graph : RecordGraph) (face : Face) : Option NetId :=
  graph.attachments.get? face

/-- The record with a serial number. -/
def net? (graph : RecordGraph) (id : NetId) : Option NetRecord :=
  graph.byId.get? id

/-- The net graph without the flags of its nets. -/
def forget (graph : RecordGraph) : NetGraph :=
  ⟨graph.byId.map id NetRecord.net, graph.attachments⟩

/-- The graph with flags that tell the roles of the members. -/
def ofGraph (graph : NetGraph) : RecordGraph :=
  ⟨graph.byId.map id NetRecord.ofNet, graph.attachments⟩

/-- Flags that tell the roles of the members can be forgotten. -/
theorem forget_ofGraph (graph : NetGraph) : (ofGraph graph).forget = graph := by
  have byId : (graph.byId.map id NetRecord.ofNet).map id NetRecord.net = graph.byId := by
    apply Table.ext_entries
    rw [Table.entries_map Function.injective_id, Table.entries_map Function.injective_id,
      List.map_map]
    exact List.map_id _
  rw [forget, ofGraph, byId]

end RecordGraph

/-- What a tracer with records keeps: the claims, and beside them the nets. -/
structure TraceBook where
  /-- The faces claimed, each with its net. -/
  claims : Table Face NetId
  /-- The records of the nets in the order of their opening. -/
  nets : List NetRecord

namespace TraceBook

/-- The book of a trace that has not begun. -/
def empty : TraceBook := ⟨.empty, []⟩

/-- The net that a face was claimed for. -/
def claimed? (book : TraceBook) (face : Face) : Option NetId :=
  book.claims.get? face

/-- The serial number of the next net to be opened. -/
def next (book : TraceBook) : NetId :=
  .ofCount book.nets.length

/-- Change the record at the place that a serial number names. -/
def change (book : TraceBook) (net : NetId) (edit : NetRecord → NetRecord) : TraceBook :=
  { book with nets := book.nets.modify net.serial.toNat edit }

/-- Note the steps of a run in the record of its net. -/
def walked (book : TraceBook) (net : NetId) (steps : List (Pos × Pos)) : TraceBook :=
  book.change net fun record => record.walk steps

/-- Begin the record of one more net. -/
def begin (book : TraceBook) : TraceBook :=
  { book with nets := book.nets ++ [.fresh book.next] }

/-- The records that can carry a signal by their flags, and the claims that are for one of
these. -/
def finish (book : TraceBook) : RecordGraph :=
  let byId := Table.ofList
    ((book.nets.filter NetRecord.useful).map fun record => (record.id, record))
  ⟨byId, .ofList (book.claims.entries.filter fun claim => byId.contains claim.2)⟩

variable {γ : Type} [Grid γ]

/-- Claim a face for a net: write it in the table, and attach it to the record. -/
def claim (grid : γ) (book : TraceBook) (net : NetId) (face : Face) : TraceBook :=
  { book.change net fun record => record.attach ⟨face, Grid.roleAt grid face⟩ with
    claims := book.claims.insert face net }

/-- Open a net and claim a face for it. -/
def openAt (grid : γ) (book : TraceBook) (face : Face) : TraceBook :=
  book.begin.claim grid book.next face

/-- Follow the run from a face, as `VoxelCircuit.Grid.follow` does. -/
def follow (grid : γ) (recordEdges : Bool) (net : NetId) (face : Face) (book : TraceBook) :
    Except NetConflict (List TraceTask × TraceBook) :=
  let run := Grid.run grid face
  let book := if recordEdges then book.walked net (run.edges face.pos) else book
  match run.arrival with
  | none => .ok ([], book)
  | some pos =>
    let target : Face := ⟨pos, face.direction.opposite⟩
    match book.claimed? target with
    | some existing =>
      if existing = net then .ok ([], book) else .error ⟨target, existing, net⟩
    | none => .ok ([.branch net pos Direction.all], book.claim grid net target)

/-- Go on from a block, as `VoxelCircuit.Grid.branch` does. -/
def branch (grid : γ) (net : NetId) (pos : Pos) (pending : List Direction) (book : TraceBook) :
    List TraceTask × TraceBook :=
  match pending.dropWhile fun direction => (book.claimed? ⟨pos, direction⟩).isSome with
  | [] => ([], book)
  | direction :: rest =>
    if Grid.behavior grid pos = some .junction then
      ([.follow net ⟨pos, direction⟩, .branch net pos rest], book.claim grid net ⟨pos, direction⟩)
    else
      ([.follow book.next ⟨pos, direction⟩, .branch net pos rest],
        book.openAt grid ⟨pos, direction⟩)

/-- One step of a tracer with records. -/
def step (grid : γ) (recordEdges : Bool) (book : TraceBook) :
    TraceTask → Except NetConflict (List TraceTask × TraceBook)
  | .follow net face => follow grid recordEdges net face book
  | .branch net pos pending => .ok (branch grid net pos pending book)

/-- Work off a stack of tasks, in at most some number of steps. -/
def work (grid : γ) (recordEdges : Bool) :
    (steps : Nat) → List TraceTask → TraceBook → Except NetConflict TraceBook
  | _, [], book => .ok book
  | 0, _ :: _, book => .ok book
  | steps + 1, task :: rest, book =>
    match step grid recordEdges book task with
    | .error conflict => .error conflict
    | .ok (tasks, book) => work grid recordEdges steps (tasks ++ rest) book

/-- Trace from each of a list of faces that is not claimed when its turn comes. -/
def fromRoots (grid : γ) (recordEdges : Bool) (steps : Nat) :
    List Face → TraceBook → Except NetConflict TraceBook
  | [], book => .ok book
  | face :: rest, book =>
    if (book.claimed? face).isSome then fromRoots grid recordEdges steps rest book
    else
      match work grid recordEdges steps [.follow book.next face] (book.openAt grid face) with
      | .error conflict => .error conflict
      | .ok book => fromRoots grid recordEdges steps rest book

end TraceBook

namespace Grid

variable {γ : Type} [Grid γ]

/-- The nets between blocks, traced with records. -/
def traceWithRecords (grid : γ) (members : List Pos) (recordEdges : Bool) :
    Except NetConflict RecordGraph :=
  (TraceBook.fromRoots grid recordEdges (traceBudget grid members) (rootFaces grid members)
    .empty).map TraceBook.finish

/-- Every net that a task is on behalf of, that a face is claimed for or that a step was walked
for was opened. -/
structure Issues (state : TraceState) : Prop extends Numbered state where
  edges : ∀ edge ∈ state.log.edges, state.log.Issued edge.1

/-- The steps of a run are noted for its net. -/
theorem mem_edges_noted {grid : γ} {recordEdges : Bool} {net : NetId} {face : Face}
    {log : TraceLog} {edge : NetId × Pos × Pos}
    (walked : edge ∈ (noted grid recordEdges net face log).edges) :
    edge ∈ log.edges ∨ edge.1 = net := by
  unfold noted at walked
  split at walked
  · rcases List.mem_append.mp walked with new | old
    · obtain ⟨step, _, rfl⟩ := List.mem_map.mp (List.mem_reverse.mp new)
      exact Or.inr rfl
    · exact Or.inl old
  · exact Or.inl walked

/-- A step walks for nets that were opened. -/
theorem Issues.advance {grid : γ} {recordEdges : Bool} {before after : TraceState}
    (issues : Issues before) (step : Advances grid recordEdges before after) : Issues after := by
  have numbered := issues.toNumbered.advance step
  have opened := step.opened_le
  refine ⟨numbered, fun edge walked => ?_⟩
  have old : edge ∈ before.log.edges → after.log.Issued edge.1 := fun walked =>
    (issues.edges edge walked).mono opened
  cases step with
  | @work roots task rest tasks log after move =>
      have current := issues.tasks task List.mem_cons_self
      cases move with
      | breaksOff | returns | arrives =>
          rcases mem_edges_noted walked with walked | same
          · exact old walked
          · rw [same]
            exact TraceLog.Issued.mono current opened
      | settles | prolongs | opens => exact old walked
  | pass | start => exact old walked

private theorem Issues.worked {grid : γ} {recordEdges : Bool} {roots : List Face} {steps : Nat}
    {tasks : List TraceTask} {log after : TraceLog} (issues : Issues ⟨roots, tasks, log⟩)
    (worked : traceTasks grid recordEdges steps tasks log = .ok after) :
    Issues ⟨roots, [], after⟩ := by
  induction steps generalizing tasks log with
  | zero =>
      obtain rfl : log = after := by cases tasks <;> simpa [traceTasks] using worked
      exact ⟨⟨issues.claims, by simp⟩, issues.edges⟩
  | succ steps ih =>
      cases tasks with
      | nil =>
          obtain rfl : log = after := by simpa [traceTasks] using worked
          exact issues
      | cons task rest =>
          rw [traceTasks] at worked
          cases stepped : traceStep grid recordEdges log task with
          | error conflict => simp [stepped] at worked
          | ok led =>
              rw [stepped] at worked
              exact ih (issues.advance (.work (traceStep_eq_ok_iff.mp stepped))) worked

/-- A net that nothing is claimed or walked for has neither members nor steps. -/
theorem netOf_unissued {grid : γ} {state : TraceState} (issues : Issues state) {id : NetId}
    (unissued : ¬ state.log.Issued id) : netOf grid state.log id = ⟨id, [], []⟩ := by
  have claims : (state.log.claims.entries.filter fun claim => claim.2 = id) = [] := by
    rw [List.filter_eq_nil_iff]
    rintro ⟨face, held⟩ listed same
    rw [decide_eq_true_eq] at same
    exact unissued (same ▸ issues.claims face held (Table.mem_entries.mp listed))
  have edges : (state.log.edges.reverse.filter fun edge => edge.1 = id) = [] := by
    rw [List.filter_eq_nil_iff]
    intro edge walked same
    rw [decide_eq_true_eq] at same
    exact unissued (same ▸ issues.edges edge (List.mem_reverse.mp walked))
  rw [netOf, claims, edges, List.map_nil, List.map_nil]

/-- A claim puts the face last on its net, and leaves the other nets as they are. -/
theorem netOf_claim (grid : γ) {log : TraceLog} {face : Face}
    (unclaimed : log.claimed? face = none) (net id : NetId) :
    netOf grid (log.claim net face) id =
      if id = net then
        { netOf grid log id with
          members := (netOf grid log id).members ++ [⟨face, roleAt grid face⟩] }
      else netOf grid log id := by
  have absent : face ∉ log.claims.keys := by
    intro listed
    obtain ⟨held, found⟩ := Table.mem_keys_iff.mp listed
    exact Option.some_ne_none held (found.symm.trans unclaimed)
  have entries := Table.entries_insert_of_not_mem absent net
  simp only [netOf, TraceLog.claim, entries, List.filter_append, List.map_append]
  by_cases same : id = net
  · simp [same]
  · simp [same, Ne.symm same]

/-- Steps are noted last on their net, and on no other. -/
theorem netOf_walked (grid : γ) (log : TraceLog) (net id : NetId) (steps : List (Pos × Pos)) :
    netOf grid (log.walked net steps) id =
      if id = net then { netOf grid log id with edges := (netOf grid log id).edges ++ steps }
      else netOf grid log id := by
  simp only [netOf, TraceLog.walked, List.reverse_append, List.reverse_reverse,
    List.filter_append, List.map_append]
  by_cases same : id = net
  · simp [same, List.filter_map, Function.comp_def]
  · simp [same, Ne.symm same, List.filter_map, Function.comp_def]

end Grid

namespace TraceBook

variable {γ : Type} [Grid γ] (grid : γ)

/-- The record of a net with a number, as a log tells it. Of nets past the last serial number
nothing is recorded, since their names are those of earlier nets. -/
def recordOf (log : TraceLog) (count : Nat) : NetRecord :=
  if count < UInt32.size then .ofNet (Grid.netOf grid log (.ofCount count))
  else .fresh (.ofCount count)

/-- The book that tells what a log tells. -/
def ofLog (log : TraceLog) : TraceBook :=
  ⟨log.claims, (List.range log.opened).map (recordOf grid log)⟩

private theorem next_ofLog (log : TraceLog) : (ofLog grid log).next = log.next := by
  rw [next, ofLog, List.length_map, List.length_range, TraceLog.next]

/-- To change the record at the place that a serial number names is to change the net with this
serial number. -/
theorem modify_nets_ofLog {log after : TraceLog} {net : NetId} {edit : NetRecord → NetRecord}
    (opened : after.opened = log.opened)
    (edited : ∀ id, NetRecord.ofNet (Grid.netOf grid after id) =
      if id = net then edit (.ofNet (Grid.netOf grid log id))
      else .ofNet (Grid.netOf grid log id)) :
    (ofLog grid log).nets.modify net.serial.toNat edit = (ofLog grid after).nets := by
  have record : ∀ count, recordOf grid after count =
      if net.serial.toNat = count then edit (recordOf grid log count)
      else recordOf grid log count := by
    intro count
    unfold recordOf
    by_cases below : count < UInt32.size
    · simp only [if_pos below, edited, NetId.ofCount_eq_iff below]
    · -- A serial number names a place below the number of names, so this record stays fresh.
      have apart : net.serial.toNat ≠ count := fun same => below (same ▸ net.serial.toNat_lt)
      simp only [if_neg below, if_neg apart]
  apply List.ext_getElem?
  intro place
  simp only [ofLog, opened, List.getElem?_modify, List.getElem?_map]
  by_cases there : place < log.opened
  · simp only [List.getElem?_range there, Option.map_some, record]
    split <;> rfl
  · rw [List.getElem?_eq_none (by simpa using there)]
    rfl

/-- An unclaimed face is claimed in step with the log. -/
theorem claim_ofLog {log : TraceLog} {face : Face} (unclaimed : log.claimed? face = none)
    (net : NetId) : (ofLog grid log).claim grid net face = ofLog grid (log.claim net face) := by
  have edited : ∀ id, NetRecord.ofNet (Grid.netOf grid (log.claim net face) id) =
      if id = net then (NetRecord.ofNet (Grid.netOf grid log id)).attach
        ⟨face, Grid.roleAt grid face⟩
      else .ofNet (Grid.netOf grid log id) := by
    intro id
    rw [Grid.netOf_claim grid unclaimed, ← NetRecord.ofNet_attach, apply_ite NetRecord.ofNet]
  exact congrArg (TraceBook.mk _) (modify_nets_ofLog grid rfl edited)

/-- Steps are noted in step with the log. -/
theorem walked_ofLog (log : TraceLog) (net : NetId) (steps : List (Pos × Pos)) :
    (ofLog grid log).walked net steps = ofLog grid (log.walked net steps) := by
  have edited : ∀ id, NetRecord.ofNet (Grid.netOf grid (log.walked net steps) id) =
      if id = net then (NetRecord.ofNet (Grid.netOf grid log id)).walk steps
      else .ofNet (Grid.netOf grid log id) := by
    intro id
    rw [Grid.netOf_walked, apply_ite NetRecord.ofNet]
    rfl
  exact congrArg (TraceBook.mk _) (modify_nets_ofLog grid rfl edited)

/-- The next net is opened in step with the log, since nothing is claimed or walked for it. -/
theorem openAt_ofLog {state : TraceState} (issues : Grid.Issues state) {face : Face}
    (unclaimed : state.log.claimed? face = none) :
    (ofLog grid state.log).openAt grid face = ofLog grid (state.log.openAt face) := by
  obtain ⟨roots, tasks, log⟩ := state
  have last : recordOf grid log log.opened = .fresh log.next := by
    unfold recordOf
    split
    · next below =>
        have unissued : ¬ log.Issued (.ofCount log.opened) := by
          rintro ⟨count, before, same⟩
          exact before.ne' (NetId.ofCount_inj below (before.trans below) same)
        rw [Grid.netOf_unissued issues unissued]
        rfl
    · rfl
  have begun : (ofLog grid log).begin = ofLog grid { log with opened := log.opened + 1 } := by
    unfold begin
    rw [next_ofLog grid, ← last]
    simp only [ofLog, List.range_succ, List.map_append, List.map_cons, List.map_nil]
    rfl
  unfold openAt
  rw [begun, next_ofLog grid]
  have unclaimed : ({ log with opened := log.opened + 1 } : TraceLog).claimed? face = none :=
    unclaimed
  exact claim_ofLog grid unclaimed _

private theorem branch_ofLog {roots : List Face} {rest : List TraceTask} {log : TraceLog}
    {net : NetId} {pos : Pos} {pending : List Direction}
    (issues : Grid.Issues ⟨roots, .branch net pos pending :: rest, log⟩) :
    branch grid net pos pending (ofLog grid log) =
      Prod.map id (ofLog grid) (Grid.branch grid net pos pending log) := by
  have claimed : ∀ face, (ofLog grid log).claimed? face = log.claimed? face := fun _ => rfl
  unfold branch Grid.branch
  simp only [claimed, next_ofLog grid]
  cases found : pending.dropWhile fun direction => (log.claimed? ⟨pos, direction⟩).isSome with
  | nil => rfl
  | cons direction left =>
      have unclaimed : log.claimed? ⟨pos, direction⟩ = none := by
        have first := List.head?_dropWhile_not
          (fun direction => (log.claimed? ⟨pos, direction⟩).isSome) pending
        simpa [found] using first
      simp only [claim_ofLog grid unclaimed, openAt_ofLog grid issues unclaimed]
      split <;> rfl

private theorem follow_ofLog (recordEdges : Bool) (net : NetId) (face : Face) (log : TraceLog) :
    follow grid recordEdges net face (ofLog grid log) =
      (Grid.follow grid recordEdges net face log).map (Prod.map id (ofLog grid)) := by
  have walked : ∀ steps, (if recordEdges then (ofLog grid log).walked net steps
      else ofLog grid log) = ofLog grid (if recordEdges then log.walked net steps else log) := by
    intro steps
    rw [walked_ofLog grid, apply_ite (ofLog grid)]
  unfold follow Grid.follow
  simp only [walked]
  generalize (if recordEdges then _ else log) = noted
  have claimed : ∀ target, (ofLog grid noted).claimed? target = noted.claimed? target :=
    fun _ => rfl
  cases (Grid.run grid face).arrival with
  | none => rfl
  | some pos =>
      simp only [claimed]
      cases unclaimed : noted.claimed? ⟨pos, face.direction.opposite⟩ with
      | none => simp only [claim_ofLog grid unclaimed]; rfl
      | some existing =>
          by_cases own : existing = net
          · simp only [own, if_true]
            rfl
          · simp only [own, if_false]
            rfl

/-- A step is in step with the log: both fail alike, or lead to the same tasks. -/
theorem step_ofLog {recordEdges : Bool} {roots : List Face} {task : TraceTask}
    {rest : List TraceTask} {log : TraceLog} (issues : Grid.Issues ⟨roots, task :: rest, log⟩) :
    step grid recordEdges (ofLog grid log) task =
      (Grid.traceStep grid recordEdges log task).map (Prod.map id (ofLog grid)) := by
  cases task with
  | follow net face => exact follow_ofLog grid recordEdges net face log
  | branch net pos pending => exact congrArg Except.ok (branch_ofLog grid issues)

private theorem work_ofLog {recordEdges : Bool} {roots : List Face} (steps : Nat)
    {tasks : List TraceTask} {log : TraceLog} (issues : Grid.Issues ⟨roots, tasks, log⟩) :
    work grid recordEdges steps tasks (ofLog grid log) =
      (Grid.traceTasks grid recordEdges steps tasks log).map (ofLog grid) := by
  induction steps generalizing tasks log with
  | zero => cases tasks <;> rfl
  | succ steps ih =>
      cases tasks with
      | nil => rfl
      | cons task rest =>
          rw [work, Grid.traceTasks, step_ofLog grid issues]
          cases stepped : Grid.traceStep grid recordEdges log task with
          | error conflict => rfl
          | ok led =>
              exact ih (issues.advance (.work (Grid.traceStep_eq_ok_iff.mp stepped)))

private theorem fromRoots_ofLog {recordEdges : Bool} (steps : Nat) {roots : List Face}
    {log : TraceLog} (issues : Grid.Issues ⟨roots, [], log⟩) :
    fromRoots grid recordEdges steps roots (ofLog grid log) =
      (Grid.traceRoots grid recordEdges steps roots log).map (ofLog grid) := by
  induction roots generalizing log with
  | nil => rfl
  | cons face rest ih =>
      have same : (ofLog grid log).claimed? face = log.claimed? face := rfl
      rw [fromRoots, Grid.traceRoots, same, next_ofLog grid]
      cases claimed : log.claimed? face with
      | some held =>
          have passes : Grid.Advances grid recordEdges ⟨face :: rest, [], log⟩ ⟨rest, [], log⟩ :=
            .pass (by rw [claimed]; rfl)
          exact ih (issues.advance passes)
      | none =>
          have starts : Grid.Advances grid recordEdges ⟨face :: rest, [], log⟩
              ⟨rest, [.follow log.next face], log.openAt face⟩ := .start claimed
          have started := issues.advance starts
          simp only [Option.isSome_none, Bool.false_eq_true, if_false,
            openAt_ofLog grid issues claimed, work_ofLog grid steps started]
          cases worked : Grid.traceTasks grid recordEdges steps [.follow log.next face]
              (log.openAt face) with
          | error conflict => rfl
          | ok after => exact ih (started.worked worked)

/-- The records that can carry a signal by their flags are those of the nets that can. -/
theorem filter_useful_ofLog (log : TraceLog) : (ofLog grid log).nets.filter NetRecord.useful =
    ((Grid.netsOf grid log).filter Net.useful).map NetRecord.ofNet := by
  have split : log.opened = min log.opened UInt32.size + (log.opened - UInt32.size) := by omega
  have named : (List.range (min log.opened UInt32.size)).map (recordOf grid log) =
      (Grid.netsOf grid log).map NetRecord.ofNet := by
    rw [Grid.netsOf_eq, List.map_map]
    refine List.map_congr_left fun count listed => ?_
    have below := (List.mem_range.mp listed).trans_le (Nat.min_le_right ..)
    simp only [recordOf, if_pos below, Function.comp_apply]
  -- Records past the last name are fresh, and no flag of theirs is set.
  have unnamed : (((List.range (log.opened - UInt32.size)).map
      (min log.opened UInt32.size + ·)).map (recordOf grid log)).filter NetRecord.useful = [] := by
    rw [List.filter_eq_nil_iff]
    simp only [List.mem_map, List.mem_range]
    rintro _ ⟨_, ⟨count, below, rfl⟩, rfl⟩
    rw [recordOf, if_neg (by omega)]
    exact Bool.false_ne_true
  have nets : (ofLog grid log).nets = (List.range (min log.opened UInt32.size +
      (log.opened - UInt32.size))).map (recordOf grid log) := by
    rw [← split]
    rfl
  rw [nets, List.range_add, List.map_append, List.filter_append, unnamed, List.append_nil, named,
    List.filter_map]
  rfl

/-- What can carry a signal by its flags is kept, with the claims for it. -/
theorem finish_ofLog (log : TraceLog) :
    (ofLog grid log).finish = .ofGraph (Grid.netGraph grid log) := by
  have useful := filter_useful_ofLog grid log
  have byId : Table.ofList (((ofLog grid log).nets.filter NetRecord.useful).map fun record =>
      (record.id, record)) = (Grid.netGraph grid log).byId.map id NetRecord.ofNet := by
    rw [Grid.netGraph, NetGraph.ofNets, Table.map_ofList Function.injective_id, useful,
      List.map_map, List.map_map]
    rfl
  have kept : ∀ net, ((Grid.netGraph grid log).byId.map id NetRecord.ofNet).contains net =
      (Grid.netGraph grid log).byId.contains net :=
    Table.contains_map Function.injective_id NetRecord.ofNet _
  simp only [finish, byId, kept]
  rfl

end TraceBook

namespace Grid

variable {γ : Type} [Grid γ]

/-- **Records stay in step with the claims.** A tracer that keeps nets with flags beside the
claims, and prunes both apart, comes to the same conflict as one that keeps a log, or to the same
nets with the same attachments, where the flags tell the roles of the members. -/
theorem traceWithRecords_eq (grid : γ) (members : List Pos) (recordEdges : Bool) :
    traceWithRecords grid members recordEdges =
      (trace grid members recordEdges).map RecordGraph.ofGraph := by
  have start : TraceBook.ofLog grid .empty = .empty := rfl
  have issues : Issues ⟨rootFaces grid members, [], .empty⟩ :=
    ⟨⟨fun face id claimed => by simp at claimed, by simp⟩, by simp [TraceLog.empty]⟩
  rw [traceWithRecords, trace, traceLog, ← start, TraceBook.fromRoots_ofLog grid _ issues]
  cases traceRoots grid recordEdges (traceBudget grid members) (rootFaces grid members) .empty with
  | error conflict => rfl
  | ok log => exact congrArg Except.ok (TraceBook.finish_ofLog grid log)

end Grid

end VoxelCircuit

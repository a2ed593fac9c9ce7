import VoxelCircuit.Proofs.Circuit.Search
import VoxelCircuit.Proofs.Net.Graph

/-! # Dependent nets

A block feeds another that reads a net which it drives. A block that does not feed itself in
this way, however indirectly, comes in the order of demand after the nets that it reads and
before the nets that it drives (`VoxelCircuit.Grid.reads_before_of_not_fed`,
`VoxelCircuit.Grid.driver_before_of_not_fed`). Blocks that drive nothing do not feed themselves;
and where no net depends on itself, no block but a junction does.
-/

namespace VoxelCircuit.Grid

open Relation

variable {γ : Type} [Grid γ]

/-- A block has a face on a net that drives it. -/
def Drives (grid : γ) (graph : NetGraph) (pos : Pos) (net : NetId) : Prop :=
  ∃ direction, graph.netAt ⟨pos, direction⟩ = some net ∧
    (roleAt grid ⟨pos, direction⟩).drives = true

/-- A block has a face on a net that reads it. -/
def Reads (grid : γ) (graph : NetGraph) (pos : Pos) (net : NetId) : Prop :=
  ∃ direction, graph.netAt ⟨pos, direction⟩ = some net ∧
    (roleAt grid ⟨pos, direction⟩).reads = true

/-- A block drives a net that another reads. -/
def Feeds (grid : γ) (graph : NetGraph) (source pos : Pos) : Prop :=
  ∃ net, Drives grid graph source net ∧ Reads grid graph pos net

/-- A net depends on another when some block drives the one and reads the other. That a
junction reads the net it drives does not count. -/
def DependsOn (grid : γ) (graph : NetGraph) (net source : NetId) : Prop :=
  ∃ pos, Drives grid graph pos net ∧ Reads grid graph pos source ∧
    ¬(net = source ∧ behavior grid pos = some .junction)

/-- No net depends on itself, however indirectly. -/
def Acyclic (grid : γ) (graph : NetGraph) : Prop :=
  ∀ net, ¬TransGen (DependsOn grid graph) net net

/-- A rank that falls from each net to those it depends on rules out circles. -/
theorem acyclic_of_rank {grid : γ} {graph : NetGraph} (rank : NetId → Nat)
    (falls : ∀ net source, DependsOn grid graph net source → rank source < rank net) :
    Acyclic grid graph := by
  have falling : ∀ {net source}, TransGen (DependsOn grid graph) net source →
      rank source < rank net := by
    intro net source path
    induction path with
    | single depends => exact falls _ _ depends
    | tail _ depends ih => exact (falls _ _ depends).trans ih
  exact fun net path => Nat.lt_irrefl _ (falling path)

/-- No chain of blocks, each feeding the next, returns to a block other than a junction. A junction
feeds itself through each net that it carries on. -/
def WithoutLoops (grid : γ) (graph : NetGraph) : Prop :=
  ∀ pos, behavior grid pos ≠ some .junction → ¬TransGen (Feeds grid graph) pos pos

variable {grid : γ} {graph : NetGraph}

/-- A chain of blocks, each feeding the next, makes the net that its last block reads depend on one
that its first block drives. -/
theorem dependsOn_of_feeds {first last : Pos} (chain : TransGen (Feeds grid graph) first last) :
    ∃ driven read, Drives grid graph first driven ∧ Reads grid graph last read ∧
      ReflTransGen (DependsOn grid graph) read driven := by
  induction chain with
  | single feeds =>
      obtain ⟨net, drives, reads⟩ := feeds
      exact ⟨net, net, drives, reads, .refl⟩
  | @tail middle last _ feeds ih =>
      obtain ⟨driven, read, drives, readsMiddle, path⟩ := ih
      obtain ⟨net, drivesNet, readsNet⟩ := feeds
      refine ⟨driven, net, drives, readsNet, ?_⟩
      by_cases through : net = read ∧ behavior grid middle = some .junction
      · exact through.1 ▸ path
      · exact .head ⟨middle, drivesNet, readsMiddle, through⟩ path

/-- Where no net depends on itself, no block but a junction feeds itself. -/
theorem Acyclic.withoutLoops (acyclic : Acyclic grid graph) : WithoutLoops grid graph := by
  intro pos other chain
  obtain ⟨driven, read, drives, reads, path⟩ := dependsOn_of_feeds chain
  exact acyclic driven (.head' ⟨pos, drives, reads, fun through => other through.2⟩ path)

/-- It is enough to look at the attached faces. -/
theorem acyclic_of_attachments (rank : NetId → Nat)
    (ranked : ∀ driver ∈ graph.attachments.entries, ∀ reader ∈ graph.attachments.entries,
      driver.1.pos = reader.1.pos → (roleAt grid driver.1).drives = true →
        (roleAt grid reader.1).reads = true →
          ¬(driver.2 = reader.2 ∧ behavior grid driver.1.pos = some .junction) →
            rank reader.2 < rank driver.2) : Acyclic grid graph := by
  apply acyclic_of_rank rank
  rintro net source ⟨pos, ⟨driving, driven, drives⟩, ⟨reading, read, reads⟩, apart⟩
  exact ranked (⟨pos, driving⟩, net) (Table.mem_entries.mpr driven) (⟨pos, reading⟩, source)
    (Table.mem_entries.mpr read) rfl drives reads apart

/-- A reading face has the net that it is attached to among the inputs. -/
theorem inputsAt_get {pos : Pos} {direction : Direction} {id : NetId} :
    (inputsAt grid graph pos).get direction = some id ↔
      graph.netAt ⟨pos, (orientation grid pos).transform direction⟩ = some id ∧
        (roleAt grid ⟨pos, (orientation grid pos).transform direction⟩).reads = true := by
  rw [inputsAt, PerFace.get_tabulate, roleAt]
  cases behavior grid pos with
  | none => simp [FaceRole.reads]
  | some found =>
      simp only [Behavior.faceRole_transform]
      split <;> simp [*]

/-- The inputs of a block that reads on all faces are the nets on them. -/
theorem get_inputsAt {pos : Pos} {found : Behavior} (there : behavior grid pos = some found)
    (reads : ∀ direction, (found.role direction).reads = true) (direction : Direction) :
    (inputsAt grid graph pos).get direction =
      graph.netAt ⟨pos, (orientation grid pos).transform direction⟩ := by
  rw [inputsAt, PerFace.get_tabulate, there]
  exact if_pos (reads direction)

/-- A block reads a net if the net is one of its inputs. -/
theorem reads_iff {pos : Pos} {id : NetId} :
    Reads grid graph pos id ↔ ∃ direction, (inputsAt grid graph pos).get direction = some id := by
  refine ⟨fun ⟨direction, attached, reads⟩ => ?_, fun ⟨direction, found⟩ => ?_⟩
  · refine ⟨(orientation grid pos).untransform direction, inputsAt_get.mpr ?_⟩
    rw [Orientation.transform_untransform]
    exact ⟨attached, reads⟩
  · exact ⟨_, inputsAt_get.mp found⟩

/-- A block demands the nets that it reads. -/
theorem mem_demands_block {pos : Pos} {demanded : Target} :
    demanded ∈ demands grid graph (.block pos) ↔
      ∃ id, demanded = .net id ∧ Reads grid graph pos id := by
  simp only [demands, List.mem_map, List.mem_filterMap, Direction.mem_all, true_and, reads_iff]
  refine exists_congr fun id => ?_
  rw [and_comm, eq_comm]

/-- A net demands the blocks that drive it. -/
theorem mem_demands_net (graphOf : GraphOf grid graph) {id : NetId} {demanded : Target} :
    demanded ∈ demands grid graph (.net id) ↔
      ∃ pos, demanded = .block pos ∧ Drives grid graph pos id := by
  rw [demands]
  cases found : graph.net? id with
  | none =>
      simp only [List.not_mem_nil, false_iff]
      rintro ⟨pos, _, direction, attached, _⟩
      obtain ⟨net, kept⟩ := graphOf.kept attached
      rw [found] at kept
      cases kept
  | some net =>
      rw [List.mem_map]
      refine ⟨fun demand => ?_, fun drive => ?_⟩
      · obtain ⟨face, driver, rfl⟩ := demand
        exact ⟨face.pos, rfl, face.direction, (graphOf.mem_drivers found).mp driver⟩
      · obtain ⟨pos, rfl, direction, drives⟩ := drive
        exact ⟨⟨pos, direction⟩, (graphOf.mem_drivers found).mpr drives, rfl⟩

/-- The targets that demands between some blocks can come to. -/
def demandable (graph : NetGraph) (members : List Pos) : Finset Target :=
  (members.map Target.block ++ graph.ids.map Target.net ++ graph.nets.flatMap fun net =>
    net.members.map fun member => Target.block member.face.pos).toFinset

/-- The members and the nets of a graph may be demanded. -/
theorem mem_demandable_of_root {graph : NetGraph} {members : List Pos} {root : Target}
    (listed : root ∈ members.map Target.block ++ graph.ids.map Target.net) :
    root ∈ demandable graph members := by
  rw [demandable, List.mem_toFinset]
  exact List.mem_append_left _ listed

/-- Fewer targets may be demanded than the search for them may go deep. -/
theorem card_demandable_lt (graph : NetGraph) (members : List Pos) :
    (demandable graph members).card < demandDepth graph members := by
  apply Nat.lt_succ_of_le
  apply (List.toFinset_card_le _).trans
  have ids : graph.ids.length = graph.nets.length := (Table.length_values graph.byId).symm
  simp only [List.length_append, List.length_map, List.length_flatMap, ids]
  exact Nat.le_refl _

/-- What is demanded by a target that may be demanded may be demanded itself. -/
theorem demandable_closed (graphOf : GraphOf grid graph) {members : List Pos} {target : Target}
    (inside : target ∈ demandable graph members) {demanded : Target}
    (demand : demanded ∈ demands grid graph target) : demanded ∈ demandable graph members := by
  simp only [demandable, List.mem_toFinset, List.mem_append, List.mem_map, List.mem_flatMap]
  cases target with
  | block pos =>
      obtain ⟨id, rfl, _, attached, _⟩ := mem_demands_block.mp demand
      exact Or.inl (Or.inr ⟨id, Table.mem_keys_iff.mpr (graphOf.kept attached), rfl⟩)
  | net id =>
      obtain ⟨pos, rfl, direction, attached, _⟩ := (mem_demands_net graphOf).mp demand
      obtain ⟨net, kept⟩ := graphOf.kept attached
      exact Or.inr ⟨net, Table.mem_values.mpr ⟨id, kept⟩, ⟨_, roleAt grid ⟨pos, direction⟩⟩,
        (graphOf.mem_members kept).mpr ⟨attached, rfl⟩, rfl⟩

/-- What the order of demand of some blocks and their nets is like. -/
structure Demanded (grid : γ) (graph : NetGraph) (members : List Pos) (order : List Target) :
    Prop where
  nodup : order.Nodup
  member : ∀ pos ∈ members, .block pos ∈ order
  net : ∀ id net, graph.net? id = some net → .net id ∈ order
  driver : ∀ pos id, Drives grid graph pos id → .block pos ∈ order
  before : ∀ earlier target later, order = earlier ++ target :: later →
    ∀ demanded ∈ demands grid graph target, demanded ∈ earlier ∨
      ReflTransGen (Search.Demands (demands grid graph)) demanded target

/-- The order of demand has all that is demanded, and a target comes after what it demands unless
that demands the target in turn. -/
theorem demandOrder_demanded (graphOf : GraphOf grid graph) (members : List Pos) :
    Demanded grid graph members (demandOrder grid graph members) := by
  obtain ⟨nodup, roots, closed, before⟩ := Search.leavingOrder_spec
    (fun target member demanded => demandable_closed graphOf member)
    (fun root listed => mem_demandable_of_root listed) (card_demandable_lt graph members)
  have net : ∀ id net, graph.net? id = some net → .net id ∈ demandOrder grid graph members := by
    intro id net kept
    apply roots
    exact List.mem_append_right _ (List.mem_map_of_mem (Table.mem_keys_iff.mpr ⟨net, kept⟩))
  refine ⟨nodup, fun pos member => ?_, net, fun pos id drives => ?_, before⟩
  · exact roots _ (List.mem_append_left _ (List.mem_map_of_mem member))
  · obtain ⟨kept, found⟩ := graphOf.kept drives.choose_spec.1
    exact closed _ (net id kept found) _ ((mem_demands_net graphOf).mpr ⟨pos, rfl, drives⟩)

/-- What demands lead to from a block: the blocks that feed it, however indirectly, and the nets
that it or one of these reads. -/
theorem feeds_of_demands (graphOf : GraphOf grid graph) {pos : Pos} {target : Target}
    (path : ReflTransGen (Search.Demands (demands grid graph)) (Target.block pos) target) :
    (∀ source, target = .block source → ReflTransGen (Feeds grid graph) source pos) ∧
      ∀ id, target = .net id →
        ∃ reader, Reads grid graph reader id ∧ ReflTransGen (Feeds grid graph) reader pos := by
  induction path with
  | refl =>
      refine ⟨fun source same => ?_, nofun⟩
      cases same
      exact .refl
  | @tail middle last _ demand ih =>
      cases middle with
      | net id =>
          obtain ⟨source, rfl, drives⟩ := (mem_demands_net graphOf).mp demand
          refine ⟨fun other same => ?_, nofun⟩
          cases same
          obtain ⟨reader, reads, chain⟩ := ih.2 id rfl
          exact .head ⟨id, drives, reads⟩ chain
      | block reader =>
          obtain ⟨id, rfl, reads⟩ := mem_demands_block.mp demand
          refine ⟨nofun, fun other same => ?_⟩
          cases same
          exact ⟨reader, reads, ih.1 reader rfl⟩

variable {members : List Pos} {order earlier later : List Target} {pos : Pos} {id : NetId}

/-- A net comes after a driver that does not feed itself. -/
theorem driver_before_of_not_fed (graphOf : GraphOf grid graph)
    (once : ¬TransGen (Feeds grid graph) pos pos) (demanded : Demanded grid graph members order)
    (split : order = earlier ++ .net id :: later) (drives : Drives grid graph pos id) :
    .block pos ∈ earlier := by
  have demand := (mem_demands_net graphOf).mpr ⟨pos, rfl, drives⟩
  refine (demanded.before earlier _ later split _ demand).resolve_right fun circle => once ?_
  obtain ⟨reader, reads, chain⟩ := (feeds_of_demands graphOf circle).2 id rfl
  exact .head' ⟨id, drives, reads⟩ chain

/-- A block that does not feed itself comes after the nets that it reads. -/
theorem reads_before_of_not_fed (graphOf : GraphOf grid graph)
    (once : ¬TransGen (Feeds grid graph) pos pos) (demanded : Demanded grid graph members order)
    (split : order = earlier ++ .block pos :: later) (reads : Reads grid graph pos id) :
    .net id ∈ earlier := by
  have demand := mem_demands_block.mpr ⟨id, rfl, reads⟩
  refine (demanded.before earlier _ later split _ demand).resolve_right fun circle => once ?_
  rcases circle.cases_head with same | ⟨next, first, rest⟩
  · cases same
  · obtain ⟨source, rfl, drives⟩ := (mem_demands_net graphOf).mp first
    exact .tail' ((feeds_of_demands graphOf rest).1 pos rfl) ⟨id, drives, reads⟩

/-- A net comes after its drivers other than junctions. -/
theorem drivers_before (graphOf : GraphOf grid graph) (acyclic : Acyclic grid graph)
    (demanded : Demanded grid graph members order) (split : order = earlier ++ .net id :: later)
    (drives : Drives grid graph pos id) (other : behavior grid pos ≠ some .junction) :
    .block pos ∈ earlier :=
  driver_before_of_not_fed graphOf (acyclic.withoutLoops pos other) demanded split drives

/-- A block other than a junction comes after the nets that it reads. -/
theorem reads_before (graphOf : GraphOf grid graph) (acyclic : Acyclic grid graph)
    (demanded : Demanded grid graph members order)
    (split : order = earlier ++ .block pos :: later) (reads : Reads grid graph pos id)
    (other : behavior grid pos ≠ some .junction) : .net id ∈ earlier :=
  reads_before_of_not_fed graphOf (acyclic.withoutLoops pos other) demanded split reads

/-- A block that drives nothing comes after the nets that it reads. -/
theorem sink_reads_before (graphOf : GraphOf grid graph)
    (demanded : Demanded grid graph members order)
    (split : order = earlier ++ .block pos :: later) (reads : Reads grid graph pos id)
    (sink : ∀ net, ¬Drives grid graph pos net) : .net id ∈ earlier := by
  refine reads_before_of_not_fed graphOf (fun chain => ?_) demanded split reads
  obtain ⟨driven, _, drives, _⟩ := dependsOn_of_feeds chain
  exact sink driven drives

end VoxelCircuit.Grid

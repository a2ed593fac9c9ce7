import VoxelCircuit.Layout.Basic
import VoxelCircuit.Layout.EndlessChip
import VoxelCircuit.Proofs.Circuit.Evaluation

/-! # The equations of a circuit

A circuit states an equation for each net, whose signal merges what is driven on it, and
for each block that drives a signal of its own, in terms of the signals that the block
reads. Evaluating visits each net and each block once. If no net depends on itself, that
is enough to satisfy all equations at once (`VoxelCircuit.Circuit.evaluate_solves`).
-/

namespace VoxelCircuit

variable {γ : Type} [Grid γ]

/-- What a block drives on each of its driving faces in a state, by the signals on its
inputs. Junctions drive nothing of their own, and chips may drive each face otherwise. -/
def Behavior.driven? (behavior : Behavior) (pos : Pos) (orientation : Orientation)
    (inputs : Inputs) (state : EvalState γ) : Option Signal :=
  match behavior with
  | pad => some (.number (.ofInt (Grid.datum state.grid pos)))
  | nor => some (.bool !(inputs.any state [.negX, .posX]).truthy)
  | gate =>
    some (if (inputs.any state [.posY, .posZ, .negY, .negZ]).truthy then
      inputs.signal state .negX else .null)
  | datumSensor => some (.number (.ofInt (sensedDatum pos state)))
  | neighborSensor => some (sensedId pos orientation state).signal
  | spontaneous => some (state.event.getD (.bool false))
  | wire | indicator | junction | rotator | changer | chipOutput | chip => none

namespace Behavior

variable {behavior : Behavior} {pos : Pos} {orientation : Orientation} {inputs : Inputs}
  {state : EvalState γ} {signal : Signal}

/-- A block that drives a signal of its own does so on all its driving faces and does
nothing else. -/
theorem response_of_driven (driven : behavior.driven? pos orientation inputs state = some signal) :
    behavior.response pos orientation inputs state = behavior.drive pos orientation signal := by
  cases behavior <;> cases driven <;> rfl

/-- A block that drives a signal is no junction, no chip and no wire. -/
theorem not_junction_of_driven
    (driven : behavior.driven? pos orientation inputs state = some signal) :
    behavior ≠ .junction ∧ behavior ≠ .chip ∧ behavior ≠ .wire := by
  cases behavior <;> cases driven <;> decide

/-- What a block drives depends on the signals on its inputs and on the grids alone. -/
theorem driven?_congr {other : EvalState γ} (grid : state.grid = other.grid)
    (embedding : state.embedding = other.embedding)
    (signals : ∀ direction, inputs.signal state direction = inputs.signal other direction) :
    behavior.driven? pos orientation inputs state =
      behavior.driven? pos orientation inputs other := by
  have merges : ∀ directions, inputs.any state directions = inputs.any other directions := by
    intro directions
    rw [Inputs.any, Inputs.any, List.map_congr_left fun direction _ => signals direction]
  cases behavior <;>
    simp only [driven?, sensedDatum, sensedId, EvalState.event, grid, embedding, merges, signals]

end Behavior

namespace Circuit

/-- A state satisfies the equations of the nets of a circuit, and those of its members and
of the blocks that drive its nets. -/
structure Solves (grid : γ) (circuit : Circuit γ) (state : EvalState γ) : Prop where
  nets : ∀ id net, circuit.graph.net? id = some net →
    state.values.get? (.net id) =
      some (Signal.merge (net.drivers.filterMap fun face => state.values.get? (.output face)))
  blocks : ∀ pos behavior signal,
    (pos ∈ circuit.members ∨ ∃ id, Grid.Drives grid circuit.graph pos id) →
    Grid.behavior grid pos = some behavior →
    behavior.driven? pos (Grid.orientation grid pos) (Grid.inputsAt grid circuit.graph pos)
      state = some signal →
    ∀ direction, (behavior.role direction).drives = true →
      state.values.get? (.output ⟨pos, (Grid.orientation grid pos).transform direction⟩) =
        some signal

variable {grid : γ} {circuit : Circuit γ} {start now : EvalState γ} {earlier : List Target}
  {effect : Option (Effect γ)}

/-- A net merges what its drivers have written at the end. -/
theorem Turn.net_eq {id : NetId} {net : Net}
    (turn : Turn grid circuit start (.net id) effect earlier now)
    (kept : circuit.graph.net? id = some net)
    (driven : ∀ face ∈ net.drivers, Grid.behavior grid face.pos ≠ some .junction →
      .block face.pos ∈ earlier) :
    (circuit.evaluate start).values.get? (.net id) =
      some (Signal.merge (net.drivers.filterMap fun face =>
        (circuit.evaluate start).values.get? (.output face))) := by
  have outputs : ∀ face ∈ net.drivers, now.values.get? (.output face) =
      (circuit.evaluate start).values.get? (.output face) := by
    intro face driver
    by_cases junction : Grid.behavior grid face.pos = some .junction
    · exact turn.silent face junction
    · exact turn.settled (.block face.pos) (driven face driver junction) (.output face) rfl
  obtain ⟨merges⟩ := turn.realizes
  rw [kept] at merges
  rw [turn.written _ merges (.net id) rfl, ← List.filterMap_congr outputs]
  simp only [Effect.response, Response.ofWrites, Values.setAll, List.foldl_cons, List.foldl_nil,
    Table.get?_insert, if_pos]

/-- A block drives at the end what follows from its inputs at the end. -/
theorem Turn.output_eq {pos : Pos} {behavior : Behavior} {signal : Signal}
    (turn : Turn grid circuit start (.block pos) effect earlier now)
    (merged : ∀ id, Grid.Reads grid circuit.graph pos id → .net id ∈ earlier)
    (there : Grid.behavior grid pos = some behavior)
    (driven : behavior.driven? pos (Grid.orientation grid pos)
      (Grid.inputsAt grid circuit.graph pos) (circuit.evaluate start) = some signal)
    {direction : Direction} (drives : (behavior.role direction).drives = true) :
    (circuit.evaluate start).values.get?
      (.output ⟨pos, (Grid.orientation grid pos).transform direction⟩) = some signal := by
  obtain ⟨_, notChip, notWire⟩ := Behavior.not_junction_of_driven driven
  have realized := turn.realizes.respond_eq there notWire notChip
  obtain ⟨grids, _, embeddings⟩ := Effect.runAll_setting circuit.pipeline start
  have current : behavior.driven? pos (Grid.orientation grid pos)
      (Grid.inputsAt grid circuit.graph pos) now = some signal := by
    rw [← driven]
    apply Behavior.driven?_congr
    · exact turn.setting.1.trans grids.symm
    · exact turn.setting.2.2.trans embeddings.symm
    · exact turn.signal_eq merged
  rw [turn.written _ realized (.output ⟨pos, _⟩) rfl, Effect.response,
    Behavior.response_of_driven current]
  apply Values.get?_setAll_of_uniform
  · exact ⟨_, Behavior.mem_drive_writes.mpr ⟨direction, drives, rfl⟩, rfl⟩
  · intro write member _
    obtain ⟨_, _, rfl⟩ := Behavior.mem_drive_writes.mp member
    rfl

/-- A block that reads nothing drives its signal on each face, wherever it has its turn. -/
theorem Compiled.output_of_source {recordEdges : Bool}
    (compiled : Compiled grid recordEdges circuit) (fresh : start.Fresh) {pos : Pos}
    (member : pos ∈ circuit.members) {behavior : Behavior}
    (there : Grid.behavior grid pos = some behavior)
    (source : ∀ direction, behavior.role direction = .output) {signal : Signal}
    (driven : behavior.driven? pos (Grid.orientation grid pos)
      (Grid.inputsAt grid circuit.graph pos) (circuit.evaluate start) = some signal)
    (direction : Direction) :
    (circuit.evaluate start).values.get? (.output ⟨pos, direction⟩) = some signal := by
  have demanded := Grid.demandOrder_demanded (Grid.graphOf_trace compiled.traced) circuit.members
  obtain ⟨effect, earlier, later, now, order, turn⟩ :=
    compiled.turn fresh (demanded.member pos member)
  have unread : ∀ id, Grid.Reads grid circuit.graph pos id → .net id ∈ earlier := by
    rintro id ⟨face, _, reads⟩
    rw [Grid.roleAt, there] at reads
    simp only [Behavior.faceRole, source] at reads
    cases reads
  have drives : (behavior.role ((Grid.orientation grid pos).untransform direction)).drives =
      true := by
    rw [source]
    rfl
  have output := turn.output_eq unread there driven drives
  rwa [Orientation.transform_untransform] at output

/-- **Evaluating solves the equations of an acyclic circuit.** If no net of a compiled
circuit depends on itself, then evaluating the circuit on any fresh state ends with the
merge of the final driven signals on each net, and with the signal that follows from the
final signals of the nets which a block reads on each driving face of the block. -/
theorem evaluate_solves {options : CompileOptions} {depth : Nat} {source : Circuit γ}
    (compiled : (compile options depth grid source).outcome = .ok circuit)
    (acyclic : Grid.Acyclic grid circuit.graph) (fresh : start.Fresh) :
    Solves grid circuit (circuit.evaluate start) := by
  have made := (compile_ok compiled).2
  have graphOf := Grid.graphOf_trace made.traced
  have demanded := Grid.demandOrder_demanded graphOf circuit.members
  constructor
  · intro id net kept
    obtain ⟨effect, earlier, later, now, split, turn⟩ :=
      made.turn fresh (demanded.net id net kept)
    refine turn.net_eq kept fun face driver other => ?_
    exact Grid.drivers_before graphOf acyclic demanded split
      ⟨face.direction, (graphOf.mem_drivers kept).mp driver⟩ other
  · intro pos behavior signal among there driven direction drives
    have listed : .block pos ∈ Grid.demandOrder grid circuit.graph circuit.members :=
      among.elim (demanded.member pos) fun ⟨id, driver⟩ => demanded.driver pos id driver
    obtain ⟨effect, earlier, later, now, split, turn⟩ := made.turn fresh listed
    refine turn.output_eq (fun id reads => ?_) there driven drives
    apply Grid.reads_before graphOf acyclic demanded split reads
    rw [there]
    exact fun junction => (Behavior.not_junction_of_driven driven).1 (Option.some.inj junction)

/-- An unlit pad that a nor block reads on its -X face, and an indicator on top of it. -/
def invertedPad : VoxelGrid (World EndlessChip) :=
  ⟨⟨Layout.standardTypes⟩, (GridExtent.ofSides? 2 2 1).get rfl,
    #[⟨⟨2⟩, .identity, 0⟩, ⟨⟨5⟩, .identity, 0⟩, .air, ⟨⟨3⟩, .identity, 0⟩], rfl⟩

/-- The circuit of a pad, a nor block and an indicator satisfies its equations. -/
theorem invertedPad_solves :
    ∃ circuit, (compile {} 0 (World.voxel invertedPad)
        (ofMembers [⟨0, 0, 0⟩, ⟨1, 0, 0⟩, ⟨1, 1, 0⟩])).outcome = .ok circuit ∧
      Grid.Acyclic (World.voxel invertedPad) circuit.graph ∧
        Solves (World.voxel invertedPad) circuit
          (circuit.evaluate (.editing (World.voxel invertedPad))) := by
  obtain ⟨circuit, compiled, ranked⟩ := Compilation.exists_ok
    (compile {} 0 (World.voxel invertedPad)
      (ofMembers [⟨0, 0, 0⟩, ⟨1, 0, 0⟩, ⟨1, 1, 0⟩]))
    (fun circuit => decide (∀ driver ∈ circuit.graph.attachments.entries,
      ∀ reader ∈ circuit.graph.attachments.entries, driver.1.pos = reader.1.pos →
        (Grid.roleAt (World.voxel invertedPad) driver.1).drives = true →
          (Grid.roleAt (World.voxel invertedPad) reader.1).reads = true →
            ¬(driver.2 = reader.2 ∧
              Grid.behavior (World.voxel invertedPad) driver.1.pos = some .junction) →
                reader.2.serial.toNat < driver.2.serial.toNat))
    true (by decide +kernel)
  have acyclic : Grid.Acyclic (World.voxel invertedPad) circuit.graph :=
    Grid.acyclic_of_attachments (fun id => id.serial.toNat) (of_decide_eq_true ranked)
  exact ⟨circuit, compiled, acyclic, evaluate_solves compiled acyclic ⟨rfl, rfl⟩⟩

end Circuit

end VoxelCircuit

import VoxelCircuit.Proofs.Grid.Turned
import VoxelCircuit.Proofs.Net.Pairs

/-! # Faces in turned grids

A motion takes the faces of a grid to faces of the grid turned that play the same parts and
look at each other in the same way (`VoxelCircuit.Grid.Turned.links`). Runs are followed
through other cells and traces meet faces in another order, and so nets have other serial
numbers; without junctions it is the links alone that tell which faces share a net.
-/

namespace VoxelCircuit.Grid.Turned

variable {γ : Type} [Grid γ] {motion : Motion} {first second : γ}

private theorem roleAt (turned : Turned motion first second) (face : Face) :
    Grid.roleAt second (motion.face face) = Grid.roleAt first face := by
  have there := turned.behavior face.pos
  rw [Grid.roleAt, Grid.roleAt, Motion.face, there]
  cases found : Grid.behavior first face.pos with
  | none => rfl
  | some behavior =>
      have present : Grid.active first face.pos = true := by rw [Grid.active, found]; rfl
      simp only [Behavior.faceRole, turned.orientation face.pos present, Motion.turn,
        Orientation.mul_untransform_transform]

private theorem corridor (turned : Turned motion first second) (enclosed : Enclosed second)
    {direction : Direction} {pos last : Pos} (corridor : Corridor first direction pos last) :
    Corridor second (motion.turn direction) (motion.place pos) (motion.place last) := by
  induction corridor with
  | step =>
      rw [motion.place_step]
      exact .step _
  | @through wire _ _ isWire ih =>
      rw [motion.place_step]
      have passes := (turned.behavior wire).trans isWire
      exact .through ih (enclosed.mem_bounds (by rw [Grid.active, passes]; rfl)) passes

private theorem corridor_iff (turned : Turned motion first second) (enclosed : Enclosed first)
    (alsoEnclosed : Enclosed second) {direction : Direction} {pos last : Pos} :
    Corridor second (motion.turn direction) (motion.place pos) (motion.place last) ↔
      Corridor first direction pos last := by
  refine ⟨fun path => ?_, turned.corridor alsoEnclosed⟩
  generalize start : motion.place pos = near, goal : motion.place last = far at path
  induction path generalizing last with
  | step =>
      subst start
      rw [← motion.place_step, motion.place_inj] at goal
      exact goal ▸ .step pos
  | @through wire _ _ isWire ih =>
      obtain ⟨middle, rfl⟩ := motion.place_surjective wire
      rw [← motion.place_step, motion.place_inj] at goal
      have passes := (turned.behavior middle).symm.trans isWire
      exact goal ▸ .through (ih rfl) (enclosed.mem_bounds (by rw [Grid.active, passes]; rfl)) passes

/-- What lies face to face stays so. -/
theorem facing?_iff (turned : Turned motion first second) (enclosed : Enclosed first)
    (alsoEnclosed : Enclosed second) {face target : Face} :
    facing? second (motion.face face) = some (motion.face target) ↔
      facing? first face = some target := by
  rw [facing?_eq_some_iff, facing?_eq_some_iff]
  simp only [Motion.face, turned.corridor_iff enclosed alsoEnclosed, turned.activeBeyondWire,
    ← motion.turn_opposite, motion.turn_injective.eq_iff]
  refine and_congr_right fun _ => ?_
  constructor
  · rintro ⟨_, active, opposite⟩
    exact ⟨enclosed.inside active, active, opposite⟩
  · rintro ⟨_, active, opposite⟩
    exact ⟨alsoEnclosed.inside ((turned.activeBeyondWire _).trans active), active, opposite⟩

/-- Turned faces are linked exactly if the faces are. -/
theorem links (turned : Turned motion first second) (enclosed : Enclosed first)
    (alsoEnclosed : Enclosed second) {driver reader : Face} :
    Links second (motion.face driver) (motion.face reader) ↔ Links first driver reader := by
  constructor
  · exact fun ⟨faces, drives, reads⟩ => ⟨(turned.facing?_iff enclosed alsoEnclosed).mp faces,
      (turned.roleAt driver).symm.trans drives, (turned.roleAt reader).symm.trans reads⟩
  · exact fun ⟨faces, drives, reads⟩ => ⟨(turned.facing?_iff enclosed alsoEnclosed).mpr faces,
      (turned.roleAt driver).trans drives, (turned.roleAt reader).trans reads⟩

end VoxelCircuit.Grid.Turned

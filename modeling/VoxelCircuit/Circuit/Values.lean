import VoxelCircuit.Net.Basic
import VoxelCircuit.Signal.Basic

/-! # Values of an evaluation

The signals that an evaluation has written, each under a key. A table keeps the
keys in the order of their first writing and under each key the signal written
last.
-/

namespace VoxelCircuit

/-- What a signal is written under. -/
inductive Key where
  /-- The signal that a block drives on a face. -/
  | output (face : Face)
  /-- The merged signal of a net. -/
  | net (id : NetId)
  /-- The signal published on a face of the block that the grid is embedded in. -/
  | published (direction : Direction)
  /-- The type requested for the block that the grid is embedded in. -/
  | replacement
  /-- The rotation requested for the block that the grid is embedded in. -/
  | rotation
deriving DecidableEq

/-- The text of a key. -/
def Key.text : Key → String
  | output face => face.text
  | net id => id.text
  | published direction => "embedded " ++ direction.text
  | replacement => "become"
  | rotation => "rotation"

namespace Key

/-- The place of the kind of a key among all kinds. -/
def kind : Key → Nat
  | output _ => 0
  | net _ => 1
  | published _ => 2
  | replacement => 3
  | rotation => 4

/-- The face that a key is about, if it is about one. -/
def face? : Key → Option Face
  | output face => some face
  | _ => none

/-- The net that a key is about, if it is about one. -/
def net? : Key → Option NetId
  | net id => some id
  | _ => none

/-- The direction that a key is about, if it is about one. -/
def direction? : Key → Option Direction
  | published direction => some direction
  | _ => none

/-- Keys are compared by their kinds, and then by what they are about. -/
def order : Key → Key → Ordering :=
  compareLex (compareOn kind)
    (compareLex (compareOn face?) (compareLex (compareOn net?) (compareOn direction?)))

instance : Ord Key := ⟨order⟩

instance : Std.TransOrd Key :=
  inferInstanceAs (Std.TransCmp (compareLex (compareOn kind)
    (compareLex (compareOn face?) (compareLex (compareOn net?) (compareOn direction?)))))

instance : Std.LawfulEqOrd Key where
  eq_of_compare {first second} same := by
    obtain ⟨kind, rest⟩ := compareLex_eq_eq.mp same
    obtain ⟨face, rest⟩ := compareLex_eq_eq.mp rest
    obtain ⟨net, direction⟩ := compareLex_eq_eq.mp rest
    simp only [compareOn, Std.compare_eq_iff_eq] at kind face net direction
    cases first <;> cases second <;> simp_all [Key.kind, face?, Key.net?, direction?]

end Key

/-- The signals written so far, in the order of their first writing. -/
abbrev Values := Table Key Signal

namespace Values

/-- The signal under a key; no signal when nothing was written there. -/
def get (values : Values) (key : Key) : Signal :=
  (values.get? key).getD .null

/-- The table after writes in order. -/
def setAll (values : Values) (writes : List (Key × Signal)) : Values :=
  writes.foldl (fun values write => values.insert write.1 write.2) values

/-- The text of a table: a line for each key. -/
def text (values : Values) : String :=
  String.join (values.entries.map fun entry => entry.1.text ++ " = " ++ entry.2.text ++ "\n")

end Values

end VoxelCircuit

import VoxelCircuit.Block.Behavior
import VoxelCircuit.Space.Position
import VoxelCircuit.Table.Basic

/-! # Nets

A net is a set of block faces that share one signal. The nets of a circuit are
kept with the faces attached to each, and the attachments face by face beside
them, so that both questions have an answer: who is on this net, and which net is
at this face.
-/

namespace VoxelCircuit

/-- The serial number of a net, a word of thirty-two bits. -/
structure NetId where
  /-- The place of the net in the order of opening. -/
  serial : UInt32
deriving DecidableEq, Inhabited

namespace NetId

instance : Ord NetId := ⟨compareOn serial⟩

instance : Std.TransOrd NetId :=
  inferInstanceAs (Std.TransCmp (compareOn serial))

instance : Std.LawfulEqOrd NetId where
  eq_of_compare {first second} same := by
    have serials : first.serial = second.serial := Std.LawfulEqOrd.eq_of_compare same
    cases first
    cases second
    exact congrArg mk serials

/-- The serial number of the net that is opened after some number of others. -/
def ofCount (count : Nat) : NetId := ⟨count.toUInt32⟩

/-- The text of a serial number. -/
def text (id : NetId) : String :=
  "net#" ++ toString id.serial.toNat

end NetId

/-- A face attached to a net, with the part it plays there. -/
structure NetMember where
  /-- The face. -/
  face : Face
  /-- The part that the face plays. -/
  role : FaceRole
deriving DecidableEq

/-- A net: the faces that share a signal. -/
structure Net where
  /-- The serial number. -/
  id : NetId
  /-- The attached faces in the order of their attachment. -/
  members : List NetMember
  /-- The steps that were walked to find them, each from a position to the next. -/
  edges : List (Pos × Pos)
deriving DecidableEq

namespace Net

/-- Whether some face reads the net. -/
def hasInput (net : Net) : Bool :=
  net.members.any fun member => member.role = .input

/-- Whether some face drives the net. -/
def hasOutput (net : Net) : Bool :=
  net.members.any fun member => member.role = .output

/-- Whether a face of a junction is attached. -/
def hasBoth (net : Net) : Bool :=
  net.members.any fun member => member.role = .both

/-- Whether the net can carry a signal: it is driven and read, or it passes
through a junction. -/
def useful (net : Net) : Bool :=
  (net.hasInput && net.hasOutput) || net.hasBoth

/-- The attached faces that drive the net. -/
def drivers (net : Net) : List Face :=
  (net.members.filter fun member => member.role.drives).map NetMember.face

end Net

/-- The nets of a circuit and what is attached to them. -/
structure NetGraph where
  /-- The nets by their serial numbers. -/
  byId : Table NetId Net
  /-- The attached faces, each with its net. -/
  attachments : Table Face NetId
deriving DecidableEq

namespace NetGraph

/-- The graph without nets. -/
def empty : NetGraph := ⟨.empty, .empty⟩

/-- The graph of a list of nets and those of a list of attachments that are to one
of them. -/
def ofNets (nets : List Net) (attachments : List (Face × NetId)) : NetGraph :=
  let byId := Table.ofList (nets.map fun net => (net.id, net))
  ⟨byId, .ofList (attachments.filter fun attachment => byId.contains attachment.2)⟩

/-- The nets in the order of their serial numbers. -/
def nets (graph : NetGraph) : List Net :=
  graph.byId.values

/-- The net attached to a face. -/
def netAt (graph : NetGraph) (face : Face) : Option NetId :=
  graph.attachments.get? face

/-- The net with a serial number. -/
def net? (graph : NetGraph) (id : NetId) : Option Net :=
  graph.byId.get? id

/-- The serial numbers of the nets in order. -/
def ids (graph : NetGraph) : List NetId :=
  graph.byId.keys

/-- The number of nets. -/
def size (graph : NetGraph) : Nat :=
  graph.byId.size

/-- Whether there is no net. -/
def isEmpty (graph : NetGraph) : Bool :=
  graph.byId.isEmpty

end NetGraph

end VoxelCircuit

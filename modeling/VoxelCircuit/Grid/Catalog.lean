import VoxelCircuit.Block.Behavior
import VoxelCircuit.Grid.Error

/-! # Catalogs of block types

A catalog says what each block id stands for. Air is not stored: it is in every
catalog, first, and nothing can take its place. A type may hold a grid of its own,
which chips of that type evaluate.
-/

namespace VoxelCircuit

variable {γ : Type}

/-- What a block id stands for. -/
structure BlockType (γ : Type) where
  /-- The id of the type. -/
  id : BlockId
  /-- The name of the type. -/
  name : String
  /-- What blocks of the type do in a circuit. -/
  behavior : Option Behavior
  /-- The grid inside each block of the type. -/
  interior : Option γ

namespace BlockType

/-- The type of empty cells. -/
def air : BlockType γ := ⟨.air, "air", none, none⟩

end BlockType

/-- The types that blocks of a grid may have, air among them. -/
structure Catalog (γ : Type) where
  /-- The types other than air, in the order of their registration. -/
  added : List (BlockType γ)

namespace Catalog

/-- The catalog with no type but air. -/
def onlyAir : Catalog γ := ⟨[]⟩

/-- All types, air first and then in the order of their registration. -/
def types (catalog : Catalog γ) : List (BlockType γ) :=
  .air :: catalog.added

/-- The type that an id stands for. -/
def get? (catalog : Catalog γ) (id : BlockId) : Option (BlockType γ) :=
  catalog.types.find? fun type => type.id == id

/-- Whether an id stands for a type. -/
def contains (catalog : Catalog γ) (id : BlockId) : Bool :=
  (catalog.get? id).isSome

/-- What blocks with an id do in a circuit. -/
def behavior (catalog : Catalog γ) (id : BlockId) : Option Behavior :=
  (catalog.get? id).bind BlockType.behavior

/-- The grid inside blocks with an id. -/
def interior (catalog : Catalog γ) (id : BlockId) : Option γ :=
  (catalog.get? id).bind BlockType.interior

/-- The id of the first type with a name. -/
def idOf? (catalog : Catalog γ) (name : String) : Option BlockId :=
  (catalog.types.find? fun type => type.name == name).map BlockType.id

/-- The number of types, air included. -/
def size (catalog : Catalog γ) : Nat :=
  catalog.types.length

/-- Whether there is no type at all, which is never so. -/
def isEmpty (catalog : Catalog γ) : Bool :=
  catalog.types.isEmpty

/-- Air is in every catalog. -/
@[simp] theorem contains_air (catalog : Catalog γ) : catalog.contains .air = true := by
  simp [contains, get?, types, BlockType.air]

/-- Blocks of air take no part in circuits. -/
@[simp] theorem behavior_air (catalog : Catalog γ) : catalog.behavior .air = none := by
  simp [behavior, get?, types, BlockType.air]

/-- Blocks of air hold no grid. -/
@[simp] theorem interior_air (catalog : Catalog γ) : catalog.interior .air = none := by
  simp [interior, get?, types, BlockType.air]

/-- A catalog with one more type; refused when its id is taken, by air too. -/
def register (catalog : Catalog γ) (type : BlockType γ) : Except GridError (Catalog γ) :=
  if catalog.contains type.id then .error (.duplicateBlock type.id)
  else .ok ⟨catalog.added ++ [type]⟩

/-- The catalog of a list of types; the first type whose id is taken already is
the reason for a refusal. -/
def ofTypes (types : List (BlockType γ)) : Except GridError (Catalog γ) :=
  types.foldlM register onlyAir

end Catalog

end VoxelCircuit

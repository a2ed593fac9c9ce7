/-! # Numbers on wires

A number that a net carries is a binary64 number, kept as its sixty-four bits:
one sign bit, eleven exponent bits and fifty-two fraction bits. No arithmetic is
done on signals, so all that is needed is exact: reading the value of the bits,
taking the floor, and rounding an integer to the nearest number.
-/

namespace VoxelCircuit

/-- A binary64 number, by its bits. -/
structure Number where
  /-- The sign, exponent and fraction bits, the sign uppermost. -/
  bits : UInt64
deriving DecidableEq, Inhabited

namespace Number

/-- Whether the sign bit is set. -/
def negative (number : Number) : Bool :=
  number.bits.toNat >>> 63 = 1

/-- The eleven exponent bits. -/
def exponentBits (number : Number) : Nat :=
  number.bits.toNat >>> 52 % (1 <<< 11)

/-- The fifty-two fraction bits. -/
def fractionBits (number : Number) : Nat :=
  number.bits.toNat % (1 <<< 52)

/-- Whether the bits stand for an infinity or for no number at all. -/
def special (number : Number) : Bool :=
  number.exponentBits = 2047

/-- Whether the bits stand for no number at all. -/
def isNaN (number : Number) : Bool :=
  number.special && number.fractionBits != 0

/-- Whether the number is zero, of either sign. -/
def isZero (number : Number) : Bool :=
  number.exponentBits = 0 && number.fractionBits = 0

/-- The integer that a finite number's size is a multiple of a power of two of. -/
def significand (number : Number) : Nat :=
  if number.exponentBits = 0 then number.fractionBits else (1 <<< 52) + number.fractionBits

/-- The power of two that goes with `significand`. -/
def scale (number : Number) : Int :=
  if number.exponentBits = 0 then -1074 else number.exponentBits - 1075

/-- The significand with the sign of the number. -/
def signedSignificand (number : Number) : Int :=
  if number.negative then -number.significand else number.significand

/-- The greatest integer not above a finite number. -/
def floor? (number : Number) : Option Int :=
  if number.special then none
  else if 0 ≤ number.scale then some (number.signedSignificand * (1 <<< number.scale.toNat : Nat))
  else some (number.signedSignificand / (1 <<< (-number.scale).toNat : Nat))

/-- The integer that a finite number is equal to, if it is one. -/
def toInt? (number : Number) : Option Int :=
  let unit : Nat := 1 <<< (-number.scale).toNat
  if 0 ≤ number.scale ∨ number.signedSignificand % unit = 0 then number.floor? else none

/-- The integer part of a number, kept within signed words of sixty-four bits;
zero for no number. -/
def clampedFloor (number : Number) : Int :=
  match number.floor? with
  | some value => max Int64.minValue.toInt (min value Int64.maxValue.toInt)
  | none =>
    if number.isNaN then 0
    else if number.negative then Int64.minValue.toInt else Int64.maxValue.toInt

/-- A quotient by a power of two, rounded to the nearest integer and to the even
one of two equally near. -/
def halveToEven (value places : Nat) : Nat :=
  let unit := 1 <<< places
  let quotient := value / unit
  let rest := 2 * (value % unit)
  if unit < rest ∨ (rest = unit ∧ quotient % 2 = 1) then quotient + 1 else quotient

/-- The bits of the number nearest to a natural number, the even one of two
equally near. A carry out of the fraction raises the exponent. -/
def magnitudeBits (value : Nat) : Nat :=
  if value = 0 then 0
  else
    let top := value.log2
    let significand :=
      if top ≤ 52 then value <<< (52 - top) else halveToEven value (top - 52)
    min (((top + 1022) <<< 52) + significand) (2047 <<< 52)

/-- The number nearest to an integer, the even one of two equally near. -/
def ofInt (value : Int) : Number :=
  ⟨((if value < 0 then 1 <<< 63 else 0) + magnitudeBits value.natAbs).toUInt64⟩

/-- The number 1 for true and 0 for false. -/
def ofBool (value : Bool) : Number :=
  ofInt (if value then 1 else 0)

end Number

end VoxelCircuit

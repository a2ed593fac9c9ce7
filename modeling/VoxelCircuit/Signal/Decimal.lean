import VoxelCircuit.Signal.Number

/-! # Decimal text of numbers

A number is written with the fewest decimal digits that no other number is
nearer to, always in positional notation. The digits are found by exact integer
arithmetic: the decimals with a given last place that lie next to the number are
tried, place after place, until one of them falls into the interval of reals
that the number stands for.
-/

namespace VoxelCircuit

/-- A decimal: a coefficient times a power of ten. -/
structure Decimal where
  /-- The digits, as one natural number. -/
  coefficient : Nat
  /-- The power of ten of the last digit. -/
  exponent : Int
deriving DecidableEq

namespace Decimal

/-- A decimal in positional notation, without a point when it is an integer. -/
def text (decimal : Decimal) : String :=
  let digits := toString decimal.coefficient
  if 0 ≤ decimal.exponent then
    digits ++ String.ofList (List.replicate decimal.exponent.toNat '0')
  else
    let places := (-decimal.exponent).toNat
    let padded := List.replicate (places + 1 - digits.length) '0' ++ digits.toList
    let whole := padded.length - places
    String.ofList (padded.take whole) ++ "." ++ String.ofList (padded.drop whole)

end Decimal

/-- The reals that round to one positive number: a value with a margin below and
a margin above, all as multiples of one power of two. -/
structure RoundingInterval where
  /-- The number itself. -/
  value : Nat
  /-- Half the distance to the next smaller number. -/
  below : Nat
  /-- Half the distance to the next greater number. -/
  above : Nat
  /-- Whether the two ends themselves round to the number. -/
  closed : Bool
  /-- The power of two that all three are multiples of. -/
  scale : Int

namespace RoundingInterval

/-- The interval of a finite number, by its size. Numbers grow twice as far apart
at each power of two, and a tie in rounding goes to the even significand. -/
def ofNumber (number : Number) : RoundingInterval where
  value := 4 * number.significand
  below := if number.fractionBits = 0 ∧ 1 < number.exponentBits then 1 else 2
  above := 2
  closed := number.significand % 2 = 0
  scale := number.scale - 2

/-- The interval and a power of ten over one common denominator: the factor of
the interval's fields and the number that the power of ten is. -/
def common (interval : RoundingInterval) (exponent : Int) : Nat × Nat :=
  (Nat.pow 10 (-exponent).toNat <<< interval.scale.toNat,
    Nat.pow 10 exponent.toNat <<< (-interval.scale).toNat)

/-- Whether a decimal lies in the interval. -/
def holds (interval : RoundingInterval) (decimal : Decimal) : Bool :=
  let (factor, ten) := interval.common decimal.exponent
  let candidate := decimal.coefficient * ten
  let low := (interval.value - interval.below) * factor
  let high := (interval.value + interval.above) * factor
  if interval.closed then decide (low ≤ candidate) && decide (candidate ≤ high)
  else decide (low < candidate) && decide (candidate < high)

/-- The decimal in the interval with a given last place that is nearest to the
number, the greater one of two equally near. -/
def nearest? (interval : RoundingInterval) (exponent : Int) : Option Decimal :=
  let (factor, ten) := interval.common exponent
  let exact := interval.value * factor
  let lower : Decimal := ⟨exact / ten, exponent⟩
  let upper : Decimal := ⟨exact / ten + 1, exponent⟩
  if interval.holds lower && (decide (2 * (exact % ten) < ten) || !interval.holds upper) then
    some lower
  else if interval.holds upper then some upper
  else none

/-- The decimal in the interval with the highest last place, tried from a place
downward. -/
def shortestFrom (interval : RoundingInterval) : Nat → Int → Decimal
  | 0, exponent => ⟨0, exponent⟩
  | tries + 1, exponent =>
    match interval.nearest? exponent with
    | some decimal => decimal
    | none => interval.shortestFrom tries (exponent - 1)

/-- A place above all digits of the number. -/
def topPlace (interval : RoundingInterval) : Int :=
  (interval.value.log2 + 1 + interval.scale) * 30103 / 100000 + 1

/-- The decimal in the interval with the fewest digits. Seventeen digits always
suffice, and the top place is at most a few places too high. -/
def shortest (interval : RoundingInterval) : Decimal :=
  interval.shortestFrom 24 interval.topPlace

end RoundingInterval

/-- The text of a number: its sign and its shortest decimal. -/
def Number.text (number : Number) : String :=
  if number.isNaN then "NaN"
  else
    let size :=
      if number.special then "inf"
      else if number.isZero then "0"
      else (RoundingInterval.ofNumber number).shortest.text
    if number.negative then "-" ++ size else size

end VoxelCircuit

import VoxelCircuit.Signal.Decimal

/-! # Signals

What a net or a face of a block carries: nothing, a truth value or a number.
Signals meet by `Signal.or`, where the first truthy one wins. This is associative
but not commutative, and nothing is neutral on the left only: on the right it
takes the place of a falsy signal.
-/

namespace VoxelCircuit

/-- A signal on a net or on a face. -/
inductive Signal where
  /-- No signal. -/
  | null
  /-- A truth value. -/
  | bool (value : Bool)
  /-- A number. -/
  | number (value : Number)
deriving DecidableEq, Inhabited

namespace Signal

/-- Whether a signal counts as on: true, or a number other than zero. -/
def truthy : Signal → Bool
  | null => false
  | bool value => value
  | number value => !value.isNaN && !value.isZero

/-- Whether there is no signal. -/
def isNull : Signal → Bool
  | null => true
  | bool _ | number _ => false

/-- The first of two signals when it is truthy, and else the second. -/
def or (first second : Signal) : Signal :=
  if first.truthy then first else second

/-- No signal gives way to any other. -/
@[simp] theorem null_or (signal : Signal) : null.or signal = signal :=
  rfl

/-- A merge of two signals is truthy when one of them is. -/
@[simp] theorem truthy_or (first second : Signal) :
    (first.or second).truthy = (first.truthy || second.truthy) := by
  cases on : first.truthy <;> simp [or, on]

/-- Merging is associative. -/
theorem or_assoc (first second third : Signal) :
    (first.or second).or third = first.or (second.or third) := by
  cases on : first.truthy <;> simp [or, on]

/-- The merge of a list of signals, the first truthy one, or else the last. -/
def merge (signals : List Signal) : Signal :=
  signals.foldl or null

/-- The merge of the signals of a list, if there is one. -/
def mergePresent : List Signal → Option Signal
  | [] => none
  | first :: rest => some (rest.foldl or first)

/-- As no signal gives way to any other, merging may start from it. -/
theorem mergePresent_cons (first : Signal) (rest : List Signal) :
    mergePresent (first :: rest) = some (merge (first :: rest)) :=
  rfl

/-- A signal as a number: a truth value counts as 1 or 0. -/
def asNumber : Signal → Option Number
  | null => none
  | bool value => some (Number.ofBool value)
  | number value => some value

/-- The text of a signal. -/
def text : Signal → String
  | null => "null"
  | bool true => "true"
  | bool false => "false"
  | number value => value.text

end Signal

end VoxelCircuit

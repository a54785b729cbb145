import ScopedConfig.Text.Basic

/-! Integers read from text in a base, within bounds.  A sign may stand in
front, digits follow, and nothing else: no blanks, no separators.  Of several
faults the leftmost is reported. -/
namespace ScopedConfig

/-- Why a text is no integer. -/
inductive IntegerFault where
  | empty
  | invalidDigit
  | tooLarge
  | tooSmall
  deriving DecidableEq, Repr

namespace IntegerFault

/-- The fault in words. -/
def message : IntegerFault → Text
  | empty => "cannot parse integer from empty string"
  | invalidDigit => "invalid digit found in string"
  | tooLarge => "number too large to fit in target type"
  | tooSmall => "number too small to fit in target type"

end IntegerFault

namespace Integer

/-- Digits of a base appended to `value`, as long as the value is at most
`limit`; `excess` is the fault beyond it. -/
def readDigits (base limit : Nat) (excess : IntegerFault) (value : Nat) :
    Text → Except IntegerFault Nat
  | [] => .ok value
  | c :: rest =>
    match Text.digitBelow? base c with
    | none => .error .invalidDigit
    | some digit =>
      let next := value * base + digit
      if next ≤ limit then readDigits base limit excess next rest else .error excess

/-- One or more digits. -/
def readMagnitude (base limit : Nat) (excess : IntegerFault) (text : Text) :
    Except IntegerFault Nat :=
  if text = [] then .error .invalidDigit else readDigits base limit excess 0 text

/-- A natural number up to `limit`, with an optional plus sign. -/
def readNat (base limit : Nat) : Text → Except IntegerFault Nat
  | [] => .error .empty
  | c :: rest =>
    if c = '+' then readMagnitude base limit .tooLarge rest
    else readMagnitude base limit .tooLarge (c :: rest)

/-- The largest signed number of 64 bits. -/
def int64Max : Nat := Nat.pow 2 63 - 1

/-- The largest number of 64 bits. -/
def nat64Max : Nat := Nat.pow 2 64 - 1

/-- The largest number of 32 bits. -/
def nat32Max : Nat := Nat.pow 2 32 - 1

/-- A signed decimal number of 64 bits. -/
def readInt64 : Text → Except IntegerFault Int
  | [] => .error .empty
  | c :: rest =>
    if c = '-' then (readMagnitude 10 (int64Max + 1) .tooSmall rest).map fun n => -(n : Int)
    else (readNat 10 int64Max (c :: rest)).map Int.ofNat

end Integer
end ScopedConfig

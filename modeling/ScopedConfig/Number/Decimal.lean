import ScopedConfig.Text.Basic
import ScopedConfig.Number.Binary64

/-! Decimal numbers with a point and an exponent, read into the nearest binary
number.  `inf`, `infinity` and `nan` are read in any letter case. -/
namespace ScopedConfig

/-- Why a text is no decimal number. -/
inductive DecimalFault where
  | empty
  | invalid
  deriving DecidableEq, Repr

namespace DecimalFault

/-- The fault in words. -/
def message : DecimalFault → Text
  | empty => "cannot parse float from empty string"
  | invalid => "invalid float literal"

end DecimalFault

/-- The decimal number `±digits · 10 ^ exponent`. -/
structure Decimal where
  negative : Bool
  digits : Nat
  exponent : Int
  deriving DecidableEq, Repr

namespace Decimal

/-- The number that a run of digits stands for. -/
def digitsValue (digits : Text) : Nat :=
  digits.foldl (fun n c => n * 10 + (c.toNat - '0'.toNat)) 0

/-- The nearest number of the format.  Magnitudes whose leading digit stands far
outside its range are settled without the power of ten. -/
def toBinary64 (d : Decimal) : Binary64 :=
  if d.digits = 0 then .zero d.negative
  else
    let leading : Int := (Nat.toDigits 10 d.digits).length + d.exponent
    if 400 < leading then .infinite d.negative
    else if leading < -400 then .zero d.negative
    else if 0 ≤ d.exponent then .ofRatio d.negative (d.digits * Nat.pow 10 d.exponent.toNat) 1
    else .ofRatio d.negative d.digits (Nat.pow 10 (-d.exponent).toNat)

/-- A sign in front of a text: whether it is a minus, and the rest. -/
def takeSign : Text → Bool × Text
  | [] => (false, [])
  | c :: rest => if c = '-' then (true, rest) else if c = '+' then (false, rest) else (false, c :: rest)

/-- An exponent after its letter: an optional sign and digits to the end. -/
def readExponent (text : Text) : Option Int :=
  let (negative, digits) := takeSign text
  if digits ≠ [] ∧ digits.all Text.isDigit then
    let n : Int := digitsValue digits
    some (if negative then -n else n)
  else none

/-- A number without its sign: digits with an optional point among or beside
them, then an optional exponent. -/
def readUnsigned (negative : Bool) (text : Text) : Option Decimal :=
  let whole := text.takeWhile Text.isDigit
  let rest := text.dropWhile Text.isDigit
  let (fraction, rest) :=
    match rest with
    | '.' :: tail => (tail.takeWhile Text.isDigit, tail.dropWhile Text.isDigit)
    | _ => ([], rest)
  if whole = [] ∧ fraction = [] then none
  else
    let exponent? :=
      match rest with
      | [] => some 0
      | c :: tail => if c = 'e' || c = 'E' then readExponent tail else none
    exponent?.map fun exponent =>
      ⟨negative, digitsValue (whole ++ fraction), exponent - fraction.length⟩

/-- The number that a text stands for, in the nearest number of the format. -/
def read (text : Text) : Except DecimalFault Binary64 :=
  if text = [] then .error .empty
  else
    let (negative, rest) := takeSign text
    let name := rest.map Char.toLower
    if name = "nan".toList then .ok .nan
    else if name = "inf".toList || name = "infinity".toList then .ok (.infinite negative)
    else
      match readUnsigned negative rest with
      | some d => .ok d.toBinary64
      | none => .error .invalid

end Decimal
end ScopedConfig

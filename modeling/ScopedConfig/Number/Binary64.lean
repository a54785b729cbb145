/-! Numbers in the binary floating-point format of 64 bits, in exact arithmetic
on natural numbers.  A finite number is a significand times a power of two; the
number nearest to a ratio is found by one division, and a tie goes to the even
significand. -/
namespace ScopedConfig

/-- A number of the format.  A finite one has the value
`±significand · 2 ^ exponent`; the significand has at most 53 bits, and fewer
only at the least exponent. -/
inductive Binary64 where
  | nan
  | infinite (negative : Bool)
  | finite (negative : Bool) (significand : Nat) (exponent : Int)
  deriving DecidableEq, Repr

namespace Binary64

/-- The number of bits of a full significand. -/
def precision : Nat := 53

/-- The exponent of the smallest positive number. -/
def minExponent : Int := -1074

/-- The exponent of the largest finite numbers. -/
def maxExponent : Int := 971

/-- Zero. -/
def zero (negative : Bool) : Binary64 := .finite negative 0 minExponent

/-- The natural number nearest to `num / den`, the even one of two. -/
def roundHalfEven (num den : Nat) : Nat :=
  let quotient := num / den
  let twice := 2 * (num % den)
  if twice < den then quotient
  else if den < twice then quotient + 1
  else quotient + quotient % 2

/-- The ratio `num / den` in units of `2 ^ exponent`, as a ratio. -/
def inUnits (num den : Nat) (exponent : Int) : Nat × Nat :=
  if 0 ≤ exponent then (num, den * Nat.pow 2 exponent.toNat)
  else (num * Nat.pow 2 (-exponent).toNat, den)

/-- The exponent at which the ratio has a significand of full length, or the
least exponent if that is larger. -/
def exponentOf (num den : Nat) : Int :=
  let guess : Int := (num.log2 : Int) - (den.log2 : Int) - 52
  let (scaledNum, scaledDen) := inUnits num den guess
  let exact := if scaledDen * Nat.pow 2 52 ≤ scaledNum then guess else guess - 1
  max minExponent exact

/-- The number with this significand, of at most `2 ^ 53`, and exponent. -/
def make (negative : Bool) (significand : Nat) (exponent : Int) : Binary64 :=
  let (m, e) :=
    if significand = Nat.pow 2 53 then (Nat.pow 2 52, exponent + 1) else (significand, exponent)
  if maxExponent < e then .infinite negative else .finite negative m e

/-- The number nearest to `±num / den`; beyond the largest one it is infinite. -/
def ofRatio (negative : Bool) (num den : Nat) : Binary64 :=
  if num = 0 then zero negative
  else
    let e := exponentOf num den
    let (scaledNum, scaledDen) := inUnits num den e
    make negative (roundHalfEven scaledNum scaledDen) e

/-- The number nearest to an integer. -/
def ofInt (n : Int) : Binary64 := ofRatio (decide (n < 0)) n.natAbs 1

/-- The magnitude of a finite number, as a ratio. -/
def ratio (significand : Nat) (exponent : Int) : Nat × Nat :=
  if 0 ≤ exponent then (significand * Nat.pow 2 exponent.toNat, 1)
  else (significand, Nat.pow 2 (-exponent).toNat)

/-- The product with a positive natural number, rounded. -/
def mulNat (x : Binary64) (n : Nat) : Binary64 :=
  match x with
  | nan => nan
  | infinite negative => infinite negative
  | finite negative significand exponent =>
    let (num, den) := ratio significand exponent
    ofRatio negative (num * n) den

/-- The integer part of the magnitude, none if the number is not finite. -/
def floorAbs? : Binary64 → Option Nat
  | nan | infinite _ => none
  | finite _ significand exponent =>
    let (num, den) := ratio significand exponent
    some (num / den)

/-- The 64 bits that stand for the number; one of the many for `nan`. -/
def bits : Binary64 → Nat
  | nan => 0x7ff8000000000000
  | infinite negative => (if negative then Nat.pow 2 63 else 0) + 0x7ff0000000000000
  | finite negative significand exponent =>
    let sign := if negative then Nat.pow 2 63 else 0
    if significand < Nat.pow 2 52 then sign + significand
    else
      sign + (exponent - minExponent + 1).toNat * Nat.pow 2 52 + (significand - Nat.pow 2 52)

end Binary64
end ScopedConfig

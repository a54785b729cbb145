import ScopedConfig.Text.Blank
import ScopedConfig.Text.DecimalDigit
import ScopedConfig.Number.Decimal
import ScopedConfig.Number.Integer

/-! Byte counts in text: a number, then a unit.  `k m g t p e` are powers of
1000, with an `i` behind them powers of 1024, and a closing `b` changes nothing;
letter case does not matter.  The number is read as a binary floating-point
number and multiplied unit by unit, so counts beyond 53 bits are rounded. -/
namespace ScopedConfig

/-- Why a text is no byte count. -/
inductive SizeError where
  | negative (text : Text)
  | malformed (text : Text)
  | overflow (text : Text)
  deriving DecidableEq, Repr

namespace SizeError

/-- The error in words. -/
def message : SizeError → Text
  | negative text => "negative size: " ++ text
  | malformed text => "invalid size: " ++ text
  | overflow text => "size overflows: " ++ text

end SizeError

namespace Size

/-- The unit letters, each a thousand of the one before. -/
def unitLetters : Text := "kmgtpe"

/-- The Kelvin sign, whose lower case is `k`. -/
def kelvinSign : Char := Char.ofNat 0x212a

/-- The letters of a unit: `letter` as written, whether an `i` follows. -/
structure Suffix where
  letter : Option Char
  isBinary : Bool

/-- A unit letter in either case.  The Kelvin sign is read as one. -/
def isUnitLetter (c : Char) : Bool := c = kelvinSign || unitLetters.contains c.toLower

/-- The power of the base that a unit letter stands for.  The Kelvin sign
stands for none. -/
def power (c : Char) : Nat :=
  match unitLetters.idxOf? c.toLower with
  | some i => i + 1
  | none => 0

/-- What is left after a letter, in either case, that may be absent. -/
def skipLetter (letter : Char) : Text → Bool × Text
  | [] => (false, [])
  | c :: rest => if c.toLower = letter then (true, rest) else (false, c :: rest)

/-- The unit behind the number, if the text is one. -/
def readSuffix (text : Text) : Option Suffix :=
  let (letter, rest) :=
    match text with
    | c :: tail => if isUnitLetter c then (some c, tail) else (none, text)
    | [] => (none, [])
  let (isBinary, rest) := skipLetter 'i' rest
  let (_, rest) := skipLetter 'b' rest
  if rest = [] then some ⟨letter, isBinary⟩ else none

/-- The digits of the number, perhaps with a point among them, and what follows.
Digits of every script are taken here. -/
def takeNumber (text : Text) : Text × Text :=
  let whole := text.takeWhile Text.isDecimalDigit
  let rest := text.dropWhile Text.isDecimalDigit
  match rest with
  | '.' :: tail =>
    let fraction := tail.takeWhile Text.isDecimalDigit
    if whole = [] ∨ fraction = [] then (whole, rest)
    else (whole ++ '.' :: fraction, tail.dropWhile Text.isDecimalDigit)
  | _ => (whole, rest)

/-- The number multiplied by the base as often as the power says. -/
def scale (base : Nat) : Nat → Binary64 → Binary64
  | 0, x => x
  | power + 1, x => scale base power (x.mulNat base)

/-- The byte count that a text stands for, below 2 ^ 63. -/
def read (text : Text) : Except SizeError Nat :=
  let trimmed := Text.trim text
  if trimmed.head? = some '-' then .error (.negative text)
  else
    let (number, rest) := takeNumber trimmed
    match number.isEmpty, readSuffix (Text.trimStart rest), Decimal.read number with
    | false, some suffix, .ok value =>
      let exponent := (suffix.letter.map power).getD 0
      if suffix.isBinary && exponent == 0 then .error (.malformed text)
      else
        match (scale (if suffix.isBinary then 1024 else 1000) exponent value).floorAbs? with
        | some bytes => if bytes ≤ Integer.int64Max then .ok bytes else .error (.overflow text)
        | none => .error (.overflow text)
    | _, _, _ => .error (.malformed text)

end Size
end ScopedConfig

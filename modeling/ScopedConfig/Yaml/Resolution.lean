import ScopedConfig.Number.Integer
import ScopedConfig.Number.Decimal

/-! What a plain word of a YAML document stands for, where it is not a string:
null, a truth value, an integer in one of four bases, or a decimal number.  Texts
that look like one of these have to be quoted to stay text. -/
namespace ScopedConfig.Yaml

/-- The words for null and the truth values. -/
def reservedWords : List Text :=
  ["", "~", "null", "Null", "NULL", "true", "True", "TRUE", "false", "False", "FALSE"].map
    String.toList

/-- The words for the numbers that are not finite. -/
def specialNumbers : List Text :=
  [".inf", ".Inf", ".INF", "+.inf", "+.Inf", "+.INF", "-.inf", "-.Inf", "-.INF",
   ".nan", ".NaN", ".NAN"].map String.toList

/-- The text behind a sign. -/
def unsigned : Text → Text
  | [] => []
  | c :: rest => if c = '+' || c = '-' then rest else c :: rest

/-- Whether a text is a run of digits with a zero in front of others, which is no
number. -/
def isZeroPadded (text : Text) : Bool :=
  match unsigned text with
  | '0' :: c :: rest => (c :: rest).all Text.isDigit
  | _ => false

/-- The bases that a number may be written in behind a mark. -/
def bases : List (Text × Nat) :=
  [(['0', 'x'], 16), (['0', 'o'], 8), (['0', 'b'], 2)]

/-- Whether a text is one digit or more of a base, with a value up to `limit`. -/
def isMagnitude (base limit : Nat) (digits : Text) : Bool :=
  (Integer.readMagnitude base limit .tooLarge digits).isOk

/-- Whether a text is a number behind the mark of its base.  Positive ones have up
to 128 bits, negative ones one less. -/
def isMarkedInteger (text : Text) : Bool :=
  let (limit, marked) :=
    match text with
    | '-' :: rest => (Nat.pow 2 127, rest)
    | '+' :: rest => (Nat.pow 2 128 - 1, rest)
    | _ => (Nat.pow 2 128 - 1, text)
  bases.any fun (mark, base) =>
    match Text.after? mark marked with
    | some digits => isMagnitude base limit digits
    | none => false

/-- Whether a text is a decimal number that has a finite value. -/
def isFiniteDecimal (text : Text) : Bool :=
  match Decimal.read text with
  | .ok (.finite _ _ _) => true
  | _ => false

/-- Whether a plain word would not be read as a string, or might not be. -/
def isAmbiguous (text : Text) : Bool :=
  reservedWords.contains text || specialNumbers.contains text || isZeroPadded text ||
    isMarkedInteger text || isFiniteDecimal text

end ScopedConfig.Yaml

import ScopedConfig.Text.LetterCase
import ScopedConfig.Text.ShellWord
import ScopedConfig.Number.Integer
import ScopedConfig.Number.Decimal
import ScopedConfig.Quantity.Size
import ScopedConfig.Value

/-! Converters read a text as a typed value.  What does not read is an error that
names the converter, the text and the cause, and is never replaced by a default.
An empty text is an unset duration, file mode or size, and is false. -/
namespace ScopedConfig

/-- The ways to read a text. -/
inductive Converter where
  | string
  | int
  | int64
  | float64
  | bool
  | list
  | listLowercase
  | set
  | shlex
  | duration
  | umask
  | size
  deriving DecidableEq, Repr

/-- Why a text did not convert. -/
inductive ConversionCause where
  | integer (fault : IntegerFault)
  | decimal (fault : DecimalFault)
  | notBoolean
  | unbalancedQuoting
  | duration (error : DurationError)
  | size (error : SizeError)
  deriving DecidableEq, Repr

/-- The cause in words. -/
def ConversionCause.message : ConversionCause → Text
  | integer fault => fault.message
  | decimal fault => fault.message
  | notBoolean => "not a boolean"
  | unbalancedQuoting => "unbalanced quoting"
  | duration error => error.message
  | size error => error.message

namespace Converter

/-- Every converter, in order. -/
def all : List Converter :=
  [string, int, int64, float64, bool, list, listLowercase, set, shlex, duration, umask, size]

/-- The name of a converter. -/
def name : Converter → Text
  | string => "string"
  | int => "int"
  | int64 => "int64"
  | float64 => "float64"
  | bool => "bool"
  | list => "list"
  | listLowercase => "list-lowercase"
  | set => "set"
  | shlex => "shlex"
  | duration => "duration"
  | umask => "umask"
  | size => "size"

/-- The converter of a name. -/
def ofName? (name : Text) : Option Converter := all.find? fun converter => converter.name = name

/-- Whether the converter reads words one by one. -/
def readsWords : Converter → Bool
  | list | listLowercase | set => true
  | _ => false

end Converter

/-- A text that a converter does not read. -/
structure ConversionError where
  converter : Converter
  text : Text
  cause : ConversionCause
  deriving DecidableEq, Repr

/-- The error in words. -/
def ConversionError.message (error : ConversionError) : Text :=
  "cannot convert '" ++ error.text ++ "' to " ++ error.converter.name ++ ": " ++
    error.cause.message

namespace Converter

/-- The texts of false and of true. -/
def readBool (text : Text) : Except ConversionCause Bool :=
  if text ∈ ["", "0", "f", "F", "false", "FALSE", "False"].map String.toList then .ok false
  else if text ∈ ["1", "t", "T", "true", "TRUE", "True"].map String.toList then .ok true
  else .error .notBoolean

/-- A number of seconds, or numbers with units. -/
def readDuration (text : Text) : Except ConversionCause Duration :=
  match Integer.readNat 10 Integer.nat64Max text with
  | .ok seconds => .ok ⟨seconds, 0⟩
  | .error _ => (Duration.read text).mapError .duration

/-- The reading of a text that may be empty, which leaves it unset. -/
def readUnlessEmpty (read : Text → Except ConversionCause α) (text : Text) :
    Except ConversionCause (Option α) :=
  if text = [] then .ok none else (read text).map some

/-- What a text stands for. -/
def read (converter : Converter) (text : Text) : Except ConversionCause Value :=
  match converter with
  | string => .ok (.string text)
  | int | int64 => ((Integer.readInt64 text).mapError .integer).map .int
  | float64 => ((Decimal.read text).mapError .decimal).map .float
  | bool => (readBool text).map .bool
  | list => .ok (.list (Text.words text))
  | listLowercase => .ok (.list ((Text.words text).map Text.lower))
  | set => .ok (.set (TokenSet.ofList (Text.words text)))
  | shlex =>
    match Text.shellWords text with
    | some words => .ok (.list words)
    | none => .error .unbalancedQuoting
  | duration => (readUnlessEmpty readDuration text).map .duration
  | umask =>
    (readUnlessEmpty (fun t => (Integer.readNat 8 Integer.nat32Max t).mapError .integer) text).map
      .umask
  | size => (readUnlessEmpty (fun t => (Size.read t).mapError .size) text).map .size

/-- What a text stands for, or the error of the conversion. -/
def convert (converter : Converter) (text : Text) : Except ConversionError Value :=
  (converter.read text).mapError fun cause => ⟨converter, text, cause⟩

end Converter
end ScopedConfig

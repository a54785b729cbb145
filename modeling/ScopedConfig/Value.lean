import ScopedConfig.Number.Binary64
import ScopedConfig.Quantity.Duration

/-! Typed values: what the text of an option stands for once a keyword has said
how to read it.  A duration, a file mode and a size may be unset.  The tokens of
a set are kept sorted and distinct, so that two equal sets are the same list. -/
namespace ScopedConfig

/-- The shapes of typed values. -/
inductive Shape where
  | string
  | int
  | float
  | bool
  | list
  | set
  | duration
  | umask
  | size
  deriving DecidableEq, Repr

/-- The name of a shape. -/
def Shape.name : Shape → Text
  | string => "string"
  | int => "int"
  | float => "float"
  | bool => "bool"
  | list => "list"
  | set => "set"
  | duration => "duration"
  | umask => "umask"
  | size => "size"

namespace TokenSet

/-- A sorted list with one more token, which is not repeated. -/
def insert (token : Text) : List Text → List Text
  | [] => [token]
  | head :: tail =>
    if token = head then head :: tail
    else if token < head then token :: head :: tail
    else head :: insert token tail

/-- The tokens sorted by code point, each once. -/
def ofList (tokens : List Text) : List Text :=
  tokens.foldl (fun sorted token => insert token sorted) []

end TokenSet

/-- A typed value. -/
inductive Value where
  | string (text : Text)
  | int (n : Int)
  | float (x : Binary64)
  | bool (b : Bool)
  | list (tokens : List Text)
  | set (tokens : List Text)
  | duration (length : Option Duration)
  | umask (mode : Option Nat)
  | size (bytes : Option Nat)
  deriving DecidableEq, Repr

/-- The shape of a value. -/
def Value.shape : Value → Shape
  | string _ => .string
  | int _ => .int
  | float _ => .float
  | bool _ => .bool
  | list _ => .list
  | set _ => .set
  | duration _ => .duration
  | umask _ => .umask
  | size _ => .size

end ScopedConfig

import ScopedConfig.Text.DecimalDigit
import ScopedConfig.Number.Integer
import ScopedConfig.KeyOp.Basic

/-! Mutations read from text: a key of one character or more, an index in
brackets if the mutation is an insertion, an operator, and the value to the end
of the text.  The key ends at the first place where an operator stands, with or
without an index before it.  A text of several lines is no mutation. -/
namespace ScopedConfig.KeyOp

/-- What follows the key. -/
structure Assignment where
  index : Option Text
  operator : Operator
  value : Text
  deriving DecidableEq, Repr

/-- The operator at the start of a text, and what follows it. -/
def readOperator : Text → Option (Operator × Text)
  | '=' :: value => some (.set, value)
  | '+' :: '=' :: value => some (.append, value)
  | '-' :: '=' :: value => some (.remove, value)
  | '|' :: '=' :: value => some (.merge, value)
  | '^' :: '=' :: value => some (.toggle, value)
  | _ => none

/-- The digits in brackets at the start of a text, and what follows them. -/
def readIndex : Text → Option (Text × Text)
  | '[' :: rest =>
    let digits := rest.takeWhile Text.isDecimalDigit
    match digits, rest.dropWhile Text.isDecimalDigit with
    | [], _ => none
    | digits, ']' :: after => some (digits, after)
    | _, _ => none
  | _ => none

/-- The assignment at the start of a text. -/
def readAssignment (text : Text) : Option Assignment :=
  match readIndex text with
  | some (digits, after) => (readOperator after).map fun (op, value) => ⟨some digits, op, value⟩
  | none => (readOperator text).map fun (op, value) => ⟨none, op, value⟩

/-- The text of the key and the assignment behind it. -/
def splitKey : Text → Option (Text × Assignment)
  | [] => none
  | c :: rest =>
    match readAssignment rest with
    | some assignment => some ([c], assignment)
    | none => (splitKey rest).map fun (key, assignment) => (c :: key, assignment)

/-- The mutation that a text stands for. -/
def read (text : Text) : Except KeyOpError KeyOp :=
  match if Text.contains '\n' text then none else splitKey text with
  | none => .error (.noOperator text)
  | some (keyText, assignment) => do
    let key ← (Key.read keyText).mapError .key
    match assignment.index with
    | none => .ok ⟨key, assignment.operator, assignment.value, 0⟩
    | some digits =>
      match assignment.operator, Integer.readNat 10 Integer.nat64Max digits with
      | .set, .ok index => .ok ⟨key, .insert, assignment.value, index⟩
      | _, _ => .error (.invalidIndex text)

end ScopedConfig.KeyOp

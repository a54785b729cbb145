import ScopedConfig.Key
import ScopedConfig.TokenList

/-! Mutations of one entry: a key, an operator and its operand.  All operators
but the plain assignment work on the tokens of the value. -/
namespace ScopedConfig

/-- What is done to the value of a key. -/
inductive Operator where
  | set
  | append
  | merge
  | remove
  | toggle
  | insert
  deriving DecidableEq, Repr

namespace Operator

/-- Every operator, in order. -/
def all : List Operator := [set, append, merge, remove, toggle, insert]

/-- The name of an operator. -/
def name : Operator → Text
  | set => "set"
  | append => "append"
  | merge => "merge"
  | remove => "remove"
  | toggle => "toggle"
  | insert => "insert"

/-- The operator of a name. -/
def ofName? (name : Text) : Option Operator := all.find? fun operator => operator.name = name

/-- How an operator is written between key and value. -/
def symbol : Operator → Text
  | set | insert => "="
  | append => "+="
  | merge => "|="
  | remove => "-="
  | toggle => "^="

/-- Whether the operator works on tokens. -/
def isTokenBased : Operator → Bool
  | set => false
  | _ => true

end Operator

/-- A mutation of one key.  The index is where an insertion goes and is 0 for the
other operators. -/
structure KeyOp where
  key : Key
  operator : Operator
  value : Text
  index : Nat
  deriving DecidableEq, Repr

/-- What is wrong with a mutation. -/
inductive KeyOpError where
  | noOperator (text : Text)
  | invalidIndex (text : Text)
  | key (error : EmptyOption)
  | indexOutOfRange (index length : Nat)
  deriving DecidableEq, Repr

/-- The error in words. -/
def KeyOpError.message : KeyOpError → Text
  | noOperator text => "no operator in keyop '" ++ text ++ "'"
  | invalidIndex text => "invalid index in keyop '" ++ text ++ "'"
  | key error => "invalid key: " ++ error.message
  | indexOutOfRange index length =>
    "insert index " ++ Text.ofNat index ++ " out of range for " ++ Text.ofNat length ++ " tokens"

namespace KeyOp

/-- The same mutation in another section. -/
def inSection (op : KeyOp) (sectionName : Text) : KeyOp :=
  { op with key := op.key.inSection sectionName }

/-- The value after the mutation of a current value. -/
def apply (op : KeyOp) (current : Text) : Except KeyOpError Text :=
  match op.operator with
  | .set => .ok op.value
  | .append => .ok (TokenList.append current op.value)
  | .merge => .ok (TokenList.merge current op.value)
  | .remove => .ok (TokenList.remove current op.value)
  | .toggle => .ok (TokenList.toggle current op.value)
  | .insert =>
    match TokenList.insert? current op.index op.value with
    | some value => .ok value
    | none => .error (.indexOutOfRange op.index (TokenList.tokens current).length)

/-- The text of a mutation. -/
def text (op : KeyOp) : Text :=
  match op.operator with
  | .insert => op.key.text ++ '[' :: Text.ofNat op.index ++ "]=" ++ op.value
  | operator => op.key.text ++ operator.symbol ++ op.value

end KeyOp
end ScopedConfig

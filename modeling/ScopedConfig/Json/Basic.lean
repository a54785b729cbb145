import ScopedConfig.Text.Basic

/-! JSON documents.  Members of an object keep their order and their repetitions,
since what a repeated member means is for the reader of a document to say.  A
string may escape half of a surrogate pair; such a string is well-formed and
stands for no text, and a document that holds one can be read wherever the
string is not needed. -/
namespace ScopedConfig

/-- A JSON value.  Of numbers only those written as a natural number have a
value. -/
inductive Json where
  | null
  | bool (b : Bool)
  | number (value : Option Nat)
  | string (content : Option Text)
  | array (items : List Json)
  | object (members : List (Option Text × Json))

namespace Json

/-- The text of a string. -/
def text? : Json → Option Text
  | string content => content
  | _ => none

/-- The truth value. -/
def bool? : Json → Option Bool
  | bool b => some b
  | _ => none

/-- The natural number, up to a limit. -/
def natUpTo? (limit : Nat) : Json → Option Nat
  | number (some n) => if n ≤ limit then some n else none
  | _ => none

/-- The items of an array. -/
def items? : Json → Option (List Json)
  | array items => some items
  | _ => none

/-- The members of an object, if all their names stand for text. -/
def members? : Json → Option (List (Text × Json))
  | object members => members.mapM fun (name, value) => name.map fun n => (n, value)
  | _ => none

end Json
end ScopedConfig

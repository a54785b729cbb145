import ScopedConfig.Json.Lexer

/-! JSON documents put together from their tokens.  Reading is one pass with a
stack of the arrays and objects that are open, innermost first. -/
namespace ScopedConfig.Json

/-- An open array with its items, or an open object with its members and the name
of the next one.  Items and members are kept backwards. -/
inductive Frame where
  | array (items : List Json)
  | object (members : List (Option Text × Json)) (name : Option Text)

/-- What may come next, with the frames around it. -/
inductive Builder where
  | value (stack : List Frame)
  | firstItem (stack : List Frame)
  | firstMember (stack : List Frame)
  | member (stack : List Frame) (members : List (Option Text × Json))
  | colon (stack : List Frame) (members : List (Option Text × Json)) (name : Option Text)
  | behindItem (stack : List Frame) (items : List Json)
  | behindMember (stack : List Frame) (members : List (Option Text × Json))
  | done (document : Json)

namespace Builder

/-- Puts a finished value where it belongs. -/
def deliver (json : Json) : List Frame → Builder
  | [] => .done json
  | .array items :: stack => .behindItem stack (json :: items)
  | .object members name :: stack => .behindMember stack ((name, json) :: members)

/-- Takes the first token of a value. -/
def beginValue (stack : List Frame) : Token → Option Builder
  | .scalar json => some (deliver json stack)
  | .string content => some (deliver (.string content) stack)
  | .openArray => some (.firstItem stack)
  | .openObject => some (.firstMember stack)
  | _ => none

/-- Takes one token; none if it cannot stand there. -/
def step : Builder → Token → Option Builder
  | .value stack, token => beginValue stack token
  | .firstItem stack, .closeArray => some (deliver (.array []) stack)
  | .firstItem stack, token => beginValue (.array [] :: stack) token
  | .firstMember stack, .closeObject => some (deliver (.object []) stack)
  | .firstMember stack, .string name => some (.colon stack [] name)
  | .member stack members, .string name => some (.colon stack members name)
  | .colon stack members name, .colon => some (.value (.object members name :: stack))
  | .behindItem stack items, .comma => some (.value (.array items :: stack))
  | .behindItem stack items, .closeArray => some (deliver (.array items.reverse) stack)
  | .behindMember stack members, .comma => some (.member stack members)
  | .behindMember stack members, .closeObject => some (deliver (.object members.reverse) stack)
  | _, _ => none

/-- The document, once it is complete. -/
def document? : Builder → Option Json
  | .done document => some document
  | _ => none

end Builder

/-- The document of a list of tokens. -/
def ofTokens? (tokens : List Token) : Option Json := do
  (← tokens.foldlM Builder.step (.value [])).document?

/-- The document of a text. -/
def read? (text : Text) : Option Json := (tokens? text).bind ofTokens?

end ScopedConfig.Json

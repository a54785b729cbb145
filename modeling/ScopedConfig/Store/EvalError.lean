import ScopedConfig.Converter
import ScopedConfig.Key

/-! What keeps a key from being evaluated, and the words for it. -/
namespace ScopedConfig

/-- What is not there: a section, a key as it is written, a key under any scope,
or what a reference names. -/
inductive Missing where
  | sectionNamed (name : Text)
  | key (key : Key)
  | scopes (key : Key)
  | reference (name : Text)
  deriving DecidableEq, Repr

/-- The missing thing in words. -/
def Missing.text : Missing → Text
  | sectionNamed name => "section '" ++ name ++ "'"
  | key k => "key " ++ k.text
  | scopes k => "key '" ++ k.text ++ "' (all scopes tried)"
  | reference name => "reference " ++ name

/-- The errors of an evaluation. -/
inductive EvalError where
  | missing (what : Missing)
  | noKeyword (key : Key)
  | postponed (name resource : Text)
  | conversion (error : ConversionError)
  | shape (key : Key) (expected actual : Shape)
  | denied (name : Text)
  | unknownReference (text : Text)
  | cycle (chain : List Key)
  | tooDeep (key : Key) (limit : Nat)
  deriving DecidableEq, Repr

namespace EvalError

/-- Whether something is not there. -/
def isMissing : EvalError → Bool
  | missing _ => true
  | _ => false

/-- Whether the evaluation has to wait for a resource. -/
def isPostponed : EvalError → Bool
  | postponed _ _ => true
  | _ => false

/-- The error in words. -/
def message : EvalError → Text
  | missing what => what.text ++ " does not exist"
  | noKeyword key => "no keyword for " ++ key.text
  | postponed name resource =>
    "reference " ++ name ++ " postponed until " ++ resource ++ " is configured"
  | conversion error => "conversion error: " ++ error.message
  | shape key expected actual =>
    key.text ++ " evaluates to " ++ actual.name ++ ", not " ++ expected.name
  | denied name => "denied reference to node key " ++ name
  | unknownReference text => "unknown reference: " ++ text
  | cycle chain => "cyclic reference: " ++ Text.join " -> " (chain.map Key.text)
  | tooDeep key limit =>
    "reference " ++ key.text ++ " exceeds the maximum expansion depth of " ++ Text.ofNat limit

end EvalError
end ScopedConfig

import ScopedConfig.Store.Expansion

/-! Evaluation of keys: their text, expanded, and read by the converter of their
keyword.  A whole configuration can be evaluated for a node, which leaves each
option once, without scopes. -/
namespace ScopedConfig

/-- The value in another shape, where that loses nothing that the shape keeps:
lists and sets stand for each other, and an integer for a decimal number. -/
def Value.as? : Shape → Value → Option Value
  | .list, .set tokens => some (.list tokens)
  | .set, .list tokens => some (.set (TokenSet.ofList tokens))
  | .float, .int n => some (.float (.ofInt n))
  | shape, value => if value.shape = shape then some value else none

namespace Store

/-- The keyword that governs a key, which there has to be. -/
def keyword (store : Store) (key : Key) : Except EvalError Keyword :=
  match store.keyword? key with
  | some keyword => .ok keyword
  | none => .error (.noKeyword key)

end Store

namespace LinkedStore

/-- The typed value of a text under a keyword. -/
def typed (keyword : Keyword) (text : Text) : Except EvalError Value :=
  match keyword.converter with
  | some converter => (converter.convert text).mapError .conversion
  | none => .ok (.string text)

/-- The value of a key under a keyword, for a node. -/
def evaluateUnder (linked : LinkedStore) (key : Key) (keyword : Keyword) (node : Text) :
    Outcome Value := do
  let text ← linked.evaluateText key keyword node
  Outcome.ofResult (typed keyword text)

/-- The value of a key, for a node. -/
def evaluate (linked : LinkedStore) (key : Key) (node : Text) : Outcome Value := do
  let governing ← Outcome.ofResult (linked.store.keyword key)
  linked.evaluateUnder key governing node

/-- The value of a key in a shape, for the node of the agent. -/
def evaluateAs (linked : LinkedStore) (key : Key) (shape : Shape) : Outcome Value := do
  let value ← linked.evaluate key []
  match value.as? shape with
  | some value => pure value
  | none => Outcome.error (.shape key shape value.shape)

/-- The text of a key without scope, under its keyword if it has one. -/
def evaluateAny (linked : LinkedStore) (key : Key) (node : Text) : Outcome Text :=
  match linked.store.keyword? key with
  | some keyword => linked.evaluateText key keyword node
  | none => do
    let raw ← Outcome.ofResult (linked.store.descope key node)
    linked.expand raw key.sectionName node

/-- The text that an evaluated configuration has for a key: none if the key has
no value for the node, and the raw text if its references have to wait. -/
def evaluatedText (linked : LinkedStore) (key : Key) (node : Text) : Outcome (Option Text) :=
  let outcome := linked.evaluateAny key node
  match outcome.result with
  | .ok text => ⟨outcome.asked, .ok (some text)⟩
  | .error e =>
    if e.isMissing then ⟨outcome.asked, .ok none⟩
    else if e.isPostponed then ⟨outcome.asked, (linked.store.descope key node).map some⟩
    else ⟨outcome.asked, .error e⟩

/-- The options of a section evaluated one after another; a form of an option that
is evaluated already adds nothing. -/
def evaluatedOptions (linked : LinkedStore) (sectionName node : Text) (done : Options) :
    List Text → Outcome Options
  | [] => pure done
  | option :: rest => do
    let key := Key.withoutScope ⟨sectionName, option⟩
    if done.contains key.option then linked.evaluatedOptions sectionName node done rest
    else
      match ← linked.evaluatedText key node with
      | some text =>
        linked.evaluatedOptions sectionName node (done.insert key.option text) rest
      | none => linked.evaluatedOptions sectionName node done rest

/-- Sections evaluated one after another. -/
def evaluatedSections (linked : LinkedStore) (node : Text) (done : Dict Text Options) :
    List (Text × Options) → Outcome (Dict Text Options)
  | [] => pure done
  | (name, options) :: rest =>
    if name = metadataSection then linked.evaluatedSections node done rest
    else do
      let evaluated ← linked.evaluatedOptions name node .empty options.keys
      linked.evaluatedSections node (done.insert name evaluated) rest

/-- The configuration as a node sees it: every option once, expanded.  The
metadata are left out. -/
def evaluated (linked : LinkedStore) (node : Text) : Outcome RawConfig := do
  let sections ← linked.evaluatedSections node .empty linked.store.data.sections.entries
  pure ⟨sections⟩

end LinkedStore
end ScopedConfig

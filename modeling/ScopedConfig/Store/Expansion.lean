import ScopedConfig.Reference.Scan
import ScopedConfig.Store.Outcome
import ScopedConfig.Store.Scope

/-! Expansion of the references in a text.  A name stands for a value of the
agent, of the owner, of another key, or of a key of the node.  The text of a key
is expanded in turn.  The keys under expansion form the trail: a key that is on
the trail already is a cycle, and the trail has room for 32 keys, so expansion
ends whatever the references are.

Every name is resolved before anything is replaced.  If some names have to wait
for a resource, the first of them is the error, else the first error of all. -/
namespace ScopedConfig

/-- The number of keys that may be under expansion. -/
def maxReferenceDepth : Nat := 32

/-- The sections of the node that a reference may name. -/
def nodeSections : List Text := ["env".toList, "labels".toList, "node".toList]

/-- What a reference to a key of the node starts with. -/
def nodeMark : Text := "node."

/-- A key under expansion: the file of its store, and the key with its section
and without its scope. -/
structure TrailEntry where
  location : Bool × List Text
  key : Key
  deriving DecidableEq, Repr

/-- The keys under expansion, outermost first. -/
abbrev Trail := List TrailEntry

/-- The error of a key that is on the trail already: all keys from there on, and the
key again. -/
def cycleError (trail : Trail) (entry : TrailEntry) : EvalError :=
  .cycle (((trail.dropWhile (· ≠ entry)) ++ [entry]).map TrailEntry.key)

/-- The error of a key for which the trail has no room. -/
def depthError (entry : TrailEntry) : EvalError := .tooDeep entry.key maxReferenceDepth

namespace Store

/-- The values that need nothing but the agent, the section and the viewer. -/
def wellKnown (store : Store) (sectionName node : Text) : List (String × Text) :=
  let viewer := store.viewer node
  [("nodename", viewer),
   ("short_nodename", shortName viewer),
   ("rid", sectionName),
   ("rindex", (resourceIndex? sectionName).getD sectionName),
   ("svcmgr", store.agent.objectManager),
   ("nodemgr", store.agent.nodeManager),
   ("etc", store.agent.paths.etc),
   ("var", store.agent.paths.var)]

/-- The value of a name that needs nothing but the agent, the section and the
viewer. -/
def wellKnown? (store : Store) (sectionName node name : Text) : Option Text :=
  ((store.wellKnown sectionName node).find? fun (known, _) => known.toList = name).map Prod.snd

/-- The raw value of a key that is set, under its keyword if it has one. -/
def storedText (store : Store) (key : Key) (node : Text) : Except EvalError Text :=
  match store.keyword? key with
  | some keyword => store.scopedText key keyword node
  | none => store.descope key node

/-- The trail entry of a key. -/
def trailEntry (store : Store) (key : Key) : TrailEntry :=
  ⟨FilePath.location store.path, ⟨key.sectionOrDefault, key.baseOption⟩⟩

end Store

/-- A key whose text is expanded: the stores that it is seen from, the key, and
the text. -/
structure Visit where
  linked : LinkedStore
  key : Key
  raw : Text

/-- The trail entry of the key of a visit. -/
def Visit.entry (visit : Visit) : TrailEntry := visit.linked.store.trailEntry visit.key

/-- What a name stands for: a text, or what the text of a key comes to when it is
expanded.  The owner of the store is not asked for the symbols that a key in a
store of the node refers to. -/
inductive Referent where
  | text (value : Text)
  | key (visit : Visit)
  | nodeKey (visit : Visit)

namespace Referent

/-- The key that a name stands for. -/
def visit? : Referent → Option Visit
  | text _ => none
  | key visit | nodeKey visit => some visit

/-- What a referent comes to, given what the text of a key comes to when it is
expanded. -/
def follow (enter : Visit → Outcome Text) : Referent → Outcome Text
  | text value => .ok value
  | key visit => enter visit
  | nodeKey visit => (enter visit).elsewhere

end Referent

namespace LinkedStore

/-- The visit of a key under a keyword. -/
def visitUnder (linked : LinkedStore) (key : Key) (keyword : Keyword) (node : Text) :
    Except EvalError Visit :=
  (linked.store.scopedText key keyword node).map fun raw => ⟨linked, key, raw⟩

/-- The visit of a key under the keyword that governs it. -/
def governedVisit (linked : LinkedStore) (key : Key) (node : Text) : Except EvalError Visit :=
  match linked.store.keyword? key with
  | some keyword => linked.visitUnder key keyword node
  | none => .error (.noKeyword key)

/-- What a reference to a key of the node stands for, given what follows the
mark.  Without a dot that is an option of the section `node`. -/
def nodeReferent (linked : LinkedStore) (node name rest : Text) : Except EvalError Referent :=
  match Key.read (if Text.contains '.' rest then rest else nodeMark ++ rest) with
  | .error _ => .error (.unknownReference name)
  | .ok key =>
    if nodeSections.contains key.sectionName then
      (linked.nodeSide.governedVisit key node).map
        (if linked.node?.isSome then Referent.nodeKey else Referent.key)
    else .error (.denied name)

/-- The visit of a key that has no value. -/
def unsetVisit (linked : LinkedStore) (node name : Text) (key : Key) : Except EvalError Visit :=
  if linked.store.data.hasSection key.sectionOrDefault then
    match linked.store.keyword? key with
    | some keyword => linked.visitUnder key keyword node
    | none => .error (.missing (.reference name))
  else if Text.contains resourceSeparator key.sectionOrDefault then
    .error (.postponed name key.sectionOrDefault)
  else .error (.missing (.reference name))

/-- What a reference to a key of the store stands for: the text of the key if it
is set, else a symbol of the owner, else what an unset key comes to. -/
def keyReferent (linked : LinkedStore) (sectionName node name : Text) : Outcome Referent :=
  match Key.read name with
  | .error _ => .error (.unknownReference name)
  | .ok named =>
    let key := if named.isRelative then named.inSection sectionName else named
    if linked.store.isSetInAnyScope key then
      .ofResult ((linked.store.storedText key node).map fun raw => .key ⟨linked, key, raw⟩)
    else
      match linked.store.owner.symbol? linked.store.agent name with
      | some value => ⟨[name], .ok (.text value)⟩
      | none => ⟨[name], (linked.unsetVisit node name key).map .key⟩

/-- What a name stands for. -/
def referent (linked : LinkedStore) (sectionName node name : Text) : Outcome Referent :=
  match Text.after? nodeMark name with
  | some rest => .ofResult (linked.nodeReferent node name rest)
  | none =>
    match linked.store.wellKnown? sectionName node name with
    | some value => .ok (.text value)
    | none => linked.keyReferent sectionName node name

/-- What a name comes to. -/
def dereference (enter : Visit → Outcome Text) (linked : LinkedStore)
    (sectionName node name : Text) : Outcome Text :=
  (linked.referent sectionName node name).andThen (Referent.follow enter)

/-- The names of a text resolved so far. -/
structure Resolution where
  asked : List Text
  values : List (Text × Text)
  postponed : Option EvalError
  failed : Option EvalError

namespace Resolution

/-- Nothing resolved. -/
def empty : Resolution := ⟨[], [], none, none⟩

/-- Takes what a name comes to; the first error of either sort is kept. -/
def record (r : Resolution) (name : Text) (outcome : Outcome Text) : Resolution :=
  let r := { r with asked := r.asked ++ outcome.asked }
  match outcome.result with
  | .ok value => { r with values := (name, value) :: r.values }
  | .error e =>
    if e.isPostponed then { r with postponed := r.postponed.or (some e) }
    else { r with failed := r.failed.or (some e) }

/-- Resolves a name, unless it has a value already. -/
def step (resolve : Text → Outcome Text) (r : Resolution) (name : Text) : Resolution :=
  match r.values.lookup name with
  | some _ => r
  | none => r.record name (resolve name)

/-- The error of the names, if one of them has one. -/
def error? (r : Resolution) : Option EvalError := r.postponed.or r.failed

/-- The text of a reference whose name is resolved. -/
def replace (r : Resolution) (reference : Reference) : Except EvalError Text :=
  match r.values.lookup reference.name with
  | some value => .ok (reference.modify value)
  | none => .error (.unknownReference reference.token)

end Resolution

/-- The text with its references replaced, given what names come to. -/
def expandWith (resolve : Text → Outcome Text) (raw : Text) : Outcome Text :=
  let resolution := (Reference.names raw).foldl (Resolution.step resolve) .empty
  match resolution.error? with
  | some e => ⟨resolution.asked, .error e⟩
  | none => ⟨resolution.asked, Reference.substitute resolution.replace raw⟩

/-- The expansion of the text of a key, with the trail that leads to it and the
room that is left on it. -/
def enterAt (node : Text) : (room : Nat) → Trail → Visit → Outcome Text
  | room, trail, visit =>
    if visit.entry ∈ trail then .error (cycleError trail visit.entry)
    else
      match room with
      | 0 => .error (depthError visit.entry)
      | left + 1 =>
        let enter := enterAt node left (trail ++ [visit.entry])
        expandWith (dereference enter visit.linked visit.key.sectionOrDefault node) visit.raw

/-- The expansion of the text of a key that nothing leads to. -/
def enterFirst (node : Text) : Visit → Outcome Text := enterAt node maxReferenceDepth []

/-- A text with its references expanded as seen from a section and a node. -/
def expand (linked : LinkedStore) (raw sectionName node : Text) : Outcome Text :=
  expandWith (dereference (enterFirst node) linked sectionName node) raw

/-- The text of a key under a keyword, for a node. -/
def evaluateText (linked : LinkedStore) (key : Key) (keyword : Keyword) (node : Text) :
    Outcome Text :=
  (Outcome.ofResult (linked.visitUnder key keyword node)).andThen (enterFirst node)

end LinkedStore
end ScopedConfig

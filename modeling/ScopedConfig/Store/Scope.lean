import ScopedConfig.Store.Basic
import ScopedConfig.Store.EvalError

/-! Scopes.  Beside its bare form an option may be set for one node or for one of
three groups of nodes.  The value for a node is that of its own name, else of the
first group that it is in, else the bare one.  The options of a keyword that
takes no scopes only have the bare value. -/
namespace ScopedConfig.Store

/-- The node whose view is asked for: that of the agent if none is named. -/
def viewer (store : Store) (node : Text) : Text :=
  if node = [] then store.agent.nodeName else node

/-- The scopes that stand for groups of nodes, with the nodes of the owner in
each, the one that goes first in front. -/
def groupScopes (store : Store) : List (Text × List Text) :=
  [("nodes", store.owner.nodes),
   ("drpnodes", store.owner.drpNodes),
   ("encapnodes", store.owner.encapNodes)]

/-- Whether a node is in each of the groups. -/
def memberships (store : Store) (node : Text) : List Bool :=
  store.groupScopes.map fun (_, members) => members.contains node

/-- The scopes that a node is in, the one that goes first in front. -/
def scopesOf (store : Store) (node : Text) : List Text :=
  node :: (store.groupScopes.filter fun (_, members) => members.contains node).map Prod.fst

/-- The forms of an option that a node reads, the one that goes first in front. -/
def variants (store : Store) (option node : Text) : List Text :=
  (store.scopesOf node).map (Key.scopedOption option) ++ [option]

/-- The raw value of a key for a node, under any scope that the node is in. -/
def descope (store : Store) (key : Key) (node : Text) : Except EvalError Text :=
  match store.data.section? key.sectionOrDefault with
  | none => .error (.missing (.sectionNamed key.sectionOrDefault))
  | some options =>
    match (store.variants key.baseOption (store.viewer node)).findSome? options.get? with
    | some value => .ok value
    | none => .error (.missing (.scopes key))

/-- The raw value of a key as it is written. -/
def getStrict (store : Store) (key : Key) : Except EvalError Text :=
  match store.get? key with
  | some value => .ok value
  | none => .error (.missing (.key key))

/-- The raw value that the scoping rules of a keyword read. -/
def readScoped (store : Store) (key : Key) (keyword : Keyword) (node : Text) :
    Except EvalError Text :=
  if keyword.scopable then store.descope key node else store.getStrict key.withoutScope

/-- The raw value that a keyword gives a key: the one that is set, or the default
unless a value is required. -/
def scopedText (store : Store) (key : Key) (keyword : Keyword) (node : Text) :
    Except EvalError Text :=
  match store.readScoped key keyword node with
  | .ok value => .ok value
  | .error error =>
    if error.isMissing && !keyword.required then .ok keyword.default else .error error

/-- Whether an option is a form of another one, under some scope or none. -/
def isVariant (option stored : Text) : Bool :=
  stored = option || (Text.after? (option ++ [scopeSeparator]) stored).isSome

/-- Whether a key is set under some scope or none. -/
def isSetInAnyScope (store : Store) (key : Key) : Bool :=
  (store.data.optionNames key.sectionOrDefault).any (isVariant key.baseOption)

end ScopedConfig.Store

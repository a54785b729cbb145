import ScopedConfig.Agent
import ScopedConfig.Keyword.Registry
import ScopedConfig.ObjectPath

/-! The owner of a configuration: the object or the node that it is of.  It
decides which keywords there are, which nodes the configuration is for, whether
it is kept in a file, and what its own symbols stand for. -/
namespace ScopedConfig

/-- What owns a configuration.  An object may have directories of its own, else it has
those of the agent that its configuration is evaluated on.  An owner with a table of
symbols may refuse to take over what has been committed. -/
inductive Role where
  | object (path : ObjectPath) (ownPaths? : Option AgentPaths := none)
  | node
  | table (kind : Kind) (symbols : List (Text × Text)) (refusesCommits : Bool)
  deriving DecidableEq, Repr

/-- An owner: its role, the keywords, the nodes of its three groups, the name of
its cluster, and whether its configuration is only kept in memory. -/
structure Owner where
  role : Role
  registry : Registry
  nodes : List Text
  drpNodes : List Text
  encapNodes : List Text
  cluster : Text
  volatile : Bool
  deriving DecidableEq, Repr

namespace Owner

/-- The kind of the owner. -/
def kind (owner : Owner) : Kind :=
  match owner.role with
  | .object path _ => path.kind
  | .node => .node
  | .table kind _ _ => kind

/-- The keyword of a key, scope included, in a section of a type. -/
def lookup? (owner : Owner) (key : Key) (sectionType : Text) : Option Keyword :=
  owner.registry.lookup? key owner.kind sectionType

/-- The symbols of an object. -/
def objectSymbols (path : ObjectPath) (cluster : Text) (var : FilePath) : List (String × Text) :=
  [("path", path.text),
   ("name", path.name),
   ("short_name", shortName path.name),
   ("namespace", path.ns),
   ("kind", path.kind.name),
   ("fqdn", path.fullName cluster),
   ("domain", path.domain cluster),
   ("private_var", path.varDirectory var),
   ("clustername", cluster)]

/-- The symbols of the owner and what they stand for.  The private directory of an object
is below its own directories. -/
def symbols (owner : Owner) (agent : Agent) : List (Text × Text) :=
  match owner.role with
  | .object path ownPaths? =>
    let paths := ownPaths?.getD agent.paths
    (objectSymbols path owner.cluster paths.var).map fun (name, value) => (name.toList, value)
  | .node => [("clustername", owner.cluster)]
  | .table _ symbols _ => symbols

/-- What a symbol of the owner stands for. -/
def symbol? (owner : Owner) (agent : Agent) (name : Text) : Option Text :=
  (owner.symbols agent).lookup name

/-- Whether the owner refuses to take over what has been committed. -/
def refusesCommits (owner : Owner) : Bool :=
  match owner.role with
  | .table _ _ refuses => refuses
  | _ => false

end Owner
end ScopedConfig

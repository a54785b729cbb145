import ScopedConfig.Store.Commit
import ScopedConfig.Store.Evaluation

/-! Sessions: the store of an object or node, the store of the node beside it, the
files of both, and a record of what their owners were asked and told.  An
operation on a session acts on one of the two stores. -/
namespace ScopedConfig

/-- A source of identifiers that are all different. -/
structure IdSource where
  name : Nat → Text
  next : Nat

namespace IdSource

/-- The next identifier. -/
def current (ids : IdSource) : Text := ids.name ids.next

/-- The source after its next identifier has been used, or has not. -/
def advance (ids : IdSource) (used : Bool) : IdSource :=
  if used then { ids with next := ids.next + 1 } else ids

end IdSource

/-- A store, the symbols its owner was asked for, and how often the owner was told
of a commit. -/
structure Member where
  store : Store
  asked : List Text
  commits : Nat

/-- The stores of a session. -/
inductive Target where
  | own
  | node
  deriving DecidableEq, Repr

/-- A session. -/
structure Session where
  own : Member
  node? : Option Member
  files : FileTree
  ids : IdSource

namespace Session

/-- The store that a target names; without a store of the node, the own one. -/
def member (session : Session) (target : Target) : Member :=
  match target, session.node? with
  | .node, some node => node
  | _, _ => session.own

/-- The session with another member for a target. -/
def withMember (session : Session) (target : Target) (member : Member) : Session :=
  match target, session.node? with
  | .node, some _ => { session with node? := some member }
  | _, _ => { session with own := member }

/-- The store of a target with the store of the node that it may refer to. -/
def linked (session : Session) (target : Target) : LinkedStore :=
  match target, session.node? with
  | .node, some node => ⟨node.store, none⟩
  | _, node? => ⟨session.own.store, node?.map Member.store⟩

/-- The session after an evaluation, and its result. -/
def evaluate (session : Session) (target : Target) (evaluation : LinkedStore → Outcome α) :
    Session × Except EvalError α :=
  let outcome := evaluation (session.linked target)
  let member := session.member target
  (session.withMember target { member with asked := member.asked ++ outcome.asked }, outcome.result)

/-- The session with other data in a store. -/
def withData (session : Session) (target : Target) (data : RawConfig) : Session :=
  let member := session.member target
  session.withMember target { member with store := member.store.withData data }

/-- The session after a mutation of a store, and the number of sections changed. -/
def apply (session : Session) (target : Target) (op : KeyOp) :
    Session × Except KeyOpError Nat :=
  match (session.member target).store.data.apply op with
  | .ok (data, n) => (session.withData target data, .ok n)
  | .error e => (session, .error e)

/-- The session after mutations one after another, and the number of sections
changed. -/
def applyAll (session : Session) (target : Target) (ops : List KeyOp) :
    Session × Except KeyOpError Nat :=
  let (data, result) := (session.member target).store.data.applyAll 0 ops
  (session.withData target data, result)

/-- The session without keys in a store, and the number of those that were set. -/
def unset (session : Session) (target : Target) (keys : List Key) : Session × Nat :=
  let (data, count) := (session.member target).store.data.unset keys
  (session.withData target data, count)

/-- The session after a commit of a store has come to an end. -/
def conclude (session : Session) (target : Target) (commit : Commit) : Session :=
  let member := session.member target
  let commits := member.commits + (if commit.notified then 1 else 0)
  let concluded := session.withMember target { member with store := commit.store, commits }
  { concluded with files := commit.files, ids := session.ids.advance commit.usesId }

/-- A commit of a store. -/
def commit (session : Session) (target : Target) (options : CommitOptions) : Commit :=
  (session.member target).store.commit session.files session.ids.current options none

/-- A commit of a store without sections. -/
def deleteSections (session : Session) (target : Target) (names : List Text) : Commit :=
  (session.member target).store.deleteSections session.files session.ids.current names none

/-- The session with a store loaded from a file; the same one if that fails. -/
def load (session : Session) (target : Target) (path : FilePath) :
    Session × Except Store.LoadError Unit :=
  let member := session.member target
  match member.store.load session.files path with
  | .ok store => (session.withMember target { member with store }, .ok ())
  | .error e => (session, .error e)

end Session
end ScopedConfig

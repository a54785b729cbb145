import ScopedConfig.Text.Basic

/-! The kinds of configured things, and sets of kinds.  A set of kinds is kept as
the 16 bits that it is exchanged as; the eight low bits stand for the kinds in
their order, and the bits above them are carried along and mean nothing. -/
namespace ScopedConfig

/-- What a configuration is of: one of seven kinds of objects, or a node. -/
inductive Kind where
  | svc
  | vol
  | cfg
  | sec
  | usr
  | nscfg
  | ccfg
  | node
  deriving DecidableEq, Repr

namespace Kind

/-- Every kind, in order. -/
def all : List Kind := [svc, vol, cfg, sec, usr, nscfg, ccfg, node]

/-- The name of a kind. -/
def name : Kind → Text
  | svc => "svc"
  | vol => "vol"
  | cfg => "cfg"
  | sec => "sec"
  | usr => "usr"
  | nscfg => "nscfg"
  | ccfg => "ccfg"
  | node => "node"

/-- The kind of a name. -/
def ofName? (name : Text) : Option Kind := all.find? fun kind => kind.name = name

/-- Kinds whose objects hold nothing but keys and values. -/
def isKeystore : Kind → Bool
  | cfg | sec | usr => true
  | _ => false

/-- The place of a kind in the order. -/
def index : Kind → Nat
  | svc => 0
  | vol => 1
  | cfg => 2
  | sec => 3
  | usr => 4
  | nscfg => 5
  | ccfg => 6
  | node => 7

end Kind

/-- A name that is no kind. -/
structure UnknownKind where
  name : Text
  deriving DecidableEq, Repr

/-- The error in words. -/
def UnknownKind.message (error : UnknownKind) : Text := "unknown kind: " ++ error.name

/-- The kind of a name, or the error that there is none. -/
def Kind.read (name : Text) : Except UnknownKind Kind :=
  match Kind.ofName? name with
  | some kind => .ok kind
  | none => .error ⟨name⟩

/-- A set of kinds. -/
structure KindSet where
  bits : BitVec 16
  deriving DecidableEq, Repr

namespace KindSet

/-- The set of no kind. -/
def empty : KindSet := ⟨0⟩

/-- Whether a kind is in the set. -/
def contains (kinds : KindSet) (kind : Kind) : Bool := kinds.bits.getLsbD kind.index

/-- The kinds of either set. -/
def union (a b : KindSet) : KindSet := ⟨a.bits ||| b.bits⟩

/-- The set of one kind. -/
def single (kind : Kind) : KindSet := ⟨BitVec.twoPow 16 kind.index⟩

/-- The set with one more kind. -/
def insert (kinds : KindSet) (kind : Kind) : KindSet := kinds.union (single kind)

/-- The set of the kinds in a list. -/
def ofList (kinds : List Kind) : KindSet := kinds.foldl insert empty

/-- Every kind. -/
def all : KindSet := ofList Kind.all

/-- The kinds of objects. -/
def objects : KindSet := ofList (Kind.all.filter (· ≠ .node))

/-- Services and volumes, the kinds that run on nodes. -/
def services : KindSet := ofList [.svc, .vol]

/-- Whether no bit is set. -/
def isEmpty (kinds : KindSet) : Bool := kinds.bits = 0

/-- The kinds in the set, in order. -/
def toList (kinds : KindSet) : List Kind := Kind.all.filter kinds.contains

end KindSet
end ScopedConfig

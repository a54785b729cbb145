import ScopedConfig.Owner
import ScopedConfig.RawConfig.Basic
import ScopedConfig.Text.Quoted

/-! Stores: the configuration of one owner, kept in a file.  The options of the
sections `env` and `labels` are free, which is to say that those without a keyword
are governed by a plain one; all other options need a keyword to be evaluated. -/
namespace ScopedConfig

/-- A configuration with its file, its owner and the agent that it is seen from. -/
structure Store where
  path : FilePath
  data : RawConfig
  owner : Owner
  agent : Agent

/-- The section that is dropped when a configuration is committed. -/
def metadataSection : Text := "metadata"

/-- The sections whose options are free. -/
def freeSections : List Text := ["env".toList, "labels".toList]

namespace Store

/-- The value of a key, scope included, if it is set. -/
def get? (store : Store) (key : Key) : Option Text :=
  store.data.get? key.sectionOrDefault key.option

/-- Whether a key is set, scope included. -/
def hasKey (store : Store) (key : Key) : Bool := (store.get? key).isSome

/-- The value of a key, scope included; empty if it is not set. -/
def get (store : Store) (key : Key) : Text := (store.get? key).getD []

/-- The keys of a section, in order. -/
def keys (store : Store) (sectionName : Text) : List Key :=
  (store.data.optionNames sectionName).map (Key.mk sectionName)

/-- The value of `type` in the section of a key, which selects among its keywords.
The keyword of `type` itself does not depend on it. -/
def sectionType (store : Store) (key : Key) : Text :=
  if key.option = "type".toList then [] else store.get ⟨key.sectionOrDefault, "type"⟩

/-- The keyword of an option that is free. -/
def freeKeyword? (key : Key) : Option Keyword :=
  if freeSections.contains key.sectionOrDefault then
    some { Keyword.plain key.sectionOrDefault key.option with scopable := true }
  else none

/-- The keyword that governs a key, scope included. -/
def keyword? (store : Store) (key : Key) : Option Keyword :=
  (store.owner.lookup? key (store.sectionType key)).or (freeKeyword? key)

/-- The name of a kind as it is shown, with a capital. -/
def shownKind (kind : Kind) : Text :=
  match kind.name with
  | [] => []
  | c :: rest => c.toUpper :: rest

/-- The text that shows a store to its maintainers. -/
def summary (store : Store) (hasNode : Bool) : Text :=
  "ConfigStore \x7b path: " ++ Text.quoted store.path ++ ", kind: " ++
    shownKind store.owner.kind ++ ", sections: " ++ Text.ofNat store.data.size ++
    ", node_store: " ++ (if hasNode then "true" else "false") ++ ", .. \x7d"

end Store

/-- A store and the store of the node that it may refer to. -/
structure LinkedStore where
  store : Store
  node? : Option Store

namespace LinkedStore

/-- What a reference to the node is evaluated in: the store of the node, or the
store itself if none is attached. -/
def nodeSide (linked : LinkedStore) : LinkedStore :=
  match linked.node? with
  | some node => ⟨node, none⟩
  | none => linked

end LinkedStore
end ScopedConfig

import ScopedConfig.FilePath
import ScopedConfig.Kind

/-! The identity of an object: a namespace, a kind and a name. -/
namespace ScopedConfig

/-- The namespace of objects that belong to the whole cluster. -/
def rootNamespace : Text := "root"

/-- The identity of an object. -/
structure ObjectPath where
  ns : Text
  kind : Kind
  name : Text
  deriving DecidableEq, Repr

/-- Why a text is no object path. -/
inductive ObjectPathError where
  | malformed (text : Text)
  | kind (error : UnknownKind)
  deriving DecidableEq, Repr

/-- The error in words. -/
def ObjectPathError.message : ObjectPathError → Text
  | malformed text => "referrer error: invalid object path '" ++ text ++ "'"
  | kind error => "referrer error: " ++ error.message

namespace ObjectPath

/-- A path whose namespace and name are not empty. -/
def make? (text ns kindName name : Text) : Except ObjectPathError ObjectPath := do
  let kind ← (Kind.read kindName).mapError .kind
  if name = [] ∨ ns = [] then .error (.malformed text) else .ok ⟨ns, kind, name⟩

/-- The path that a text stands for: a namespace, a kind and a name between
slashes, where the namespace may be missing, or both it and the kind. -/
def read (text : Text) : Except ObjectPathError ObjectPath :=
  match Text.splitOn '/' text with
  | [name] => make? text rootNamespace Kind.svc.name name
  | [kindName, name] => make? text rootNamespace kindName name
  | [ns, kindName, name] => make? text ns kindName name
  | _ => .error (.malformed text)

/-- The text of a path. -/
def text (path : ObjectPath) : Text := path.ns ++ '/' :: path.kind.name ++ '/' :: path.name

/-- The domain of the object in a cluster. -/
def domain (path : ObjectPath) (cluster : Text) : Text :=
  path.ns ++ '.' :: path.kind.name ++ '.' :: cluster

/-- The name of the object with its domain. -/
def fullName (path : ObjectPath) (cluster : Text) : Text :=
  path.name ++ '.' :: path.domain cluster

/-- The directory of the object below the one for variable data. -/
def varDirectory (path : ObjectPath) (var : FilePath) : FilePath :=
  let base :=
    if path.ns = rootNamespace then var
    else FilePath.join (FilePath.join var "namespaces") path.ns
  FilePath.join (FilePath.join base path.kind.name) path.name

end ObjectPath
end ScopedConfig

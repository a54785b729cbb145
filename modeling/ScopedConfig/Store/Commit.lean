import ScopedConfig.FileTree.Replace
import ScopedConfig.RawConfig.Mutation
import ScopedConfig.RawConfig.Writer
import ScopedConfig.Store.Validation

/-! Commits.  A commit may take over other data first.  If there is any section it
drops the metadata, sees to it that the default section is there and has an
identifier, validates, writes the file, and tells the owner.  What was done to
the data in memory stays done when a later step fails. -/
namespace ScopedConfig

/-- What a commit is asked to do: take over data, write to another file than that
of the store, and validate. -/
structure CommitOptions where
  data : Option RawConfig
  path : Option FilePath
  validate : Bool

namespace CommitOptions

/-- Validate and write to the file of the store. -/
def standard : CommitOptions := ⟨none, none, true⟩

end CommitOptions

/-- Why a commit failed. -/
inductive CommitError where
  | invalid (issues : List Issue)
  | unwritable
  | refused
  deriving DecidableEq, Repr

namespace CommitError

/-- What an owner that refuses a commit says. -/
def refusal : Text := "post commit failed"

/-- The error in words. -/
def message : CommitError → Text
  | invalid issues => "invalid configuration: " ++ Text.join ", " (issues.map Issue.text)
  | unwritable => "persistence error"
  | refused => "referrer error: " ++ refusal

end CommitError

/-- What a commit comes to: the store and the files, whether the identifier that
was held ready is used, what there was to warn about, and whether the owner was
told. -/
structure Commit where
  store : Store
  files : FileTree
  usesId : Bool
  warnings : List (Key × Text)
  notified : Bool
  result : Except CommitError Unit

namespace Store

/-- The store with other data. -/
def withData (store : Store) (data : RawConfig) : Store := { store with data }

/-- The data with a default section in front if there was none. -/
def withDefaultSection (data : RawConfig) : RawConfig := data.ensureSectionFirst defaultSection

/-- Whether the data lack an identifier. -/
def lacksId (data : RawConfig) : Bool := (data.get? idKey.sectionName idKey.option).isNone

/-- Fails if the data have an issue. -/
def validate (store : Store) : Except CommitError Unit :=
  if store.issues = [] then .ok () else .error (.invalid store.issues)

/-- The data that a commit works on: without the metadata, with a default section
and an identifier in it. -/
def prepared (data : RawConfig) (newId : Text) : RawConfig :=
  let started := withDefaultSection (data.eraseSection metadataSection)
  if lacksId started then started.set idKey.sectionName idKey.option newId else started

/-- Writes the data to a file, unless they are only kept in memory, and tells the
owner. -/
def writeOut (store : Store) (files : FileTree) (path : Option FilePath) (usesId : Bool)
    (warnings : List (Key × Text)) (fault : Option Fault) : Commit :=
  let told : Except CommitError Unit :=
    if store.owner.refusesCommits then .error .refused else .ok ()
  if store.owner.volatile then ⟨store, files, usesId, warnings, true, told⟩
  else
    match files.replace (path.getD store.path) (.text store.data.render) fault with
    | (written, true) => ⟨store, written, usesId, warnings, true, told⟩
    | (reached, false) => ⟨store, reached, usesId, warnings, false, .error .unwritable⟩

/-- The commit of a store, with an identifier held ready for data that lack one,
and a failure of the write where one is asked for. -/
def commit (store : Store) (files : FileTree) (newId : Text) (options : CommitOptions)
    (fault : Option Fault) : Commit :=
  let store := store.withData (options.data.getD store.data)
  if store.data.isEmpty then ⟨store, files, false, [], false, .ok ()⟩
  else
    let usesId := lacksId (withDefaultSection (store.data.eraseSection metadataSection))
    let store := store.withData (prepared store.data newId)
    if options.validate then
      match store.validate with
      | .ok () => store.writeOut files options.path usesId store.warnings fault
      | .error e => ⟨store, files, usesId, store.warnings, false, .error e⟩
    else store.writeOut files options.path usesId [] fault

/-- Drops sections, and commits if one of them was there. -/
def deleteSections (store : Store) (files : FileTree) (newId : Text) (names : List Text)
    (fault : Option Fault) : Commit :=
  match store.data.eraseSections names with
  | (_, 0) => ⟨store, files, false, [], false, .ok ()⟩
  | (remaining, _) => (store.withData remaining).commit files newId .standard fault

/-- Why a file could not be loaded. -/
inductive LoadError where
  | unreadable
  | malformed (error : RawConfig.SyntaxError)
  deriving DecidableEq, Repr

/-- The error in words. -/
def LoadError.message : LoadError → Text
  | unreadable => "raw config error"
  | malformed error => "raw config error: " ++ error.message

/-- The data in a file; none are in a file that is not there. -/
def loadData (files : FileTree) (path : FilePath) : Except LoadError RawConfig :=
  match files.read path with
  | .absent => .ok .empty
  | .unreadable => .error .unreadable
  | .text t => (RawConfig.read t).mapError .malformed

/-- The store with the data of a file, which becomes its file. -/
def load (store : Store) (files : FileTree) (path : FilePath) : Except LoadError Store :=
  (loadData files path).map fun data => { store with path, data }

/-- Whether there is something where the file of the store should be. -/
def hasFile (store : Store) (files : FileTree) : Bool :=
  files.holds store.path

end Store
end ScopedConfig

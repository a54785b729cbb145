import ScopedConfig.DriverGroup
import ScopedConfig.Reference.Scan
import ScopedConfig.Store.Basic

/-! Validation of the data of a store.  An issue is an entry that no keyword
governs, that has a scope which its keyword does not take, or that is in a section
named as a driver group.  A value that is no candidate of its keyword is worth a
warning and no issue. -/
namespace ScopedConfig

/-- What is wrong with an entry. -/
inductive IssueKind where
  | unknownKeyword
  | notScopable
  | driverGroupSection
  deriving DecidableEq, Repr

/-- The issue in words. -/
def IssueKind.message : IssueKind → Text
  | unknownKeyword => "unknown keyword"
  | notScopable => "keyword is not scopable"
  | driverGroupSection => "driver group section can not hold keys"

/-- An entry with something wrong. -/
structure Issue where
  key : Key
  kind : IssueKind
  deriving DecidableEq, Repr

/-- The entry and what is wrong with it, in words. -/
def Issue.text (issue : Issue) : Text := issue.key.text ++ ": " ++ issue.kind.message

/-- What is found about an entry. -/
inductive Finding where
  | issue (issue : Issue)
  | unexpected (key : Key) (value : Text)
  deriving DecidableEq, Repr

namespace Store

/-- Whether the entries of a section are not validated. -/
def isUnchecked (sectionName : Text) : Bool :=
  sectionName = metadataSection || freeSections.contains sectionName

/-- The identifier of the configuration, which needs no keyword. -/
def idKey : Key := ⟨defaultSection, "id"⟩

/-- What is found about an entry, if anything. -/
def inspect (store : Store) (key : Key) (value : Text) : Option Finding :=
  if DriverGroup.isGroup key.sectionName then some (.issue ⟨key, .driverGroupSection⟩)
  else if key = idKey then none
  else
    match store.keyword? key.withoutScope with
    | none => some (.issue ⟨key, .unknownKeyword⟩)
    | some keyword =>
      if key.scope?.isSome && !keyword.scopable then some (.issue ⟨key, .notScopable⟩)
      else if !Reference.occursIn value && !keyword.accepts value then
        some (.unexpected key value)
      else none

/-- What is found about the entries, in their order. -/
def findings (store : Store) : List Finding :=
  store.data.sections.entries.flatMap fun (name, options) =>
    if isUnchecked name then []
    else options.entries.filterMap fun (option, value) => store.inspect ⟨name, option⟩ value

/-- The issues, in the order of the entries. -/
def issues (store : Store) : List Issue :=
  store.findings.filterMap fun
    | .issue issue => some issue
    | .unexpected _ _ => none

/-- The entries whose values are no candidates, in their order. -/
def warnings (store : Store) : List (Key × Text) :=
  store.findings.filterMap fun
    | .issue _ => none
    | .unexpected key value => some (key, value)

end Store
end ScopedConfig

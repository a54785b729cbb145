import ScopedConfig.DriverGroup
import ScopedConfig.KeyOp.Basic
import ScopedConfig.RawConfig.Basic

/-! Mutations of a configuration.  A mutation of a driver group is one of all its
resources, and is done to all of them or, if one of them does not allow it, to
none.  What is counted is the sections in which something changed. -/
namespace ScopedConfig.RawConfig

/-- What keeps a mutation from being done, in words. -/
def mutationMessage (error : KeyOpError) : Text := "keyop error: " ++ error.message

/-- The new value of the option of a mutation in a section; none if nothing
changes.  Removing a token from an option that is not set changes nothing. -/
def plan (raw : RawConfig) (op : KeyOp) (sectionName : Text) : Except KeyOpError (Option Text) :=
  let current := raw.get? sectionName op.key.option
  if current = none ∧ op.operator = .remove then .ok none
  else do
    let value ← op.apply (current.getD [])
    .ok (if current = some value then none else some value)

/-- The sections that a mutation is for. -/
def targets (raw : RawConfig) (op : KeyOp) : List Text :=
  let sectionName := op.key.sectionOrDefault
  if DriverGroup.isGroup sectionName then DriverGroup.members sectionName raw.sectionNames
  else [sectionName]

/-- The sections that a mutation changes, with the new values. -/
def plans (raw : RawConfig) (op : KeyOp) : List Text → Except KeyOpError (List (Text × Text))
  | [] => .ok []
  | sectionName :: rest => do
    let planned ← raw.plan op sectionName
    let others ← raw.plans op rest
    match planned with
    | some value => .ok ((sectionName, value) :: others)
    | none => .ok others

/-- The configuration after a mutation, and the number of sections changed. -/
def apply (raw : RawConfig) (op : KeyOp) : Except KeyOpError (RawConfig × Nat) := do
  let changes ← raw.plans op (raw.targets op)
  let changed := changes.foldl (fun r (name, value) => r.set name op.key.option value) raw
  .ok (changed, changes.length)

/-- The configuration after mutations one after another up to the first one that
fails, and the number of sections changed if none does. -/
def applyAll (raw : RawConfig) (count : Nat) :
    List KeyOp → RawConfig × Except KeyOpError Nat
  | [] => (raw, .ok count)
  | op :: rest =>
    match raw.apply op with
    | .ok (changed, n) => changed.applyAll (count + n) rest
    | .error e => (raw, .error e)

/-- The configuration without keys, and the number of those that were set. -/
def unset (raw : RawConfig) : List Key → RawConfig × Nat
  | [] => (raw, 0)
  | key :: rest =>
    let found := (raw.get? key.sectionOrDefault key.option).isSome
    let (remaining, count) := (raw.erase key.sectionOrDefault key.option).unset rest
    (remaining, (if found then 1 else 0) + count)

/-- The configuration without sections, and the number of those that were
there. -/
def eraseSections (raw : RawConfig) : List Text → RawConfig × Nat
  | [] => (raw, 0)
  | name :: rest =>
    let found := raw.hasSection name
    let (remaining, count) := (raw.eraseSection name).eraseSections rest
    (remaining, (if found then 1 else 0) + count)

end ScopedConfig.RawConfig

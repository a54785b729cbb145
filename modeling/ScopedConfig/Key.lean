import ScopedConfig.Text.Basic

/-! Keys address the entries of a configuration.  A key is a section and an
option; an option may carry a scope behind the first `@`, and a section that
configures a resource has the form `group#index`. -/
namespace ScopedConfig

/-- The section of keys that name none. -/
def defaultSection : Text := "DEFAULT"

/-- What parts an option from its scope. -/
def scopeSeparator : Char := '@'

/-- What parts the driver group of a resource from its index. -/
def resourceSeparator : Char := '#'

/-- A section and an option, scope included.  With an empty section the key is
relative, and where it is used decides on the section. -/
structure Key where
  sectionName : Text
  option : Text
  deriving DecidableEq, Repr

/-- A key text whose option is empty. -/
structure EmptyOption where
  text : Text
  deriving DecidableEq, Repr

/-- The error in words. -/
def EmptyOption.message (error : EmptyOption) : Text :=
  "key '" ++ error.text ++ "' has an empty option name"

/-- The driver group of a section: what precedes the first `#`. -/
def resourceGroup (sectionName : Text) : Text :=
  match Text.cut resourceSeparator sectionName with
  | some (group, _) => group
  | none => sectionName

/-- The resource index of a section: what follows the first `#`. -/
def resourceIndex? (sectionName : Text) : Option Text :=
  (Text.cut resourceSeparator sectionName).map Prod.snd

namespace Key

/-- The key that a text names: the section ends at the first dot. -/
def read (text : Text) : Except EmptyOption Key :=
  let key :=
    match Text.cut '.' text with
    | some (sectionName, option) => ⟨sectionName, option⟩
    | none => ⟨[], text⟩
  if key.option = [] then .error ⟨text⟩ else .ok key

/-- The section, where none means the default section. -/
def sectionOrDefault (key : Key) : Text :=
  if key.sectionName = [] then defaultSection else key.sectionName

/-- Whether the key names no section. -/
def isRelative (key : Key) : Bool := key.sectionName.isEmpty

/-- The same option in another section. -/
def inSection (key : Key) (sectionName : Text) : Key := { key with sectionName }

/-- The option without its scope. -/
def baseOption (key : Key) : Text :=
  match Text.cut scopeSeparator key.option with
  | some (base, _) => base
  | none => key.option

/-- The scope of the option. -/
def scope? (key : Key) : Option Text := (Text.cut scopeSeparator key.option).map Prod.snd

/-- An option under a scope. -/
def scopedOption (option scope : Text) : Text := option ++ scopeSeparator :: scope

/-- The key under a scope, instead of the one that it has. -/
def withScope (key : Key) (scope : Text) : Key :=
  { key with option := scopedOption key.baseOption scope }

/-- The key without its scope. -/
def withoutScope (key : Key) : Key := { key with option := key.baseOption }

/-- The text of a key, which omits the default section. -/
def text (key : Key) : Text :=
  if key.sectionName = [] ∨ key.sectionName = defaultSection then key.option
  else key.sectionName ++ '.' :: key.option

end Key
end ScopedConfig

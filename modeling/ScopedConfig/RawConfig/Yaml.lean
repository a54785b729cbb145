import ScopedConfig.Yaml.Scalar
import ScopedConfig.RawConfig.Basic

/-! Configurations as YAML: a mapping of sections, each a mapping of options, both
in block style.  A name that is long or takes several lines is written as an
explicit key, and what it maps to starts on the line of the colon. -/
namespace ScopedConfig.RawConfig

/-- The longest name, in bytes, that may stand before a colon. -/
def yamlKeyLimit : Nat := 128

/-- Whether a name may stand before a colon. -/
def isSimpleYamlKey (name : Text) : Bool :=
  !Yaml.isMultiline name && Text.byteSize name ≤ yamlKeyLimit

/-- A name and the colon behind it, at an indent that is already written. -/
def yamlKey (indent : Nat) (name : Text) : Text :=
  let written := Yaml.scalar (indent + 2) name
  if isSimpleYamlKey name then written ++ [':']
  else '?' :: ' ' :: Yaml.closeLine written ++ Yaml.spaces indent ++ [':']

/-- An option and its value, at an indent that is already written. -/
def yamlOption (indent : Nat) (option value : Text) : Text :=
  yamlKey indent option ++ ' ' :: Yaml.closeLine (Yaml.scalar (indent + 2) value)

/-- A section and its options. -/
def yamlSection (name : Text) (options : Options) : Text :=
  match options.entries with
  | [] => yamlKey 0 name ++ [' ', '\x7b', '\x7d', '\n']
  | entries =>
    let start : Text := if isSimpleYamlKey name then '\n' :: Yaml.spaces 2 else [' ']
    yamlKey 0 name ++ start ++
      Text.join (Yaml.spaces 2) (entries.map fun (option, value) => yamlOption 2 option value)

/-- The YAML text of a configuration. -/
def toYaml (raw : RawConfig) : Text :=
  match raw.sections.entries with
  | [] => ['\x7b', '\x7d', '\n']
  | entries => entries.flatMap fun (name, options) => yamlSection name options

end ScopedConfig.RawConfig

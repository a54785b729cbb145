import ScopedConfig.Json.Reader
import ScopedConfig.Json.Writer
import ScopedConfig.RawConfig.Basic

/-! Configurations as JSON: an object of sections, each an object of options whose
values are strings.  Null stands for an empty value.  A name that is repeated
keeps its first place and its last content. -/
namespace ScopedConfig.RawConfig

/-- The value of an option: a string, or null for the empty text. -/
def valueOfJson? : Json → Option Text
  | .null => some []
  | json => json.text?

/-- The entries of an object, each read by `decode`. -/
def dictOfJson? (decode : Json → Option α) (json : Json) : Option (Dict Text α) := do
  let entries ← (← json.members?).mapM fun (name, value) => do some (name, ← decode value)
  some (Dict.ofList entries)

/-- The configuration of a document. -/
def ofJson? (json : Json) : Option RawConfig :=
  (dictOfJson? (dictOfJson? valueOfJson?) json).map RawConfig.mk

/-- The configuration of a JSON text. -/
def readJson? (text : Text) : Option RawConfig := (Json.read? text).bind ofJson?

/-- An object laid out over lines, members indented by two more spaces than the
object itself. -/
def jsonObject (indent : Text) : List (Text × Text) → Text
  | [] => ['\x7b', '\x7d']
  | members =>
    let inner := ' ' :: ' ' :: indent
    let written := members.map fun (name, value) => inner ++ Json.quoted name ++ ": " ++ value
    '\x7b' :: '\n' :: Text.join [',', '\n'] written ++ '\n' :: indent ++ ['\x7d']

/-- The JSON text of a configuration. -/
def toJson (raw : RawConfig) : Text :=
  jsonObject [] <| raw.sections.entries.map fun (name, options) =>
    (name, jsonObject "  " (options.entries.map fun (option, value) => (option, Json.quoted value)))

end ScopedConfig.RawConfig

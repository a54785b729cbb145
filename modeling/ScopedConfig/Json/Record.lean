import ScopedConfig.Json.Basic

/-! Records in JSON: an object with a member for each field, or an array of the
fields in order.  Members that are no field are ignored, and a field may not be
given twice.  A lenient record does without some fields: any members may be
missing from the object, and the last ones from the array. -/
namespace ScopedConfig.Json

/-- The fields that a document gives to a record. -/
abbrev Fields := List (Text × Json)

/-- The values of the named fields. -/
def fields? (lenient : Bool) (names : List Text) : Json → Option Fields
  | array items =>
    if items.length = names.length || (lenient && items.length ≤ names.length) then
      some (names.zip items)
    else none
  | json => do
    let given := (← json.members?).filter fun (name, _) => names.contains name
    if (given.map Prod.fst).Nodup then some given else none

/-- A field that has to be given. -/
def Fields.get (fields : Fields) (name : String) (decode : Json → Option α) : Option α :=
  (fields.lookup name.toList).bind decode

/-- A field that is `default` where it is missing. -/
def Fields.getD (fields : Fields) (name : String) (decode : Json → Option α) (default : α) :
    Option α :=
  match fields.lookup name.toList with
  | some value => decode value
  | none => some default

/-- The value of an alternative without content: its name, or an object with the
name and null. -/
def alternative? (ofName? : Text → Option α) : Json → Option α
  | string (some name) => ofName? name
  | object [(some name, null)] => ofName? name
  | _ => none

/-- A list of texts. -/
def texts? (json : Json) : Option (List Text) := do (← json.items?).mapM text?

/-- A value that may be null, which stands for none. -/
def nullable? (decode : Json → Option α) : Json → Option (Option α)
  | null => some none
  | json => (decode json).map some

end ScopedConfig.Json

import ScopedConfig.Json.Reader
import ScopedConfig.Json.Record
import ScopedConfig.Json.Writer
import ScopedConfig.Agent
import ScopedConfig.KeyOp.Basic
import ScopedConfig.Keyword.Basic
import ScopedConfig.Reference.Modifier

/-! The JSON forms in which the types of the library are exchanged.  Each type has
a reader of documents, which gives none where the document has another form, and
a writer of the text in which fields stand in their order. -/
namespace ScopedConfig

/-- The names of fields. -/
def fieldNames (names : List String) : List Text := names.map String.toList

namespace Key

/-- The key of a document. -/
def ofJson? (json : Json) : Option Key := do
  let fields ← json.fields? false (fieldNames ["section", "option"])
  some ⟨← fields.get "section" Json.text?, ← fields.get "option" Json.text?⟩

/-- The JSON text of a key. -/
def toJson (key : Key) : Text :=
  Json.writeObject
    [("section", Json.quoted key.sectionName), ("option", Json.quoted key.option)]

end Key

namespace Kind

/-- The kind of a document. -/
def ofJson? (json : Json) : Option Kind := json.alternative? ofName?

/-- The JSON text of a kind. -/
def toJson (kind : Kind) : Text := Json.quoted kind.name

end Kind

namespace KindSet

/-- The set of a document, which is the number that its bits make. -/
def ofJson? (json : Json) : Option KindSet :=
  (json.natUpTo? (Nat.pow 2 16 - 1)).map fun n => ⟨BitVec.ofNat 16 n⟩

/-- The JSON text of a set of kinds. -/
def toJson (kinds : KindSet) : Text := Text.ofNat kinds.bits.toNat

end KindSet

namespace Converter

/-- The converter of a document. -/
def ofJson? (json : Json) : Option Converter := json.alternative? ofName?

/-- The JSON text of a converter. -/
def toJson (converter : Converter) : Text := Json.quoted converter.name

end Converter

namespace Operator

/-- The operator of a document. -/
def ofJson? (json : Json) : Option Operator := json.alternative? ofName?

/-- The JSON text of an operator. -/
def toJson (operator : Operator) : Text := Json.quoted operator.name

end Operator

namespace Modifier

/-- The modifier of a document. -/
def ofJson? (json : Json) : Option Modifier := json.alternative? ofName?

/-- The JSON text of a modifier. -/
def toJson (modifier : Modifier) : Text := Json.quoted modifier.name

end Modifier

namespace KeyOp

/-- The mutation of a document. -/
def ofJson? (json : Json) : Option KeyOp := do
  let fields ← json.fields? false (fieldNames ["key", "op", "value", "index"])
  some
    ⟨← fields.get "key" Key.ofJson?, ← fields.get "op" Operator.ofJson?,
     ← fields.get "value" Json.text?, ← fields.get "index" (Json.natUpTo? Integer.nat64Max)⟩

/-- The JSON text of a mutation. -/
def toJson (op : KeyOp) : Text :=
  Json.writeObject
    [("key", op.key.toJson), ("op", op.operator.toJson), ("value", Json.quoted op.value),
     ("index", Text.ofNat op.index)]

end KeyOp

namespace Keyword

/-- The keyword of a document; a missing converter is none. -/
def ofJson? (json : Json) : Option Keyword := do
  let fields ← json.fields? false <| fieldNames
    ["section", "option", "scopable", "required", "default", "converter", "candidates", "kind",
     "types", "provisioning", "text"]
  some
    { sectionName := ← fields.get "section" Json.text?
      option := ← fields.get "option" Json.text?
      scopable := ← fields.get "scopable" Json.bool?
      required := ← fields.get "required" Json.bool?
      default := ← fields.get "default" Json.text?
      converter := ← fields.getD "converter" (Json.nullable? Converter.ofJson?) none
      candidates := ← fields.get "candidates" Json.texts?
      kinds := ← fields.get "kind" KindSet.ofJson?
      types := ← fields.get "types" Json.texts?
      provisioning := ← fields.get "provisioning" Json.bool?
      text := ← fields.get "text" Json.text? }

/-- The JSON text of a keyword. -/
def toJson (keyword : Keyword) : Text :=
  Json.writeObject
    [("section", Json.quoted keyword.sectionName), ("option", Json.quoted keyword.option),
     ("scopable", Json.ofBool keyword.scopable), ("required", Json.ofBool keyword.required),
     ("default", Json.quoted keyword.default),
     ("converter", Json.orNull Converter.toJson keyword.converter),
     ("candidates", Json.writeArray (keyword.candidates.map Json.quoted)),
     ("kind", keyword.kinds.toJson),
     ("types", Json.writeArray (keyword.types.map Json.quoted)),
     ("provisioning", Json.ofBool keyword.provisioning), ("text", Json.quoted keyword.text)]

end Keyword

namespace AgentPaths

/-- The directories of a document; those missing are the ones of the default
program. -/
def ofJson? (json : Json) : Option AgentPaths := do
  let fields ← json.fields? true <| fieldNames
    ["root", "bin", "var", "log", "etc", "tmp", "doc", "html", "lock"]
  let usual := ofProgram Agent.defaultProgram
  some
    { root := ← fields.getD "root" Json.text? usual.root
      bin := ← fields.getD "bin" Json.text? usual.bin
      var := ← fields.getD "var" Json.text? usual.var
      log := ← fields.getD "log" Json.text? usual.log
      etc := ← fields.getD "etc" Json.text? usual.etc
      tmp := ← fields.getD "tmp" Json.text? usual.tmp
      doc := ← fields.getD "doc" Json.text? usual.doc
      html := ← fields.getD "html" Json.text? usual.html
      lock := ← fields.getD "lock" Json.text? usual.lock }

/-- The JSON text of directories. -/
def toJson (paths : AgentPaths) : Text :=
  Json.writeObject
    [("root", Json.quoted paths.root), ("bin", Json.quoted paths.bin),
     ("var", Json.quoted paths.var), ("log", Json.quoted paths.log),
     ("etc", Json.quoted paths.etc), ("tmp", Json.quoted paths.tmp),
     ("doc", Json.quoted paths.doc), ("html", Json.quoted paths.html),
     ("lock", Json.quoted paths.lock)]

end AgentPaths

namespace Agent

/-- The agent of a document; what is missing is as in the default one. -/
def ofJson? (json : Json) : Option Agent := do
  let fields ← json.fields? true (fieldNames ["nodename", "program", "paths"])
  some
    { nodeName := ← fields.getD "nodename" Json.text? default.nodeName
      program := ← fields.getD "program" Json.text? default.program
      paths := ← fields.getD "paths" AgentPaths.ofJson? default.paths }

/-- The JSON text of an agent. -/
def toJson (agent : Agent) : Text :=
  Json.writeObject
    [("nodename", Json.quoted agent.nodeName), ("program", Json.quoted agent.program),
     ("paths", agent.paths.toJson)]

end Agent

/-- The text of a document in the form that the library writes, given how a type
is read and written. -/
def reencode? (ofJson? : Json → Option α) (toJson : α → Text) (text : Text) : Option Text :=
  ((Json.read? text).bind ofJson?).map toJson

end ScopedConfig

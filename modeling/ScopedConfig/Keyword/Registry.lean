import ScopedConfig.Key
import ScopedConfig.Keyword.Basic

/-! Registries of keywords, in the order in which they were declared.  The first
keyword that matches an option governs it. -/
namespace ScopedConfig

/-- A keyword that cannot be registered, since it names no option. -/
structure NamelessKeyword where
  sectionName : Text
  deriving DecidableEq, Repr

/-- The error in words. -/
def NamelessKeyword.message (error : NamelessKeyword) : Text :=
  "keyword in section '" ++ error.sectionName ++ "' has an empty option name"

/-- Keywords in order, all of which name an option. -/
structure Registry where
  keywords : List Keyword
  deriving DecidableEq, Repr

namespace Registry

/-- The registry without keywords. -/
def empty : Registry := ⟨[]⟩

/-- The registry with one more keyword. -/
def register (registry : Registry) (keyword : Keyword) : Except NamelessKeyword Registry :=
  if keyword.option = [] then .error ⟨keyword.sectionName⟩
  else .ok ⟨registry.keywords ++ [keyword]⟩

/-- The registry with more keywords. -/
def extend (registry : Registry) (keywords : List Keyword) : Except NamelessKeyword Registry :=
  keywords.foldlM register registry

/-- Whether a keyword is for sections of a type; without a type it always is. -/
def suitsType (keyword : Keyword) (sectionType : Text) : Bool :=
  sectionType.isEmpty || keyword.types.isEmpty || keyword.types.contains sectionType

/-- Whether a keyword is declared for a section or for its driver group. -/
def isDeclaredFor (keyword : Keyword) (sectionName : Text) : Bool :=
  keyword.sectionName = sectionName || keyword.sectionName = resourceGroup sectionName

/-- Whether a keyword matches a key, scope included, of a configuration of a kind
and a section of a type. -/
def governs (key : Key) (kind : Kind) (sectionType : Text) (keyword : Keyword) : Bool :=
  keyword.kinds.contains kind && keyword.option = key.option && suitsType keyword sectionType &&
    (keyword.sectionName.isEmpty || isDeclaredFor keyword key.sectionOrDefault)

/-- The first keyword that matches. -/
def lookup? (registry : Registry) (key : Key) (kind : Kind) (sectionType : Text) :
    Option Keyword :=
  registry.keywords.find? (governs key kind sectionType)

/-- The keywords declared for a section or for its driver group. -/
def forSection (registry : Registry) (sectionName : Text) : List Keyword :=
  registry.keywords.filter (isDeclaredFor · sectionName)

end Registry
end ScopedConfig

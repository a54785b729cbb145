import ScopedConfig.Converter
import ScopedConfig.Kind

/-! Keywords: what is known of an option of a section before it has a value. -/
namespace ScopedConfig

/-- The schema of an option.  With an empty section the keyword is for every
section; the name of a driver group is for the resources of the group.  Without
types it is for sections of every type.  Candidates are the values that are
expected; others are only warned about. -/
structure Keyword where
  sectionName : Text
  option : Text
  scopable : Bool
  required : Bool
  default : Text
  converter : Option Converter
  candidates : List Text
  kinds : KindSet
  types : List Text
  provisioning : Bool
  text : Text
  deriving DecidableEq, Repr

namespace Keyword

/-- A keyword for every kind, without more. -/
def plain (sectionName option : Text) : Keyword where
  sectionName
  option
  scopable := false
  required := false
  default := []
  converter := none
  candidates := []
  kinds := .all
  types := []
  provisioning := false
  text := []

/-- Whether a value is expected.  Where the converter reads words, each word has
to be a candidate. -/
def accepts (keyword : Keyword) (value : Text) : Bool :=
  keyword.candidates.isEmpty ||
    if keyword.converter.any Converter.readsWords then
      (Text.words value).all keyword.candidates.contains
    else keyword.candidates.contains value

end Keyword
end ScopedConfig

import ScopedConfig.Text.LetterCase

/-! Modifiers change the letter case of the text that a reference stands for. -/
namespace ScopedConfig

/-- The modifiers. -/
inductive Modifier where
  | upper
  | lower
  | capitalize
  | title
  | swapCase
  deriving DecidableEq, Repr

namespace Modifier

/-- Every modifier, in order. -/
def all : List Modifier := [upper, lower, capitalize, title, swapCase]

/-- The name of a modifier. -/
def name : Modifier → Text
  | upper => "upper"
  | lower => "lower"
  | capitalize => "capitalize"
  | title => "title"
  | swapCase => "swapcase"

/-- The modifier of a name. -/
def ofName? (name : Text) : Option Modifier := all.find? fun modifier => modifier.name = name

/-- The text that a modifier makes of a text. -/
def apply : Modifier → Text → Text
  | upper => Text.upper
  | lower => Text.lower
  | capitalize => Text.capitalize
  | title => Text.title
  | swapCase => Text.swapCase

end Modifier
end ScopedConfig

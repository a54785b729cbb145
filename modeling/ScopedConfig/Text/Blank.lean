import ScopedConfig.Text.Basic

/-! White space, and what is cut by it: the words of a text and the text without
the blanks around it.  Blank is the Unicode property `White_Space`; the
information separators below the space and the zero-width characters are not
blank. -/
namespace ScopedConfig.Text

/-- The code points with the property `White_Space`. -/
def blankRanges : List (Nat × Nat) :=
  [(0x9, 0xd), (0x20, 0x20), (0x85, 0x85), (0xa0, 0xa0), (0x1680, 0x1680), (0x2000, 0x200a),
   (0x2028, 0x2029), (0x202f, 0x202f), (0x205f, 0x205f), (0x3000, 0x3000)]

/-- Whether a code point lies in one of the ranges, ends included. -/
def inRanges (ranges : List (Nat × Nat)) (c : Char) : Bool :=
  ranges.any fun (first, last) => first ≤ c.toNat && c.toNat ≤ last

/-- White space. -/
def isBlank (c : Char) : Bool := inRanges blankRanges c

/-- The text without its leading blanks. -/
def trimStart (text : Text) : Text := text.dropWhile isBlank

/-- The text without its trailing blanks. -/
def trimEnd (text : Text) : Text := (text.reverse.dropWhile isBlank).reverse

/-- The text without the blanks around it. -/
def trim (text : Text) : Text := trimEnd (trimStart text)

/-- The maximal runs of characters that are not blank. -/
def words (text : Text) : List Text :=
  (splitWhere isBlank text).filter fun word => !word.isEmpty

/-- Whether the first character is a blank. -/
def startsBlank (text : Text) : Bool := text.head?.any isBlank

end ScopedConfig.Text

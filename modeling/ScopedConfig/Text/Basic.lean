/-! Text is a list of characters, so that every function on it is a recursion on
a list and evaluates in the kernel.  This module holds the cuts and joins that
the rest of the library is written with: at the first separator, at every
separator, at line ends, and around a fixed beginning or ending. -/
namespace ScopedConfig

/-- Text, character by character. -/
abbrev Text := List Char

instance : Coe String Text := ⟨String.toList⟩

/-- Membership of a text in a list is decided by one instance in every module. -/
instance : LawfulBEq Text := inferInstance

namespace Text

/-- The text before and after the first separator, if there is one. -/
def cut (separator : Char) : Text → Option (Text × Text)
  | [] => none
  | c :: rest =>
    if c = separator then some ([], rest)
    else (cut separator rest).map fun (before, after) => (c :: before, after)

/-- The fields between the characters that `p` holds of, empty fields included;
there is one field more than there are such characters. -/
def splitWhere (p : Char → Bool) : Text → List Text
  | [] => [[]]
  | c :: rest =>
    if p c then [] :: splitWhere p rest
    else
      match splitWhere p rest with
      | [] => [[c]]
      | field :: fields => (c :: field) :: fields

/-- The fields between the occurrences of a separator. -/
def splitOn (separator : Char) (text : Text) : List Text :=
  splitWhere (· == separator) text

/-- The parts with a separator between each two. -/
def join (separator : Text) : List Text → Text
  | [] => []
  | [part] => part
  | part :: parts => part ++ separator ++ join separator parts

/-- What follows `start`, if the text starts with it. -/
def after? : (start text : Text) → Option Text
  | [], text => some text
  | _ :: _, [] => none
  | s :: start, c :: text => if s = c then after? start text else none

/-- What precedes the character `ending`, if the text ends with it. -/
def before? (ending : Char) (text : Text) : Option Text :=
  if text.getLast? = some ending then some text.dropLast else none

/-- A line without the carriage return that ends it. -/
def dropReturn (line : Text) : Text :=
  (before? '\r' line).getD line

/-- The lines of a text.  A line feed ends a line and takes one carriage return
before it along; text after the last line feed is a line of its own, and keeps
its carriage return. -/
def lines (text : Text) : List Text :=
  let fields := splitOn '\n' text
  let last := fields.getLast?.getD []
  fields.dropLast.map dropReturn ++ if last = [] then [] else [last]

/-- The decimal digits of a number. -/
def ofNat (n : Nat) : Text := Nat.toDigits 10 n

/-- The number of bytes of the text in UTF-8. -/
def byteSize : Text → Nat
  | [] => 0
  | c :: rest => c.utf8Size + byteSize rest

theorem byteSize_append (a b : Text) : byteSize (a ++ b) = byteSize a + byteSize b := by
  induction a with
  | nil => simp [byteSize]
  | cons c a ih =>
    rw [List.cons_append, byteSize, byteSize, ih]
    omega

/-- The size of a text is that of the string that it spells. -/
theorem byteSize_eq (text : Text) : byteSize text = (String.ofList text).utf8ByteSize := by
  induction text with
  | nil => rfl
  | cons c rest ih =>
    rw [byteSize, ih, String.ofList_cons, String.utf8ByteSize_append, String.utf8ByteSize_singleton]

/-- Whether a text is the same as another one or goes before it in a dictionary,
where characters are ordered by code point. -/
def isUpTo : Text → Text → Bool
  | [], _ => true
  | _ :: _, [] => false
  | a :: as, b :: bs => a.toNat < b.toNat || (a = b && isUpTo as bs)

/-- The characters from `first` to `last`, by code point. -/
def inRange (first last : Char) (c : Char) : Bool := first ≤ c && c ≤ last

/-- One of the digits `0` to `9`. -/
def isDigit (c : Char) : Bool := inRange '0' '9' c

/-- The value of a digit, or of a letter of a larger base, below `base`. -/
def digitBelow? (base : Nat) (c : Char) : Option Nat :=
  let value? :=
    if isDigit c then some (c.toNat - '0'.toNat)
    else if inRange 'a' 'z' c then some (c.toNat - 'a'.toNat + 10)
    else if inRange 'A' 'Z' c then some (c.toNat - 'A'.toNat + 10)
    else none
  value?.filter (· < base)

/-- Whether the character occurs in the text. -/
def contains (c : Char) (text : Text) : Bool := text.any (· == c)

end Text
end ScopedConfig

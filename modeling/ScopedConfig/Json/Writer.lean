import ScopedConfig.Text.Basic

/-! JSON text put together from the texts of its parts, without white space.
Quotes, backslashes and the control characters below the space are escaped, the
latter by a letter where there is one; all other characters stand for themselves. -/
namespace ScopedConfig.Json

/-- A hexadecimal digit. -/
def hexDigit (n : Nat) : Char := (Nat.toDigits 16 n).getLastD '0'

/-- A character of a string, escaped if it has to be. -/
def escape (c : Char) : Text :=
  match c with
  | '"' => ['\\', '"']
  | '\\' => ['\\', '\\']
  | '\x08' => ['\\', 'b']
  | '\t' => ['\\', 't']
  | '\n' => ['\\', 'n']
  | '\x0c' => ['\\', 'f']
  | '\r' => ['\\', 'r']
  | c =>
    if c.toNat < 0x20 then ['\\', 'u', '0', '0', hexDigit (c.toNat / 16), hexDigit (c.toNat % 16)]
    else [c]

/-- A string. -/
def quoted (text : Text) : Text := '"' :: text.flatMap escape ++ ['"']

/-- A truth value. -/
def ofBool (b : Bool) : Text := if b then "true" else "false"

/-- A value or null. -/
def orNull (write : α → Text) : Option α → Text
  | some a => write a
  | none => "null"

/-- An array of written items. -/
def writeArray (items : List Text) : Text := '[' :: Text.join [','] items ++ [']']

/-- An object of written members. -/
def writeObject (members : List (Text × Text)) : Text :=
  let written := members.map fun (name, value) => quoted name ++ ':' :: value
  '\x7b' :: Text.join [','] written ++ ['\x7d']

end ScopedConfig.Json

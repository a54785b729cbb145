import ScopedConfig.Text.Blank

/-! Values as lists of tokens: the words between blanks, without quoting.  A
value that an operation need not change is returned as it is, with whatever
blanks it has; a value that is put together anew has one space between tokens. -/
namespace ScopedConfig.TokenList

/-- The tokens of a value. -/
def tokens (text : Text) : List Text := Text.words text

/-- The value of a list of tokens. -/
def ofTokens (tokens : List Text) : Text := Text.join [' '] tokens

/-- Whether a token is in the value. -/
def hasToken (current token : Text) : Bool := (tokens current).contains token

/-- The value with more text behind it. -/
def append (current addition : Text) : Text :=
  if current = [] then addition else current ++ ' ' :: addition

/-- The value with a token that it has or that is appended. -/
def merge (current token : Text) : Text :=
  if hasToken current token then current else append current token

/-- The value without a token. -/
def remove (current token : Text) : Text :=
  if hasToken current token then ofTokens ((tokens current).filter (· ≠ token)) else current

/-- The value without a token that it has, or with one that it lacks. -/
def toggle (current token : Text) : Text :=
  if hasToken current token then remove current token else merge current token

/-- The value with a token before the one at `index`, or behind the last one if
`index` is the number of tokens; none beyond that. -/
def insert? (current : Text) (index : Nat) (token : Text) : Option Text :=
  if index ≤ (tokens current).length then some (ofTokens ((tokens current).insertIdx index token))
  else none

end ScopedConfig.TokenList

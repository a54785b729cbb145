import ScopedConfig.Text.VisibilityTable

/-! Text in quotes, for a reader who has to see every character of it.  What
would end the quotes, show nothing, or show on the character before it is
written as an escape: a letter for the common controls, else the code point. -/
namespace ScopedConfig.Text

/-- The Hangul fillers, letters that show nothing. -/
def isFiller (c : Char) : Bool := [0x115f, 0x1160, 0x3164, 0xffa0].contains c.toNat

/-- The halfwidth voiced sound marks, which stand beside the character that they
extend. -/
def isSoundMark (c : Char) : Bool := c.toNat = 0xff9e || c.toNat = 0xff9f

/-- Whether a character can be told from its looks, wherever it stands. -/
def isVisible (c : Char) : Bool :=
  !(inRanges hiddenRanges c || isFiller c || (inRanges extendRanges c && !isSoundMark c))

/-- The letter that stands for a character behind a backslash. -/
def escapeLetter? : Char → Option Char
  | '\t' => some 't'
  | '\n' => some 'n'
  | '\r' => some 'r'
  | '\x00' => some '0'
  | '"' => some '"'
  | '\\' => some '\\'
  | _ => none

/-- A character as it stands between the quotes. -/
def shown (c : Char) : Text :=
  match escapeLetter? c with
  | some letter => ['\\', letter]
  | none =>
    if isVisible c then [c] else ['\\', 'u', '\x7b'] ++ Nat.toDigits 16 c.toNat ++ ['\x7d']

/-- The text in quotes. -/
def quoted (text : Text) : Text := '"' :: text.flatMap shown ++ ['"']

end ScopedConfig.Text

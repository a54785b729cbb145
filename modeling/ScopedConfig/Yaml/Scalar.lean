import ScopedConfig.Yaml.Resolution

/-! Scalars of a YAML document in block style.  Text of several lines is written
as a literal block; text that would be taken for something else, or for part of
the document's structure, is put in single quotes; and what neither form can hold
is put in double quotes with escapes. -/
namespace ScopedConfig.Yaml

/-- The separator of lines that is a character of its own. -/
def lineSeparator : Char := Char.ofNat 0x2028
/-- The separator of paragraphs. -/
def paragraphSeparator : Char := Char.ofNat 0x2029
/-- The next-line control. -/
def nextLine : Char := Char.ofNat 0x85

/-- A line break. -/
def isBreak (c : Char) : Bool :=
  c = '\n' || c = '\r' || c = nextLine || c = lineSeparator || c = paragraphSeparator

/-- A blank, a break or the null character, all of which end a word. -/
def isBlankOrBreak (c : Char) : Bool := c = ' ' || c = '\t' || isBreak c || c.toNat = 0

/-- A character that may stand in a document unescaped. -/
def isPrintable (c : Char) : Bool :=
  let n := c.toNat
  n = 0xa || (0x20 ≤ n && n ≤ 0x7e) ||
    (0xa0 ≤ n && n ≠ 0xfeff && n ≠ 0xfffe && n ≠ 0xffff)

/-- Whether a character of one class is followed by one of another. -/
def hasPair (p q : Char → Bool) : Text → Bool
  | a :: b :: rest => (p a && q b) || hasPair p q (b :: rest)
  | _ => false

/-- Whether the text starts with what marks the structure of a document. -/
def startsWithIndicator (text : Text) : Bool :=
  match text with
  | [] => false
  | c :: rest =>
    let wordEnds := rest.head?.all isBlankOrBreak
    (Text.after? "---" text).isSome || (Text.after? "..." text).isSome ||
      Text.contains c "#,[]\x7b\x7d&*!|>'\"%@\x60" ||
      ((c = '?' || c = '-') && wordEnds)

/-- Whether the text holds what marks the structure of a document: a colon at the
end of a word, or a number sign at the start of one. -/
def hasIndicator (text : Text) : Bool :=
  startsWithIndicator text || text.getLast? = some ':' ||
    hasPair (· = ':') isBlankOrBreak text || hasPair isBlankOrBreak (· = '#') text

/-- Whether a blank is at one of the ends of the text. -/
def hasOuterSpace (text : Text) : Bool :=
  text.head? = some ' ' || text.getLast? = some ' '

/-- Whether the text has to be written with escapes. -/
def needsEscapes (text : Text) : Bool :=
  text.any (fun c => !isPrintable c) || hasPair (· = ' ') isBreak text

/-- Whether the text takes more than one line. -/
def isMultiline (text : Text) : Bool := text.any isBreak

/-- The forms of a scalar. -/
inductive Style where
  | plain
  | singleQuoted
  | doubleQuoted
  | literal
  deriving DecidableEq, Repr

/-- The form that a text is written in. -/
def styleOf (text : Text) : Style :=
  if Text.contains '\n' text then
    if needsEscapes text || text.getLast? = some ' ' then .doubleQuoted else .literal
  else if needsEscapes text || hasPair isBreak (· = ' ') text then .doubleQuoted
  else if isAmbiguous text || hasOuterSpace text || isMultiline text || hasIndicator text then
    .singleQuoted
  else .plain

/-- A run of spaces. -/
def spaces (n : Nat) : Text := List.replicate n ' '

/-- The text with every line that is not empty indented; `atStart` says whether a
line starts here. -/
def indentLines (indent : Nat) (atStart : Bool) : Text → Text
  | [] => []
  | c :: rest =>
    if isBreak c then c :: indentLines indent true rest
    else (if atStart then spaces indent else []) ++ c :: indentLines indent false rest

/-- What a literal block says about its last line breaks: none is to be added, one
is there, or all are kept. -/
def chomping (text : Text) : Text :=
  match text.reverse with
  | [] => ['-']
  | last :: before =>
    if !isBreak last then ['-']
    else if before.head?.all isBreak then ['+']
    else []

/-- A literal block.  Its indent is given if the text does not show it. -/
def literalBlock (indent : Nat) (text : Text) : Text :=
  let hint : Text := if text.head?.any (fun c => c = ' ' || isBreak c) then ['2'] else []
  '|' :: hint ++ chomping text ++ '\n' :: indentLines indent true text

/-- A text in single quotes, where a quote is written twice. -/
def singleQuotedText (indent : Nat) (text : Text) : Text :=
  let doubled := text.flatMap fun c => if c = '\x27' then ['\x27', '\x27'] else [c]
  '\x27' :: indentLines indent false (doubled ++ ['\x27'])

/-- The letter that escapes a character. -/
def escapeLetter? (c : Char) : Option Char :=
  match c.toNat with
  | 0x0 => some '0'
  | 0x7 => some 'a'
  | 0x8 => some 'b'
  | 0x9 => some 't'
  | 0xa => some 'n'
  | 0xb => some 'v'
  | 0xc => some 'f'
  | 0xd => some 'r'
  | 0x1b => some 'e'
  | 0x22 => some '"'
  | 0x5c => some '\\'
  | 0x85 => some 'N'
  | 0xa0 => some '_'
  | 0x2028 => some 'L'
  | 0x2029 => some 'P'
  | _ => none

/-- A number in hexadecimal digits, at least so many. -/
def hexadecimal (width n : Nat) : Text :=
  let digits := (Nat.toDigits 16 n).map Char.toUpper
  List.replicate (width - digits.length) '0' ++ digits

/-- The escape of a character. -/
def escapeOf (c : Char) : Text :=
  match escapeLetter? c with
  | some letter => ['\\', letter]
  | none =>
    let n := c.toNat
    if n ≤ 0xff then '\\' :: 'x' :: hexadecimal 2 n
    else if n ≤ 0xffff then '\\' :: 'u' :: hexadecimal 4 n
    else '\\' :: 'U' :: hexadecimal 8 n

/-- A text in double quotes. -/
def doubleQuotedText (text : Text) : Text :=
  let escaped := text.flatMap fun c =>
    if !isPrintable c || isBreak c || c = '"' || c = '\\' then escapeOf c else [c]
  '"' :: escaped ++ ['"']

/-- A scalar, with its lines after the first indented. -/
def scalar (indent : Nat) (text : Text) : Text :=
  match styleOf text with
  | .plain => text
  | .singleQuoted => singleQuotedText indent text
  | .doubleQuoted => doubleQuotedText text
  | .literal => literalBlock indent text

/-- A text with a line feed behind it unless it ends with a break. -/
def closeLine (text : Text) : Text :=
  if text.getLast?.any isBreak then text else text ++ ['\n']

end ScopedConfig.Yaml

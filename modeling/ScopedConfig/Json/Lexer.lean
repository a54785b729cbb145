import ScopedConfig.Json.Basic

/-! The tokens of a JSON text.  The reader is one pass over the characters: it is
between tokens, in a word (a number or a name), or in a string, where an escape
may be under way.  Words end where anything else begins. -/
namespace ScopedConfig.Json

/-- The smallest parts of a JSON text.  A scalar is a number, a truth value or
null. -/
inductive Token where
  | openArray
  | closeArray
  | openObject
  | closeObject
  | comma
  | colon
  | scalar (value : Json)
  | string (content : Option Text)

/-- What one character or escape adds to a string: a character, or half of a
surrogate pair. -/
inductive Unit16 where
  | char (c : Char)
  | half (n : Nat)

/-- The text of a string; none if a half has no partner behind it. -/
def joinUnits : List Unit16 → Option Text
  | [] => some []
  | .char c :: rest => (joinUnits rest).map (c :: ·)
  | .half high :: .half low :: rest =>
    if high < 0xdc00 && 0xdc00 ≤ low then
      let point := 0x10000 + (high - 0xd800) * 0x400 + (low - 0xdc00)
      (joinUnits rest).map (Char.ofNat point :: ·)
    else none
  | .half _ :: _ => none

/-- What a code unit in an escape adds to a string. -/
def Unit16.ofNat (n : Nat) : Unit16 :=
  if 0xd800 ≤ n && n ≤ 0xdfff then .half n else .char (Char.ofNat n)

/-- The character that an escape of one letter stands for. -/
def escaped? : Char → Option Char
  | '"' => some '"'
  | '\\' => some '\\'
  | '/' => some '/'
  | 'b' => some '\x08'
  | 'f' => some '\x0c'
  | 'n' => some '\n'
  | 'r' => some '\r'
  | 't' => some '\t'
  | _ => none

/-- White space between tokens. -/
def isGap (c : Char) : Bool := c = ' ' || c = '\n' || c = '\t' || c = '\r'

/-- The tokens of one character. -/
def punctuation? : Char → Option Token
  | '[' => some .openArray
  | ']' => some .closeArray
  | '\x7b' => some .openObject
  | '\x7d' => some .closeObject
  | ',' => some .comma
  | ':' => some .colon
  | _ => none

/-- Digits at the start of a text, of which there has to be one, and the rest. -/
def takeDigits (text : Text) : Option (Text × Text) :=
  match text.takeWhile Text.isDigit with
  | [] => none
  | digits => some (digits, text.dropWhile Text.isDigit)

/-- What follows the fraction of a number; all if it has none. -/
def afterFraction : Text → Option Text
  | '.' :: rest => (takeDigits rest).map Prod.snd
  | rest => some rest

/-- What follows a sign; all if there is none. -/
def afterSign : Text → Text
  | [] => []
  | c :: rest => if c = '+' || c = '-' then rest else c :: rest

/-- What follows the exponent of a number; all if it has none. -/
def afterExponent : Text → Option Text
  | [] => some []
  | c :: rest =>
    if c = 'e' || c = 'E' then (takeDigits (afterSign rest)).map Prod.snd else some (c :: rest)

/-- The number that a word stands for. -/
def readNumber (word : Text) : Option Json := do
  let (negative, magnitude) :=
    match word with
    | '-' :: rest => (true, rest)
    | _ => (false, word)
  let (digits, rest) ← takeDigits magnitude
  if digits.head? = some '0' ∧ 1 < digits.length then none
  else
    let behind ← afterFraction rest
    match ← afterExponent behind with
    | [] =>
      let value := digits.foldl (fun n c => n * 10 + (c.toNat - '0'.toNat)) 0
      some (.number (if negative || rest ≠ [] then none else some value))
    | _ => none

/-- What a word stands for. -/
def readWord (word : Text) : Option Json :=
  if word = "null".toList then some .null
  else if word = "true".toList then some (.bool true)
  else if word = "false".toList then some (.bool false)
  else readNumber word

/-- What the next character belongs to.  Words and strings are kept backwards; an
escape by number knows how many digits are missing and the value of the others. -/
inductive LexMode where
  | between
  | word (letters : Text)
  | string (units : List Unit16)
  | escape (units : List Unit16)
  | hex (units : List Unit16) (missing : Nat) (value : Nat)

/-- The tokens read so far, last first, and what comes next. -/
structure Lexer where
  tokens : List Token
  mode : LexMode

namespace Lexer

/-- Nothing read. -/
def start : Lexer := ⟨[], .between⟩

/-- Takes a character between tokens. -/
def stepBetween (tokens : List Token) (c : Char) : Lexer :=
  if isGap c then ⟨tokens, .between⟩
  else if c = '"' then ⟨tokens, .string []⟩
  else
    match punctuation? c with
    | some token => ⟨token :: tokens, .between⟩
    | none => ⟨tokens, .word [c]⟩

/-- Whether a character cannot be part of a word. -/
def endsWord (c : Char) : Bool := isGap c || c = '"' || (punctuation? c).isSome

/-- Takes one character; none if it cannot stand there. -/
def step (lexer : Lexer) (c : Char) : Option Lexer :=
  match lexer.mode with
  | .between => some (stepBetween lexer.tokens c)
  | .word letters =>
    if endsWord c then
      (readWord letters.reverse).map fun value => stepBetween (.scalar value :: lexer.tokens) c
    else some ⟨lexer.tokens, .word (c :: letters)⟩
  | .string units =>
    if c = '"' then some ⟨.string (joinUnits units.reverse) :: lexer.tokens, .between⟩
    else if c = '\\' then some ⟨lexer.tokens, .escape units⟩
    else if c.toNat < 0x20 then none
    else some ⟨lexer.tokens, .string (.char c :: units)⟩
  | .escape units =>
    if c = 'u' then some ⟨lexer.tokens, .hex units 3 0⟩
    else (escaped? c).map fun e => ⟨lexer.tokens, .string (.char e :: units)⟩
  | .hex units missing value =>
    (Text.digitBelow? 16 c).map fun digit =>
      let next := value * 16 + digit
      match missing with
      | 0 => ⟨lexer.tokens, .string (.ofNat next :: units)⟩
      | m + 1 => ⟨lexer.tokens, .hex units m next⟩

/-- The tokens at the end of the text. -/
def finish (lexer : Lexer) : Option (List Token) :=
  match lexer.mode with
  | .between => some lexer.tokens.reverse
  | .word letters =>
    (readWord letters.reverse).map fun value => (.scalar value :: lexer.tokens).reverse
  | _ => none

end Lexer

/-- The tokens of a text. -/
def tokens? (text : Text) : Option (List Token) := do (← text.foldlM Lexer.step .start).finish

end ScopedConfig.Json

import ScopedConfig.Text.Basic

/-! Words in the quoting of a shell.  Spaces, tabs and line feeds part words; a
number sign at the start of a word makes the rest of the line a comment; a
backslash quotes one character; single quotes quote all, and double quotes all
but a backslash before one of four characters and before a line feed.  The
reader is one pass over the characters, with the word being read in its state. -/
namespace ScopedConfig.Text

/-- What the next character belongs to.  A word being read is kept backwards. -/
inductive ShellMode where
  | between
  | comment
  | bare (word : Text)
  | escaped (word : Text)
  | single (word : Text)
  | double (word : Text)
  | doubleEscaped (word : Text)

/-- The words read so far, last first, and what comes next. -/
structure ShellReader where
  words : List Text
  mode : ShellMode

namespace ShellReader

/-- Nothing read. -/
def start : ShellReader := ⟨[], .between⟩

/-- A character that parts words. -/
def isGap (c : Char) : Bool := c = ' ' || c = '\t' || c = '\n'

/-- A character that a backslash quotes inside double quotes. -/
def isDoubleQuotable (c : Char) : Bool :=
  c = '$' || c = '\x60' || c = '"' || c = '\\'

/-- A character of a word outside quotes. -/
def bareStep (words : List Text) (word : Text) (c : Char) : ShellReader :=
  if isGap c then ⟨word.reverse :: words, .between⟩
  else if c = '"' then ⟨words, .double word⟩
  else if c = '\x27' then ⟨words, .single word⟩
  else if c = '\\' then ⟨words, .escaped word⟩
  else ⟨words, .bare (c :: word)⟩

/-- Takes one character. -/
def step (reader : ShellReader) (c : Char) : ShellReader :=
  let words := reader.words
  match reader.mode with
  | .between =>
    if isGap c then reader
    else if c = '#' then ⟨words, .comment⟩
    else bareStep words [] c
  | .comment => if c = '\n' then ⟨words, .between⟩ else reader
  | .bare word => bareStep words word c
  | .escaped word => ⟨words, .bare (if c = '\n' then word else c :: word)⟩
  | .single word => if c = '\x27' then ⟨words, .bare word⟩ else ⟨words, .single (c :: word)⟩
  | .double word =>
    if c = '"' then ⟨words, .bare word⟩
    else if c = '\\' then ⟨words, .doubleEscaped word⟩
    else ⟨words, .double (c :: word)⟩
  | .doubleEscaped word =>
    if isDoubleQuotable c then ⟨words, .double (c :: word)⟩
    else if c = '\n' then ⟨words, .double word⟩
    else ⟨words, .double (c :: '\\' :: word)⟩

/-- The words at the end of the text; none if a quote is open or a backslash
quotes nothing. -/
def finish (reader : ShellReader) : Option (List Text) :=
  match reader.mode with
  | .between | .comment => some reader.words.reverse
  | .bare word => some (word.reverse :: reader.words).reverse
  | .escaped _ | .single _ | .double _ | .doubleEscaped _ => none

end ShellReader

/-- The words of a text in shell quoting, none if its quotes do not balance. -/
def shellWords (text : Text) : Option (List Text) :=
  (text.foldl ShellReader.step .start).finish

end ScopedConfig.Text

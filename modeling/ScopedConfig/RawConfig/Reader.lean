import ScopedConfig.Text.Blank
import ScopedConfig.Key
import ScopedConfig.RawConfig.Basic

/-! The text format of configurations, read line by line.  A line in brackets
starts a section, `option = value` sets an option of it, and lines before the
first header belong to the default section.  A line that starts with a blank
continues the value above it; a line that is empty ends the value, and a comment
line does not.  When all is read, a value that starts with a quote loses the
quotes around it. -/
namespace ScopedConfig.RawConfig

/-- What is wrong with a line. -/
inductive LineFault where
  | malformedHeader
  | noAssignment
  | emptyOption
  deriving DecidableEq, Repr

/-- The fault in words. -/
def LineFault.message : LineFault → Text
  | malformedHeader => "malformed section header"
  | noAssignment => "expected 'key = value'"
  | emptyOption => "empty option name"

/-- A faulty line; lines count from one. -/
structure SyntaxError where
  line : Nat
  fault : LineFault
  deriving DecidableEq, Repr

/-- The error in words. -/
def SyntaxError.message (error : SyntaxError) : Text :=
  "syntax error at line " ++ Text.ofNat error.line ++ ": " ++ error.fault.message

/-- The quote around values with blanks at their ends. -/
def quote : Char := '"'

/-- The indent of the lines that continue a value. -/
def continuationIndent : Text := "    "

/-- What a line says that does not continue a value. -/
inductive Line where
  | blank
  | comment
  | header (name : Text)
  | assignment (option value : Text)
  deriving DecidableEq, Repr

/-- The name in a header, given what follows the opening bracket. -/
def readHeader (inner : Text) : Except LineFault Line :=
  match (Text.before? ']' inner).map Text.trim with
  | none | some [] => .error .malformedHeader
  | some name => .ok (.header name)

/-- The first line of a value: without the blanks around it, save those behind a
value that starts with a quote. -/
def readValue (text : Text) : Text :=
  let value := Text.trimStart text
  if value.head? = some quote then value else Text.trimEnd value

/-- The option and the value of a line, which the first equals sign parts. -/
def readAssignment (line : Text) : Except LineFault Line :=
  match Text.cut '=' line with
  | none => .error .noAssignment
  | some (before, after) =>
    let option := Text.trim before
    if option = [] then .error .emptyOption else .ok (.assignment option (readValue after))

/-- What a line says. -/
def Line.read (line : Text) : Except LineFault Line :=
  match Text.trim line with
  | [] => .ok .blank
  | c :: inner =>
    if c = '#' || c = ';' then .ok .comment
    else if c = '[' then readHeader inner
    else readAssignment line

/-- What a continuing line adds to the value: all behind the usual indent, or all
behind its blanks if it is indented otherwise. -/
def continuation (line : Text) : Text :=
  (Text.after? continuationIndent line).getD (Text.trimStart line)

/-- The configuration read so far, the section that lines belong to, and the
option whose value may go on. -/
structure LineReader where
  raw : RawConfig
  sectionName : Text
  openOption : Option Text

namespace LineReader

/-- Nothing read. -/
def initial : LineReader := ⟨.empty, defaultSection, none⟩

/-- Takes what a line says that does not continue a value. -/
def take (reader : LineReader) : Line → LineReader
  | .blank => { reader with openOption := none }
  | .comment => reader
  | .header name => ⟨reader.raw.ensureSection name, name, none⟩
  | .assignment option value =>
    { reader with raw := reader.raw.set reader.sectionName option value, openOption := some option }

/-- Takes one line. -/
def step (reader : LineReader) (line : Text) : Except LineFault LineReader :=
  match reader.openOption, Text.startsBlank line with
  | some option, true =>
    let added := continuation line
    let raw := reader.raw.modify reader.sectionName option fun value => value ++ '\n' :: added
    .ok { reader with raw }
  | _, _ => (Line.read line).map reader.take

/-- Takes lines, the first of which has the number given. -/
def steps (reader : LineReader) (number : Nat) : List Text → Except SyntaxError LineReader
  | [] => .ok reader
  | line :: rest =>
    match reader.step line with
    | .ok next => steps next (number + 1) rest
    | .error fault => .error ⟨number, fault⟩

end LineReader

/-- A value without the quotes around it.  Of a value that only starts with a
quote, the blanks behind it are dropped. -/
def unquote (value : Text) : Text :=
  match value with
  | c :: _ =>
    if c = quote then
      let trimmed := Text.trimEnd value
      (Text.before? quote trimmed.tail).getD trimmed
    else value
  | [] => []

/-- The configuration that lines stand for. -/
def readLines (lines : List Text) : Except SyntaxError RawConfig :=
  (LineReader.initial.steps 1 lines).map fun reader => reader.raw.mapValues unquote

/-- The configuration that a text stands for. -/
def read (text : Text) : Except SyntaxError RawConfig := readLines (Text.lines text)

end ScopedConfig.RawConfig

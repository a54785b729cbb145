import ScopedConfig.RawConfig.Reader

/-! Configurations written in the text format.  The default section comes first,
and an empty line parts the sections.  A value of several lines goes on in
indented lines; a value is quoted where reading it would otherwise drop blanks
or quotes. -/
namespace ScopedConfig.RawConfig

/-- Whether a value does not read back without quotes: it starts with a quote, or
a blank is at one of its ends or ends its first line. -/
def needsQuotes (value : Text) : Bool :=
  let first := value.takeWhile (· ≠ '\n')
  value.head? = some quote || value ≠ Text.trim value || first ≠ Text.trimEnd first

/-- A value in quotes if it needs them. -/
def quoteIfNeeded (value : Text) : Text :=
  if needsQuotes value then quote :: value ++ [quote] else value

/-- The first line of an option. -/
def firstLine (option value : Text) : Text :=
  if value = [] then option ++ " =" else option ++ " = " ++ value

/-- The lines of an option. -/
def optionLines (option value : Text) : List Text :=
  match Text.splitOn '\n' (quoteIfNeeded value) with
  | [] => []
  | first :: others => firstLine option first :: others.map (continuationIndent ++ ·)

/-- The lines of a section. -/
def sectionLines (name : Text) (options : Options) : List Text :=
  ('[' :: name ++ [']']) :: options.entries.flatMap fun (option, value) => optionLines option value

/-- The sections with the default section first. -/
def defaultFirst (raw : RawConfig) : List (Text × Options) :=
  let (first, others) := raw.sections.entries.partition fun (name, _) => name = defaultSection
  first ++ others

/-- Blocks of lines with an empty line between each two. -/
def separated : List (List Text) → List Text
  | [] => []
  | [block] => block
  | block :: blocks => block ++ [] :: separated blocks

/-- The lines of a configuration. -/
def toLines (raw : RawConfig) : List Text :=
  separated (raw.defaultFirst.map fun (name, options) => sectionLines name options)

/-- The text of a configuration. -/
def render (raw : RawConfig) : Text := raw.toLines.flatMap (· ++ ['\n'])

end ScopedConfig.RawConfig

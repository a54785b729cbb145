import ScopedConfig.Text.Basic

/-! Paths of files, parts separated by slashes.  Two paths are alike if they have
the same parts, where empty parts count for nothing, nor does `.` but at the start
of a path, and a leading slash makes a path absolute.  Where a path leads is another
question, since `..` and a slash at the end need a directory to be there: that is for
a tree of files to say, which follows the steps of the path. -/
namespace ScopedConfig

/-- The path of a file. -/
abbrev FilePath := Text

namespace FilePath

/-- Whether a path starts at the root. -/
def isAbsolute (path : FilePath) : Bool := path.head? = some '/'

/-- The path to `child` seen from `path`.  An absolute child stands alone; an
empty one leaves a slash at the end. -/
def join (path child : FilePath) : FilePath :=
  if isAbsolute child then child
  else if path = [] || path.getLast? = some '/' then path ++ child
  else path ++ '/' :: child

/-- The part that stays in a directory. -/
def currentPart : Text := "."

/-- The part that leads to the directory above. -/
def parentPart : Text := ".."

/-- The parts of a path as they are written, empty ones left out. -/
def writtenParts (path : FilePath) : List Text :=
  (Text.splitOn '/' path).filter fun part => part ≠ []

/-- The parts of a path that count. -/
def parts (path : FilePath) : List Text := (writtenParts path).filter fun part => part ≠ currentPart

/-- Whether a path is relative and says so by its first part. -/
def startsInCurrent (path : FilePath) : Bool :=
  (Text.splitOn '/' path).head? = some currentPart

/-- What makes two paths alike: whether they are absolute, and the parts that count, to
which `.` belongs as the first one of a relative path. -/
def location (path : FilePath) : Bool × List Text :=
  (isAbsolute path, if startsInCurrent path then currentPart :: parts path else parts path)

/-- The parts of the directory that a path is in. -/
def parentParts (path : FilePath) : List Text := (parts path).dropLast

/-- The name of the file that a path is for; empty if there is none. -/
def fileName (path : FilePath) : Text :=
  match (parts path).getLast? with
  | some part => if part = parentPart then [] else part
  | none => []

/-- Whether the last part that is written stays in its directory. -/
def endsInCurrent (path : FilePath) : Bool := (writtenParts path).getLast? = some currentPart

/-- The steps in which a path is followed.  A slash at the end is a step that
stays where it is, which is possible only in a directory. -/
def steps (path : FilePath) : List Text :=
  if path.getLast? = some '/' then writtenParts path ++ [currentPart] else writtenParts path

/-- Whether the last step of a path is the name of a file. -/
def endsInName (path : FilePath) : Bool :=
  match (steps path).getLast? with
  | some step => step ≠ currentPart && step ≠ parentPart
  | none => false

/-- Whether a text holds the null character, which no path may. -/
def hasNull (text : Text) : Bool := Text.contains '\x00' text

end FilePath
end ScopedConfig

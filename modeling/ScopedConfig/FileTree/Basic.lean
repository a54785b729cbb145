import ScopedConfig.Dict
import ScopedConfig.FilePath

/-! A tree of files and directories.  A file holds text, or bytes that are no
text.  The tree is a dictionary of locations below its root, which is always a
directory.  A path leads to a location step by step: each step but the last has
to end in a directory, and no step is taken out of a file. -/
namespace ScopedConfig

/-- What a file holds: text, or bytes that are not the UTF-8 form of any text. -/
inductive Content where
  | text (t : Text)
  | binary (bytes : List UInt8)
  deriving DecidableEq

/-- What bytes are the content of. -/
def Content.ofBytes (bytes : List UInt8) : Content :=
  match String.fromUTF8? bytes.toByteArray with
  | some s => .text s.toList
  | none => .binary bytes

/-- The text of a content. -/
def Content.text? : Content → Option Text
  | text t => some t
  | binary _ => none

/-- A place in a tree. -/
inductive FileNode where
  | directory
  | file (content : Content)
  deriving DecidableEq

/-- The names on the way from the root of a tree. -/
abbrev Location := List Text

/-- A tree of files. -/
structure FileTree where
  nodes : Dict Location FileNode

namespace FileTree

/-- The tree of a root alone. -/
def empty : FileTree := ⟨.empty⟩

/-- What is at a location. -/
def node? (tree : FileTree) (location : Location) : Option FileNode :=
  if location = [] then some .directory else tree.nodes.get? location

/-- The content of the file at a location. -/
def file? (tree : FileTree) (location : Location) : Option Content :=
  match tree.node? location with
  | some (.file content) => some content
  | _ => none

/-- The tree with a node at a location. -/
def put (tree : FileTree) (location : Location) (node : FileNode) : FileTree :=
  ⟨tree.nodes.insert location node⟩

/-- The tree without what is at a location. -/
def erase (tree : FileTree) (location : Location) : FileTree := ⟨tree.nodes.erase location⟩

/-- The longest name of a file, in bytes. -/
def nameLimit : Nat := 255

/-- Whether a name is short enough for a file. -/
def fits (name : Text) : Bool := Text.byteSize name ≤ nameLimit

/-- Where a path leads: nowhere yet, nowhere ever, since a step is not possible,
or to a node. -/
inductive Lookup where
  | absent
  | refused
  | found (location : Location) (node : FileNode)

/-- Where steps lead from a directory. -/
def follow (tree : FileTree) (here : Location) : List Text → Lookup
  | [] => .found here .directory
  | step :: rest =>
    if step = FilePath.currentPart then tree.follow here rest
    else if step = FilePath.parentPart then tree.follow here.dropLast rest
    else if !fits step then .refused
    else
      match tree.node? (here ++ [step]) with
      | some .directory => tree.follow (here ++ [step]) rest
      | some (.file content) =>
        if rest = [] then .found (here ++ [step]) (.file content) else .refused
      | none => .absent

/-- Where a path leads from the root. -/
def lookup (tree : FileTree) (path : FilePath) : Lookup :=
  if FilePath.hasNull path then .refused else tree.follow [] (FilePath.steps path)

/-- Whether a path leads to something. -/
def holds (tree : FileTree) (path : FilePath) : Bool :=
  match tree.lookup path with
  | .found _ _ => true
  | _ => false

/-- What reading a file comes to. -/
inductive Reading where
  | absent
  | unreadable
  | text (t : Text)

/-- The text at the end of a path.  A directory and a file that holds no text
cannot be read. -/
def read (tree : FileTree) (path : FilePath) : Reading :=
  match tree.lookup path with
  | .absent => .absent
  | .refused | .found _ .directory => .unreadable
  | .found _ (.file content) =>
    match content.text? with
    | some t => .text t
    | none => .unreadable

/-- The text of a reading, if there is one. -/
def Reading.text? : Reading → Option Text
  | text t => some t
  | _ => none

/-- The names in a directory. -/
def namesIn (tree : FileTree) (location : Location) : List Text :=
  tree.nodes.keys.filterMap fun l =>
    if l.dropLast = location then l.getLast? else none

/-- The names in the directory at the end of a path, sorted; none if there is no
such directory. -/
def list? (tree : FileTree) (path : FilePath) : Option (List Text) :=
  match tree.lookup path with
  | .found location .directory => some ((tree.namesIn location).mergeSort Text.isUpTo)
  | _ => none

end FileTree
end ScopedConfig

import ScopedConfig.FileTree.Directory

/-! Replacing a file at once.  The new content goes to a temporary file beside the
target, which then takes the place of the target in one step; whoever reads the
target sees the old content or the new one.  Every step may fail, and the
temporary file is removed after each failure; directories that were made stay. -/
namespace ScopedConfig

/-- The step at which a replacement is made to fail: while directories are made,
some of which are there already; when the temporary file is made; after part of
the content is written to it; and at the last three steps. -/
inductive Fault where
  | directories (made : Nat)
  | temporary
  | output (written : Content)
  | flush
  | sync
  | rename
  deriving DecidableEq

namespace FileTree

/-- The number of characters behind the last dot in the name of a temporary file. -/
def temporaryWidth : Nat := 6

/-- The name of a temporary file for a target, with a number. -/
def temporaryName (target : Text) (n : Nat) : Text :=
  let digits := Text.ofNat n
  '.' :: target ++ '.' :: List.replicate (temporaryWidth - digits.length) '0' ++ digits

/-- A place in a directory for a temporary file beside a target, where nothing is
and whose name is allowed. -/
def temporaryLocation? (tree : FileTree) (here : Location) (target : Text) : Option Location :=
  let candidates := (List.range (tree.nodes.size + 1)).map (temporaryName target)
  let free := candidates.find? fun name =>
    fits name && !FilePath.hasNull name && (tree.node? (here ++ [name])).isNone
  free.map fun name => here ++ [name]

/-- The tree in which a file takes the place of the target, if that is allowed:
not if the target is a directory. -/
def renameOver (tree : FileTree) (source target : Location) : Option FileTree :=
  match tree.node? target, tree.node? source with
  | some .directory, _ => none
  | _, some node => some ((tree.erase source).put target node)
  | _, none => none

/-- The tree in which a file takes the place of what a path leads to in a
directory, if the path ends in a name and that is allowed. -/
def renameTo (tree : FileTree) (source here : Location) (path : FilePath) : Option FileTree :=
  if FilePath.endsInName path then tree.renameOver source (here ++ [FilePath.fileName path])
  else none

/-- The steps from the opened temporary file on. -/
def replaceThrough (tree : FileTree) (temporary here : Location) (path : FilePath)
    (content : Content) (fault : Option Fault) : FileTree × Bool :=
  let abandoned (reached : FileTree) : FileTree × Bool := (reached.erase temporary, false)
  match fault with
  | some (.output written) => abandoned (tree.put temporary (.file written))
  | _ =>
    let written := tree.put temporary (.file content)
    match fault with
    | some _ => abandoned written
    | none =>
      match written.renameTo temporary here path with
      | some renamed => (renamed, true)
      | none => abandoned written

/-- The steps from the temporary file on, in a directory that is there. -/
def replaceIn (tree : FileTree) (here : Location) (path : FilePath) (content : Content)
    (fault : Option Fault) : FileTree × Bool :=
  match fault, tree.temporaryLocation? here (FilePath.fileName path) with
  | some .temporary, _ | _, none => (tree, false)
  | _, some temporary =>
    (tree.put temporary (.file (.text []))).replaceThrough temporary here path content fault

/-- The tree after a content has been put in the place of the file of a path, and
whether it could be, with a failure where one is asked for. -/
def replace (tree : FileTree) (path : FilePath) (content : Content) (fault : Option Fault) :
    FileTree × Bool :=
  let above := FilePath.parentParts path
  match fault with
  | some (.directories made) => ((tree.makeDirectories (above.take made)).1, false)
  | _ =>
    match tree.makeDirectories above with
    | (reached, none) => (reached, false)
    | (reached, some here) => reached.replaceIn here path content fault

end FileTree
end ScopedConfig

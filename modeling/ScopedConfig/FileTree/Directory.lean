import ScopedConfig.FileTree.Basic

/-! Making directories, one below the other, as far as they are missing.  Where a
file is in the way, or a name is too long, the directories above it stay made. -/
namespace ScopedConfig.FileTree

/-- The tree after one part of a path is entered from a directory, and where that
leads; a directory that is missing is made. -/
def enter (tree : FileTree) (here : Location) (part : Text) : FileTree × Option Location :=
  if part = FilePath.parentPart then (tree, some here.dropLast)
  else if !fits part then (tree, none)
  else
    match tree.node? (here ++ [part]) with
    | some .directory => (tree, some (here ++ [part]))
    | some (.file _) => (tree, none)
    | none => (tree.put (here ++ [part]) .directory, some (here ++ [part]))

/-- The tree after parts are entered one after another, and where they lead. -/
def enterAll (tree : FileTree) (here : Location) : List Text → FileTree × Option Location
  | [] => (tree, some here)
  | part :: rest =>
    match tree.enter here part with
    | (reached, some below) => reached.enterAll below rest
    | (reached, none) => (reached, none)

/-- The tree with the directories of a path that has the given parts, and where
the last one is. -/
def makeDirectories (tree : FileTree) (parts : List Text) : FileTree × Option Location :=
  if parts.any FilePath.hasNull then (tree, none) else tree.enterAll [] parts

/-- The tree with a directory at the end of a path, and whether there is one.  If
the path ends in `.` the directory itself is not made, but only those above. -/
def makeDirectory (tree : FileTree) (path : FilePath) : FileTree × Bool :=
  if FilePath.hasNull path then (tree, false)
  else if FilePath.endsInCurrent path then
    let reached := (tree.makeDirectories (FilePath.parentParts path)).1
    (reached, (reached.list? path).isSome)
  else
    let (reached, location) := tree.makeDirectories (FilePath.parts path)
    (reached, location.isSome)

end ScopedConfig.FileTree

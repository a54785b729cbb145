import ScopedConfig.Key

/-! Driver groups.  The name of a group stands for all sections `group#index` of
its resources, and is no section itself. -/
namespace ScopedConfig.DriverGroup

/-- The names of the groups. -/
def names : List Text :=
  ["ip", "volume", "disk", "fs", "share", "container", "app", "sync", "task"].map String.toList

/-- Whether a section is the bare name of a group. -/
def isGroup (sectionName : Text) : Bool := names.contains sectionName

/-- Whether a section is a resource of the group: its index is not empty. -/
def isMember (group sectionName : Text) : Bool :=
  match Text.after? (group ++ [resourceSeparator]) sectionName with
  | some index => !index.isEmpty
  | none => false

/-- The resources of a group among the sections, in their order. -/
def members (group : Text) (sections : List Text) : List Text := sections.filter (isMember group)

end ScopedConfig.DriverGroup

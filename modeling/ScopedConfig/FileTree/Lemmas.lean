import ScopedConfig.Dict.Lemmas
import ScopedConfig.FileTree.Replace

/-! What the operations on a tree do to the nodes at its locations.  The root stays
a directory whatever is put there, so the equations are for locations below it. -/
namespace ScopedConfig.FileTree

variable (tree : FileTree)

@[simp] theorem node?_root : tree.node? [] = some .directory := if_pos rfl

theorem node?_put {location : Location} (h : location ≠ []) (node : FileNode)
    (other : Location) :
    (tree.put location node).node? other =
      if other = location then some node else tree.node? other := by
  unfold node?
  by_cases ho : other = []
  · rw [if_pos ho, if_pos ho, if_neg (fun e => h (e.symm.trans ho))]
  · rw [if_neg ho, if_neg ho]
    exact Dict.get?_insert ..

theorem node?_erase {location : Location} (h : location ≠ []) (other : Location) :
    (tree.erase location).node? other =
      if other = location then none else tree.node? other := by
  unfold node?
  by_cases ho : other = []
  · rw [if_pos ho, if_pos ho, if_neg (fun e => h (e.symm.trans ho))]
  · rw [if_neg ho, if_neg ho]
    exact Dict.get?_erase ..

end ScopedConfig.FileTree

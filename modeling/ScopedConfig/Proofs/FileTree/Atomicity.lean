import ScopedConfig.Proofs.FileTree.Contents

/-! # Replacements are all or nothing

A replacement comes to its end exactly if no step of it is made to fail and the tree
allows all of them: the parents of the path can be made, there is place for a temporary
file among them, and the path ends in a name at which there is no directory
(`exists_replace_eq_true_iff`).  It has then put the content where the path leads.
Otherwise it has put nothing anywhere.  In neither case has anything else changed but
that parents of the path were made where there was nothing (`replace_atomic`), so no
other file is touched and no temporary file is left.
-/
namespace ScopedConfig.FileTree

variable {tree reached final : FileTree} {here temporary : Location} {path : FilePath}
  {content : Content} {fault : Option Fault}

/-- **A tree allows a replacement**: what each of its steps needs is there. -/
def CanReplace (tree : FileTree) (path : FilePath) : Prop :=
  ∃ reached here temporary,
    tree.makeDirectories (FilePath.parentParts path) = (reached, some here) ∧
    reached.temporaryLocation? here (FilePath.fileName path) = some temporary ∧
    FilePath.endsInName path = true ∧
    reached.node? (here ++ [FilePath.fileName path]) ≠ some .directory

/-- A file that is there is renamed unless the path ends in no name or leads to a
directory. -/
theorem exists_renameTo_iff {node : FileNode} (h : tree.node? temporary = some node) :
    (∃ final, tree.renameTo temporary here path = some final) ↔
      FilePath.endsInName path = true ∧
        tree.node? (here ++ [FilePath.fileName path]) ≠ some .directory := by
  unfold renameTo renameOver
  by_cases hend : FilePath.endsInName path = true
  · rw [if_pos hend, h]
    simp only [hend, true_and]
    cases hnode : tree.node? (here ++ [FilePath.fileName path]) with
    | none => simp
    | some target => cases target <;> simp
  · simp [hend]

/-- The content that was written to the temporary file is renamed unless the tree
without that file does not allow it. -/
theorem exists_renameTo_put_iff (hne : temporary ≠ []) (hfree : tree.node? temporary = none) :
    (∃ final, ((tree.put temporary (.file (.text []))).put temporary (.file content)).renameTo
        temporary here path = some final) ↔
      FilePath.endsInName path = true ∧
        tree.node? (here ++ [FilePath.fileName path]) ≠ some .directory := by
  have hput : ∀ location,
      ((tree.put temporary (.file (.text []))).put temporary (.file content)).node? location =
        if location = temporary then some (.file content) else tree.node? location := by
    intro location
    rw [node?_put _ hne, node?_put _ hne]
    split <;> rfl
  rw [exists_renameTo_iff ((hput temporary).trans (if_pos rfl)), hput]
  refine and_congr_right fun _ => ?_
  by_cases htarget : here ++ [FilePath.fileName path] = temporary
  · simp [htarget, hfree]
  · rw [if_neg htarget]

/-- **A replacement comes to its end exactly if nothing keeps it from that.** -/
theorem exists_replace_eq_true_iff :
    (∃ final, tree.replace path content fault = (final, true)) ↔
      fault = none ∧ tree.CanReplace path := by
  unfold replace
  dsimp only
  split
  · simp
  · cases hmake : tree.makeDirectories (FilePath.parentParts path) with
    | mk reached there? =>
      cases there? with
      | none => simp [CanReplace, hmake]
      | some here =>
        simp only [replaceIn_eq_true_iff, exists_and_left]
        refine and_congr_right fun _ => ?_
        constructor
        · rintro ⟨final, temporary, htemporary, hrename⟩
          obtain ⟨hne, hfree, -, -⟩ := temporaryLocation?_eq_some htemporary
          exact ⟨reached, here, temporary, hmake, htemporary,
            (exists_renameTo_put_iff hne hfree).mp ⟨final, hrename⟩⟩
        · rintro ⟨reached', here', temporary, hmake', htemporary, hallowed⟩
          obtain ⟨rfl, hhere⟩ := Prod.mk.inj (hmake.symm.trans hmake')
          obtain rfl := Option.some.inj hhere
          obtain ⟨hne, hfree, -, -⟩ := temporaryLocation?_eq_some htemporary
          obtain ⟨final, hrename⟩ := (exists_renameTo_put_iff hne hfree).mpr hallowed
          exact ⟨final, temporary, htemporary, hrename⟩

/-- What a replacement that comes to its end leaves behind: the content where the path
leads, and everything else as it was, but for parents of the path that were made. -/
def Completed (tree : FileTree) (path : FilePath) (content : Content) (final : FileTree) : Prop :=
  ∃ location, final.lookup path = .found location (.file content) ∧
    ∀ other, other ≠ location → final.node? other = tree.node? other ∨
      other ∈ parents path ∧ tree.node? other = none ∧ final.node? other = some .directory

/-- **Replacements are atomic.**  If no step fails, by itself or since it is made to,
the path leads to the content; if one does, nothing has been put anywhere.  Either way
all that changes beside it is that parents of the path are made where there was
nothing: every other file is as it was, and no temporary file is left. -/
theorem replace_atomic (tree : FileTree) (path : FilePath) (content : Content)
    (fault : Option Fault) :
    match tree.replace path content fault with
    | (final, true) => (fault = none ∧ tree.CanReplace path) ∧ Completed tree path content final
    | (final, false) => ¬ (fault = none ∧ tree.CanReplace path) ∧
        MakesOnly (parents path) tree final := by
  cases hreplace : tree.replace path content fault with
  | mk final done =>
    cases done with
    | true =>
      obtain ⟨location, reached, hmakes, hlookup, hnode⟩ := exists_of_replace hreplace
      refine ⟨exists_replace_eq_true_iff.mp ⟨final, hreplace⟩, location, hlookup, ?_⟩
      intro other hother
      rw [(hnode other).trans (if_neg hother)]
      exact hmakes other
    | false =>
      refine ⟨fun hcan => ?_, makesOnly_of_replace hreplace⟩
      obtain ⟨other, hdone⟩ := exists_replace_eq_true_iff.mpr hcan
      rw [hreplace] at hdone
      cases hdone

/-- A failure after the content was written leaves the parent that was made. -/
example :
    (FileTree.empty.replace "/etc/svc" (.text "x") (some .sync)).1.nodes.entries =
      [(["etc".toList], .directory)] := by
  decide +kernel

end ScopedConfig.FileTree

import ScopedConfig.Proofs.FileTree.Replacement

/-! # What a replacement changes in a tree

Directories are made where nothing is, on the way that the path takes through its
parents, and nothing else is changed by making them (`MakesOnly`), so that what could be
read is read as before (`MakesOnly.read_eq_text`).  The temporary file is put where
nothing is too, and every step that fails removes it again (`node?_of_replaceIn`).  So
whichever step fails, every file is as it was and there is no new one
(`sameFiles_of_replace`), and a replacement that comes to its end changes the file that
the path leads to and no other (`file?_of_replace`).
-/
namespace ScopedConfig.FileTree

variable {tree reached final : FileTree} {here temporary : Location} {path : FilePath}
  {content : Content} {fault : Option Fault} {places others : List Location}

/-- **Every file of one tree is a file of the other**, with the same content. -/
def SameFiles (tree final : FileTree) : Prop :=
  ∀ location, final.file? location = tree.file? location

theorem SameFiles.refl (tree : FileTree) : SameFiles tree tree := fun _ => rfl

theorem file?_congr {location : Location} (h : final.node? location = tree.node? location) :
    final.file? location = tree.file? location := by
  rw [file?, file?, h]

/-! ## Directories -/

/-- **Nothing is changed but that directories are made**, at some of the places and
where nothing was. -/
def MakesOnly (places : List Location) (tree final : FileTree) : Prop :=
  ∀ location, final.node? location = tree.node? location ∨
    location ∈ places ∧ tree.node? location = none ∧ final.node? location = some .directory

namespace MakesOnly

theorem refl (places : List Location) (tree : FileTree) : MakesOnly places tree tree :=
  fun _ => .inl rfl

theorem mono (h : MakesOnly places tree final) (hsub : places ⊆ others) :
    MakesOnly others tree final := fun location =>
  (h location).imp_right fun ⟨hmem, hmade⟩ => ⟨hsub hmem, hmade⟩

theorem trans (h : MakesOnly places tree reached) (h' : MakesOnly places reached final) :
    MakesOnly places tree final := by
  intro location
  rcases h location with hsame | ⟨hmem, habsent, hmade⟩
  · rw [← hsame]
    exact h' location
  · rcases h' location with hsame' | ⟨-, habsent', -⟩
    · exact .inr ⟨hmem, habsent, hsame'.trans hmade⟩
    · rw [hmade] at habsent'
      cases habsent'

theorem file?_eq (h : MakesOnly places tree final) (location : Location) :
    final.file? location = tree.file? location := by
  rcases h location with hsame | ⟨-, habsent, hmade⟩
  · exact file?_congr hsame
  · simp only [file?, habsent, hmade]

/-- What is somewhere stays there. -/
theorem node?_eq_some {location : Location} {node : FileNode} (h : MakesOnly places tree final)
    (hnode : tree.node? location = some node) : final.node? location = some node := by
  rcases h location with hsame | ⟨-, habsent, -⟩
  · exact hsame.trans hnode
  · cases habsent.symm.trans hnode

/-- Steps lead where they led, if they led somewhere. -/
theorem follow_eq_found {steps : List Text} {location : Location} {node : FileNode}
    (h : MakesOnly places tree final) (hfound : tree.follow here steps = .found location node) :
    final.follow here steps = .found location node := by
  induction steps generalizing here with
  | nil => exact hfound
  | cons step rest ih =>
    rw [follow] at hfound ⊢
    by_cases hcurrent : step = FilePath.currentPart
    · rw [if_pos hcurrent] at hfound ⊢
      exact ih hfound
    rw [if_neg hcurrent] at hfound ⊢
    by_cases hparent : step = FilePath.parentPart
    · rw [if_pos hparent] at hfound ⊢
      exact ih hfound
    rw [if_neg hparent] at hfound ⊢
    split at hfound
    · cases hfound
    · next hfits =>
      rw [if_neg hfits]
      cases hnode : tree.node? (here ++ [step]) with
      | none =>
        rw [hnode] at hfound
        cases hfound
      | some found =>
        rw [hnode] at hfound
        rw [h.node?_eq_some hnode]
        cases found with
        | directory => exact ih hfound
        | file content => exact hfound

/-- **A file that could be read is read as before.** -/
theorem read_eq_text {t : Text} (h : MakesOnly places tree final)
    (hread : tree.read path = .text t) : final.read path = .text t := by
  cases hlookup : tree.lookup path with
  | absent | refused =>
    rw [read, hlookup] at hread
    cases hread
  | found location node =>
    have hsame : final.lookup path = .found location node := by
      unfold lookup at hlookup ⊢
      split at hlookup
      · cases hlookup
      · next hnull =>
        rw [if_neg hnull]
        exact h.follow_eq_found hlookup
    rw [read, hlookup] at hread
    rw [read, hsame]
    exact hread

end MakesOnly

/-- Where a part leads from a directory. -/
def below (here : Location) (part : Text) : Location :=
  if part = FilePath.parentPart then here.dropLast else here ++ [part]

/-- Where parts lead from a directory, one after another. -/
def passed (here : Location) : List Text → List Location
  | [] => []
  | part :: rest => below here part :: passed (below here part) rest

/-- The places of the directories that the file of a path is in. -/
def parents (path : FilePath) : List Location := passed [] (FilePath.parentParts path)

theorem passed_take (here : Location) (parts : List Text) (n : Nat) :
    passed here (parts.take n) = (passed here parts).take n := by
  induction parts generalizing here n with
  | nil => simp [passed]
  | cons part rest ih =>
    cases n with
    | zero => rfl
    | succ n => rw [List.take_succ_cons, passed, passed, List.take_succ_cons, ih]

theorem makesOnly_enter (tree : FileTree) (here : Location) (part : Text) :
    MakesOnly [below here part] tree (tree.enter here part).1 := by
  unfold enter
  split
  · exact .refl _ tree
  · next hparent =>
    split
    · exact .refl _ tree
    · split
      · exact .refl _ tree
      · exact .refl _ tree
      · next habsent =>
        intro location
        rw [node?_put tree (by simp)]
        by_cases h : location = here ++ [part]
        · rw [if_pos h, h, below, if_neg hparent]
          exact .inr ⟨List.mem_singleton_self _, habsent, rfl⟩
        · exact .inl (if_neg h)

/-- Also where a part cannot be entered, nothing is changed but that the directories
before it are made. -/
theorem makesOnly_enterAll (parts : List Text) (tree : FileTree) (here : Location) :
    MakesOnly (passed here parts) tree (tree.enterAll here parts).1 := by
  induction parts generalizing tree here with
  | nil => exact .refl _ tree
  | cons part rest ih =>
    have hstep := makesOnly_enter tree here part
    have hfirst : [below here part] ⊆ passed here (part :: rest) :=
      List.cons_subset_cons _ (List.nil_subset _)
    rw [enterAll]
    split
    · next reached there hreached =>
      have hthere : there = below here part := by
        unfold below
        rcases (enter_eq_some hreached).2 with ⟨hp, rfl⟩ | ⟨hp, -, rfl, -⟩
        · rw [if_pos hp]
        · rw [if_neg hp]
      rw [hreached] at hstep
      rw [hthere]
      exact (hstep.mono hfirst).trans
        ((ih reached (below here part)).mono (List.subset_cons_self _ _))
    · next reached hreached =>
      rw [hreached] at hstep
      exact hstep.mono hfirst

/-- Making directories changes nothing else, also where it stops on the way. -/
theorem makesOnly_makeDirectories (tree : FileTree) (parts : List Text) :
    MakesOnly (passed [] parts) tree (tree.makeDirectories parts).1 := by
  unfold makeDirectories
  split
  · exact .refl _ tree
  · exact makesOnly_enterAll parts tree []

/-! ## The temporary file -/

/-- A temporary file that is given up leaves no trace. -/
theorem node?_of_replaceThrough (hne : temporary ≠ []) (hfree : tree.node? temporary = none)
    (h : ∀ location, location ≠ temporary → reached.node? location = tree.node? location)
    (hfail : reached.replaceThrough temporary here path content fault = (final, false))
    (location : Location) : final.node? location = tree.node? location := by
  have habandoned : ∀ content,
      ((reached.put temporary (.file content)).erase temporary).node? location =
        tree.node? location := by
    intro content
    rw [node?_erase _ hne, node?_put reached hne]
    by_cases ht : location = temporary
    · rw [if_pos ht, ht, hfree]
    · rw [if_neg ht, if_neg ht, h location ht]
  unfold replaceThrough at hfail
  dsimp only at hfail
  -- whatever was written by then, every step that fails gives the file up
  split at hfail
  · exact (Prod.mk.inj hfail).1 ▸ habandoned _
  · split at hfail
    · exact (Prod.mk.inj hfail).1 ▸ habandoned _
    · split at hfail
      · cases hfail
      · exact (Prod.mk.inj hfail).1 ▸ habandoned _

/-- In its directory, a replacement that fails changes nothing at all. -/
theorem node?_of_replaceIn (h : tree.replaceIn here path content fault = (final, false))
    (location : Location) : final.node? location = tree.node? location := by
  unfold replaceIn at h
  split at h
  · rw [(Prod.mk.inj h).1]
  · rw [(Prod.mk.inj h).1]
  · next temporary _ htemporary =>
    obtain ⟨hne, hfree, -, -⟩ := temporaryLocation?_eq_some htemporary
    refine node?_of_replaceThrough hne hfree (fun location ht => ?_) h location
    rw [node?_put tree hne, if_neg ht]

/-! ## Replacements -/

/-- **A replacement that fails changes nothing** but that parents of the path are made,
at whichever step it does. -/
theorem makesOnly_of_replace (h : tree.replace path content fault = (final, false)) :
    MakesOnly (parents path) tree final := by
  unfold replace at h
  dsimp only at h
  split at h
  · next made =>
    have hmake := makesOnly_makeDirectories tree ((FilePath.parentParts path).take made)
    rw [passed_take, (Prod.mk.inj h).1] at hmake
    exact hmake.mono (List.take_subset made _)
  · have hmake := makesOnly_makeDirectories tree (FilePath.parentParts path)
    split at h
    · next reached hreached =>
      rw [hreached] at hmake
      exact (Prod.mk.inj h).1 ▸ hmake
    · next reached here hreached =>
      rw [hreached] at hmake
      exact hmake.trans fun location => .inl (node?_of_replaceIn h location)

/-- Where a replacement that comes to its end has put the content, and what else it
has changed. -/
theorem exists_of_replace (h : tree.replace path content fault = (final, true)) :
    ∃ location reached, MakesOnly (parents path) tree reached ∧
      final.lookup path = .found location (.file content) ∧
      ∀ other, final.node? other =
        if other = location then some (.file content) else reached.node? other := by
  obtain ⟨reached, here, hmake, hr, hlookup⟩ := lookup_of_replace h
  have hmakes := makesOnly_makeDirectories tree (FilePath.parentParts path)
  rw [hmake] at hmakes
  exact ⟨_, reached, hmakes, hlookup, hr.node?⟩

/-- **A replacement that fails changes no file**, at whichever step it does. -/
theorem sameFiles_of_replace (h : tree.replace path content fault = (final, false)) :
    SameFiles tree final :=
  (makesOnly_of_replace h).file?_eq

/-- **A replacement that comes to its end changes one file**: the one that the path
leads to afterwards, which has the content. -/
theorem file?_of_replace (h : tree.replace path content fault = (final, true)) :
    ∃ location, final.lookup path = .found location (.file content) ∧
      final.file? location = some content ∧
      ∀ other, other ≠ location → final.file? other = tree.file? other := by
  obtain ⟨location, reached, hmakes, hlookup, hnode⟩ := exists_of_replace h
  refine ⟨location, hlookup, ?_, fun other hother => ?_⟩
  · rw [file?, hnode, if_pos rfl]
  · exact (file?_congr ((hnode other).trans (if_neg hother))).trans (hmakes.file?_eq other)

end ScopedConfig.FileTree

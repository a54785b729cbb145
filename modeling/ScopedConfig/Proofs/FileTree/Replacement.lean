import Mathlib.Data.List.Basic
import ScopedConfig.FileTree.Lemmas
import ScopedConfig.Proofs.Text.Lines

/-! # What a replaced file reads as

A replacement that comes to its end has put the content where the path ends, and
has changed nothing else below the directories that it made (`Replaced`).  The way to
that place and the way on which a reader follows the path are not the same: the one
enters the parts of the path, making what is missing, and the other takes its steps,
`.` among them.  They lead to the same directory (`follow_of_enterAll`), so the path
reads as the content (`read_of_replace`).
-/
namespace ScopedConfig

namespace FileTree

variable {tree reached final : FileTree} {here there : Location}

/-! ## Directories stay -/

/-- Every directory of one tree is one of the other. -/
def KeepsDirectories (tree final : FileTree) : Prop :=
  ∀ location, tree.node? location = some .directory → final.node? location = some .directory

theorem KeepsDirectories.refl (tree : FileTree) : KeepsDirectories tree tree := fun _ h => h

theorem KeepsDirectories.trans (h : KeepsDirectories tree reached)
    (h' : KeepsDirectories reached final) : KeepsDirectories tree final :=
  fun location hl => h' location (h location hl)

/-- What entering a part does: it steps back, or steps into a directory that is
there when it is done. -/
theorem enter_eq_some {part : Text} (h : tree.enter here part = (reached, some there)) :
    KeepsDirectories tree reached ∧
      (part = FilePath.parentPart ∧ there = here.dropLast ∨
        part ≠ FilePath.parentPart ∧ fits part = true ∧ there = here ++ [part] ∧
          reached.node? there = some .directory) := by
  unfold enter at h
  split at h
  · next hp =>
    obtain ⟨rfl, ht⟩ := Prod.mk.inj h
    exact ⟨.refl tree, .inl ⟨hp, (Option.some.inj ht).symm⟩⟩
  · next hp =>
    split at h
    · cases h
    · next hf =>
      have hfits : fits part = true := by simpa using hf
      split at h
      · next hnode =>
        obtain ⟨rfl, ht⟩ := Prod.mk.inj h
        obtain rfl := Option.some.inj ht
        exact ⟨.refl tree, .inr ⟨hp, hfits, rfl, hnode⟩⟩
      · cases h
      · next hnode =>
        obtain ⟨rfl, ht⟩ := Prod.mk.inj h
        obtain rfl := Option.some.inj ht
        have hne : here ++ [part] ≠ [] := by simp
        refine ⟨fun location hl => ?_, .inr ⟨hp, hfits, rfl, ?_⟩⟩
        · rw [node?_put tree hne]
          split
          · rfl
          · exact hl
        · rw [node?_put tree hne, if_pos rfl]

theorem enterAll_cons {part : Text} {rest : List Text}
    (h : tree.enterAll here (part :: rest) = (final, some there)) :
    ∃ reached below, tree.enter here part = (reached, some below) ∧
      reached.enterAll below rest = (final, some there) := by
  rw [enterAll] at h
  split at h
  · next reached below hstep => exact ⟨reached, below, hstep, h⟩
  · cases h

theorem keepsDirectories_enterAll {parts : List Text}
    (h : tree.enterAll here parts = (final, some there)) : KeepsDirectories tree final := by
  induction parts generalizing tree here with
  | nil =>
    obtain ⟨rfl, -⟩ := Prod.mk.inj h
    exact .refl tree
  | cons part rest ih =>
    obtain ⟨reached, below, hstep, hrest⟩ := enterAll_cons h
    exact (enter_eq_some hstep).1.trans (ih hrest)

/-- **Following the steps of a path leads where its parts were entered.** -/
theorem follow_of_enterAll {steps : List Text} (rest : List Text)
    (h : tree.enterAll here (steps.filter (· ≠ FilePath.currentPart)) = (reached, some there))
    (hkeep : KeepsDirectories reached final) :
    final.follow here (steps ++ rest) = final.follow there rest := by
  induction steps generalizing tree here with
  | nil =>
    obtain ⟨-, ht⟩ := Prod.mk.inj h
    rw [List.nil_append, Option.some.inj ht]
  | cons step steps ih =>
    rw [List.cons_append, follow]
    by_cases hc : step = FilePath.currentPart
    · rw [List.filter_cons_of_neg (by simpa using hc)] at h
      rw [if_pos hc, ih h]
    · rw [List.filter_cons_of_pos (by simpa using hc)] at h
      obtain ⟨mid, below, hstep, hrest⟩ := enterAll_cons h
      rw [if_neg hc]
      rcases (enter_eq_some hstep).2 with ⟨hp, rfl⟩ | ⟨hp, hfits, rfl, hnode⟩
      · rw [if_pos hp, ih hrest]
      · have hdir : final.node? (here ++ [step]) = some .directory :=
          hkeep _ (keepsDirectories_enterAll hrest _ hnode)
        simp only [if_neg hp, hfits, Bool.not_true, Bool.false_eq_true, if_false, hdir]
        exact ih hrest

/-! ## What a replacement does -/

/-- A temporary file is put where nothing is, and the name of its target, which is
part of its own, may be used. -/
theorem temporaryLocation?_eq_some {target : Text} {temporary : Location}
    (h : tree.temporaryLocation? here target = some temporary) :
    temporary ≠ [] ∧ tree.node? temporary = none ∧ fits target = true ∧
      FilePath.hasNull target = false := by
  obtain ⟨name, hfind, rfl⟩ := Option.map_eq_some_iff.mp h
  obtain ⟨n, -, hname⟩ := List.mem_map.mp (List.mem_of_find?_eq_some hfind)
  have hgood := List.find?_some hfind
  simp only [Bool.and_eq_true, Bool.not_eq_true', Option.isNone_iff_eq_none] at hgood
  obtain ⟨⟨hfits, hnull⟩, hfree⟩ := hgood
  refine ⟨by simp, hfree, ?_, ?_⟩
  · rw [fits, decide_eq_true_eq, ← hname] at hfits
    rw [fits, decide_eq_true_eq]
    refine Nat.le_trans ?_ hfits
    simp only [temporaryName, List.cons_append, Text.byteSize, Text.byteSize_append]
    omega
  · rw [← hname] at hnull
    simp only [FilePath.hasNull, Text.contains, temporaryName, List.cons_append, List.any_cons,
      List.any_append, Bool.or_eq_false_iff] at hnull
    exact hnull.2.1.1

/-- Where a finished replacement ends: the last name of the path, in a directory. -/
structure Replaced (tree : FileTree) (here : Location) (path : FilePath) (content : Content)
    (final : FileTree) : Prop where
  endsInName : FilePath.endsInName path = true
  noDirectory : tree.node? (here ++ [FilePath.fileName path]) ≠ some .directory
  node? : ∀ location, final.node? location =
    if location = here ++ [FilePath.fileName path] then some (.file content)
    else tree.node? location

/-- Renaming a file that was put where nothing was moves it to its target. -/
theorem replaced_of_renameTo {temporary : Location} {path : FilePath} {content : Content}
    {written : FileTree} (hne : temporary ≠ []) (hfree : tree.node? temporary = none)
    (hwritten : ∀ location, written.node? location =
      if location = temporary then some (.file content) else tree.node? location)
    (h : written.renameTo temporary here path = some final) :
    Replaced tree here path content final := by
  unfold renameTo at h
  split at h
  · next hend =>
    unfold renameOver at h
    split at h
    · cases h
    · next node hnode hdir =>
      obtain rfl := Option.some.inj h
      rw [hwritten, if_pos rfl] at hnode
      obtain rfl := Option.some.inj hnode
      have htarget : here ++ [FilePath.fileName path] ≠ [] := by simp
      refine ⟨hend, fun hd => hdir ?_, fun location => ?_⟩
      · rw [hwritten, if_neg ?_]
        · exact hd
        · rintro e
          rw [e, hfree] at hd
          cases hd
      · rw [node?_put _ htarget, node?_erase _ hne, hwritten]
        by_cases ht : location = temporary
        · simp [ht, hfree]
        · simp [ht]
    · cases h
  · cases h

/-- The steps from the temporary file on come to their end exactly if none of them is
made to fail and the file can be renamed. -/
theorem replaceThrough_eq_true_iff {temporary : Location} {path : FilePath} {content : Content}
    {fault : Option Fault} :
    tree.replaceThrough temporary here path content fault = (final, true) ↔
      fault = none ∧ (tree.put temporary (.file content)).renameTo temporary here path =
        some final := by
  cases fault with
  | some fault =>
    refine ⟨fun h => ?_, fun h => absurd h.1 (Option.some_ne_none fault)⟩
    cases fault <;> exact absurd (congrArg Prod.snd h) Bool.false_ne_true
  | none =>
    simp only [replaceThrough, true_and]
    cases (tree.put temporary (.file content)).renameTo temporary here path <;> simp

/-- The steps in the directory of a file come to their end exactly if there is place
for a temporary file and those from there on do. -/
theorem replaceIn_eq_true_iff {path : FilePath} {content : Content} {fault : Option Fault} :
    tree.replaceIn here path content fault = (final, true) ↔
      fault = none ∧ ∃ temporary,
        tree.temporaryLocation? here (FilePath.fileName path) = some temporary ∧
        ((tree.put temporary (.file (.text []))).put temporary (.file content)).renameTo
          temporary here path = some final := by
  unfold replaceIn
  split
  · simp
  · next hfull => simp [hfull]
  · next temporary _ htemporary =>
    rw [replaceThrough_eq_true_iff]
    simp [htemporary]

theorem replaced_of_replaceIn {path : FilePath} {content : Content} {fault : Option Fault}
    (h : tree.replaceIn here path content fault = (final, true)) :
    fits (FilePath.fileName path) = true ∧ FilePath.hasNull (FilePath.fileName path) = false ∧
      Replaced tree here path content final := by
  obtain ⟨-, temporary, htemp, hrename⟩ := replaceIn_eq_true_iff.mp h
  obtain ⟨hne, hfree, hfits, hnull⟩ := temporaryLocation?_eq_some htemp
  refine ⟨hfits, hnull, replaced_of_renameTo hne hfree (fun location => ?_) hrename⟩
  rw [node?_put _ hne, node?_put _ hne]
  split <;> rfl

/-- **A replacement that comes to its end** has entered the directories of the
path, and changed nothing there but that the path's last name has the content. -/
theorem replaced_of_replace {path : FilePath} {content : Content} {fault : Option Fault}
    (h : tree.replace path content fault = (final, true)) :
    ∃ reached here, tree.makeDirectories (FilePath.parentParts path) = (reached, some here) ∧
      fits (FilePath.fileName path) = true ∧ FilePath.hasNull (FilePath.fileName path) = false ∧
      Replaced reached here path content final := by
  unfold replace at h
  split at h
  · cases h
  · dsimp only at h
    split at h
    · cases h
    · next reached here hmake =>
      exact ⟨reached, here, hmake, replaced_of_replaceIn h⟩

/-! ## Reading the path -/

/-- The steps of a path that ends in a name are steps to its directory, and the
name. -/
theorem steps_of_endsInName {path : FilePath} (h : FilePath.endsInName path = true) :
    ∃ above, FilePath.steps path = above ++ [FilePath.fileName path] ∧
      FilePath.steps path = FilePath.writtenParts path ∧
      FilePath.parentParts path = above.filter (· ≠ FilePath.currentPart) ∧
      FilePath.fileName path ≠ FilePath.currentPart ∧
      FilePath.fileName path ≠ FilePath.parentPart := by
  unfold FilePath.endsInName at h
  split at h
  · next name hlast =>
    simp only [Bool.and_eq_true, decide_eq_true_eq] at h
    obtain ⟨hcurrent, hparent⟩ := h
    obtain ⟨above, habove⟩ := List.getLast?_eq_some_iff.mp hlast
    have hwritten : FilePath.steps path = FilePath.writtenParts path := by
      unfold FilePath.steps at hlast ⊢
      split
      · next hslash =>
        rw [if_pos hslash, List.getLast?_concat] at hlast
        exact absurd (Option.some.inj hlast).symm hcurrent
      · rfl
    have hparts : FilePath.parts path =
        above.filter (· ≠ FilePath.currentPart) ++ [name] := by
      rw [FilePath.parts, ← hwritten, habove, List.filter_append]
      simp [hcurrent]
    have hname : FilePath.fileName path = name := by
      rw [FilePath.fileName, hparts, List.getLast?_concat]
      exact if_neg hparent
    refine ⟨above, hname ▸ habove, hwritten, ?_, hname ▸ hcurrent, hname ▸ hparent⟩
    rw [FilePath.parentParts, hparts, List.dropLast_concat]
  · cases h

/-- A path holds no null character if its directories and its name do not. -/
theorem hasNull_eq_false {path : FilePath} (hend : FilePath.endsInName path = true)
    (hparts : (FilePath.parentParts path).any FilePath.hasNull = false)
    (hname : FilePath.hasNull (FilePath.fileName path) = false) :
    FilePath.hasNull path = false := by
  obtain ⟨above, hsteps, hwritten, hparent, -, -⟩ := steps_of_endsInName hend
  have hmem : ∀ text : Text, FilePath.hasNull text = false ↔ '\x00' ∉ text := by
    intro text
    simp only [FilePath.hasNull, Text.contains, List.any_eq_false, beq_iff_eq]
    exact ⟨fun h hc => h _ hc rfl, fun h c hc e => h (e ▸ hc)⟩
  rw [hmem]
  intro hnull
  obtain ⟨part, hpart, hc⟩ := Text.exists_mem_splitOn hnull (s := '/') (by decide)
  have hnonempty : part ≠ [] := List.ne_nil_of_mem hc
  have hstep : part ∈ above ++ [FilePath.fileName path] := by
    rw [← hsteps, hwritten]
    exact List.mem_filter.mpr ⟨hpart, by simpa using hnonempty⟩
  rcases List.mem_append.mp hstep with ha | ha
  · have hcurrent : part ≠ FilePath.currentPart := by
      rintro rfl
      exact absurd hc (by decide)
    have hp : part ∈ FilePath.parentParts path :=
      hparent ▸ List.mem_filter.mpr ⟨ha, by simpa using hcurrent⟩
    exact (hmem part).mp (by simpa using List.any_eq_false.mp hparts part hp) hc
  · rw [List.mem_singleton.mp ha] at hc
    exact (hmem _).mp hname hc

/-- **The path of a file that was replaced leads to what it was replaced with.** -/
theorem lookup_of_replace {path : FilePath} {content : Content} {fault : Option Fault}
    (h : tree.replace path content fault = (final, true)) :
    ∃ reached here, tree.makeDirectories (FilePath.parentParts path) = (reached, some here) ∧
      Replaced reached here path content final ∧
      final.lookup path = .found (here ++ [FilePath.fileName path]) (.file content) := by
  obtain ⟨reached, here, hmake, hfits, hnull, hr⟩ := replaced_of_replace h
  refine ⟨reached, here, hmake, hr, ?_⟩
  obtain ⟨above, hsteps, -, hparent, hcurrent, hback⟩ := steps_of_endsInName hr.endsInName
  unfold makeDirectories at hmake
  split at hmake
  · cases hmake
  · next hparts =>
    have hpath : FilePath.hasNull path = false :=
      hasNull_eq_false hr.endsInName (by simpa using hparts) hnull
    have hkeep : KeepsDirectories reached final := by
      intro location hl
      rw [hr.node?, if_neg ?_]
      · exact hl
      · rintro rfl
        exact hr.noDirectory hl
    have hfile : final.node? (here ++ [FilePath.fileName path]) = some (.file content) := by
      rw [hr.node?, if_pos rfl]
    have hfollow : final.follow [] (FilePath.steps path) =
        .found (here ++ [FilePath.fileName path]) (.file content) := by
      rw [hparent] at hmake
      rw [hsteps, follow_of_enterAll _ hmake hkeep]
      simp [follow, hcurrent, hback, hfits, hfile]
    rw [lookup, hpath]
    exact hfollow

/-- **A path reads as what it was replaced with.** -/
theorem read_of_replace {path : FilePath} {t : Text} {fault : Option Fault}
    (h : tree.replace path (.text t) fault = (final, true)) : final.read path = .text t := by
  obtain ⟨reached, here, -, -, hlookup⟩ := lookup_of_replace h
  simp only [read, hlookup, Content.text?]

end FileTree
end ScopedConfig

import ScopedConfig.Proofs.FileTree.Contents
import ScopedConfig.RawConfig.Lemmas
import ScopedConfig.Store.Commit

/-! # What a commit does

A commit that has any section to write ends in one of three ways.  An issue that
validation finds, or a step of the write that fails, makes it end with that error:
then every file is as before, and the owner is not told (`Commit.GivenUp`).  Otherwise
the owner is told, what it answers is the result, and one file has the text of the data,
or none has if the data are only kept in memory (`Commit.CarriedOut`).

The data in memory are the same in all three ways: those that the commit works on
(`ready`), whose sections are given by `committedSections`.  So an error does not take
back what was done in memory before it.
-/
namespace ScopedConfig

/-- **A commit that is given up**: it has an error, no file has changed, and the owner
was not told. -/
structure Commit.GivenUp (commit : Commit) (files : FileTree) (error : CommitError) : Prop where
  result : commit.result = .error error
  files : FileTree.SameFiles files commit.files
  notified : commit.notified = false

/-- **A commit that is carried out**: the owner was told, and the result is its answer.
If the data are only kept in memory, nothing is written; otherwise the path leads to a
file with the text of the data, and no other file has changed. -/
structure Commit.CarriedOut (commit : Commit) (files : FileTree) (path : FilePath) : Prop where
  notified : commit.notified = true
  result : commit.result = if commit.store.owner.refusesCommits then .error .refused else .ok ()
  volatile : commit.store.owner.volatile = true → commit.files = files
  written : commit.store.owner.volatile = false → ∃ location,
    commit.files.lookup path = .found location (.file (.text commit.store.data.render)) ∧
      commit.files.file? location = some (.text commit.store.data.render) ∧
      ∀ other, other ≠ location → commit.files.file? other = files.file? other

namespace Store

variable {store : Store} {files : FileTree} {newId : Text} {options : CommitOptions}
  {fault : Option Fault}

/-! ## The data that are committed -/

/-- The sections with an empty default section in front if there was none. -/
def withDefault (sections : List (Text × List (Text × Text))) :
    List (Text × List (Text × Text)) :=
  if defaultSection ∈ sections.map Prod.fst then sections else (defaultSection, []) :: sections

/-- The options with an identifier, which goes last if there was none. -/
def identified (newId : Text) (options : List (Text × Text)) : List (Text × Text) :=
  if idKey.option ∈ options.map Prod.fst then options else options ++ [(idKey.option, newId)]

/-- **The sections of a commit**: those given without the metadata, with a default
section, which has an identifier. -/
def committedSections (newId : Text) (sections : List (Text × List (Text × Text))) :
    List (Text × List (Text × Text)) :=
  (withDefault (sections.filter fun entry => entry.1 ≠ metadataSection)).map
    fun (name, options) =>
      (name, if name = defaultSection then identified newId options else options)

theorem toLists_withDefaultSection (data : RawConfig) :
    (withDefaultSection data).toLists = withDefault data.toLists :=
  data.toLists_ensureSectionFirst defaultSection

theorem mem_withDefault_iff {sections : List (Text × List (Text × Text))} {name : Text} :
    name ∈ (withDefault sections).map Prod.fst ↔
      name = defaultSection ∨ name ∈ sections.map Prod.fst := by
  unfold withDefault
  split
  · next hdefault =>
    constructor
    · exact .inr
    · rintro (rfl | hname)
      exacts [hdefault, hname]
  · exact List.mem_cons

theorem lacksId_iff_of_mem {data : RawConfig} {options : List (Text × Text)}
    (h : (defaultSection, options) ∈ data.toLists) :
    lacksId data = true ↔ idKey.option ∉ options.map Prod.fst := by
  rw [lacksId, Option.isNone_iff_eq_none]
  exact RawConfig.get?_eq_none_iff_of_mem h

/-- **What a commit does to the data**, as what it does to the lists. -/
theorem toLists_prepared (data : RawConfig) (newId : Text) :
    (prepared data newId).toLists = committedSections newId data.toLists := by
  have hstarted : (withDefaultSection (data.eraseSection metadataSection)).toLists =
      withDefault (data.toLists.filter fun entry => entry.1 ≠ metadataSection) := by
    rw [toLists_withDefaultSection, RawConfig.toLists_eraseSection]
  unfold prepared committedSections
  rw [← hstarted]
  -- from here on only the default section matters, which is there whatever the data were
  generalize withDefaultSection (data.eraseSection metadataSection) = started at hstarted ⊢
  have hdefault : defaultSection ∈ started.sectionNames := by
    rw [RawConfig.sectionNames_eq_map_toLists, hstarted]
    exact mem_withDefault_iff.mpr (.inl rfl)
  dsimp only
  split
  · next hlacks =>
    refine (RawConfig.toLists_set_of_mem hdefault ..).trans
      (List.map_congr_left fun (name, options) hentry => ?_)
    dsimp only [idKey]
    split
    · next hname =>
      subst hname
      have habsent := (lacksId_iff_of_mem hentry).mp hlacks
      rw [identified, if_neg habsent]
      exact congrArg (Prod.mk _) (Dict.Entries.insert_of_not_mem habsent newId)
    · rfl
  · next hhas =>
    refine (List.map_id _).symm.trans (List.map_congr_left fun (name, options) hentry => ?_)
    dsimp only [id]
    split
    · next hname =>
      subst hname
      have hpresent : idKey.option ∈ options.map Prod.fst :=
        Decidable.not_not.mp (mt (lacksId_iff_of_mem hentry).mpr hhas)
      rw [identified, if_pos hpresent]
    · rfl

theorem lacksId_prepared (data : RawConfig) (newId : Text) :
    lacksId (prepared data newId) = false := by
  unfold prepared
  dsimp only
  split
  · rw [lacksId, RawConfig.get?_set, if_pos ⟨rfl, rfl⟩]
    rfl
  · next hhas => exact Bool.eq_false_iff.mpr hhas

/-- **The sections that a commit leaves**: those given but the metadata, and the default
section in any case. -/
theorem mem_sectionNames_prepared_iff {data : RawConfig} {newId name : Text} :
    name ∈ (prepared data newId).sectionNames ↔
      name = defaultSection ∨ name ∈ data.sectionNames ∧ name ≠ metadataSection := by
  have hrest : name ∈ (data.toLists.filter fun entry => entry.1 ≠ metadataSection).map Prod.fst ↔
      name ∈ data.sectionNames ∧ name ≠ metadataSection := by
    rw [RawConfig.sectionNames_eq_map_toLists, List.mem_map, List.mem_map]
    simp only [List.mem_filter, decide_eq_true_eq]
    constructor
    · rintro ⟨entry, ⟨hentry, hne⟩, rfl⟩
      exact ⟨⟨entry, hentry, rfl⟩, hne⟩
    · rintro ⟨⟨entry, hentry, rfl⟩, hne⟩
      exact ⟨entry, ⟨hentry, hne⟩, rfl⟩
  rw [RawConfig.sectionNames_eq_map_toLists, toLists_prepared, committedSections, List.map_map]
  exact mem_withDefault_iff.trans (or_congr_right hrest)

theorem metadataSection_not_mem_prepared (data : RawConfig) (newId : Text) :
    metadataSection ∉ (prepared data newId).sectionNames := by
  rw [mem_sectionNames_prepared_iff]
  rintro (hdefault | ⟨-, hne⟩)
  · exact absurd hdefault (by decide)
  · exact hne rfl

/-- **The data that a commit leaves as they are** have no metadata, and an identifier. -/
theorem prepared_eq_self_iff {data : RawConfig} {newId : Text} :
    prepared data newId = data ↔ metadataSection ∉ data.sectionNames ∧ lacksId data = false := by
  constructor
  · intro h
    have hmetadata := metadataSection_not_mem_prepared data newId
    have hid := lacksId_prepared data newId
    rw [h] at hmetadata hid
    exact ⟨hmetadata, hid⟩
  · rintro ⟨hmetadata, hid⟩
    have hdefault : defaultSection ∈ data.sectionNames := by
      rw [lacksId, ← Bool.not_eq_true, Option.isNone_iff_eq_none, ← ne_eq,
        Option.ne_none_iff_exists'] at hid
      obtain ⟨value, hvalue⟩ := hid
      obtain ⟨options, hoptions, -⟩ := RawConfig.get?_eq_some_iff.mp hvalue
      rw [RawConfig.sectionNames_eq_map_toLists]
      exact List.mem_map.mpr ⟨_, hoptions, rfl⟩
    have hstarted : withDefaultSection data = data := RawConfig.ensureSectionFirst_of_mem hdefault
    unfold prepared
    dsimp only
    rw [RawConfig.eraseSection_of_not_mem hmetadata, hstarted, hid]
    exact if_neg Bool.false_ne_true

/-! ## How a commit ends -/

/-- The data that a commit starts from: those that it takes over, if any. -/
def taken (store : Store) (options : CommitOptions) : RawConfig := options.data.getD store.data

/-- The store that a commit validates and writes. -/
def ready (store : Store) (options : CommitOptions) (newId : Text) : Store :=
  store.withData (prepared (store.taken options) newId)

/-- Whether a commit validates and has an issue. -/
def FindsIssue (store : Store) (options : CommitOptions) (newId : Text) : Prop :=
  options.validate = true ∧ (store.ready options newId).issues ≠ []

/-- The file that a commit writes to. -/
def target (store : Store) (options : CommitOptions) : FilePath := options.path.getD store.path

/-- Whether the write of a store to a file fails at some step. -/
def FailsToWrite (store : Store) (files : FileTree) (path : FilePath) (fault : Option Fault) :
    Prop :=
  store.owner.volatile = false ∧ (files.replace path (.text store.data.render) fault).2 = false

section WriteOut

variable {path : Option FilePath} {usesId : Bool} {warnings : List (Key × Text)}

@[simp] theorem store_writeOut :
    (store.writeOut files path usesId warnings fault).store = store := by
  unfold writeOut
  dsimp only
  split
  · rfl
  · split <;> rfl

/-- A write that tells nobody makes directories at most. -/
theorem makesOnly_writeOut
    (h : (store.writeOut files path usesId warnings fault).notified = false) :
    FileTree.MakesOnly (FileTree.parents (path.getD store.path)) files
      (store.writeOut files path usesId warnings fault).files := by
  unfold writeOut at h ⊢
  dsimp only at h ⊢
  split at h
  · cases h
  · next hkept =>
    rw [if_neg hkept]
    split at h
    · cases h
    · next hreached => exact FileTree.makesOnly_of_replace hreached

theorem givenUp_writeOut (h : store.FailsToWrite files (path.getD store.path) fault) :
    (store.writeOut files path usesId warnings fault).GivenUp files .unwritable := by
  obtain ⟨hkept, hfail⟩ := h
  unfold writeOut
  simp only [hkept, Bool.false_eq_true, if_false]
  split
  · next hwritten =>
    rw [hwritten] at hfail
    cases hfail
  · next hreached => exact ⟨rfl, FileTree.sameFiles_of_replace hreached, rfl⟩

theorem carriedOut_writeOut (h : ¬ store.FailsToWrite files (path.getD store.path) fault) :
    (store.writeOut files path usesId warnings fault).CarriedOut files (path.getD store.path) := by
  unfold writeOut
  dsimp only
  split
  · next hvolatile =>
    refine ⟨rfl, rfl, fun _ => rfl, fun hkept => ?_⟩
    exact absurd hvolatile (Bool.eq_false_iff.mp hkept)
  · next hkept =>
    have hkept' : store.owner.volatile = false := Bool.eq_false_iff.mpr hkept
    split
    · next hwritten =>
      refine ⟨rfl, rfl, fun hvolatile => absurd hvolatile hkept, fun _ => ?_⟩
      exact FileTree.file?_of_replace hwritten
    · next hreached => exact absurd ⟨hkept', congrArg Prod.snd hreached⟩ h

end WriteOut

/-- A commit of no section ends before it prepares anything. -/
theorem commit_of_isEmpty (h : (store.taken options).isEmpty = true) :
    store.commit files newId options fault =
      ⟨store.withData (store.taken options), files, false, [], false, .ok ()⟩ := by
  have hdata : (store.withData (options.data.getD store.data)).data.isEmpty = true := h
  unfold commit
  simp only [hdata, if_true]
  rfl

/-- A commit with an issue ends when it validates. -/
theorem commit_of_findsIssue (hne : (store.taken options).isEmpty = false)
    (h : store.FindsIssue options newId) :
    ∃ usesId warnings, store.commit files newId options fault =
      ⟨store.ready options newId, files, usesId, warnings, false,
        .error (.invalid (store.ready options newId).issues)⟩ := by
  obtain ⟨hvalidate, hissues⟩ := h
  have hdata : (store.withData (options.data.getD store.data)).data.isEmpty = false := hne
  have hinvalid : (store.ready options newId).validate =
      .error (.invalid (store.ready options newId).issues) := if_neg hissues
  unfold commit
  simp only [hdata, Bool.false_eq_true, if_false, hvalidate, if_true]
  split
  · next hvalid => cases hinvalid.symm.trans hvalid
  · next error herror =>
    obtain rfl := Except.error.inj (hinvalid.symm.trans herror)
    exact ⟨_, _, rfl⟩

/-- A commit without an issue is a write. -/
theorem commit_of_not_findsIssue (hne : (store.taken options).isEmpty = false)
    (h : ¬ store.FindsIssue options newId) :
    ∃ usesId warnings, store.commit files newId options fault =
      (store.ready options newId).writeOut files options.path usesId warnings fault := by
  have hdata : (store.withData (options.data.getD store.data)).data.isEmpty = false := hne
  unfold commit
  simp only [hdata, Bool.false_eq_true, if_false]
  split
  · next hvalidate =>
    have hissues : (store.ready options newId).issues = [] :=
      Decidable.not_not.mp fun hissues => h ⟨hvalidate, hissues⟩
    have hvalid : (store.ready options newId).validate = .ok () := if_pos hissues
    split
    · exact ⟨_, _, rfl⟩
    · next error herror => cases hvalid.symm.trans herror
  · exact ⟨_, _, rfl⟩

/-- A commit leaves the data that it works on in memory, however it ends. -/
theorem store_commit (hne : (store.taken options).isEmpty = false) :
    (store.commit files newId options fault).store = store.ready options newId := by
  by_cases h : store.FindsIssue options newId
  · obtain ⟨usesId, warnings, hcommit⟩ := commit_of_findsIssue hne h
    rw [hcommit]
  · obtain ⟨usesId, warnings, hcommit⟩ := commit_of_not_findsIssue hne h
    rw [hcommit, store_writeOut]

/-- What a commit leaves in memory: the data that it starts from if they have no section,
else these as they are prepared. -/
theorem data_commit (store : Store) (files : FileTree) (newId : Text) (options : CommitOptions)
    (fault : Option Fault) :
    (store.commit files newId options fault).store.data =
      if (store.taken options).isEmpty then store.taken options
      else prepared (store.taken options) newId := by
  cases h : (store.taken options).isEmpty with
  | true =>
    rw [commit_of_isEmpty h, if_pos rfl]
    rfl
  | false =>
    rw [store_commit h, if_neg Bool.false_ne_true]
    rfl

/-- A commit changes nothing of a store but its data. -/
theorem exists_store_commit (store : Store) (files : FileTree) (newId : Text)
    (options : CommitOptions) (fault : Option Fault) :
    ∃ data, (store.commit files newId options fault).store = store.withData data := by
  cases h : (store.taken options).isEmpty with
  | true => exact ⟨_, by rw [commit_of_isEmpty h]⟩
  | false => exact ⟨_, store_commit h⟩

theorem givenUp_of_findsIssue (hne : (store.taken options).isEmpty = false)
    (h : store.FindsIssue options newId) :
    (store.commit files newId options fault).GivenUp files
      (.invalid (store.ready options newId).issues) := by
  obtain ⟨usesId, warnings, hcommit⟩ := commit_of_findsIssue hne h
  rw [hcommit]
  exact ⟨rfl, .refl files, rfl⟩

theorem givenUp_of_failsToWrite (hne : (store.taken options).isEmpty = false)
    (h : ¬ store.FindsIssue options newId)
    (hfails : (store.ready options newId).FailsToWrite files (store.target options) fault) :
    (store.commit files newId options fault).GivenUp files .unwritable := by
  obtain ⟨usesId, warnings, hcommit⟩ := commit_of_not_findsIssue hne h
  rw [hcommit]
  exact givenUp_writeOut hfails

theorem carriedOut_of_not_failsToWrite (hne : (store.taken options).isEmpty = false)
    (h : ¬ store.FindsIssue options newId)
    (hwrites : ¬ (store.ready options newId).FailsToWrite files (store.target options) fault) :
    (store.commit files newId options fault).CarriedOut files (store.target options) := by
  obtain ⟨usesId, warnings, hcommit⟩ := commit_of_not_findsIssue hne h
  rw [hcommit]
  exact carriedOut_writeOut hwrites

/-- A commit that is not given up is carried out. -/
theorem carriedOut_of_not_givenUp (hne : (store.taken options).isEmpty = false)
    (h : ∀ error, ¬ (store.commit files newId options fault).GivenUp files error) :
    (store.commit files newId options fault).CarriedOut files (store.target options) := by
  have hvalid : ¬ store.FindsIssue options newId := fun hissue =>
    h _ (givenUp_of_findsIssue hne hissue)
  have hwrites : ¬ (store.ready options newId).FailsToWrite files (store.target options) fault :=
    fun hfails => h _ (givenUp_of_failsToWrite hne hvalid hfails)
  exact carriedOut_of_not_failsToWrite hne hvalid hwrites

theorem carriedOut_of_ok (hne : (store.taken options).isEmpty = false)
    (hok : (store.commit files newId options fault).result = .ok ()) :
    (store.commit files newId options fault).CarriedOut files (store.target options) := by
  refine carriedOut_of_not_givenUp hne fun error hgiven => ?_
  cases hgiven.result.symm.trans hok

theorem carriedOut_of_notified (hne : (store.taken options).isEmpty = false)
    (htold : (store.commit files newId options fault).notified = true) :
    (store.commit files newId options fault).CarriedOut files (store.target options) := by
  refine carriedOut_of_not_givenUp hne fun error hgiven => ?_
  cases hgiven.notified.symm.trans htold

/-- **A commit that tells nobody makes directories at most.** -/
theorem makesOnly_of_not_notified
    (h : (store.commit files newId options fault).notified = false) :
    FileTree.MakesOnly (FileTree.parents (store.target options)) files
      (store.commit files newId options fault).files := by
  cases hempty : (store.taken options).isEmpty with
  | true =>
    rw [commit_of_isEmpty hempty]
    exact .refl _ files
  | false =>
    by_cases hissue : store.FindsIssue options newId
    · obtain ⟨usesId, warnings, hcommit⟩ := commit_of_findsIssue hempty hissue
      rw [hcommit]
      exact .refl _ files
    · obtain ⟨usesId, warnings, hcommit⟩ := commit_of_not_findsIssue hempty hissue
      rw [hcommit] at h ⊢
      exact makesOnly_writeOut h

/-- **The contract of a commit** with any section to write.  If it finds an issue, or
else the write fails, it is given up with that error.  Otherwise it is carried out, and
leaves the sections of the commit in memory. -/
theorem commit_contract (store : Store) (files : FileTree) (newId : Text)
    (options : CommitOptions) (fault : Option Fault)
    (hne : (store.taken options).isEmpty = false) :
    (store.FindsIssue options newId →
      (store.commit files newId options fault).GivenUp files
        (.invalid (store.ready options newId).issues)) ∧
    (¬ store.FindsIssue options newId →
      (store.ready options newId).FailsToWrite files (store.target options) fault →
      (store.commit files newId options fault).GivenUp files .unwritable) ∧
    (¬ store.FindsIssue options newId →
      ¬ (store.ready options newId).FailsToWrite files (store.target options) fault →
      (store.commit files newId options fault).CarriedOut files (store.target options) ∧
        (store.commit files newId options fault).store = store.ready options newId ∧
        (store.commit files newId options fault).store.data.toLists =
          committedSections newId (store.taken options).toLists) := by
  refine ⟨givenUp_of_findsIssue hne, givenUp_of_failsToWrite hne, fun h hwrites => ?_⟩
  refine ⟨carriedOut_of_not_failsToWrite hne h hwrites, store_commit hne, ?_⟩
  rw [store_commit hne]
  exact toLists_prepared ..

/-- A node without keywords and without an identifier. -/
def unnamed : Store where
  path := "/etc/node.conf"
  data := .ofLists [("metadata", [("name", "n1")]), ("env", [("A", "1")])]
  owner := ⟨.node, .empty, [], [], [], [], false⟩
  agent := .default

theorem commit_contract_unnamed :
    (unnamed.commit .empty "y" ⟨none, some "/tmp/copy", true⟩ none).CarriedOut .empty "/tmp/copy" ∧
      (unnamed.commit .empty "y" ⟨none, some "/tmp/copy", true⟩ none).store.data.toLists =
        [("DEFAULT".toList, [("id".toList, "y".toList)]),
          ("env".toList, [("A".toList, "1".toList)])] ∧
      (unnamed.commit .empty "y" .standard (some .sync)).GivenUp .empty .unwritable ∧
      (unnamed.commit .empty "y" ⟨some (.ofLists [("fs#0", [("dev", "x")])]), none, true⟩
        none).GivenUp .empty (.invalid [⟨⟨"fs#0", "dev"⟩, .unknownKeyword⟩]) := by
  have hcopied := (commit_contract unnamed .empty "y" ⟨none, some "/tmp/copy", true⟩ none
    (by decide)).2.2 (fun h => h.2 (by decide +kernel)) (fun h => absurd h.2 (by decide +kernel))
  have hunwritten := (commit_contract unnamed .empty "y" .standard (some .sync)
    (by decide)).2.1 (fun h => h.2 (by decide +kernel)) ⟨rfl, by decide +kernel⟩
  have hinvalid := (commit_contract unnamed .empty "y"
    ⟨some (.ofLists [("fs#0", [("dev", "x")])]), none, true⟩ none (by decide)).1
      ⟨rfl, by decide +kernel⟩
  refine ⟨hcopied.1, hcopied.2.2.trans (by decide), hunwritten, ?_⟩
  have hissues : (unnamed.ready ⟨some (.ofLists [("fs#0", [("dev", "x")])]), none, true⟩
      "y").issues = [⟨⟨"fs#0", "dev"⟩, .unknownKeyword⟩] := by decide +kernel
  rwa [hissues] at hinvalid

/-! ## What an error leaves in memory -/

/-- **A commit that fails leaves the data that it worked on in memory**, those that it
took over included.  Without such data memory is as before exactly if there were no
metadata to drop and an identifier was set. -/
theorem store_of_failed_commit {error : CommitError}
    (h : (store.commit files newId options fault).result = .error error) :
    (store.commit files newId options fault).store = store.ready options newId ∧
      (store.commit files newId options fault).store.data.toLists =
        committedSections newId (store.taken options).toLists ∧
      (options.data = none →
        ((store.commit files newId options fault).store.data = store.data ↔
          metadataSection ∉ store.data.sectionNames ∧ lacksId store.data = false)) := by
  -- a commit without sections ends well before it prepares anything
  have hne : (store.taken options).isEmpty = false := by
    rw [← Bool.not_eq_true]
    intro hempty
    have hdata : (store.withData (options.data.getD store.data)).data.isEmpty = true := hempty
    unfold commit at h
    simp only [hdata, if_true] at h
    cases h
  rw [store_commit hne]
  refine ⟨rfl, toLists_prepared .., fun hown => ?_⟩
  have htaken : store.taken options = store.data := by rw [taken, hown, Option.getD_none]
  rw [ready, htaken]
  exact prepared_eq_self_iff

theorem store_of_failed_commit_unnamed :
    (unnamed.commit .empty "y" .standard (some .sync)).result = .error .unwritable ∧
      (unnamed.commit .empty "y" .standard (some .sync)).store.data.toLists =
        [("DEFAULT".toList, [("id".toList, "y".toList)]),
          ("env".toList, [("A".toList, "1".toList)])] := by
  have hresult : (unnamed.commit .empty "y" .standard (some .sync)).result =
      .error .unwritable := by decide +kernel
  exact ⟨hresult, (store_of_failed_commit hresult).2.1.trans (by decide)⟩

/-- Data that are taken over and found invalid take the place of those in memory. -/
theorem store_of_invalid_commit_unnamed :
    (unnamed.commit .empty "y" ⟨some (.ofLists [("DEFAULT", [("id", "z"), ("unknown", "1")])]),
        none, true⟩ none).result = .error (.invalid [⟨⟨"DEFAULT", "unknown"⟩, .unknownKeyword⟩]) ∧
      (unnamed.commit .empty "y" ⟨some (.ofLists [("DEFAULT", [("id", "z"), ("unknown", "1")])]),
        none, true⟩ none).store.data ≠ unnamed.data :=
  ⟨by decide +kernel, by decide +kernel⟩

end Store
end ScopedConfig

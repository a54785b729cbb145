import ScopedConfig.Proofs.Store.Agreement

/-! # Deleting sections

A deletion takes its sections out of memory at once, whatever becomes of the commit
after it (`not_mem_reached_of_delete`), but for the default section, which every commit
puts back.  The file follows if the commit is carried out.  Otherwise it stays behind, and
may still have the sections that are gone from memory: those that deletions have taken
out since the last one that was carried out (`lingering`).  The file never has any other
section that memory does not have (`Trails.deleteAll`).

So what is loaded after a deletion that succeeds has none of its sections if it found
one and left one, and else none of those that do not linger (`hasSection_after_deletions`).
-/
namespace ScopedConfig

namespace RawConfig

/-- Erasing sections keeps the others as they are and in order. -/
theorem toLists_eraseSections (raw : RawConfig) (names : List Text) :
    (raw.eraseSections names).1.toLists = raw.toLists.filter fun entry => entry.1 ∉ names := by
  induction names generalizing raw with
  | nil => simp [eraseSections]
  | cons name rest ih =>
    show ((raw.eraseSection name).eraseSections rest).1.toLists = _
    rw [ih, toLists_eraseSection, List.filter_filter]
    refine List.filter_congr fun entry _ => ?_
    rw [← Bool.decide_and, decide_eq_decide, List.mem_cons, not_or, and_comm]

theorem mem_sectionNames_eraseSections_iff {raw : RawConfig} {names : List Text} {name : Text} :
    name ∈ (raw.eraseSections names).1.sectionNames ↔ name ∈ raw.sectionNames ∧ name ∉ names := by
  rw [sectionNames_eq_map_toLists, sectionNames_eq_map_toLists, toLists_eraseSections,
    List.mem_map, List.mem_map]
  simp only [List.mem_filter, decide_eq_true_eq]
  constructor
  · rintro ⟨entry, ⟨hentry, hkept⟩, rfl⟩
    exact ⟨⟨entry, hentry, rfl⟩, hkept⟩
  · rintro ⟨⟨entry, hentry, rfl⟩, hkept⟩
    exact ⟨entry, ⟨hentry, hkept⟩, rfl⟩

/-- The number of sections erased is not zero exactly if one of them was there. -/
theorem count_eraseSections_eq_zero_iff {raw : RawConfig} {names : List Text} :
    (raw.eraseSections names).2 = 0 ↔ names.any raw.hasSection = false := by
  induction names generalizing raw with
  | nil => exact ⟨fun _ => rfl, fun _ => rfl⟩
  | cons name rest ih =>
    show (if raw.hasSection name then 1 else 0) + ((raw.eraseSection name).eraseSections rest).2 =
      0 ↔ _
    rw [List.any_cons]
    cases h : raw.hasSection name with
    | true => simp
    | false =>
      have hsame : raw.eraseSection name = raw := by
        refine eraseSection_of_not_mem fun hname => ?_
        rw [show raw.hasSection name = true from Dict.contains_iff.mpr hname] at h
        cases h
      rw [hsame, Bool.false_or, ← ih]
      simp

theorem Writable.eraseSections {raw : RawConfig} (h : raw.Writable) (names : List Text) :
    (raw.eraseSections names).1.Writable := by
  intro entry hentry
  rw [toLists_eraseSections] at hentry
  exact h entry (List.mem_filter.mp hentry).1

end RawConfig

namespace Store

/-- The default section and the identifier have names of the text format. -/
theorem writable_prepared {data : RawConfig} (h : data.Writable) (newId : Text) :
    (prepared data newId).Writable := by
  intro entry hentry
  rw [toLists_prepared] at hentry
  obtain ⟨⟨name, given⟩, hgiven, rfl⟩ := List.mem_map.mp hentry
  have hfits : IsSectionName name ∧ ∀ pair ∈ given, IsOptionName pair.1 := by
    unfold withDefault at hgiven
    split at hgiven
    · exact h _ (List.mem_filter.mp hgiven).1
    · rcases List.mem_cons.mp hgiven with hdefault | hrest
      · obtain ⟨rfl, rfl⟩ := Prod.mk.inj hdefault
        exact ⟨by decide, by simp⟩
      · exact h _ (List.mem_filter.mp hrest).1
  refine ⟨hfits.1, fun pair hpair => ?_⟩
  dsimp only at hpair
  split at hpair
  · unfold identified at hpair
    split at hpair
    · exact hfits.2 pair hpair
    · rcases List.mem_append.mp hpair with hold | hnew
      · exact hfits.2 pair hold
      · rw [List.mem_singleton.mp hnew]
        show IsOptionName idKey.option
        decide
  · exact hfits.2 pair hpair

end Store

/-- A deletion: the sections, the identifier held ready for its commit, and the step of
its write that fails, if any. -/
structure DeleteCall where
  names : List Text
  newId : Text
  fault : Option Fault

namespace KeptStore

variable {kept : KeptStore} {call : DeleteCall} {names : List Text} {name : Text}

/-! ## One deletion -/

/-- A deletion of sections of a store that is kept. -/
def delete (kept : KeptStore) (call : DeleteCall) : Commit :=
  kept.store.deleteSections kept.files call.newId call.names call.fault

/-- Whether one of the sections to delete is there. -/
def finds (kept : KeptStore) (call : DeleteCall) : Bool := call.names.any kept.store.data.hasSection

/-- The data without the sections to delete. -/
def remaining (kept : KeptStore) (call : DeleteCall) : RawConfig :=
  (kept.store.data.eraseSections call.names).1

/-- The store before the commit of a deletion. -/
def pruned (kept : KeptStore) (call : DeleteCall) : KeptStore :=
  ⟨kept.store.withData (kept.remaining call), kept.files⟩

theorem not_mem_of_not_finds (h : kept.finds call = false) :
    ∀ name ∈ call.names, name ∉ kept.store.data.sectionNames := fun name hname hmem =>
  List.any_eq_false.mp h name hname (Dict.contains_iff.mpr hmem)

/-- A deletion that finds no section does nothing. -/
theorem delete_of_not_finds (h : kept.finds call = false) :
    kept.delete call = ⟨kept.store, kept.files, false, [], false, .ok ()⟩ := by
  have hcount := RawConfig.count_eraseSections_eq_zero_iff.mpr h
  unfold delete Store.deleteSections
  split
  · rfl
  · next hsome hpair => exact absurd ((congrArg Prod.snd hpair).symm.trans hcount) hsome

theorem reached_of_not_finds (h : kept.finds call = false) : (kept.delete call).reached = kept := by
  rw [delete_of_not_finds h]
  rfl

/-- A deletion that finds a section is a commit of the others. -/
theorem delete_of_finds (h : kept.finds call = true) :
    kept.delete call = (kept.pruned call).commit ⟨none, call.newId, call.fault⟩ := by
  have hcount : (kept.store.data.eraseSections call.names).2 ≠ 0 := by
    intro hzero
    rw [finds, RawConfig.count_eraseSections_eq_zero_iff.mp hzero] at h
    cases h
  unfold delete Store.deleteSections
  split
  · next hpair => exact absurd (congrArg Prod.snd hpair) hcount
  · next hpair =>
    rw [pruned, remaining, hpair]
    rfl

/-- A deletion changes nothing of the store but its data. -/
theorem exists_store_delete (kept : KeptStore) (call : DeleteCall) :
    ∃ data, (kept.delete call).reached.store = kept.store.withData data := by
  cases h : kept.finds call with
  | true =>
    obtain ⟨data, hstore⟩ := Store.exists_store_commit (kept.pruned call).store kept.files
      call.newId .standard call.fault
    refine ⟨data, ?_⟩
    rw [delete_of_finds h]
    exact hstore
  | false => exact ⟨kept.store.data, by rw [reached_of_not_finds h]; rfl⟩

/-- What a deletion that finds a section leaves in memory: nothing at all, or the other
sections as a commit prepares them. -/
theorem data_of_finds (h : kept.finds call = true) :
    (kept.delete call).reached.store.data =
      if (kept.remaining call).isEmpty then kept.remaining call
      else Store.prepared (kept.remaining call) call.newId := by
  rw [delete_of_finds h]
  exact Store.data_commit (kept.pruned call).store kept.files call.newId .standard call.fault

/-- **A deletion takes its sections out of memory**, also if it fails; only the default
section may be there again. -/
theorem not_mem_reached_of_delete (hname : name ∈ call.names)
    (hne : name ≠ defaultSection) : name ∉ (kept.delete call).reached.store.data.sectionNames := by
  have hremaining : name ∉ (kept.remaining call).sectionNames := fun hmem =>
    (RawConfig.mem_sectionNames_eraseSections_iff.mp hmem).2 hname
  cases h : kept.finds call with
  | true =>
    rw [data_of_finds h]
    split
    · exact hremaining
    · rw [Store.mem_sectionNames_prepared_iff]
      rintro (hdefault | ⟨hmem, -⟩)
      · exact hne hdefault
      · exact hremaining hmem
  | false =>
    rw [reached_of_not_finds h]
    exact not_mem_of_not_finds h name hname

theorem writable_delete (h : kept.store.data.Writable) (call : DeleteCall) :
    (kept.delete call).reached.store.data.Writable := by
  have hremaining : (kept.remaining call).Writable := h.eraseSections call.names
  cases hfinds : kept.finds call with
  | true =>
    rw [data_of_finds hfinds]
    split
    · exact hremaining
    · exact Store.writable_prepared hremaining call.newId
  | false => rwa [reached_of_not_finds hfinds]

/-- Somebody is only told of a deletion that finds a section and leaves one. -/
theorem finds_and_leaves_of_notified (h : (kept.delete call).notified = true) :
    kept.finds call = true ∧ (kept.remaining call).isEmpty = false := by
  cases hfinds : kept.finds call with
  | false =>
    rw [delete_of_not_finds hfinds] at h
    cases h
  | true =>
    refine ⟨rfl, ?_⟩
    rw [← Bool.not_eq_true]
    intro hempty
    have hcommit : (kept.pruned call).commit ⟨none, call.newId, call.fault⟩ =
        ⟨(kept.pruned call).store, kept.files, false, [], false, .ok ()⟩ :=
      Store.commit_of_isEmpty hempty
    rw [delete_of_finds hfinds, hcommit] at h
    cases h

/-- A deletion that is carried out leaves the text of its data in the file. -/
theorem read_of_notified (hv : kept.store.owner.volatile = false)
    (h : (kept.delete call).notified = true) :
    (kept.delete call).files.read (kept.delete call).store.path =
      .text (kept.delete call).store.data.render := by
  obtain ⟨hfinds, hleaves⟩ := finds_and_leaves_of_notified h
  have hne : ((kept.pruned call).taken ⟨none, call.newId, call.fault⟩).isEmpty = false := hleaves
  rw [delete_of_finds hfinds] at h ⊢
  exact read_of_carriedOut hv hne (Store.carriedOut_of_notified hne h)

/-- A deletion that is not carried out leaves the file as it is. -/
theorem read_of_not_notified {path : FilePath} {t : Text}
    (h : (kept.delete call).notified = false) (hread : kept.files.read path = .text t) :
    (kept.delete call).files.read path = .text t := by
  cases hfinds : kept.finds call with
  | true =>
    rw [delete_of_finds hfinds] at h ⊢
    exact (Store.makesOnly_of_not_notified h).read_eq_text hread
  | false => rwa [delete_of_not_finds hfinds]

/-- A deletion that succeeds and leaves a section is carried out. -/
theorem notified_of_ok (h : kept.finds call = true)
    (hne : (kept.remaining call).isEmpty = false) (hok : (kept.delete call).result = .ok ()) :
    (kept.delete call).notified = true := by
  rw [delete_of_finds h] at hok ⊢
  have hne' : ((kept.pruned call).store.taken .standard).isEmpty = false := hne
  exact (Store.carriedOut_of_ok hne' hok).notified

/-! ## What the file still has -/

/-- The sections that a deletion takes out of memory. -/
def dropped (kept : KeptStore) (call : DeleteCall) : List Text :=
  kept.store.data.sectionNames.filter fun name =>
    !(kept.delete call).store.data.hasSection name

/-- The sections that may linger in the file after a deletion: none if it is carried out,
else those from before and those that it takes out of memory. -/
def lingeringAfter (kept : KeptStore) (before : List Text) (call : DeleteCall) : List Text :=
  if (kept.delete call).notified then [] else before ++ kept.dropped call

/-- **The file trails the memory**: it has the text of data whose sections are in memory but
for the names given, and the names both in memory and in the file are names of the text
format. -/
structure Trails (kept : KeptStore) (names : List Text) : Prop where
  persists : kept.store.owner.volatile = false
  writable : kept.store.data.Writable
  file : ∃ data : RawConfig, data.Writable ∧
    kept.files.read kept.store.path = .text data.render ∧
    ∀ name ∈ data.sectionNames, name ∈ kept.store.data.sectionNames ∨ name ∈ names

theorem mem_reached_or_dropped (h : name ∈ kept.store.data.sectionNames) (call : DeleteCall) :
    name ∈ (kept.delete call).store.data.sectionNames ∨ name ∈ kept.dropped call := by
  cases hhas : (kept.delete call).store.data.hasSection name with
  | true => exact .inl (Dict.contains_iff.mp hhas)
  | false => exact .inr (List.mem_filter.mpr ⟨h, by simp [hhas]⟩)

theorem Trails.delete (h : kept.Trails names) (call : DeleteCall) :
    (kept.delete call).reached.Trails (kept.lingeringAfter names call) := by
  obtain ⟨hv, hw, data, hdata, hread, hsections⟩ := h
  have hreached : (kept.delete call).store.data.Writable := writable_delete hw call
  obtain ⟨other, hstore⟩ := exists_store_delete kept call
  refine ⟨by rw [hstore]; exact hv, hreached, ?_⟩
  unfold lingeringAfter
  cases htold : (kept.delete call).notified with
  | true => exact ⟨_, hreached, read_of_notified hv htold, fun _ hname => .inl hname⟩
  | false =>
    refine ⟨data, hdata, ?_, fun name hname => ?_⟩
    · rw [hstore]
      exact read_of_not_notified htold hread
    -- what was in memory is there or has been taken out, and what lingered lingers on
    · rw [if_neg Bool.false_ne_true, List.mem_append]
      rcases hsections name hname with hmemory | hlingers
      · exact (mem_reached_or_dropped hmemory call).imp_right .inr
      · exact .inr (.inl hlingers)

/-- A file that trails the memory is loaded, and has no other sections. -/
theorem Trails.exists_load (h : kept.Trails names) (other : Store) :
    ∃ loaded, other.load kept.files kept.store.path = .ok loaded ∧
      ∀ name ∈ loaded.data.sectionNames,
        name ∈ kept.store.data.sectionNames ∨ name ∈ names := by
  obtain ⟨data, hdata, hread, hsections⟩ := h.file
  obtain ⟨loaded, hload, hlists⟩ := Store.exists_loadData_of_read hdata hread
  refine ⟨{ other with path := kept.store.path, data := loaded }, ?_, fun name hname => ?_⟩
  · rw [Store.load, hload]
    rfl
  · exact hsections name ((RawConfig.mem_sectionNames_of_toLists_eq hlists).mp hname)

/-! ## Runs of deletions -/

/-- The store and the files after deletions one after another. -/
def deleteAll (kept : KeptStore) (calls : List DeleteCall) : KeptStore :=
  calls.foldl (fun kept call => (kept.delete call).reached) kept

/-- **The sections that may linger in the file** after deletions one after another: those
that were taken out of memory since the last deletion that was carried out. -/
def lingering (kept : KeptStore) (before : List Text) : List DeleteCall → List Text
  | [] => before
  | call :: rest => (kept.delete call).reached.lingering (kept.lingeringAfter before call) rest

theorem lingering_concat (kept : KeptStore) (before : List Text) (calls : List DeleteCall)
    (call : DeleteCall) :
    kept.lingering before (calls ++ [call]) =
      (kept.deleteAll calls).lingeringAfter (kept.lingering before calls) call := by
  induction calls generalizing kept before with
  | nil => rfl
  | cons first rest ih => exact ih ..

/-- **The file trails the memory however many deletions fail**, by the sections that
linger. -/
theorem Trails.deleteAll (h : kept.Trails names) (calls : List DeleteCall) :
    (kept.deleteAll calls).Trails (kept.lingering names calls) := by
  induction calls generalizing kept names with
  | nil => exact h
  | cons call rest ih => exact ih (h.delete call)

theorem exists_store_deleteAll (kept : KeptStore) (calls : List DeleteCall) :
    ∃ data, (kept.deleteAll calls).store = kept.store.withData data :=
  exists_store_foldl exists_store_delete kept calls

/-- **What was deleted is not loaded again.**  In a run of deletions from a store whose
file has the text of its data, let one succeed.  Then the file is loaded.  If the deletion
found a section and left one, the file has none of the sections to delete but the default
section, whichever deletions failed before.  Otherwise it has none of them but the default
section and those that linger, since they were taken out of memory by a deletion that was
not carried out, and none has been since. -/
theorem hasSection_after_deletions {store : Store} {files : FileTree}
    (hv : store.owner.volatile = false)
    (hread : files.read store.path = .text store.data.render) (hw : store.data.Writable)
    (calls : List DeleteCall) (call : DeleteCall)
    (hok : ((deleteAll ⟨store, files⟩ calls).delete call).result = .ok ()) (other : Store) :
    ∃ loaded, other.load ((deleteAll ⟨store, files⟩ calls).delete call).files store.path =
        .ok loaded ∧
      ∀ name ∈ call.names, name ≠ defaultSection →
        (deleteAll ⟨store, files⟩ calls).finds call = true ∧
            ((deleteAll ⟨store, files⟩ calls).remaining call).isEmpty = false ∨
          name ∉ lingering ⟨store, files⟩ [] (calls ++ [call]) →
        loaded.data.hasSection name = false := by
  have hstart : Trails ⟨store, files⟩ [] := ⟨hv, hw, store.data, hw, hread, fun _ => .inl⟩
  have htrails := (hstart.deleteAll calls).delete call
  obtain ⟨data, hstore⟩ := exists_store_deleteAll ⟨store, files⟩ calls
  obtain ⟨last, hlast⟩ := exists_store_delete (deleteAll ⟨store, files⟩ calls) call
  have hpath : ((deleteAll ⟨store, files⟩ calls).delete call).reached.store.path = store.path := by
    rw [hlast, hstore]
    rfl
  obtain ⟨loaded, hload, hsections⟩ := htrails.exists_load other
  rw [hpath] at hload
  refine ⟨loaded, hload, fun name hname hne hcase => ?_⟩
  rw [← Bool.not_eq_true]
  intro hhas
  rcases hsections name (Dict.contains_iff.mp hhas) with hmemory | hlingers
  · exact not_mem_reached_of_delete hname hne hmemory
  rcases hcase with ⟨hfinds, hleaves⟩ | hsettled
  · rw [lingeringAfter, if_pos (notified_of_ok hfinds hleaves hok)] at hlingers
    cases hlingers
  · rw [lingering_concat] at hsettled
    exact hsettled hlingers

/-- A node with sections, and the file with their text. -/
def savedNode (sections : List (Text × List (Text × Text))) : KeptStore :=
  ⟨{ blankNode with data := .ofLists sections }, nodeFiles (RawConfig.ofLists sections).render⟩

/-- A node with an identifier, an environment and a label. -/
def labelledNode : KeptStore :=
  savedNode [("DEFAULT", [("id", "x")]), ("env", [("A", "1")]), ("labels", [("az", "eu")])]

/-- A deletion of the environment whose text cannot be put in the place of the file. -/
def failedDeletion : DeleteCall := ⟨["env"], "y", some .rename⟩

/-- A deletion of the label. -/
def labelDeletion : DeleteCall := ⟨["labels"], "y", none⟩

/-- A deletion of both sections. -/
def fullDeletion : DeleteCall := ⟨["env", "labels"], "y", none⟩

/-- The environment fails to be deleted, and is deleted together with the label.  If the
label has been deleted before, the same deletion finds neither of them and succeeds; then
the environment lingers, and the label does not. -/
theorem hasSection_after_deletions_labelledNode :
    labelledNode.store.owner.volatile = false ∧
      labelledNode.files.read labelledNode.store.path = .text labelledNode.store.data.render ∧
      labelledNode.store.data.Writable ∧
      (labelledNode.delete failedDeletion).result = .error .unwritable ∧
      ((labelledNode.deleteAll [failedDeletion]).delete fullDeletion).result = .ok () ∧
      (∃ loaded, blankNode.load ((labelledNode.deleteAll [failedDeletion]).delete
          fullDeletion).files labelledNode.store.path = .ok loaded ∧
        ∀ name ∈ fullDeletion.names, name ≠ defaultSection →
          loaded.data.hasSection name = false) ∧
      ((labelledNode.deleteAll [labelDeletion, failedDeletion]).delete
        fullDeletion).result = .ok () ∧
      labelledNode.lingering [] ([labelDeletion, failedDeletion] ++ [fullDeletion]) =
        ["env".toList] ∧
      ∃ loaded, blankNode.load ((labelledNode.deleteAll [labelDeletion, failedDeletion]).delete
          fullDeletion).files labelledNode.store.path = .ok loaded ∧
        loaded.data.hasSection "labels" = false := by
  have hread : labelledNode.files.read labelledNode.store.path =
      .text labelledNode.store.data.render := rfl
  have hw : labelledNode.store.data.Writable := by decide
  have hok : ((labelledNode.deleteAll [failedDeletion]).delete fullDeletion).result = .ok () := by
    decide +kernel
  have hok' : ((labelledNode.deleteAll [labelDeletion, failedDeletion]).delete
      fullDeletion).result = .ok () := by decide +kernel
  have hlingers : labelledNode.lingering [] ([labelDeletion, failedDeletion] ++ [fullDeletion]) =
      ["env".toList] := by decide +kernel
  obtain ⟨loaded, hload, hgone⟩ := hasSection_after_deletions rfl hread hw _ _ hok blankNode
  obtain ⟨loaded', hload', hgone'⟩ := hasSection_after_deletions rfl hread hw _ _ hok' blankNode
  refine ⟨rfl, hread, hw, by decide +kernel, hok, ⟨loaded, hload, fun name hname hne => ?_⟩,
    hok', hlingers, loaded', hload', ?_⟩
  · exact hgone name hname hne (.inl ⟨by decide +kernel, by decide +kernel⟩)
  · refine hgone' "labels" (by decide) (by decide) (.inr ?_)
    show "labels".toList ∉ labelledNode.lingering [] ([labelDeletion, failedDeletion] ++ _)
    rw [hlingers]
    decide

/-- A deletion that succeeds after others, and of whose sections one is loaded from the
file all the same. -/
def Resurfaces (kept : KeptStore) (calls : List DeleteCall) (call : DeleteCall) : Prop :=
  kept.store.owner.volatile = false ∧
    kept.files.read kept.store.path = .text kept.store.data.render ∧
    ((kept.deleteAll calls).delete call).result = .ok () ∧
    ∃ data, Store.loadData ((kept.deleteAll calls).delete call).files kept.store.path = .ok data ∧
      ∃ name ∈ call.names, name ∈ data.sectionNames

/-- Sections that a deletion leaves in the file: the default section, which is put back;
all of them, if it leaves none to commit; those that a deletion before it has taken out
of memory alone; and those that the text format reads under another name. -/
theorem resurfaces_labelledNode :
    labelledNode.Resurfaces [] ⟨["DEFAULT"], "y", none⟩ ∧
      labelledNode.Resurfaces [] ⟨["DEFAULT", "env", "labels"], "y", none⟩ ∧
      labelledNode.Resurfaces [⟨["env"], "y", some .rename⟩] ⟨["env"], "y", none⟩ ∧
      (savedNode [("DEFAULT", [("id", "x")]), (" env", [])]).Resurfaces []
        ⟨["env"], "y", none⟩ := by
  refine ⟨⟨rfl, rfl, ?_, ?_⟩, ⟨rfl, rfl, ?_, ?_⟩, ⟨rfl, rfl, ?_, ?_⟩, ⟨rfl, rfl, ?_, ?_⟩⟩
  · decide +kernel
  · exact ⟨.ofLists [("DEFAULT", [("id", "y")]), ("env", [("A", "1")]), ("labels", [("az", "eu")])],
      by decide +kernel, "DEFAULT", by decide, by decide⟩
  · decide +kernel
  · exact ⟨labelledNode.store.data, by decide +kernel, "env", by decide, by decide⟩
  · decide +kernel
  · exact ⟨labelledNode.store.data, by decide +kernel, "env", by decide, by decide⟩
  · decide +kernel
  · exact ⟨.ofLists [("DEFAULT", [("id", "x")]), ("env", [])], by decide +kernel, "env",
      by decide, by decide⟩

end KeptStore
end ScopedConfig

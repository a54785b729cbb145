import ScopedConfig.Proofs.Store.Run

/-! # The identifier of a configuration

A commit gives the data an identifier if they have none, and leaves it alone otherwise
(`identifier?_prepared`).  So do all requests that neither name the identifier nor delete
its section: it stays from the first moment on that it is there (`Request.SparesId.keeps`),
and then no commit generates another one (`generated_eq_nil`).

The data in memory are what a commit writes, the identifier included.  Whether a load gives
the identifier back is up to the text format: with names of that format it does unless
there is a carriage return before a line feed in the identifier (`identifier?_load_iff`),
and another name may bring another identifier in (`misnames_unsavedNode`).
-/
namespace ScopedConfig

namespace Store

variable {store : Store} {files : FileTree} {newId : Text} {options : CommitOptions}
  {fault : Option Fault} {data : RawConfig} {value : Text}

/-- The identifier of data. -/
def identifier? (data : RawConfig) : Option Text := data.get? idKey.sectionName idKey.option

theorem lacksId_eq (data : RawConfig) : lacksId data = (identifier? data).isNone := rfl

/-- Dropping the metadata and making the default section say nothing of the identifier. -/
theorem identifier?_started (data : RawConfig) :
    identifier? (withDefaultSection (data.eraseSection metadataSection)) = identifier? data := by
  have hne : idKey.sectionName ≠ metadataSection := by decide
  rw [identifier?, withDefaultSection, RawConfig.get?_ensureSectionFirst,
    RawConfig.get?_eraseSection, if_neg hne]
  rfl

/-- **A commit leaves the identifier of its data, or gives them one.** -/
theorem identifier?_prepared (data : RawConfig) (newId : Text) :
    identifier? (prepared data newId) = some ((identifier? data).getD newId) := by
  have hstarted := identifier?_started data
  unfold prepared
  dsimp only
  rw [lacksId_eq, hstarted]
  cases h : identifier? data with
  | none =>
    rw [identifier?, if_pos (by rfl), RawConfig.get?_set, if_pos ⟨rfl, rfl⟩]
    rfl
  | some value =>
    rw [if_neg (by simp), hstarted, h]
    rfl

@[simp] theorem usesId_writeOut {path : Option FilePath} {usesId : Bool}
    {warnings : List (Key × Text)} :
    (store.writeOut files path usesId warnings fault).usesId = usesId := by
  unfold writeOut
  dsimp only
  split
  · rfl
  · split <;> rfl

/-- A commit uses the identifier held ready for it exactly if its data have none. -/
theorem usesId_commit (hne : (store.taken options).isEmpty = false) :
    (store.commit files newId options fault).usesId =
      (identifier? (store.taken options)).isNone := by
  have hdata : (store.withData (options.data.getD store.data)).data.isEmpty = false := hne
  have hstarted : lacksId (withDefaultSection ((store.taken options).eraseSection
      metadataSection)) = (identifier? (store.taken options)).isNone := by
    rw [lacksId_eq, identifier?_started]
  unfold commit
  simp only [hdata, Bool.false_eq_true, if_false]
  split
  · split
    · exact usesId_writeOut.trans hstarted
    · exact hstarted
  · exact usesId_writeOut.trans hstarted

/-- **An identifier is generated for data that have none, and is theirs from then on.** -/
theorem identifier?_of_usesId (h : (store.commit files newId options fault).usesId = true) :
    identifier? (store.taken options) = none ∧
      identifier? (store.commit files newId options fault).store.data = some newId := by
  cases hempty : (store.taken options).isEmpty with
  | true =>
    rw [commit_of_isEmpty hempty] at h
    cases h
  | false =>
    rw [usesId_commit hempty, Option.isNone_iff_eq_none] at h
    refine ⟨h, ?_⟩
    rw [store_commit hempty]
    refine (identifier?_prepared ..).trans ?_
    rw [h, Option.getD_none]

/-- **The text of data with names of the format is loaded with the same identifier**
unless a carriage return of it is lost. -/
theorem identifier?_load_iff {path : FilePath} (hread : files.read path = .text data.render)
    (hw : data.Writable) (hid : identifier? data = some value) :
    (∃ loaded, loadData files path = .ok loaded ∧ identifier? loaded = some value) ↔
      ¬ ['\r', '\n'] <:+: value := by
  obtain ⟨read, hload, hlists⟩ := exists_loadData_of_read hw hread
  have hvalue : identifier? read = some (Text.dropReturns value) := by
    rw [identifier?, RawConfig.get?_of_toLists_eq hlists]
    exact congrArg _ hid
  rw [← Text.dropReturns_eq_self_iff]
  constructor
  · rintro ⟨loaded, hloaded, hsame⟩
    obtain rfl := Except.ok.inj (hload.symm.trans hloaded)
    exact Option.some.inj (hvalue.symm.trans hsame)
  · intro hkept
    exact ⟨read, hload, hvalue.trans (congrArg some hkept)⟩

end Store

/-- **What a commit of data with an identifier leaves in the files**: nothing new if it
tells nobody, else the text of the data, which is loaded with that identifier if the names
in them are names of the format and it has no carriage return before a line feed. -/
structure Commit.Records (commit : Commit) (files : FileTree) (path : FilePath) (value : Text) :
    Prop where
  idle : commit.notified = false → FileTree.SameFiles files commit.files
  carriedOut : commit.notified = true → commit.CarriedOut files path
  loaded : commit.notified = true → commit.store.owner.volatile = false →
    commit.store.data.Writable →
      ((∃ data, Store.loadData commit.files path = .ok data ∧
        Store.identifier? data = some value) ↔ ¬ ['\r', '\n'] <:+: value)

theorem Store.records_commit {store : Store} {files : FileTree} {newId : Text}
    {options : CommitOptions} {fault : Option Fault} {value : Text}
    (hid : identifier? (store.commit files newId options fault).store.data = some value) :
    (store.commit files newId options fault).Records files (store.target options) value := by
  cases hempty : (store.taken options).isEmpty with
  | true =>
    rw [commit_of_isEmpty hempty]
    exact ⟨fun _ => .refl files, nofun, nofun⟩
  | false =>
    refine ⟨fun hidle => (makesOnly_of_not_notified hidle).file?_eq,
      carriedOut_of_notified hempty, fun htold hv hw => ?_⟩
    have hkept : store.owner.volatile = false := by
      rw [store_commit hempty] at hv
      exact hv
    have hread := (read_of_carriedOut hkept hempty (carriedOut_of_notified hempty htold)).2
    exact identifier?_load_iff hread hw hid

/-! ## Requests that spare the identifier -/

/-- Whether a key names the identifier; no section stands for the default one. -/
def Key.IsIdentifier (key : Key) : Prop :=
  key.sectionOrDefault = Store.idKey.sectionName ∧ key.option = Store.idKey.option

instance (key : Key) : Decidable key.IsIdentifier := inferInstanceAs (Decidable (_ ∧ _))

/-- **A request that spares the identifier**: none of its mutations and of the keys to unset
names it, and the default section is not to be deleted. -/
structure Request.SparesId (request : Request) : Prop where
  mutation : ∀ op ∈ request.mutations, ¬ op.key.IsIdentifier
  removal : ∀ key ∈ request.removals, ¬ key.IsIdentifier
  deletion : Store.idKey.sectionName ∉ request.deletions

instance (request : Request) : Decidable request.SparesId :=
  decidable_of_iff
    ((∀ op ∈ request.mutations, ¬ op.key.IsIdentifier) ∧
      (∀ key ∈ request.removals, ¬ key.IsIdentifier) ∧ Store.idKey.sectionName ∉ request.deletions)
    ⟨fun ⟨hm, hr, hd⟩ => ⟨hm, hr, hd⟩, fun h => ⟨h.mutation, h.removal, h.deletion⟩⟩

/-- A mutation is for the default section only if its key is: the default section is no
resource of a group. -/
theorem RawConfig.sectionOrDefault_of_isTarget {raw : RawConfig} {op : KeyOp}
    (h : raw.IsTarget op Store.idKey.sectionName) :
    op.key.sectionOrDefault = Store.idKey.sectionName := by
  unfold IsTarget at h
  split at h
  · obtain ⟨-, index, -, hname⟩ := h
    have hmem : resourceSeparator ∈ Store.idKey.sectionName := by
      rw [hname]
      exact List.mem_append_right _ List.mem_cons_self
    exact absurd hmem (by decide)
  · exact h.symm

/-- **An identifier that is there stays.** -/
theorem Request.SparesId.keeps {request : Request} (h : request.SparesId) (value : Text) :
    request.Keeps fun raw => Store.identifier? raw = some value where
  mutation op hop raw changed count hraw hmutated := by
    refine (hmutated.frame _ _ fun ⟨htarget, hoption⟩ => ?_).trans hraw
    exact h.mutation op hop ⟨RawConfig.sectionOrDefault_of_isTarget htarget, hoption.symm⟩
  removal key hkey raw hraw := by
    have hother : ¬ (Store.idKey.sectionName = key.sectionOrDefault ∧
        Store.idKey.option = key.option) :=
      fun ⟨hsection, hoption⟩ => h.removal key hkey ⟨hsection.symm, hoption.symm⟩
    rw [Store.identifier?, RawConfig.get?_erase, if_neg hother]
    exact hraw
  deletion name hname raw hraw := by
    have hother : Store.idKey.sectionName ≠ name := by
      rintro rfl
      exact h.deletion hname
    rw [Store.identifier?, RawConfig.get?_eraseSection, if_neg hother]
    exact hraw
  preparation raw newId hraw := by
    rw [Store.identifier?_prepared, hraw, Option.getD_some]

namespace KeptStore

variable {kept : KeptStore} {call : StoreCall} {calls : List StoreCall} {value : Text}

/-! ## Identifiers that are generated -/

/-- Whether a request uses the identifier held ready for it. -/
def usesId (kept : KeptStore) (call : StoreCall) : Bool := (kept.commit? call).any Commit.usesId

/-- The identifiers that are generated in a run, in order. -/
def generated (kept : KeptStore) : List StoreCall → List Text
  | [] => []
  | call :: rest =>
    if kept.usesId call then call.newId :: (kept.perform call).generated rest
    else (kept.perform call).generated rest

theorem identifier?_of_usesId (h : kept.usesId call = true) :
    Store.identifier? (call.request.changed kept.store.data) = none ∧
      Store.identifier? (kept.perform call).store.data = some call.newId := by
  obtain ⟨commit, hcommit, huses⟩ := (Option.any_eq_true ..).mp h
  rw [perform_of_commit? hcommit]
  rcases commit?_cases hcommit with ⟨-, rfl⟩ | rfl
  · cases huses
  · have hgenerated := Store.identifier?_of_usesId huses
    rwa [Request.taken_options] at hgenerated

/-- Data with an identifier are given no other one. -/
theorem generated_eq_nil (h : ∀ call ∈ calls, call.request.SparesId)
    (hid : Store.identifier? kept.store.data = some value) : kept.generated calls = [] := by
  induction calls generalizing kept with
  | nil => rfl
  | cons call rest ih =>
    obtain ⟨hcall, hrest⟩ := List.forall_mem_cons.mp h
    have hunused : kept.usesId call = false := by
      rw [← Bool.not_eq_true]
      intro huses
      have hnone := (identifier?_of_usesId huses).1
      rw [(hcall.keeps value).changed hid] at hnone
      cases hnone
    rw [generated, hunused, if_neg Bool.false_ne_true]
    exact ih hrest ((hcall.keeps value).perform hid)

/-- **At most one identifier is generated.** -/
theorem length_generated_le_one (h : ∀ call ∈ calls, call.request.SparesId) :
    (kept.generated calls).length ≤ 1 := by
  induction calls generalizing kept with
  | nil => exact Nat.zero_le 1
  | cons call rest ih =>
    obtain ⟨-, hrest⟩ := List.forall_mem_cons.mp h
    rw [generated]
    split
    · next huses =>
      rw [generated_eq_nil hrest (identifier?_of_usesId huses).2]
      exact Nat.le_refl 1
    · exact ih hrest

/-- What a commit of a request leaves in the files. -/
theorem records_of_commit? {commit : Commit} (h : kept.commit? call = some commit)
    (hid : Store.identifier? (kept.perform call).store.data = some value) :
    commit.Records kept.files (kept.store.target call.request.options) value := by
  rw [perform_of_commit? h] at hid
  rcases commit?_cases h with ⟨-, rfl⟩ | rfl
  · exact ⟨fun _ => .refl kept.files, nofun, nofun⟩
  · exact Store.records_commit hid

/-- **The identifier of a configuration is generated once and stays.**  In a run of
requests that spare it at most one is generated; from the moment on that one is there, it
is in memory after every request.  Each commit of the run that is carried out writes the
text of the data in memory, if they are kept in a file; with names of the text format they
are loaded with the same identifier exactly if that has no carriage return before a line
feed. -/
theorem identifier_stays (kept : KeptStore) (h : ∀ call ∈ calls, call.request.SparesId) :
    (kept.generated calls).length ≤ 1 ∧
      (∀ earlier between later value, calls = earlier ++ between ++ later →
        Store.identifier? (kept.performAll earlier).store.data = some value →
        Store.identifier? (kept.performAll (earlier ++ between)).store.data = some value) ∧
      ∀ earlier call later commit value, calls = earlier ++ call :: later →
        (kept.performAll earlier).commit? call = some commit →
        Store.identifier? (kept.performAll (earlier ++ [call])).store.data = some value →
        commit.Records (kept.performAll earlier).files
          ((kept.performAll earlier).store.target call.request.options) value := by
  refine ⟨length_generated_le_one h, ?_, ?_⟩
  · rintro earlier between later value rfl hid
    have hkeeps : ∀ call ∈ between,
        call.request.Keeps fun raw => Store.identifier? raw = some value := fun call hcall =>
      (h call (List.mem_append_left later (List.mem_append_right earlier hcall))).keeps value
    rw [performAll_append]
    exact performAll_induction hkeeps hid
  · intro earlier call later commit value _ hcommit hid
    rw [performAll_append] at hid
    exact records_of_commit? hcommit hid

/-- A node that has not been written to its file. -/
def unsavedNode (sections : List (Text × List (Text × Text))) : KeptStore :=
  ⟨{ blankNode with data := .ofLists sections }, .empty⟩

/-- A commit that is not written, after which the only section is deleted. -/
def namingCalls : List StoreCall :=
  [⟨.commit none true, blankNode.owner, "x", some .rename⟩,
    ⟨.set ⟨⟨"env", "id"⟩, .set, "z", 0⟩, blankNode.owner, "y", none⟩,
    ⟨.delete ["env"], blankNode.owner, "y", none⟩]

/-- The identifier that a commit generates before it fails is the one that a deletion
writes. -/
theorem identifier_stays_unsavedNode :
    (∀ call ∈ namingCalls, call.request.SparesId) ∧
      (unsavedNode [("env", [("A", "1")])]).generated namingCalls = ["x".toList] ∧
      ((unsavedNode [("env", [("A", "1")])]).generated namingCalls).length ≤ 1 ∧
      ∃ data, Store.loadData ((unsavedNode [("env", [("A", "1")])]).performAll namingCalls).files
          "/etc/node.conf" = .ok data ∧ Store.identifier? data = some "x" := by
  have hspares : ∀ call ∈ namingCalls, call.request.SparesId := by decide
  obtain ⟨hone, hstays, hrecords⟩ :=
    identifier_stays (unsavedNode [("env", [("A", "1")])]) hspares
  have hid := hstays (namingCalls.take 1) (namingCalls.drop 1) [] "x" rfl (by decide +kernel)
  have hcommit := hrecords (namingCalls.take 2) _ [] _ "x" rfl rfl hid
  refine ⟨hspares, by decide +kernel, hone, ?_⟩
  exact (hcommit.loaded (by decide +kernel) rfl (by decide +kernel)).mpr (by decide)

/-- A run that spares an identifier, after which another one is loaded. -/
def Misnames (kept : KeptStore) (calls : List StoreCall) (value : Text) : Prop :=
  (∀ call ∈ calls, call.request.SparesId) ∧
    Store.identifier? kept.store.data = some value ∧
    ∃ data other, Store.loadData (kept.performAll calls).files kept.store.path = .ok data ∧
      Store.identifier? data = some other ∧ other ≠ value

/-- Identifiers that are not loaded as they were committed: one with a carriage return
before a line feed, and one beside an option of a free section whose name the text format
reads as three lines, the last of which is another identifier. -/
theorem misnames_unsavedNode :
    (unsavedNode [("DEFAULT", [("id", "x\r\ny")])]).Misnames
        [⟨.commit none true, blankNode.owner, "z", none⟩] "x\r\ny" ∧
      (unsavedNode [("DEFAULT", [("id", "x")])]).Misnames
        [⟨.set ⟨⟨"env", "a=b\n[DEFAULT]\nid"⟩, .set, "y", 0⟩, blankNode.owner, "z", none⟩,
          ⟨.commit none true, blankNode.owner, "z", none⟩] "x" := by
  refine ⟨⟨by decide, rfl, ?_⟩, ⟨by decide, rfl, ?_⟩⟩
  · exact ⟨.ofLists [("DEFAULT", [("id", "x\ny")])], "x\ny", by decide +kernel, by decide,
      by decide⟩
  · exact ⟨.ofLists [("DEFAULT", [("id", "y")]), ("env", [("a", "b")])], "y", by decide +kernel,
      by decide, by decide⟩

end KeptStore
end ScopedConfig

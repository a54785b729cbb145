import ScopedConfig.Proofs.Store.Durability

/-! # Memory and file

A store is kept in a file.  The two agree if the file has the text of the data in
memory; no data in memory also agree with a file that is missing or has no section.
So a store agrees with the file that it was loaded from as long as both are without
sections, and with any file that it was written to.

A commit that succeeds has written its data if they have a section, whatever failed
before it.  Without a section it succeeds too, and writes nothing, so that then memory
and file only agree if the file had no section (`agrees_after_commits`).  A run of
commits comes to that only by taking over data without sections.
-/
namespace ScopedConfig

/-- A store together with the files, one of which it is kept in. -/
structure KeptStore where
  store : Store
  files : FileTree

/-- The store and the files that a commit leaves. -/
def Commit.reached (commit : Commit) : KeptStore := ⟨commit.store, commit.files⟩

/-- A validating commit to the file of the store: the data that it takes over, if any,
the identifier held ready for it, and the step of its write that fails, if any. -/
structure CommitCall where
  data : Option RawConfig
  newId : Text
  fault : Option Fault

namespace CommitCall

/-- What the commit is asked to do. -/
def options (call : CommitCall) : CommitOptions := { CommitOptions.standard with data := call.data }

/-- Whether the data that are taken over, if any, have a section. -/
def BringsSections (call : CommitCall) : Prop :=
  ∀ data, call.data = some data → data.isEmpty = false

end CommitCall

namespace KeptStore

variable {kept : KeptStore} {call : CommitCall}

/-- **Memory and file agree**: the file has the text of the data, or there are no data
and the file is missing or has no section either. -/
def Agrees (kept : KeptStore) : Prop :=
  kept.files.read kept.store.path = .text kept.store.data.render ∨
    kept.store.data.isEmpty = true ∧ Store.loadData kept.files kept.store.path = .ok .empty

/-- No data in memory agree with a file that has none. -/
theorem agrees_iff_of_isEmpty (h : kept.store.data.isEmpty = true) :
    kept.Agrees ↔ Store.loadData kept.files kept.store.path = .ok .empty := by
  constructor
  · rintro (hread | ⟨-, hload⟩)
    · rw [RawConfig.isEmpty_iff.mp h] at hread
      rw [Store.loadData, hread]
      rfl
    · exact hload
  · intro hload
    exact .inr ⟨h, hload⟩

/-! ## One commit -/

/-- A commit of a store that is kept. -/
def commit (kept : KeptStore) (call : CommitCall) : Commit :=
  kept.store.commit kept.files call.newId call.options call.fault

/-- The data that a commit is about: those that it takes over, else those in memory. -/
def taken (kept : KeptStore) (call : CommitCall) : RawConfig := kept.store.taken call.options

/-- A commit that is carried out leaves the text of its data in the file. -/
theorem read_of_carriedOut (hv : kept.store.owner.volatile = false)
    (hne : (kept.taken call).isEmpty = false)
    (h : (kept.commit call).CarriedOut kept.files (kept.store.target call.options)) :
    (kept.commit call).files.read (kept.commit call).store.path =
      .text (kept.commit call).store.data.render := by
  obtain ⟨data, hstore⟩ := Store.exists_store_commit kept.store kept.files call.newId call.options
    call.fault
  have hpath : (kept.commit call).store.path = kept.store.path := by
    rw [commit, hstore]
    rfl
  obtain ⟨-, hread⟩ := Store.read_of_carriedOut hv hne h
  rw [hpath]
  exact hread

/-- A commit without a section takes over the data and leaves the files alone. -/
theorem reached_of_isEmpty (h : (kept.taken call).isEmpty = true) :
    (kept.commit call).reached = ⟨kept.store.withData (kept.taken call), kept.files⟩ := by
  have hcommit : kept.commit call = ⟨kept.store.withData (kept.taken call), kept.files, false, [],
      false, .ok ()⟩ := Store.commit_of_isEmpty h
  rw [hcommit]
  rfl

/-- **What a commit that succeeds says of memory and file**: they agree if it was about
a section, else only if the file has none. -/
theorem agrees_reached_iff (hv : kept.store.owner.volatile = false)
    (hok : (kept.commit call).result = .ok ()) :
    (kept.commit call).reached.Agrees ↔
      (kept.taken call).isEmpty = false ∨
        Store.loadData kept.files kept.store.path = .ok .empty := by
  cases h : (kept.taken call).isEmpty with
  | false =>
    have hread := read_of_carriedOut hv h (Store.carriedOut_of_ok h hok)
    exact ⟨fun _ => .inl rfl, fun _ => .inl hread⟩
  | true =>
    have hreached := reached_of_isEmpty h
    have hempty : (kept.commit call).reached.store.data.isEmpty = true := by
      rw [hreached]
      exact h
    rw [agrees_iff_of_isEmpty hempty, hreached]
    constructor
    · exact .inr
    · rintro (hfalse | hload)
      · cases hfalse
      · exact hload

/-! ## Runs of commits -/

/-- A run of calls changes nothing of the store but its data if no call does. -/
theorem exists_store_foldl {γ : Type} {step : KeptStore → γ → KeptStore}
    (hstep : ∀ kept call, ∃ data, (step kept call).store = kept.store.withData data)
    (kept : KeptStore) (calls : List γ) :
    ∃ data, (calls.foldl step kept).store = kept.store.withData data := by
  induction calls generalizing kept with
  | nil => exact ⟨kept.store.data, rfl⟩
  | cons call rest ih =>
    obtain ⟨first, hfirst⟩ := hstep kept call
    obtain ⟨data, hdata⟩ := ih (step kept call)
    rw [hfirst] at hdata
    exact ⟨data, hdata⟩

/-- The store and the files after commits one after another. -/
def commitAll (kept : KeptStore) (calls : List CommitCall) : KeptStore :=
  calls.foldl (fun kept call => (kept.commit call).reached) kept

/-- Commits change nothing of the store but its data. -/
theorem exists_store_commitAll (kept : KeptStore) (calls : List CommitCall) :
    ∃ data, (kept.commitAll calls).store = kept.store.withData data :=
  exists_store_foldl (fun kept call => Store.exists_store_commit kept.store kept.files call.newId
    call.options call.fault) kept calls

/-- Whether the file has no section as long as there is none in memory. -/
def LacksAlike (kept : KeptStore) : Prop :=
  kept.store.data.isEmpty = true → Store.loadData kept.files kept.store.path = .ok .empty

/-- A commit only leaves no section in memory if there was none, unless it takes over
data without sections. -/
theorem LacksAlike.commit (h : kept.LacksAlike) (hcall : call.BringsSections) :
    (kept.commit call).reached.LacksAlike := by
  intro hempty
  cases htaken : (kept.taken call).isEmpty with
  | true =>
    rw [reached_of_isEmpty htaken]
    refine h ?_
    cases hdata : call.data with
    | none =>
      have hown : kept.taken call = kept.store.data := by
        show call.data.getD kept.store.data = kept.store.data
        rw [hdata, Option.getD_none]
      rwa [hown] at htaken
    | some data =>
      have hbrought : kept.taken call = data := by
        show call.data.getD kept.store.data = data
        rw [hdata, Option.getD_some]
      rw [hbrought, hcall data hdata] at htaken
      cases htaken
  | false =>
    -- what is prepared has a default section in any case
    have hstore : (kept.commit call).reached.store = kept.store.ready call.options call.newId :=
      Store.store_commit htaken
    have hdefault : defaultSection ∈ (kept.commit call).reached.store.data.sectionNames := by
      rw [hstore]
      exact Store.mem_sectionNames_prepared_iff.mpr (.inl rfl)
    rw [RawConfig.isEmpty_eq_false_of_mem hdefault] at hempty
    cases hempty

theorem LacksAlike.commitAll {calls : List CommitCall} (h : kept.LacksAlike)
    (hcalls : ∀ call ∈ calls, call.BringsSections) : (kept.commitAll calls).LacksAlike := by
  induction calls generalizing kept with
  | nil => exact h
  | cons call rest ih =>
    obtain ⟨hcall, hrest⟩ := List.forall_mem_cons.mp hcalls
    exact ih (h.commit hcall) hrest

/-- **After a commit that succeeds memory and file agree exactly if the data that it was
about have a section, or the file has none.**  That is so after every commit that
succeeds in a run that starts with a load and takes over no data without sections,
whichever commits fail on the way. -/
theorem agrees_after_commits {fresh store : Store} {files : FileTree} {path : FilePath}
    (hload : fresh.load files path = .ok store) (hv : store.owner.volatile = false)
    (calls : List CommitCall) (call : CommitCall)
    (hok : ((commitAll ⟨store, files⟩ calls).commit call).result = .ok ()) :
    (((commitAll ⟨store, files⟩ calls).commit call).reached.Agrees ↔
      ((commitAll ⟨store, files⟩ calls).taken call).isEmpty = false ∨
        Store.loadData (commitAll ⟨store, files⟩ calls).files store.path = .ok .empty) ∧
    ((∀ other ∈ calls ++ [call], other.BringsSections) →
      ((commitAll ⟨store, files⟩ calls).commit call).reached.Agrees) := by
  obtain ⟨data, hstore⟩ := exists_store_commitAll ⟨store, files⟩ calls
  have hpath : (commitAll ⟨store, files⟩ calls).store.path = store.path := by rw [hstore]; rfl
  have hkept : (commitAll ⟨store, files⟩ calls).store.owner.volatile = false := by
    rw [hstore]
    exact hv
  have hiff := agrees_reached_iff hkept hok
  rw [hpath] at hiff
  refine ⟨hiff, fun hcalls => ?_⟩
  -- what was loaded is what the file has
  have hstart : LacksAlike ⟨store, files⟩ := by
    intro hempty
    unfold Store.load at hload
    cases hdata : Store.loadData files path with
    | error e =>
      rw [hdata] at hload
      cases hload
    | ok loaded =>
      rw [hdata] at hload
      obtain rfl := Except.ok.inj hload
      have hnone : loaded = .empty := RawConfig.isEmpty_iff.mp hempty
      exact hdata.trans (congrArg Except.ok hnone)
  obtain ⟨hearlier, hlast⟩ := List.forall_mem_append.mp hcalls
  have hlacks := hstart.commitAll hearlier
  rw [hiff]
  by_cases hne : ((commitAll ⟨store, files⟩ calls).taken call).isEmpty = false
  · exact .inl hne
  · right
    rw [Bool.not_eq_false] at hne
    have hafter := hlacks.commit (hlast call (List.mem_singleton.mpr rfl))
    rw [reached_of_isEmpty hne] at hafter
    rw [← hpath]
    exact hafter hne

/-- A node without keywords. -/
def blankNode : Store where
  path := "/etc/node.conf"
  data := .empty
  owner := ⟨.node, .empty, [], [], [], [], false⟩
  agent := .default

/-- A commit that takes over an option, fails to write it, and is made again. -/
theorem agrees_after_commits_blankNode :
    blankNode.load .empty "/etc/node.conf" = .ok blankNode ∧ blankNode.owner.volatile = false ∧
      (commit ⟨blankNode, .empty⟩ ⟨some (.ofLists [("env", [("A", "1")])]), "x",
        some .sync⟩).result = .error .unwritable ∧
      ((commitAll ⟨blankNode, .empty⟩ [⟨some (.ofLists [("env", [("A", "1")])]), "x",
        some .sync⟩]).commit ⟨none, "y", none⟩).result = .ok () ∧
      ((commitAll ⟨blankNode, .empty⟩ [⟨some (.ofLists [("env", [("A", "1")])]), "x",
        some .sync⟩]).commit ⟨none, "y", none⟩).reached.Agrees := by
  have hload : blankNode.load .empty "/etc/node.conf" = .ok blankNode := rfl
  have hok : ((commitAll ⟨blankNode, .empty⟩ [⟨some (.ofLists [("env", [("A", "1")])]), "x",
      some .sync⟩]).commit ⟨none, "y", none⟩).result = .ok () := by decide +kernel
  refine ⟨hload, rfl, by decide +kernel, hok, ?_⟩
  refine (agrees_after_commits hload rfl _ _ hok).2 fun other hother data hdata => ?_
  rcases List.mem_cons.mp hother with rfl | hlast
  · obtain rfl := Option.some.inj hdata
    decide
  · obtain rfl := List.mem_singleton.mp hlast
    cases hdata

/-- The files of a node whose configuration has a text. -/
def nodeFiles (text : Text) : FileTree :=
  (FileTree.empty.put ["etc".toList] .directory).put ["etc".toList, "node.conf".toList]
    (.file (.text text))

/-- The files of a node with an identifier. -/
def savedFiles : FileTree := nodeFiles "[DEFAULT]\nid = x\n"

/-- A commit that takes over no section succeeds and leaves the old sections in the
file. -/
theorem not_agrees_after_commit_savedFiles :
    ∃ saved, blankNode.load savedFiles "/etc/node.conf" = .ok saved ∧
      saved.owner.volatile = false ∧
      (commit ⟨saved, savedFiles⟩ ⟨some .empty, "y", none⟩).result = .ok () ∧
      (commit ⟨saved, savedFiles⟩ ⟨some .empty, "y", none⟩).reached.files.read
        "/etc/node.conf" = .text "[DEFAULT]\nid = x\n" ∧
      ¬ (commit ⟨saved, savedFiles⟩ ⟨some .empty, "y", none⟩).reached.Agrees := by
  have hdata : Store.loadData savedFiles "/etc/node.conf" =
      .ok (.ofLists [("DEFAULT", [("id", "x")])]) := by decide +kernel
  refine ⟨{ blankNode with data := .ofLists [("DEFAULT", [("id", "x")])] }, ?_, rfl, rfl, rfl, ?_⟩
  · rw [Store.load, hdata]
    rfl
  · rw [agrees_iff_of_isEmpty rfl]
    decide +kernel

end KeptStore
end ScopedConfig

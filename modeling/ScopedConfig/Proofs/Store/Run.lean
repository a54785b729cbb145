import ScopedConfig.Proofs.Store.MutationEffect
import ScopedConfig.Proofs.Store.SectionDeletion

/-! # Runs of requests

Whatever a request asks of a store, and however it ends, it makes a few changes of the
data in memory: mutations that succeed, keys and sections that are taken out, and what
prepares the data for a commit.  So what these changes leave true (`Request.Keeps`) is
true after every request (`Request.Keeps.perform`), and of all requests of a run after
the run (`KeptStore.performAll_induction`).  The requests of a session are requests of this
sort, whose owner stays and whose writes only fail for what the files are
(`Session.kept_respond`).

Two of these changes make sections.  The preparation makes the default section.  A
mutation makes the section of its key, unless that is the name of a driver group: then
it is for the resources that are there.  So each section that a run leaves has been there
before or is one of these (`mem_sectionNames_performAll`), and none becomes a driver
group (`not_group_of_performAll`).
-/
namespace ScopedConfig

/-! ## What mutations, removals and deletions leave true -/

namespace RawConfig

variable {raw : RawConfig} {P : RawConfig → Prop}

theorem applyAll_induction {ops : List KeyOp}
    (h : ∀ op ∈ ops, ∀ raw changed count, P raw → Mutated op raw changed count → P changed)
    (hraw : P raw) (count : Nat) : P (raw.applyAll count ops).1 := by
  induction ops generalizing raw count with
  | nil => exact hraw
  | cons op rest ih =>
    obtain ⟨hop, hrest⟩ := List.forall_mem_cons.mp h
    unfold applyAll
    split
    · next changed n happly =>
      exact ih hrest (hop raw changed n hraw (mutated_of_apply_ok happly)) _
    · exact hraw

theorem unset_induction {keys : List Key}
    (h : ∀ key ∈ keys, ∀ raw, P raw → P (raw.erase key.sectionOrDefault key.option))
    (hraw : P raw) : P (raw.unset keys).1 := by
  induction keys generalizing raw with
  | nil => exact hraw
  | cons key rest ih =>
    obtain ⟨hkey, hrest⟩ := List.forall_mem_cons.mp h
    exact ih hrest (hkey raw hraw)

theorem eraseSections_induction {names : List Text}
    (h : ∀ name ∈ names, ∀ raw, P raw → P (raw.eraseSection name)) (hraw : P raw) :
    P (raw.eraseSections names).1 := by
  induction names generalizing raw with
  | nil => exact hraw
  | cons name rest ih =>
    obtain ⟨hname, hrest⟩ := List.forall_mem_cons.mp h
    exact ih hrest (hname raw hraw)

theorem eraseSections_of_not_mem {names : List Text} (h : ∀ name ∈ names, name ∉ raw.sectionNames) :
    (raw.eraseSections names).1 = raw := by
  have hsame : ∀ name ∈ names, ∀ other, other = raw → other.eraseSection name = raw := by
    rintro name hname _ rfl
    exact eraseSection_of_not_mem (h name hname)
  exact eraseSections_induction hsame rfl

end RawConfig

/-! ## Requests -/

/-- What is asked of a store: to mutate it once or several times, to unset keys, to
delete sections, or to commit, to another file than its own and without validation if so
desired. -/
inductive Request where
  | set (op : KeyOp)
  | setAll (ops : List KeyOp)
  | unset (keys : List Key)
  | delete (names : List Text)
  | commit (path : Option FilePath) (validate : Bool)

namespace Request

/-- The mutations that are asked for. -/
def mutations : Request → List KeyOp
  | set op => [op]
  | setAll ops => ops
  | unset _ | delete _ | commit _ _ => []

/-- The keys to unset. -/
def removals : Request → List Key
  | unset keys => keys
  | set _ | setAll _ | delete _ | commit _ _ => []

/-- The sections to delete. -/
def deletions : Request → List Text
  | delete names => names
  | set _ | setAll _ | unset _ | commit _ _ => []

/-- How a request commits. -/
def options : Request → CommitOptions
  | commit path validate => ⟨none, path, validate⟩
  | set _ | setAll _ | unset _ | delete _ => .standard

/-- A request brings no other data. -/
theorem taken_options (request : Request) (store : Store) :
    store.taken request.options = store.data := by
  cases request <;> rfl

/-- What a request makes of the data before any commit. -/
def changed (raw : RawConfig) : Request → RawConfig
  | set op =>
    match raw.apply op with
    | .ok (changed, _) => changed
    | .error _ => raw
  | setAll ops => (raw.applyAll 0 ops).1
  | unset keys => (raw.unset keys).1
  | delete names => (raw.eraseSections names).1
  | commit _ _ => raw

/-- **What the changes that a request may make leave true.** -/
structure Keeps (request : Request) (P : RawConfig → Prop) : Prop where
  mutation : ∀ op ∈ request.mutations, ∀ raw changed count,
    P raw → RawConfig.Mutated op raw changed count → P changed
  removal : ∀ key ∈ request.removals, ∀ raw,
    P raw → P (raw.erase key.sectionOrDefault key.option)
  deletion : ∀ name ∈ request.deletions, ∀ raw, P raw → P (raw.eraseSection name)
  preparation : ∀ raw newId, P raw → P (Store.prepared raw newId)

theorem Keeps.changed {request : Request} {P : RawConfig → Prop} {raw : RawConfig}
    (h : request.Keeps P) (hraw : P raw) : P (request.changed raw) := by
  cases request with
  | set op =>
    simp only [Request.changed]
    split
    · next changed count happly =>
      exact h.mutation op List.mem_cons_self raw changed count hraw
        (RawConfig.mutated_of_apply_ok happly)
    · exact hraw
  | setAll ops => exact RawConfig.applyAll_induction h.mutation hraw 0
  | unset keys => exact RawConfig.unset_induction h.removal hraw
  | delete names => exact RawConfig.eraseSections_induction h.deletion hraw
  | commit => exact hraw

end Request

/-- A request as it meets the world: the owner as it answers then, which may refuse a
commit once and accept the next, the identifier held ready, and the step of a write that
fails, if any. -/
structure StoreCall where
  request : Request
  owner : Owner
  newId : Text
  fault : Option Fault

namespace KeptStore

/-! ## One request -/

/-- The store as a request finds it. -/
def present (kept : KeptStore) (call : StoreCall) : KeptStore :=
  ⟨{ kept.store with owner := call.owner }, kept.files⟩

/-- The commit that a request comes to, if it is one to commit or to delete. -/
def commit? (kept : KeptStore) (call : StoreCall) : Option Commit :=
  match call.request with
  | .set _ | .setAll _ | .unset _ => none
  | .delete names => some ((kept.present call).delete ⟨names, call.newId, call.fault⟩)
  | .commit path validate =>
    some ((kept.present call).store.commit kept.files call.newId ⟨none, path, validate⟩ call.fault)

/-- The store and the files after a request. -/
def perform (kept : KeptStore) (call : StoreCall) : KeptStore :=
  match kept.commit? call with
  | some commit => commit.reached
  | none => ⟨(kept.present call).store.withData (call.request.changed kept.store.data), kept.files⟩

theorem perform_of_commit? {kept : KeptStore} {call : StoreCall} {commit : Commit}
    (h : kept.commit? call = some commit) : kept.perform call = commit.reached := by
  rw [perform, h]

end KeptStore

namespace Session

/-! ## Requests of a session -/

/-- A store of a session with the files. -/
def kept (session : Session) (target : Target) : KeptStore :=
  ⟨(session.member target).store, session.files⟩

/-- The session after a request to a store. -/
def respond (session : Session) (target : Target) : Request → Session
  | .set op => (session.apply target op).1
  | .setAll ops => (session.applyAll target ops).1
  | .unset keys => (session.unset target keys).1
  | .delete names => session.conclude target (session.deleteSections target names)
  | .commit path validate => session.conclude target (session.commit target ⟨none, path, validate⟩)

/-- A request as a session makes it, where no write fails but for the files. -/
def call (session : Session) (target : Target) (request : Request) : StoreCall :=
  ⟨request, (session.member target).store.owner, session.ids.current, none⟩

theorem kept_withData (session : Session) (target : Target) (data : RawConfig) :
    (session.withData target data).kept target =
      ⟨(session.member target).store.withData data, session.files⟩ := by
  obtain ⟨own, node?, files, ids⟩ := session
  cases target <;> cases node? <;> rfl

theorem kept_conclude (session : Session) (target : Target) (commit : Commit) :
    (session.conclude target commit).kept target = commit.reached := by
  obtain ⟨own, node?, files, ids⟩ := session
  cases target <;> cases node? <;> rfl

/-- **A session does to a store and the files what a request does.** -/
theorem kept_respond (session : Session) (target : Target) (request : Request) :
    (session.respond target request).kept target =
      (session.kept target).perform (session.call target request) := by
  cases request with
  | set op =>
    show (session.apply target op).1.kept target =
      ⟨(session.member target).store.withData
        (Request.changed (session.member target).store.data (.set op)), session.files⟩
    cases happly : (session.member target).store.data.apply op with
    | ok result =>
      simp only [Session.apply, Request.changed, happly]
      exact kept_withData ..
    | error error =>
      simp only [Session.apply, Request.changed, happly]
      rfl
  | setAll ops => exact kept_withData ..
  | unset keys => exact kept_withData ..
  | delete names => exact kept_conclude ..
  | commit path validate => exact kept_conclude ..

end Session

namespace KeptStore

variable {kept : KeptStore} {call : StoreCall}

/-! ## What a request leaves -/

/-- **What a commit of a request is**: a deletion that finds nothing does nothing, and any
other request to commit or to delete is a commit of the data that it has changed. -/
theorem commit?_cases {commit : Commit} (h : kept.commit? call = some commit) :
    call.request.changed kept.store.data = kept.store.data ∧
        commit = ⟨(kept.present call).store, kept.files, false, [], false, .ok ()⟩ ∨
      commit = ((kept.present call).store.withData (call.request.changed kept.store.data)).commit
        kept.files call.newId call.request.options call.fault := by
  obtain ⟨request, owner, newId, fault⟩ := call
  cases request with
  | set | setAll | unset => cases h
  | delete names =>
    obtain rfl := Option.some.inj h
    cases hfinds : (kept.present ⟨.delete names, owner, newId, fault⟩).finds
        ⟨names, newId, fault⟩ with
    | true => exact .inr (delete_of_finds hfinds)
    | false =>
      have hsame := RawConfig.eraseSections_of_not_mem (not_mem_of_not_finds hfinds)
      exact .inl ⟨hsame, delete_of_not_finds hfinds⟩
  | commit path validate => exact .inr (Option.some.inj h).symm

/-- The data that a request leaves are those that it has changed, prepared for a commit
or not. -/
theorem data_perform (kept : KeptStore) (call : StoreCall) :
    (kept.perform call).store.data = call.request.changed kept.store.data ∨
      (kept.perform call).store.data =
        Store.prepared (call.request.changed kept.store.data) call.newId := by
  unfold perform
  split
  · next commit hcommit =>
    rcases commit?_cases hcommit with ⟨hsame, rfl⟩ | rfl
    · exact .inl hsame.symm
    · have hdata := Store.data_commit ((kept.present call).store.withData
          (call.request.changed kept.store.data))
        kept.files call.newId call.request.options call.fault
      rw [Request.taken_options] at hdata
      split at hdata
      · exact .inl hdata
      · exact .inr hdata
  · exact .inl rfl

end KeptStore

/-- **What the changes of a request leave true is true after it**, however it ends. -/
theorem Request.Keeps.perform {kept : KeptStore} {call : StoreCall} {P : RawConfig → Prop}
    (h : call.request.Keeps P) (hkept : P kept.store.data) : P (kept.perform call).store.data := by
  rcases kept.data_perform call with hdata | hdata <;> rw [hdata]
  · exact h.changed hkept
  · exact h.preparation _ _ (h.changed hkept)

namespace KeptStore

variable {kept : KeptStore} {calls : List StoreCall} {P : RawConfig → Prop}

/-! ## Runs -/

/-- The store and the files after requests one after another. -/
def performAll (kept : KeptStore) (calls : List StoreCall) : KeptStore := calls.foldl perform kept

theorem performAll_append (kept : KeptStore) (earlier later : List StoreCall) :
    kept.performAll (earlier ++ later) = (kept.performAll earlier).performAll later :=
  List.foldl_append

/-- **What the changes of all requests of a run leave true is true after it.** -/
theorem performAll_induction (h : ∀ call ∈ calls, call.request.Keeps P)
    (hkept : P kept.store.data) : P (kept.performAll calls).store.data := by
  induction calls generalizing kept with
  | nil => exact hkept
  | cons call rest ih =>
    obtain ⟨hcall, hrest⟩ := List.forall_mem_cons.mp h
    exact ih hrest (hcall.perform hkept)

end KeptStore

/-! ## The sections that a run makes -/

/-- The sections that a request may make: the default section, and those that its
mutations are for unless they are driver groups. -/
def Request.MayMake (request : Request) (name : Text) : Prop :=
  name = defaultSection ∨
    name ∉ DriverGroup.names ∧ ∃ op ∈ request.mutations, op.key.sectionOrDefault = name

theorem Request.MayMake.not_group {request : Request} {name : Text} (h : request.MayMake name) :
    name ∉ DriverGroup.names := by
  rcases h with rfl | ⟨hgroup, -⟩
  · decide
  · exact hgroup

/-- **What sections a request leaves**: some that were there, and some that it may
make. -/
theorem Request.keeps_sectionNames (request : Request) (before : List Text) :
    request.Keeps fun raw => ∀ name ∈ raw.sectionNames, name ∈ before ∨ request.MayMake name where
  mutation op hop raw changed count hraw hmutated name hname := by
    rw [hmutated.sections, List.mem_append] at hname
    rcases hname with hold | hnew
    · exact hraw name hold
    · split at hnew
      · next hmade =>
        obtain rfl := List.mem_singleton.mp hnew
        exact .inr (.inr ⟨hmade.2.1, op, hop, rfl⟩)
      · cases hnew
  removal key _ raw hraw := by
    rwa [RawConfig.sectionNames_erase]
  deletion name _ raw hraw other hother := by
    rw [RawConfig.sectionNames_eraseSection] at hother
    exact hraw other (List.mem_filter.mp hother).1
  preparation raw newId hraw name hname := by
    rcases Store.mem_sectionNames_prepared_iff.mp hname with hdefault | ⟨hold, -⟩
    · exact .inr (.inl hdefault)
    · exact hraw name hold

namespace KeptStore

variable {kept : KeptStore} {calls : List StoreCall} {name : Text}

theorem mem_sectionNames_perform {call : StoreCall}
    (h : name ∈ (kept.perform call).store.data.sectionNames) :
    name ∈ kept.store.data.sectionNames ∨ call.request.MayMake name :=
  (call.request.keeps_sectionNames kept.store.data.sectionNames).perform
    (fun _ hname => .inl hname) name h

/-- **Each section that a run leaves was there before it, or is one that a request of the
run may make.** -/
theorem mem_sectionNames_performAll (h : name ∈ (kept.performAll calls).store.data.sectionNames) :
    name ∈ kept.store.data.sectionNames ∨ ∃ call ∈ calls, call.request.MayMake name := by
  induction calls generalizing kept with
  | nil => exact .inl h
  | cons call rest ih =>
    rcases ih h with hreached | ⟨later, hlater, hmade⟩
    · rcases mem_sectionNames_perform hreached with hbefore | hmade
      · exact .inl hbefore
      · exact .inr ⟨call, List.mem_cons_self, hmade⟩
    · exact .inr ⟨later, List.mem_cons_of_mem _ hlater, hmade⟩

/-- **A driver group never becomes a section.** -/
theorem not_group_of_performAll
    (h : ∀ name ∈ kept.store.data.sectionNames, name ∉ DriverGroup.names) (calls : List StoreCall) :
    ∀ name ∈ (kept.performAll calls).store.data.sectionNames, name ∉ DriverGroup.names := by
  intro name hname
  rcases mem_sectionNames_performAll hname with hbefore | ⟨call, -, hmade⟩
  · exact h name hbefore
  · exact hmade.not_group

/-- A node with a file system. -/
def mountedNode : KeptStore := savedNode [("DEFAULT", [("id", "x")]), ("fs#0", [("dev", "a")])]

/-- Mutations of two driver groups, of which one has a resource and the other has none, a
commit that is not written, a deletion of that resource, and the mutations once more. -/
def groupCalls : List StoreCall :=
  let mutations : Request := .setAll
    [⟨⟨"fs", "dev"⟩, .set, "b", 0⟩, ⟨⟨"ip", "dev"⟩, .set, "eth0", 0⟩, ⟨⟨"env", "A"⟩, .set, "1", 0⟩]
  [mutations, .commit none false, .delete ["fs#0", "fs"], mutations, .unset [⟨"fs", "dev"⟩]].map
    fun request => ⟨request, mountedNode.store.owner, "y", some .rename⟩

theorem not_group_of_performAll_mountedNode :
    (∀ name ∈ mountedNode.store.data.sectionNames, name ∉ DriverGroup.names) ∧
      (mountedNode.performAll groupCalls).store.data =
        .ofLists [("DEFAULT", [("id", "x")]), ("env", [("A", "1")])] ∧
      ∀ name ∈ (mountedNode.performAll groupCalls).store.data.sectionNames,
        name ∉ DriverGroup.names := by
  have hstart : ∀ name ∈ mountedNode.store.data.sectionNames, name ∉ DriverGroup.names := by decide
  exact ⟨hstart, by decide +kernel, not_group_of_performAll hstart groupCalls⟩

end KeptStore
end ScopedConfig

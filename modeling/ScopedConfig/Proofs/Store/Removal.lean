import ScopedConfig.Proofs.RawConfig.Entries
import ScopedConfig.Proofs.Store.MutationEffect

/-! # Unsetting keys

A key names one entry, by its section and its option as it is written: no scope is
added or left out, and a driver group is a section like any other.  Unsetting keys
takes the entries out one after another, and what is left depends on which entries are
named and not on the keys that name them (`toLists_unset`).  An entry is there once, so
it is counted for the first key that names it and for no other (`count_unset`).
-/
namespace ScopedConfig

/-- **The entry that a key names**: its section, the default one if it names none, and its
option as it is written. -/
def Key.address (key : Key) : Text × Text := (key.sectionOrDefault, key.option)

namespace RawConfig

variable {raw : RawConfig} {keys others : List Key}

/-- Sections without the entries at some addresses. -/
def withoutEntries (addresses : List (Text × Text)) (sections : List (Text × List (Text × Text))) :
    List (Text × List (Text × Text)) :=
  sections.map fun (name, options) =>
    (name, options.filter fun (option, _) => (name, option) ∉ addresses)

/-- **What unsetting keys has done.** -/
structure Removed (keys : List Key) (raw remaining : RawConfig) (count : Nat) : Prop where
  /-- All sections are there in order, and all their options but those that are named, in
  order and with their values. -/
  lists : remaining.toLists = withoutEntries (keys.map Key.address) raw.toLists
  /-- An entry that was there is counted once if it is named. -/
  counted : count = raw.entries.countP fun entry => entry.1 ∈ keys.map Key.address

/-! ## One key -/

theorem toLists_erase (raw : RawConfig) (name option : Text) :
    (raw.erase name option).toLists = withoutEntries [(name, option)] raw.toLists := by
  simp only [toLists, erase, modifySection, Dict.modify, Dict.Entries.modify, withoutEntries,
    List.map_map]
  refine List.map_congr_left fun entry _ => ?_
  obtain ⟨other, options⟩ := entry
  by_cases h : other = name
  · simp [h, Dict.erase, Dict.Entries.erase]
  · simp [h]

theorem entries_erase (raw : RawConfig) (name option : Text) :
    (raw.erase name option).entries = raw.entries.filter fun entry => entry.1 ≠ (name, option) := by
  rw [entries, toLists_erase, withoutEntries, List.flatMap_map, entries, List.filter_flatMap]
  refine List.flatMap_congr fun entry _ => ?_
  rw [List.filter_map]
  simp [Function.comp_def]

/-- A key names at most one entry. -/
theorem countP_address (raw : RawConfig) (key : Key) :
    (raw.entries.countP fun entry => entry.1 = key.address) =
      if (raw.get? key.sectionOrDefault key.option).isSome then 1 else 0 := by
  have hmem : key.address ∈ Dict.Entries.keys raw.entries ↔
      (raw.get? key.sectionOrDefault key.option).isSome := mem_keys_entries_iff
  rw [← if_congr hmem rfl rfl, ← raw.nodup_keys_entries.count, List.count, Dict.Entries.keys,
    List.countP_map]
  exact List.countP_congr fun entry _ => by simp

/-! ## All keys -/

theorem withoutEntries_nil (sections : List (Text × List (Text × Text))) :
    withoutEntries [] sections = sections := by
  simp [withoutEntries]

theorem withoutEntries_cons (address : Text × Text) (rest : List (Text × Text))
    (sections : List (Text × List (Text × Text))) :
    withoutEntries (address :: rest) sections =
      withoutEntries rest (withoutEntries [address] sections) := by
  simp only [withoutEntries, List.map_map, Function.comp_def, List.filter_filter]
  refine List.map_congr_left fun entry _ => congrArg _ (List.filter_congr fun pair _ => ?_)
  simp [Bool.and_comm]

/-- **What is left is what no key names.** -/
theorem toLists_unset (raw : RawConfig) (keys : List Key) :
    (raw.unset keys).1.toLists = withoutEntries (keys.map Key.address) raw.toLists := by
  induction keys generalizing raw with
  | nil => exact (withoutEntries_nil _).symm
  | cons key rest ih =>
    show ((raw.erase key.sectionOrDefault key.option).unset rest).1.toLists = _
    rw [ih, toLists_erase]
    exact (withoutEntries_cons key.address _ _).symm

/-- **What is counted is what was there and is named**, by however many keys. -/
theorem count_unset (raw : RawConfig) (keys : List Key) :
    (raw.unset keys).2 = raw.entries.countP fun entry => entry.1 ∈ keys.map Key.address := by
  induction keys generalizing raw with
  | nil => simp [unset]
  | cons key rest ih =>
    -- the first key counts its own entry, and the rest what is left beside it
    have hfirst : (if (raw.get? key.sectionOrDefault key.option).isSome then 1 else 0) =
        (raw.entries.filter fun entry => entry.1 = key.address).countP fun entry =>
          entry.1 ∈ (key :: rest).map Key.address := by
      rw [← countP_address, List.countP_filter]
      refine List.countP_congr fun entry _ => ?_
      simp only [List.map_cons, List.mem_cons, Bool.and_eq_true, decide_eq_true_eq]
      exact ⟨fun h => ⟨.inl h, h⟩, And.right⟩
    have herase : (raw.erase key.sectionOrDefault key.option).entries =
        raw.entries.filter fun entry => entry.1 ≠ key.address := raw.entries_erase ..
    have hrest : ((raw.erase key.sectionOrDefault key.option).unset rest).2 =
        (raw.entries.filter fun entry => ¬ entry.1 = key.address).countP fun entry =>
          entry.1 ∈ (key :: rest).map Key.address := by
      rw [ih, herase, List.countP_filter, List.countP_filter]
      refine List.countP_congr fun entry _ => ?_
      simp only [List.map_cons, List.mem_cons, Bool.and_eq_true, decide_eq_true_eq]
      exact and_congr_left fun hne => (or_iff_right hne).symm
    calc (raw.unset (key :: rest)).2
        = (if (raw.get? key.sectionOrDefault key.option).isSome then 1 else 0) +
            ((raw.erase key.sectionOrDefault key.option).unset rest).2 := rfl
      _ = raw.entries.countP fun entry => entry.1 ∈ (key :: rest).map Key.address := by
          rw [hfirst, hrest]
          simpa using (List.countP_eq_countP_filter_add raw.entries _ _).symm

theorem removed_unset (raw : RawConfig) (keys : List Key) :
    Removed keys raw (raw.unset keys).1 (raw.unset keys).2 :=
  ⟨raw.toLists_unset keys, raw.count_unset keys⟩

/-- What is left and what is counted depends on which entries are named. -/
theorem Removed.unique {remaining remaining' : RawConfig} {count count' : Nat}
    (h : Removed keys raw remaining count) (h' : Removed others raw remaining' count')
    (hnamed : ∀ address, address ∈ keys.map Key.address ↔ address ∈ others.map Key.address) :
    remaining = remaining' ∧ count = count' := by
  constructor
  · refine toLists_injective ?_
    rw [h.lists, h'.lists]
    simp only [withoutEntries, hnamed]
  · rw [h.counted, h'.counted]
    simp only [hnamed]

theorem unset_perm (raw : RawConfig) (h : keys.Perm others) : raw.unset keys = raw.unset others := by
  obtain ⟨hdata, hcount⟩ := (raw.removed_unset keys).unique (raw.removed_unset others) fun _ =>
    (h.map Key.address).mem_iff
  exact Prod.ext hdata hcount

end RawConfig

namespace Session

/-- **Unsetting keys takes out what they name, and counts it once.**  Nothing of a session
changes but the data of the store, and in them the entries are gone that one of the keys
names, whatever else it is, while all sections, all other entries and all orders stay.
What is returned is the number of entries that are gone, and in which order the keys are
given makes no difference. -/
theorem unset_effect (session : Session) (target : Target) (keys : List Key) :
    (session.unset target keys).1 = session.withData target
        ((session.unset target keys).1.member target).store.data ∧
      RawConfig.Removed keys (session.member target).store.data
        ((session.unset target keys).1.member target).store.data (session.unset target keys).2 ∧
      ∀ others, keys.Perm others → session.unset target others = session.unset target keys := by
  have hdata : ((session.unset target keys).1.member target).store.data =
      ((session.member target).store.data.unset keys).1 := by
    unfold unset
    dsimp only
    rw [store_member_withData]
    rfl
  refine ⟨?_, ?_, fun others hperm => ?_⟩
  · rw [hdata]
    rfl
  · rw [hdata]
    exact RawConfig.removed_unset _ keys
  · unfold unset
    rw [RawConfig.unset_perm _ hperm]

/-- A store with resources of one group, scoped and unscoped options, and a section named
like the group. -/
def crowded : Session where
  own :=
    { store :=
        { path := "/etc/web.conf"
          data := .ofLists [("ip#1", [("ipdev", "a"), ("ipdev@n1", "b")]),
            ("DEFAULT", [("id", "x"), ("nodes", "n1")]), ("ip", [("ipdev", "c")]),
            ("fs#0", [("mnt", "/srv")])]
          owner := ⟨.object ⟨rootNamespace, .svc, "web"⟩, .empty, ["n1"], [], [], [], false⟩
          agent := .default }
      asked := []
      commits := 0 }
  node? := none
  files := .empty
  ids := ⟨fun _ => [], 0⟩

/-- Keys that name one entry twice, once without its section, the section named like the
group, an option under a scope, and two entries that are not there. -/
def removals : List Key :=
  [⟨[], "id"⟩, ⟨"ip", "ipdev"⟩, ⟨"ip#1", "ipdev@n1"⟩, ⟨"DEFAULT", "id"⟩, ⟨"fs#0", "dev"⟩,
    ⟨"disk#0", "size"⟩]

theorem unset_effect_crowded :
    (((crowded.unset .own removals).1.member .own).store.data.toLists =
      ([("ip#1", [("ipdev", "a")]), ("DEFAULT", [("nodes", "n1")]), ("ip", []),
        ("fs#0", [("mnt", "/srv")])] : List (Text × List (Text × Text)))) ∧
      (crowded.unset .own removals).2 = 3 ∧
      removals.Perm removals.reverse ∧
      crowded.unset .own removals.reverse = crowded.unset .own removals := by
  obtain ⟨-, hremoved, hperm⟩ := unset_effect crowded .own removals
  have hreverse : removals.Perm removals.reverse := removals.reverse_perm.symm
  refine ⟨?_, ?_, hreverse, hperm _ hreverse⟩
  · rw [hremoved.lists]
    decide +kernel
  · rw [hremoved.counted]
    decide +kernel

end Session
end ScopedConfig

import Mathlib.Data.List.Induction
import Mathlib.Data.List.Perm.Subperm
import ScopedConfig.Dict

/-! What the operations on a dictionary do to its two views: the value of every
key, and the order of the keys.  A key that is written keeps its place or goes
last, one that is erased leaves the others in order, and no operation touches the
value of another key than the one it names. -/
namespace ScopedConfig.Dict

variable {κ α β : Type}

namespace Entries

variable [DecidableEq κ]

theorem get?_eq_none_iff {key : κ} {entries : List (κ × α)} :
    get? key entries = none ↔ key ∉ keys entries := by
  induction entries with
  | nil => simp [get?, keys]
  | cons entry rest ih =>
    obtain ⟨k, value⟩ := entry
    by_cases h : k = key
    · simp [get?, keys, h]
    · have h' : ¬ key = k := fun e => h e.symm
      simp only [keys] at ih ⊢
      simp [get?, h, h', ih]

theorem get?_insert (key other : κ) (value : α) (entries : List (κ × α)) :
    get? other (insert key value entries) =
      if other = key then some value else get? other entries := by
  induction entries with
  | nil => by_cases h : key = other <;> simp [insert, get?, h, eq_comm]
  | cons entry rest ih =>
    obtain ⟨k, old⟩ := entry
    by_cases h : k = key
    · by_cases h' : k = other <;> simp_all [insert, get?, eq_comm]
    · by_cases h' : k = other
      · have : ¬ other = key := fun e => h (h'.trans e)
        simp [insert, get?, h', this]
      · simp [insert, get?, h, h', ih]

theorem get?_erase (key other : κ) (entries : List (κ × α)) :
    get? other (erase key entries) = if other = key then none else get? other entries := by
  induction entries with
  | nil => simp [erase, get?]
  | cons entry rest ih =>
    obtain ⟨k, value⟩ := entry
    simp only [erase] at ih ⊢
    by_cases h : k = key
    · have : ¬ other = key → ¬ k = other := fun ne e => ne (e.symm.trans h)
      rw [List.filter_cons_of_neg (by simp [h]), ih]
      split <;> simp_all [get?]
    · rw [List.filter_cons_of_pos (by simp [h])]
      by_cases h' : k = other
      · have : ¬ other = key := fun e => h (h'.trans e)
        simp [get?, h', this]
      · simp only [get?, h', if_false]
        exact ih

theorem get?_modify (key other : κ) (f : α → α) (entries : List (κ × α)) :
    get? other (modify key f entries) =
      if other = key then (get? other entries).map f else get? other entries := by
  induction entries with
  | nil => simp [modify, get?]
  | cons entry rest ih =>
    obtain ⟨k, value⟩ := entry
    simp only [modify] at ih ⊢
    by_cases h : k = other
    · by_cases h' : k = key <;> simp_all [get?]
    · simp [get?, h, ih]

theorem insert_of_not_mem {key : κ} {entries : List (κ × α)} (h : key ∉ keys entries)
    (value : α) : insert key value entries = entries ++ [(key, value)] := by
  induction entries with
  | nil => rfl
  | cons entry rest ih =>
    obtain ⟨k, old⟩ := entry
    simp only [keys, List.map_cons, List.mem_cons, not_or] at h
    have hk : ¬ k = key := fun e => h.1 e.symm
    simp [insert, hk, ih h.2]

theorem modify_of_not_mem {key : κ} {entries : List (κ × α)} (h : key ∉ keys entries)
    (f : α → α) : modify key f entries = entries := by
  induction entries with
  | nil => rfl
  | cons entry rest ih =>
    obtain ⟨k, value⟩ := entry
    simp only [keys, List.map_cons, List.mem_cons, not_or] at h
    have hk : ¬ k = key := fun e => h.1 e.symm
    simp only [modify, List.map_cons, hk, if_false, List.cons.injEq, true_and]
    exact ih h.2

theorem erase_of_not_mem {key : κ} {entries : List (κ × α)} (h : key ∉ keys entries) :
    erase key entries = entries := by
  refine List.filter_eq_self.mpr fun entry hentry => ?_
  rw [decide_eq_true_eq]
  rintro rfl
  exact h (List.mem_map_of_mem hentry)

theorem modify_insert {key : κ} {entries : List (κ × α)} (h : (keys entries).Nodup)
    (value : α) (f : α → α) :
    modify key f (insert key value entries) = insert key (f value) entries := by
  induction entries with
  | nil => simp [insert, modify]
  | cons entry rest ih =>
    obtain ⟨k, old⟩ := entry
    obtain ⟨hk, hr⟩ := List.nodup_cons.mp h
    by_cases e : k = key
    · subst e
      have hrest : modify k f rest = rest := modify_of_not_mem hk f
      simpa [insert, modify] using hrest
    · simpa [insert, modify, e] using ih hr

/-- A value that is there is written in vain. -/
theorem insert_of_get? {key : κ} {value : α} {entries : List (κ × α)}
    (h : get? key entries = some value) : insert key value entries = entries := by
  induction entries with
  | nil => cases h
  | cons entry rest ih =>
    obtain ⟨k, old⟩ := entry
    by_cases e : k = key
    · simp only [get?, e, if_true, Option.some.injEq] at h
      simp [insert, e, h]
    · simp only [get?, e, if_false] at h
      simp [insert, e, ih h]

/-- A value is changed where it stands. -/
theorem modify_of_get? {key : κ} {value : α} {entries : List (κ × α)}
    (h : (keys entries).Nodup) (hvalue : get? key entries = some value) (f : α → α) :
    modify key f entries = insert key (f value) entries := by
  have hinsert : modify key f (insert key value entries) = insert key (f value) entries :=
    modify_insert h value f
  rwa [insert_of_get? hvalue] at hinsert

theorem mem_of_get? {key : κ} {value : α} {entries : List (κ × α)}
    (h : get? key entries = some value) : (key, value) ∈ entries := by
  induction entries with
  | nil => cases h
  | cons entry rest ih =>
    obtain ⟨k, old⟩ := entry
    by_cases e : k = key
    · subst e
      simp only [get?, if_true, Option.some.injEq] at h
      exact h ▸ List.mem_cons_self
    · simp only [get?, e, if_false] at h
      exact List.mem_cons_of_mem _ (ih h)

theorem get?_of_mem {key : κ} {value : α} {entries : List (κ × α)}
    (h : (keys entries).Nodup) (hmem : (key, value) ∈ entries) :
    get? key entries = some value := by
  induction entries with
  | nil => cases hmem
  | cons entry rest ih =>
    obtain ⟨k, old⟩ := entry
    obtain ⟨hk, hr⟩ := List.nodup_cons.mp h
    rcases List.mem_cons.mp hmem with e | hmem
    · cases e
      simp [get?]
    · have e : ¬ k = key := by
        rintro rfl
        exact hk (List.mem_map.mpr ⟨(k, value), hmem, rfl⟩)
      simp [get?, e, ih hr hmem]

theorem get?_mapValues (f : α → β) (key : κ) (entries : List (κ × α)) :
    get? key (entries.map fun (k, value) => (k, f value)) = (get? key entries).map f := by
  induction entries with
  | nil => rfl
  | cons entry rest ih =>
    obtain ⟨k, value⟩ := entry
    by_cases h : k = key <;> simp [get?, h, ih]

theorem insert_mapValues (f : α → β) (key : κ) (value : α) (entries : List (κ × α)) :
    insert key (f value) (entries.map fun (k, v) => (k, f v)) =
      (insert key value entries).map fun (k, v) => (k, f v) := by
  induction entries with
  | nil => rfl
  | cons entry rest ih =>
    obtain ⟨k, old⟩ := entry
    by_cases h : k = key <;> simp [insert, h, ih]

end Entries

theorem nodup_keys (d : Dict κ α) : d.keys.Nodup := d.nodup

@[simp] theorem keys_empty : (empty : Dict κ α).keys = [] := rfl

@[simp] theorem keys_map (f : α → β) (d : Dict κ α) : (d.map f).keys = d.keys :=
  keys_mapValues f d.entries

variable [DecidableEq κ]

@[simp] theorem get?_empty (key : κ) : (empty : Dict κ α).get? key = none := rfl

theorem get?_eq_none_iff {d : Dict κ α} {key : κ} : d.get? key = none ↔ key ∉ d.keys :=
  Entries.get?_eq_none_iff

theorem contains_iff {d : Dict κ α} {key : κ} : d.contains key = true ↔ key ∈ d.keys := by
  rw [contains, Option.isSome_iff_ne_none, ne_eq, get?_eq_none_iff, Decidable.not_not]

/-- A dictionary has the value for a key that stands in its one entry for that
key. -/
theorem get?_eq_some_iff {d : Dict κ α} {key : κ} {value : α} :
    d.get? key = some value ↔ (key, value) ∈ d.entries :=
  ⟨Entries.mem_of_get?, Entries.get?_of_mem d.nodup⟩

theorem entries_insert_of_not_mem {d : Dict κ α} {key : κ} (h : key ∉ d.keys) (value : α) :
    (d.insert key value).entries = d.entries ++ [(key, value)] :=
  Entries.insert_of_not_mem h value

theorem insert_of_get? {d : Dict κ α} {key : κ} {value : α} (h : d.get? key = some value) :
    d.insert key value = d :=
  ext (Entries.insert_of_get? h)

theorem modify_insert (d : Dict κ α) (key : κ) (value : α) (f : α → α) :
    (d.insert key value).modify key f = d.insert key (f value) :=
  ext (Entries.modify_insert d.nodup value f)

theorem modify_modify (d : Dict κ α) (key : κ) (f g : α → α) :
    (d.modify key f).modify key g = d.modify key fun value => g (f value) := by
  refine ext ?_
  simp only [modify, Entries.modify, List.map_map]
  refine List.map_congr_left fun entry _ => ?_
  by_cases h : entry.1 = key <;> simp [h]

theorem entries_ensure (d : Dict κ α) (key : κ) (value : α) :
    (d.ensure key value).entries =
      if key ∈ d.keys then d.entries else d.entries ++ [(key, value)] := by
  unfold ensure
  split
  · next h => rw [if_pos (contains_iff.mp h)]
  · next h =>
    have absent : key ∉ d.keys := fun hk => h (contains_iff.mpr hk)
    rw [if_neg absent, entries_insert_of_not_mem absent]

@[simp] theorem get?_map (f : α → β) (d : Dict κ α) (key : κ) :
    (d.map f).get? key = (d.get? key).map f :=
  Entries.get?_mapValues f key d.entries

theorem get?_insert (d : Dict κ α) (key other : κ) (value : α) :
    (d.insert key value).get? other = if other = key then some value else d.get? other :=
  Entries.get?_insert key other value d.entries

@[simp] theorem get?_insert_self (d : Dict κ α) (key : κ) (value : α) :
    (d.insert key value).get? key = some value := by simp [get?_insert]

theorem keys_insert (d : Dict κ α) (key : κ) (value : α) :
    (d.insert key value).keys = if key ∈ d.keys then d.keys else d.keys ++ [key] :=
  Entries.keys_insert key value d.entries

theorem get?_erase (d : Dict κ α) (key other : κ) :
    (d.erase key).get? other = if other = key then none else d.get? other :=
  Entries.get?_erase key other d.entries

@[simp] theorem get?_erase_self (d : Dict κ α) (key : κ) : (d.erase key).get? key = none := by
  simp [get?_erase]

theorem keys_erase (d : Dict κ α) (key : κ) :
    (d.erase key).keys = d.keys.filter (· ≠ key) :=
  Entries.keys_erase key d.entries

theorem get?_modify (d : Dict κ α) (key other : κ) (f : α → α) :
    (d.modify key f).get? other =
      if other = key then (d.get? other).map f else d.get? other :=
  Entries.get?_modify key other f d.entries

@[simp] theorem keys_modify (d : Dict κ α) (key : κ) (f : α → α) :
    (d.modify key f).keys = d.keys :=
  Entries.keys_modify key f d.entries

theorem get?_ensure (d : Dict κ α) (key other : κ) (value : α) :
    (d.ensure key value).get? other =
      if other = key then some ((d.get? key).getD value) else d.get? other := by
  unfold ensure contains
  cases h : d.get? key with
  | none => simp [get?_insert]
  | some old => by_cases e : other = key <;> simp [e, h]

theorem keys_ensure (d : Dict κ α) (key : κ) (value : α) :
    (d.ensure key value).keys = if key ∈ d.keys then d.keys else d.keys ++ [key] := by
  unfold ensure
  split
  · next h => simp [contains_iff.mp h]
  · next h => exact keys_insert d key value

theorem entries_ensureFirst (d : Dict κ α) (key : κ) (value : α) :
    (d.ensureFirst key value).entries =
      if key ∈ d.keys then d.entries else (key, value) :: d.entries := by
  unfold ensureFirst
  split
  · next h => simp [contains_iff.mp (show d.contains key = true by simp [contains, h])]
  · next h => simp [get?_eq_none_iff.mp h]

theorem get?_ensureFirst (d : Dict κ α) (key other : κ) (value : α) :
    (d.ensureFirst key value).get? other =
      if other = key then some ((d.get? key).getD value) else d.get? other := by
  show Entries.get? other (d.ensureFirst key value).entries = _
  rw [entries_ensureFirst]
  by_cases h : key ∈ d.keys
  · obtain ⟨old, hold⟩ := Option.isSome_iff_exists.mp (contains_iff.mpr h)
    rw [if_pos h, hold, Option.getD_some]
    split
    · next e => exact e ▸ hold
    · rfl
  · rw [if_neg h, get?_eq_none_iff.mpr h, Option.getD_none, Entries.get?]
    exact if_congr eq_comm rfl rfl

/-! ## Dictionaries of lists -/

/-- Entries with keys of their own, inserted one after another, are put behind the
entries that are there. -/
theorem entries_foldl_insert {d : Dict κ α} {entries : List (κ × α)}
    (h : (Entries.keys (d.entries ++ entries)).Nodup) :
    (entries.foldl (fun d (key, value) => d.insert key value) d).entries =
      d.entries ++ entries := by
  induction entries generalizing d with
  | nil => simp
  | cons entry rest ih =>
    obtain ⟨key, value⟩ := entry
    have absent : key ∉ d.keys := by
      intro hmem
      rw [Entries.keys, List.map_append, List.nodup_append] at h
      exact h.2.2 key hmem key (by simp) rfl
    have hinsert := entries_insert_of_not_mem absent value
    show (rest.foldl (fun d (key, value) => d.insert key value) (d.insert key value)).entries = _
    rw [ih (by rw [hinsert, List.append_assoc]; exact h), hinsert, List.append_assoc]
    rfl

/-- A dictionary is that of the list of its entries. -/
theorem ofList_entries (d : Dict κ α) : ofList d.entries = d :=
  ext (entries_foldl_insert (d := empty) d.nodup)

theorem ofList_concat (entries : List (κ × α)) (key : κ) (value : α) :
    ofList (entries ++ [(key, value)]) = (ofList entries).insert key value := by
  rw [ofList, List.foldl_append]
  rfl

/-- A key stands where it first came. -/
theorem keys_ofList [BEq κ] [LawfulBEq κ] (entries : List (κ × α)) :
    (ofList entries).keys = (Entries.keys entries).eraseDups := by
  induction entries using List.reverseRecOn with
  | nil => rfl
  | append_singleton entries entry ih =>
    obtain ⟨key, value⟩ := entry
    have hkeys : Entries.keys (entries ++ [(key, value)]) = Entries.keys entries ++ [key] :=
      List.map_append
    -- membership is decided in two ways here, which come to the same
    rw [ofList_concat, keys_insert, ih, hkeys, Lists.eraseDups_concat]
    congr

/-- A key has the value that came last. -/
theorem get?_ofList (entries : List (κ × α)) (key : κ) :
    (ofList entries).get? key = Entries.get? key entries.reverse := by
  induction entries using List.reverseRecOn with
  | nil => rfl
  | append_singleton entries entry ih =>
    obtain ⟨last, value⟩ := entry
    rw [ofList_concat, get?_insert, ih, List.reverse_concat, Entries.get?]
    exact if_congr eq_comm rfl rfl

/-- If all values that come for a key are one, the key has that value. -/
theorem get?_ofList_of_forall {entries : List (κ × α)} (value? : κ → Option α)
    (h : ∀ entry ∈ entries, value? entry.1 = some entry.2) (key : κ) :
    (ofList entries).get? key = if key ∈ Entries.keys entries then value? key else none := by
  have hkeys : key ∈ (ofList entries).keys ↔ key ∈ Entries.keys entries := by
    rw [keys_ofList, List.mem_eraseDups]
  split
  · next hmem =>
    obtain ⟨value, hvalue⟩ := Option.isSome_iff_exists.mp (contains_iff.mpr (hkeys.mpr hmem))
    have hlast := Entries.mem_of_get? ((get?_ofList entries key).symm.trans hvalue)
    rw [hvalue, h _ (List.mem_reverse.mp hlast)]
  · next hmem => exact get?_eq_none_iff.mpr fun hin => hmem (hkeys.mp hin)

/-- The entries of a dictionary are its keys with their values. -/
theorem entries_eq_filterMap (d : Dict κ α) :
    d.entries = d.keys.filterMap fun key => (d.get? key).map fun value => (key, value) := by
  rw [keys, Entries.keys, List.filterMap_map]
  refine List.filterMap_some.symm.trans (List.filterMap_congr fun entry hentry => ?_)
  obtain ⟨key, value⟩ := entry
  have hvalue : d.get? key = some value := get?_eq_some_iff.mpr hentry
  simp [hvalue]

/-- Two dictionaries are the same if they have the same keys in the same order, with the
same values. -/
theorem ext_of_views {a b : Dict κ α} (hkeys : a.keys = b.keys)
    (hget : ∀ key, a.get? key = b.get? key) : a = b := by
  refine ext ?_
  rw [entries_eq_filterMap, entries_eq_filterMap, hkeys]
  simp only [hget]

/-- **Two dictionaries are the same up to order exactly if they have related values
for every key**, or both have none. -/
theorem sameBy_iff {same : α → α → Bool} {a b : Dict κ α} :
    a.sameBy same b = true ↔
      ∀ key, Option.Rel (fun x y => same x y = true) (a.get? key) (b.get? key) := by
  have hlength : ∀ d : Dict κ α, d.keys.length = d.size := fun d => List.length_map ..
  simp only [sameBy, Bool.and_eq_true, beq_iff_eq, List.all_eq_true]
  constructor
  · rintro ⟨hsize, hall⟩ key
    have hvalue : ∀ {key value}, a.get? key = some value →
        ∃ other, b.get? key = some other ∧ same value other = true := by
      intro key value h
      have hentry := hall (key, value) (get?_eq_some_iff.mp h)
      dsimp only at hentry
      split at hentry
      · next other hother => exact ⟨other, hother, hentry⟩
      · cases hentry
    -- the keys of `a` are as many keys of `b`, so `b` has no other ones
    have hsubset : a.keys ⊆ b.keys := by
      intro k hk
      obtain ⟨value, hv⟩ := Option.isSome_iff_exists.mp (contains_iff.mpr hk)
      obtain ⟨other, ho, -⟩ := hvalue hv
      exact contains_iff.mp (Option.isSome_iff_exists.mpr ⟨other, ho⟩)
    have hle : b.keys.length ≤ a.keys.length := by
      rw [hlength, hlength]
      omega
    have hperm : a.keys.Perm b.keys :=
      (List.subperm_of_subset a.nodup_keys hsubset).perm_of_length_le hle
    cases h : a.get? key with
    | some value =>
      obtain ⟨other, ho, hs⟩ := hvalue h
      exact ho ▸ .some hs
    | none =>
      have absent : key ∉ b.keys := fun hk => get?_eq_none_iff.mp h (hperm.mem_iff.mpr hk)
      rw [get?_eq_none_iff.mpr absent]
      exact .none
  · intro h
    have hmem : ∀ key, key ∈ a.keys ↔ key ∈ b.keys := by
      intro key
      have hrel := h key
      rw [← contains_iff, ← contains_iff, contains, contains]
      generalize a.get? key = value at hrel ⊢
      generalize b.get? key = other at hrel ⊢
      cases hrel <;> simp
    refine ⟨?_, fun entry he => ?_⟩
    · rw [← hlength, ← hlength]
      exact ((List.perm_ext_iff_of_nodup a.nodup_keys b.nodup_keys).mpr hmem).length_eq
    · obtain ⟨key, value⟩ := entry
      have hrel := h key
      rw [get?_eq_some_iff.mpr he] at hrel
      generalize b.get? key = other at hrel ⊢
      cases hrel with
      | some hs => exact hs

end ScopedConfig.Dict

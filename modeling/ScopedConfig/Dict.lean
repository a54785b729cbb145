import ScopedConfig.Lists

/-! Dictionaries that keep the order in which keys came in.  A dictionary is the
list of its entries, no two of which have one key: writing to a key that is there
keeps its place, and a new key goes last, or first where it is asked for.  `get?`
and `keys` are the two views through which the operations are described. -/
namespace ScopedConfig

namespace Dict.Entries

variable {κ α : Type}

/-- The keys of a list of entries. -/
def keys (entries : List (κ × α)) : List κ := entries.map Prod.fst

variable [DecidableEq κ]

/-- The value of the first entry with a key. -/
def get? (key : κ) : List (κ × α) → Option α
  | [] => none
  | (k, value) :: rest => if k = key then some value else get? key rest

/-- The entries with a value for a key, in the place of that key or last. -/
def insert (key : κ) (value : α) : List (κ × α) → List (κ × α)
  | [] => [(key, value)]
  | (k, old) :: rest => if k = key then (k, value) :: rest else (k, old) :: insert key value rest

/-- The entries without a key. -/
def erase (key : κ) (entries : List (κ × α)) : List (κ × α) :=
  entries.filter fun entry => entry.1 ≠ key

/-- The entries with `f` applied to the value of a key. -/
def modify (key : κ) (f : α → α) (entries : List (κ × α)) : List (κ × α) :=
  entries.map fun (k, value) => (k, if k = key then f value else value)

theorem keys_insert (key : κ) (value : α) (entries : List (κ × α)) :
    keys (insert key value entries) =
      if key ∈ keys entries then keys entries else keys entries ++ [key] := by
  induction entries with
  | nil => simp [keys, insert]
  | cons entry rest ih =>
    obtain ⟨k, old⟩ := entry
    by_cases h : k = key
    · simp [keys, insert, h]
    · have h' : ¬ key = k := fun e => h e.symm
      simp only [keys] at ih ⊢
      simp only [insert, h, if_false, List.map_cons, ih, List.mem_cons, h', false_or]
      split <;> simp [*]

theorem keys_erase (key : κ) (entries : List (κ × α)) :
    keys (erase key entries) = (keys entries).filter (· ≠ key) := by
  simp [keys, erase, List.filter_map, Function.comp_def]

theorem keys_modify (key : κ) (f : α → α) (entries : List (κ × α)) :
    keys (modify key f entries) = keys entries := by
  simp [keys, modify, Function.comp_def]

theorem nodup_insert {key : κ} {value : α} {entries : List (κ × α)}
    (h : (keys entries).Nodup) : (keys (insert key value entries)).Nodup := by
  rw [keys_insert]
  split
  · exact h
  · rename_i absent
    exact Lists.nodup_concat h absent

theorem nodup_erase {key : κ} {entries : List (κ × α)} (h : (keys entries).Nodup) :
    (keys (erase key entries)).Nodup := by
  rw [keys_erase]
  exact h.filter _

end Dict.Entries

/-- An ordered dictionary. -/
structure Dict (κ α : Type) where
  entries : List (κ × α)
  nodup : (Dict.Entries.keys entries).Nodup

namespace Dict

variable {κ α β : Type}

@[ext] theorem ext {a b : Dict κ α} (h : a.entries = b.entries) : a = b := by
  cases a; cases b; simp_all

instance [DecidableEq κ] [DecidableEq α] : DecidableEq (Dict κ α) := fun _ _ =>
  decidable_of_iff _ ⟨ext, congrArg entries⟩

/-- The dictionary without entries. -/
def empty : Dict κ α := ⟨[], by simp [Entries.keys]⟩

instance : Inhabited (Dict κ α) := ⟨empty⟩

/-- The keys, in order. -/
def keys (d : Dict κ α) : List κ := Entries.keys d.entries

/-- The number of entries. -/
def size (d : Dict κ α) : Nat := d.entries.length

/-- Whether there is no entry. -/
def isEmpty (d : Dict κ α) : Bool := d.entries.isEmpty

theorem keys_mapValues (f : α → β) (entries : List (κ × α)) :
    Entries.keys (entries.map fun (k, value) => (k, f value)) = Entries.keys entries := by
  simp [Entries.keys, Function.comp_def]

/-- The dictionary with `f` applied to every value. -/
def map (f : α → β) (d : Dict κ α) : Dict κ β :=
  ⟨d.entries.map fun (k, value) => (k, f value), by rw [keys_mapValues]; exact d.nodup⟩

variable [DecidableEq κ]

/-- The value of a key. -/
def get? (d : Dict κ α) (key : κ) : Option α := Entries.get? key d.entries

/-- Whether a key has a value. -/
def contains (d : Dict κ α) (key : κ) : Bool := (d.get? key).isSome

/-- The dictionary with a value for a key, in the place of that key or last. -/
def insert (d : Dict κ α) (key : κ) (value : α) : Dict κ α :=
  ⟨Entries.insert key value d.entries, Entries.nodup_insert d.nodup⟩

/-- The dictionary without a key. -/
def erase (d : Dict κ α) (key : κ) : Dict κ α :=
  ⟨Entries.erase key d.entries, Entries.nodup_erase d.nodup⟩

/-- The dictionary with `f` applied to the value of a key, if it has one. -/
def modify (d : Dict κ α) (key : κ) (f : α → α) : Dict κ α :=
  ⟨Entries.modify key f d.entries, by rw [Entries.keys_modify]; exact d.nodup⟩

theorem not_mem_keys_of_get? {key : κ} {entries : List (κ × α)}
    (h : Entries.get? key entries = none) : key ∉ Entries.keys entries := by
  induction entries with
  | nil => simp [Entries.keys]
  | cons entry rest ih =>
    obtain ⟨k, value⟩ := entry
    simp only [Entries.get?] at h
    split at h
    · cases h
    · rename_i ne
      simp only [Entries.keys, List.map_cons, List.mem_cons, not_or]
      exact ⟨fun e => ne e.symm, ih h⟩

/-- The dictionary with a first entry for a key that it lacks; with the key, the
dictionary itself. -/
def ensureFirst (d : Dict κ α) (key : κ) (value : α) : Dict κ α :=
  match h : d.get? key with
  | some _ => d
  | none => ⟨(key, value) :: d.entries, by
      simp only [Entries.keys, List.map_cons, List.nodup_cons]
      exact ⟨not_mem_keys_of_get? h, d.nodup⟩⟩

/-- The dictionary with an entry for a key that it lacks, which goes last; with
the key, the dictionary itself. -/
def ensure (d : Dict κ α) (key : κ) (value : α) : Dict κ α :=
  if d.contains key then d else d.insert key value

/-- The dictionary of a list of entries: of several with one key, the first gives
the place and the last the value. -/
def ofList (entries : List (κ × α)) : Dict κ α :=
  entries.foldl (fun d (key, value) => d.insert key value) empty

/-- Whether two dictionaries have the same entries up to their order, values
being compared by `same`. -/
def sameBy (same : α → α → Bool) (a b : Dict κ α) : Bool :=
  a.size == b.size &&
    a.entries.all fun (key, value) =>
      match b.get? key with
      | some other => same value other
      | none => false

end Dict
end ScopedConfig

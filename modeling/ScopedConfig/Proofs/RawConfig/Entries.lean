import Mathlib.Data.List.Nodup
import Mathlib.Data.List.Perm.Lattice
import Mathlib.Data.Prod.Basic
import ScopedConfig.RawConfig.Lemmas

/-! # The entries of a configuration

A configuration has two levels of names, sections and options.  Its entries are both in
one: a value under a section and an option, at most one for each
(`nodup_keys_entries`).  So the order of the entries says nothing about a value, and
configurations with the same sections and the same entries in other orders are those that
have the same values (`reordered_iff`).
-/
namespace ScopedConfig.RawConfig

variable {a b raw : RawConfig} {name option value : Text}

/-- **The entries**: every value with its section and option, in order. -/
def entries (raw : RawConfig) : List ((Text × Text) × Text) :=
  raw.toLists.flatMap fun (name, options) =>
    options.map fun (option, value) => ((name, option), value)

theorem mem_entries_iff :
    ((name, option), value) ∈ raw.entries ↔ raw.get? name option = some value := by
  rw [entries, List.mem_flatMap, get?_eq_some_iff]
  constructor
  · rintro ⟨⟨name', options⟩, hsection, hmem⟩
    obtain ⟨⟨option', value'⟩, hpair, e⟩ := List.mem_map.mp hmem
    cases e
    exact ⟨options, hsection, hpair⟩
  · rintro ⟨options, hsection, hpair⟩
    exact ⟨(name, options), hsection, List.mem_map.mpr ⟨(option, value), hpair, rfl⟩⟩

theorem mem_keys_entries_iff :
    (name, option) ∈ Dict.Entries.keys raw.entries ↔ (raw.get? name option).isSome := by
  rw [Option.isSome_iff_exists]
  constructor
  · intro h
    obtain ⟨⟨_, value⟩, hmem, rfl⟩ := List.mem_map.mp h
    exact ⟨value, mem_entries_iff.mp hmem⟩
  · rintro ⟨value, hvalue⟩
    exact List.mem_map.mpr ⟨_, mem_entries_iff.mpr hvalue, rfl⟩

/-- No section has an option twice. -/
theorem nodup_keys_entries (raw : RawConfig) : (Dict.Entries.keys raw.entries).Nodup := by
  have hkeys : Dict.Entries.keys raw.entries =
      raw.toLists.flatMap fun entry => entry.2.map fun pair => (entry.1, pair.1) := by
    simp only [Dict.Entries.keys, entries, List.map_flatMap, List.map_map, Function.comp_def]
  obtain ⟨hsections, hoptions⟩ := raw.distinctNames_toLists
  rw [hkeys, List.nodup_flatMap]
  constructor
  · intro entry hentry
    have hpairs := (hoptions entry hentry).map (Prod.mk_right_injective entry.1)
    rwa [List.map_map] at hpairs
  · rw [List.Nodup, List.pairwise_map] at hsections
    refine hsections.imp fun {first second} hne key hfirst hsecond => ?_
    obtain ⟨_, -, rfl⟩ := List.mem_map.mp hfirst
    obtain ⟨_, -, hkey⟩ := List.mem_map.mp hsecond
    exact hne (Prod.mk.inj hkey).1.symm

theorem nodup_entries (raw : RawConfig) : raw.entries.Nodup :=
  raw.nodup_keys_entries.of_map Prod.fst

/-- **Two configurations that differ at most in an order**: they have the same sections,
and the same values under the same sections and options. -/
structure Reordered (a b : RawConfig) : Prop where
  sections : a.sectionNames.Perm b.sectionNames
  entries : a.entries.Perm b.entries

instance : Decidable (Reordered a b) :=
  decidable_of_iff (a.sectionNames.Perm b.sectionNames ∧ a.entries.Perm b.entries)
    ⟨fun ⟨hs, he⟩ => ⟨hs, he⟩, fun h => ⟨h.sections, h.entries⟩⟩

/-- **Configurations differ at most in an order exactly if every look-up has the same
answer in both.** -/
theorem reordered_iff :
    a.Reordered b ↔ (∀ name, name ∈ a.sectionNames ↔ name ∈ b.sectionNames) ∧
      ∀ name option, a.get? name option = b.get? name option := by
  constructor
  · intro h
    refine ⟨fun _ => h.sections.mem_iff, fun name option => Option.ext fun value => ?_⟩
    rw [← mem_entries_iff, ← mem_entries_iff, h.entries.mem_iff]
  · rintro ⟨hsections, hvalues⟩
    refine ⟨(List.perm_ext_iff_of_nodup a.sections.nodup b.sections.nodup).mpr hsections,
      (List.perm_ext_iff_of_nodup a.nodup_entries b.nodup_entries).mpr ?_⟩
    rintro ⟨⟨name, option⟩, value⟩
    rw [mem_entries_iff, mem_entries_iff, hvalues]

/-- The comparison of two configurations does not look at their orders, and at nothing
else. -/
theorem reordered_iff_same : a.Reordered b ↔ a.same b = true := by
  rw [reordered_iff, same_iff]

end ScopedConfig.RawConfig

import ScopedConfig.Proofs.Store.WriteVisibility

/-! # Names of keys that are not set

A name stands for a key of the store if it is not one of the node and no value of the
agent.  If the key is not set under any scope, the owner of the store is asked for the
name, and what the owner does not know is the default of the key's keyword, or
something missing, or has to wait (`referent_of_namesUnset`).  Nothing but the default
is ever read of such a key (`scopedText_of_isUnset`).
-/
namespace ScopedConfig

/-- The key that a name means, seen from a section. -/
def Key.seenFrom (sectionName : Text) (named : Key) : Key :=
  if named.isRelative then named.inSection sectionName else named

namespace Store

variable {store : Store} {key : Key} {keyword : Keyword} {sectionName node name raw : Text}

/-- No form of an option that is unset in every scope has a value. -/
theorem get?_eq_none_of_isUnset (h : store.isSetInAnyScope key = false) {option : Text}
    (hvariant : isVariant key.baseOption option = true) :
    store.data.get? key.sectionOrDefault option = none := by
  rw [Option.eq_none_iff_forall_ne_some]
  intro value hvalue
  have hset : store.isSetInAnyScope key = true :=
    List.any_eq_true.mpr
      ⟨option, RawConfig.mem_optionNames_iff.mpr (by rw [hvalue]; rfl), hvariant⟩
  rw [h] at hset
  cases hset

theorem isVariant_of_mem_forms {option : Text} (h : option ∈ store.forms key keyword node) :
    isVariant key.baseOption option = true := by
  have hbare : isVariant key.baseOption key.baseOption = true := by simp [isVariant]
  by_cases hscopable : keyword.scopable = true
  · rw [← variants_eq_forms store key node hscopable, variants, List.mem_append] at h
    rcases h with h | h
    · obtain ⟨scope, -, rfl⟩ := List.mem_map.mp h
      exact isVariant_scopedOption ..
    · rwa [List.mem_singleton.mp h]
  · rw [forms_of_not_scopable store key node hscopable, List.mem_singleton] at h
    rwa [h]

/-- **A key that is not set has no text but the default.** -/
theorem scopedText_of_isUnset (h : store.isSetInAnyScope key = false)
    (htext : store.scopedText key keyword node = .ok raw) : raw = keyword.default := by
  have hnone : (store.readScoped key keyword node).toOption = none := by
    rw [toOption_readScoped]
    exact List.findSome?_eq_none_iff.mpr fun option hoption =>
      get?_eq_none_of_isUnset h (isVariant_of_mem_forms hoption)
  unfold scopedText at htext
  cases hread : store.readScoped key keyword node with
  | ok value =>
    rw [hread] at hnone
    cases hnone
  | error e =>
    rw [hread] at htext
    dsimp only at htext
    split at htext
    · exact (Except.ok.inj htext).symm
    · cases htext

/-- **A name stands for a key that is not set**: it is none of the node and no value of
the agent, and the key that it is read as has no value under any scope. -/
structure NamesUnset (store : Store) (sectionName node name : Text) (key : Key) : Prop where
  unmarked : Text.after? nodeMark name = none
  unknown : store.wellKnown? sectionName node name = none
  named : ∃ named, Key.read name = .ok named ∧ named.seenFrom sectionName = key
  unset : store.isSetInAnyScope key = false

end Store

namespace LinkedStore

variable {linked : LinkedStore} {key : Key} {sectionName node name : Text}

/-- The owner is asked for the name of a key that is not set. -/
theorem referent_of_namesUnset (h : linked.store.NamesUnset sectionName node name key) :
    linked.referent sectionName node name =
      match linked.store.owner.symbol? linked.store.agent name with
      | some value => ⟨[name], .ok (.text value)⟩
      | none => ⟨[name], (linked.unsetVisit node name key).map .key⟩ := by
  obtain ⟨named, hread, hkey⟩ := h.named
  rw [referent_of_key h.unmarked h.unknown, keyReferent, hread]
  dsimp only
  rw [← Key.seenFrom, hkey, h.unset]
  rfl

end LinkedStore
end ScopedConfig

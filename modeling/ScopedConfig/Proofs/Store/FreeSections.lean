import Mathlib.Data.List.Find
import ScopedConfig.Proofs.Store.LiveEntries
import ScopedConfig.Proofs.Store.WriteVisibility

/-! # Free sections

Options of the sections `env` and `labels` need no keyword.  In a registry that declares
none for these sections (`Registry.SparesFree`), what may govern their options are the
generic keywords, which are for every section: the first one of the name of the option
does, and if there is none, the option is free (`Store.keyword?_of_sparesFree`).  A free
option takes scopes and is read as the text that it is.  What is set for an option is
what nodes see, as its keyword reads it (`Session.seesSet_of_sparesFree`); the names of
generic keywords are the ones that make a difference (`Session.not_free_annotated`).
-/
namespace ScopedConfig

namespace Registry

/-- **A registry that spares the free sections**: it declares no keyword for them. -/
def SparesFree (registry : Registry) : Prop :=
  ∀ keyword ∈ registry.keywords, keyword.sectionName ∉ freeSections

instance (registry : Registry) : Decidable registry.SparesFree :=
  inferInstanceAs (Decidable (∀ _ ∈ _, _))

/-- Whether a keyword is for an option of every section, given the kind of the
configuration and the type of the section. -/
def isGeneric (option : Text) (kind : Kind) (sectionType : Text) (keyword : Keyword) : Bool :=
  keyword.kinds.contains kind && keyword.option = option && suitsType keyword sectionType &&
    keyword.sectionName.isEmpty

/-- A free section is no driver group, and not in one. -/
theorem resourceGroup_of_free {name : Text} (h : name ∈ freeSections) :
    resourceGroup name = name := by
  revert name
  decide

/-- In a free section that the registry spares, only generic keywords match. -/
theorem lookup?_of_sparesFree {registry : Registry} {key : Key} (hspares : registry.SparesFree)
    (hsection : key.sectionOrDefault ∈ freeSections) (kind : Kind) (sectionType : Text) :
    registry.lookup? key kind sectionType =
      registry.keywords.find? (isGeneric key.option kind sectionType) := by
  refine List.find?_congr fun keyword hkeyword => ?_
  have hother : keyword.sectionName ≠ key.sectionOrDefault :=
    fun hsame => hspares keyword hkeyword (hsame ▸ hsection)
  have hundeclared : isDeclaredFor keyword key.sectionOrDefault = false := by
    simp [isDeclaredFor, resourceGroup_of_free hsection, hother]
  rw [governs, hundeclared, Bool.or_false, isGeneric]

end Registry

namespace Store

variable {store : Store} {key : Key} {keyword : Keyword}

/-- The first generic keyword that is for an option. -/
def genericKeyword? (store : Store) (key : Key) : Option Keyword :=
  store.owner.registry.keywords.find?
    (Registry.isGeneric key.option store.owner.kind (store.sectionType key))

/-- **The keyword of an option in a free section**: the first generic one that is for the
option; if there is none, one that takes scopes and reads a text as it is. -/
structure GovernsFree (store : Store) (key : Key) (keyword : Keyword) : Prop where
  generic : ∀ found, store.genericKeyword? key = some found → keyword = found
  free : store.genericKeyword? key = none →
    keyword.scopable = true ∧ ∀ text, LinkedStore.typed keyword text = .ok (.string text)

/-- A generic keyword goes before the one of a free option. -/
theorem keyword?_of_sparesFree (hspares : store.owner.registry.SparesFree)
    (hsection : key.sectionOrDefault ∈ freeSections) :
    ∃ keyword, store.keyword? key = some keyword ∧ store.GovernsFree key keyword := by
  have hlookup : store.owner.lookup? key (store.sectionType key) = store.genericKeyword? key :=
    Registry.lookup?_of_sparesFree hspares hsection _ _
  have hkeyword : store.keyword? key = (store.genericKeyword? key).or
      (some { Keyword.plain key.sectionOrDefault key.option with scopable := true }) := by
    rw [keyword?, hlookup, freeKeyword?, if_pos (List.contains_iff_mem.mpr hsection)]
  cases hgeneric : store.genericKeyword? key with
  | some found =>
    rw [hgeneric] at hkeyword
    refine ⟨found, hkeyword, fun other hother => ?_, fun hnone => ?_⟩
    · exact Option.some.inj (hgeneric.symm.trans hother)
    · cases hgeneric.symm.trans hnone
  | none =>
    rw [hgeneric] at hkeyword
    refine ⟨_, hkeyword, fun other hother => ?_, fun _ => ⟨rfl, fun _ => rfl⟩⟩
    cases hgeneric.symm.trans hother

end Store

namespace Session

/-- **What is set for an option is what nodes see**, as its keyword reads it.  A value
that is set without a scope is seen by the nodes for which no scoped form is set, and by
all nodes if the keyword takes no scopes.  One that is set for a node is seen by the
node, unless the keyword takes no scopes: then it changes the text for none. -/
structure SeesSet (session : Session) (target : Target) (key : Key) (keyword : Keyword)
    (value : Text) (index : Nat) : Prop where
  bare : ∃ after count,
    session.apply target ⟨key, .set, value, index⟩ = (after, .ok count) ∧
    ∀ node,
      (keyword.scopable = true → ∀ scope ∈ (session.member target).store.scopesOf
          ((session.member target).store.viewer node),
        (session.member target).store.get? (key.withScope scope) = none) →
      (after.evaluate target (·.evaluate key node)).2 = LinkedStore.typed keyword value
  own : ∀ node, ∃ after count,
    session.apply target
      ⟨key.withScope ((session.member target).store.viewer node), .set, value, index⟩ =
        (after, .ok count) ∧
    (keyword.scopable = true →
      (after.evaluate target (·.evaluate key node)).2 = LinkedStore.typed keyword value) ∧
    (keyword.scopable = false → ∀ other,
      (after.linked target).store.scopedText key keyword other =
        (session.member target).store.scopedText key keyword other)

/-- A text without references is what nodes see, whatever keyword the option has. -/
theorem seesSet_of_keyword? (session : Session) (target : Target) (key : Key)
    (keyword : Keyword) (value : Text) (index : Nat)
    (hgroup : key.sectionOrDefault ∉ DriverGroup.names) (hoption : scopeSeparator ∉ key.option)
    (hkeyword : (session.member target).store.keyword? key = some keyword)
    (hvalue : Reference.occursIn value = false) :
    session.SeesSet target key keyword value index := by
  have hbare : key = key.withoutScope :=
    Key.eq_withoutScope_of_scope? (Key.scope?_eq_none hoption key.sectionName)
  have hne : ∀ scope, Key.scopedOption key.baseOption scope ≠ key.baseOption := by
    intro scope hsame
    refine key.not_mem_baseOption (hsame ▸ ?_)
    exact List.mem_append_right _ List.mem_cons_self
  constructor
  case bare =>
    obtain ⟨after, count, raw, happly, hstore, hself, hothers⟩ :=
      session.exists_apply_set target key key.option value index hgroup
    refine ⟨after, count, happly, fun node hunset => ?_⟩
    refine LinkedStore.evaluate_eq_typed ?_ ?_ hvalue
    · rw [hstore, Store.keyword?_of_written hothers (.inl rfl), hkeyword]
    · rw [hstore]
      refine Store.scopedText_bare (fun hscopable scope hscope => ?_) ?_
      · have hother := hothers (Key.scopedOption key.baseOption scope)
          fun hsame => hne scope (hsame.trans (congrArg Key.option hbare))
        exact hother.trans (hunset hscopable scope hscope)
      · rw [← hbare]
        exact hself
  case own =>
    intro node
    have hscoped : scopeSeparator ∈
        Key.scopedOption key.baseOption ((session.member target).store.viewer node) :=
      List.mem_append_right _ List.mem_cons_self
    obtain ⟨after, count, raw, happly, hstore, hself, hothers⟩ :=
      session.exists_apply_set target key
        (Key.scopedOption key.baseOption ((session.member target).store.viewer node)) value index
        hgroup
    refine ⟨after, count, happly, fun hscopable => ?_, fun hunscopable other => ?_⟩
    · refine LinkedStore.evaluate_eq_typed ?_ ?_ hvalue
      · rw [hstore, Store.keyword?_of_written hothers (.inr hscoped), hkeyword]
      · rw [hstore]
        exact Store.scopedText_own hscopable hself
    -- the bare value is all that is read, and it stays
    · have hget : (after.linked target).store.get? key.withoutScope =
          (session.member target).store.get? key.withoutScope := by
        rw [hstore]
        exact hothers _ (hne _).symm
      have hread : ∀ store : Store, store.readScoped key keyword other =
          store.getStrict key.withoutScope := fun store => if_neg (by simp [hunscopable])
      rw [Store.scopedText, Store.scopedText, hread, hread, Store.getStrict, Store.getStrict, hget]

/-- **What is set in a free section is what nodes see**, as the generic keyword of the
option reads it if there is one, and else as it was given. -/
theorem seesSet_of_sparesFree (session : Session) (target : Target) (key : Key) (value : Text)
    (index : Nat) (hspares : (session.member target).store.owner.registry.SparesFree)
    (hsection : key.sectionName ∈ freeSections) (hoption : scopeSeparator ∉ key.option)
    (hvalue : Reference.occursIn value = false) :
    ∃ keyword, (session.member target).store.GovernsFree key keyword ∧
      session.SeesSet target key keyword value index := by
  have hname : key.sectionOrDefault = key.sectionName :=
    if_neg (fun hnone => absurd (hnone ▸ hsection) (by decide))
  rw [← hname] at hsection
  have hgroup : ∀ name ∈ freeSections, name ∉ DriverGroup.names := by decide
  obtain ⟨keyword, hkeyword, hgoverns⟩ := Store.keyword?_of_sparesFree hspares hsection
  exact ⟨keyword, hgoverns, session.seesSet_of_keyword? target key keyword value index
    (hgroup _ hsection) hoption hkeyword hvalue⟩

/-- A session of a service with the built-in keywords, and a comment in its environment. -/
def annotated : Session where
  own :=
    { store :=
        { path := "/etc/web.conf"
          data := .ofLists [("env", [("comment", "all"), ("priority@n1", "low")])]
          owner := ⟨.object ⟨rootNamespace, .svc, "web"⟩, Catalog.registry, ["n1", "n2"], [],
            [], [], false⟩
          agent := .default }
      asked := []
      commits := 0 }
  node? := none
  files := .empty
  ids := ⟨fun _ => [], 0⟩

/-- The built-in keyword of the priority of services is a number that takes no scopes;
in the environment a priority is a text. -/
theorem seesSet_of_sparesFree_annotated :
    ∃ after count,
      annotated.apply .own ⟨⟨"env", "priority"⟩, .set, "high", 0⟩ = (after, .ok count) ∧
      (after.evaluate .own (·.evaluate ⟨"env", "priority"⟩ "n2")).2 = .ok (.string "high") := by
  obtain ⟨keyword, hgoverns, hsees⟩ := annotated.seesSet_of_sparesFree .own ⟨"env", "priority"⟩
    "high" 0 (by decide +kernel) (by decide) (by decide) (by decide +kernel)
  obtain ⟨-, htyped⟩ := hgoverns.free (by decide +kernel)
  obtain ⟨after, count, happly, hnodes⟩ := hsees.bare
  refine ⟨after, count, happly, ?_⟩
  rw [hnodes "n2" fun _ => by decide +kernel]
  exact htyped "high"

/-- **The names of generic keywords are no names of free options**: the registry spares the
free sections, and yet words that are set as a tag in the environment are not seen as the
text that they were given as, and a comment that is set for a node is not seen by it. -/
theorem not_free_annotated :
    annotated.own.store.owner.registry.SparesFree ∧
      Reference.occursIn "b a" = false ∧ Reference.occursIn "own" = false ∧
      (∀ scope ∈ annotated.own.store.scopesOf "n1",
        annotated.own.store.get? (Key.withScope ⟨"env", "tags"⟩ scope) = none) ∧
      ((annotated.apply .own ⟨⟨"env", "tags"⟩, .set, "b a", 0⟩).1.evaluate .own
        (·.evaluate ⟨"env", "tags"⟩ "n1")).2 ≠ .ok (.string "b a") ∧
      ((annotated.apply .own ⟨⟨"env", "comment@n1"⟩, .set, "own", 0⟩).1.evaluate .own
        (·.evaluate ⟨"env", "comment"⟩ "n1")).2 ≠ .ok (.string "own") := by
  decide +kernel

end Session
end ScopedConfig

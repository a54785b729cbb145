import ScopedConfig.Proofs.Store.Simulation
import ScopedConfig.Proofs.Text.Cut
import ScopedConfig.RawConfig.Lemmas

/-! # What a node sees of a store

An option applies to a node if it has no scope, or if the node is in its scope
(`Store.AppliesTo`).  Of the options that do not apply, an evaluation for the node
reads the names and no value: look-ups in a section only read what the section has
for the node (`Store.SameView`), and an evaluation reads stores through look-ups alone.
So what is set for other nodes has no influence on any result
(`evaluations_eq_of_differsForOthers`).
-/
namespace ScopedConfig

namespace Key

theorem not_mem_baseOption (key : Key) : scopeSeparator ∉ key.baseOption := by
  unfold baseOption
  split
  · next hcut => exact (Text.cut_eq_some hcut).2
  · next hcut => exact Text.cut_eq_none_iff.mp hcut

theorem scope?_scopedOption {option : Text} (h : scopeSeparator ∉ option) (name scope : Text) :
    (Key.mk name (scopedOption option scope)).scope? = some scope := by
  simp only [scope?, scopedOption, Text.cut_append h, Option.map_some]

theorem scope?_eq_none {option : Text} (h : scopeSeparator ∉ option) (name : Text) :
    (Key.mk name option).scope? = none := by
  simp only [scope?, Text.cut_eq_none_iff.mpr h, Option.map_none]

theorem sectionOrDefault_idem (key : Key) (option : Text) :
    (Key.mk key.sectionOrDefault option).sectionOrDefault = key.sectionOrDefault := by
  have hne : key.sectionOrDefault ≠ [] := by
    unfold sectionOrDefault
    split
    · decide
    · assumption
  exact if_neg hne

end Key

namespace Store

variable {store a b : Store} {node name : Text} {key : Key}

/-! ## Look-ups in one section -/

/-- **A stored key applies to a node** if it has no scope, or if the node is in its
scope. -/
def AppliesTo (store : Store) (key : Key) (node : Text) : Prop :=
  ∀ scope, key.scope? = some scope → scope ∈ store.scopesOf (store.viewer node)

theorem appliesTo_of_not_mem {option : Text} (h : scopeSeparator ∉ option) :
    store.AppliesTo ⟨name, option⟩ node := by
  intro scope hscope
  rw [Key.scope?_eq_none h] at hscope
  cases hscope

theorem appliesTo_of_mem_variants {option stored : Text} (h : scopeSeparator ∉ option)
    (hstored : stored ∈ store.variants option (store.viewer node)) :
    store.AppliesTo ⟨name, stored⟩ node := by
  rcases List.mem_append.mp hstored with hscoped | hbare
  · obtain ⟨scope, hmem, rfl⟩ := List.mem_map.mp hscoped
    intro scope' hscope'
    rw [Key.scope?_scopedOption h, Option.some.injEq] at hscope'
    exact hscope' ▸ hmem
  · rw [List.mem_singleton.mp hbare]
    exact appliesTo_of_not_mem h

/-- **Two stores show a node the same in a section**: they have it or not, and what
applies to the node has the same values. -/
structure SameView (node name : Text) (a b : Store) : Prop where
  owner : a.owner = b.owner
  agent : a.agent = b.agent
  hasSection : a.data.hasSection name = b.data.hasSection name
  values : ∀ option, a.AppliesTo ⟨name, option⟩ node →
    a.data.get? name option = b.data.get? name option

/-- The value for a node is the first one among the forms of the option, in a section
that is there. -/
theorem descope_eq (store : Store) (key : Key) (node : Text) :
    store.descope key node =
      if store.data.hasSection key.sectionOrDefault then
        match (store.variants key.baseOption (store.viewer node)).findSome?
          (store.data.get? key.sectionOrDefault) with
        | some value => .ok value
        | none => .error (.missing (.scopes key))
      else .error (.missing (.sectionNamed key.sectionOrDefault)) := by
  have hget : ∀ options, store.data.section? key.sectionOrDefault = some options →
      store.data.get? key.sectionOrDefault = options.get? := by
    intro options h
    funext option
    simp only [RawConfig.get?, h, Option.bind_some]
  have hhas : store.data.hasSection key.sectionOrDefault =
      (store.data.section? key.sectionOrDefault).isSome := rfl
  unfold descope
  rw [hhas]
  cases h : store.data.section? key.sectionOrDefault with
  | none => rfl
  | some options => rw [hget options h]; rfl

/-- A look-up for a node only depends on the values of the forms of the option that the
node reads. -/
theorem descope_congr (howner : a.owner = b.owner) (hagent : a.agent = b.agent)
    (hsection : a.data.hasSection key.sectionOrDefault = b.data.hasSection key.sectionOrDefault)
    (hvalues : ∀ option ∈ a.variants key.baseOption (a.viewer node),
      a.data.get? key.sectionOrDefault option = b.data.get? key.sectionOrDefault option) :
    a.descope key node = b.descope key node := by
  have hvariants : a.variants key.baseOption (a.viewer node) =
      b.variants key.baseOption (b.viewer node) := by
    simp only [variants, scopesOf, groupScopes, viewer, howner, hagent]
  rw [descope_eq, descope_eq, hsection, Lists.findSome?_congr hvalues, hvariants]

/-- The keyword of a key depends on the type of the section alone. -/
theorem keyword?_congr (howner : a.owner = b.owner)
    (htype : a.data.get? key.sectionOrDefault "type" = b.data.get? key.sectionOrDefault "type") :
    a.keyword? key = b.keyword? key := by
  have hget : a.get? ⟨key.sectionOrDefault, "type"⟩ = b.get? ⟨key.sectionOrDefault, "type"⟩ := by
    rw [Store.get?, Store.get?, Key.sectionOrDefault_idem]
    exact htype
  simp only [keyword?, sectionType, Store.get, hget, howner]

namespace SameView

theorem get?_eq (h : SameView node key.sectionOrDefault a b) {option : Text}
    (hoption : scopeSeparator ∉ option) :
    a.data.get? key.sectionOrDefault option = b.data.get? key.sectionOrDefault option :=
  h.values option (appliesTo_of_not_mem hoption)

theorem descope_eq (h : SameView node key.sectionOrDefault a b) :
    a.descope key node = b.descope key node :=
  descope_congr h.owner h.agent h.hasSection fun option hoption =>
    h.values option (appliesTo_of_mem_variants key.not_mem_baseOption hoption)

theorem getStrict_eq (h : SameView node key.sectionOrDefault a b) :
    a.getStrict key.withoutScope = b.getStrict key.withoutScope := by
  have hget : a.get? key.withoutScope = b.get? key.withoutScope :=
    h.get?_eq key.not_mem_baseOption
  rw [getStrict, getStrict, hget]

theorem scopedText_eq (h : SameView node key.sectionOrDefault a b) (keyword : Keyword) :
    a.scopedText key keyword node = b.scopedText key keyword node := by
  simp only [scopedText, readScoped, h.descope_eq, h.getStrict_eq]

theorem keyword?_eq (h : SameView node key.sectionOrDefault a b) :
    a.keyword? key = b.keyword? key :=
  keyword?_congr h.owner (h.get?_eq (by decide))

end SameView

end Store

/-! ## Whole stores -/

namespace RawConfig

/-- The names of the sections and of their options, in order. -/
def outline (raw : RawConfig) : List (Text × List Text) :=
  raw.sections.entries.map fun (name, options) => (name, options.keys)

/-- The options of a section are found in the outline. -/
theorem keys_section? (raw : RawConfig) (name : Text) :
    (raw.section? name).map Dict.keys = Dict.Entries.get? name raw.outline :=
  (Dict.Entries.get?_mapValues Dict.keys name raw.sections.entries).symm

theorem hasSection_of_outline {a b : RawConfig} (h : a.outline = b.outline) (name : Text) :
    a.hasSection name = b.hasSection name := by
  have hkeys := a.keys_section? name
  rw [h, ← b.keys_section? name] at hkeys
  have hsome := congrArg Option.isSome hkeys
  rwa [Option.isSome_map, Option.isSome_map] at hsome

theorem optionNames_of_outline {a b : RawConfig} (h : a.outline = b.outline) (name : Text) :
    a.optionNames name = b.optionNames name := by
  rw [optionNames, optionNames, keys_section?, keys_section?, h]

/-- A new value for an option that is there leaves the outline as it is. -/
theorem outline_set {raw : RawConfig} {name option : Text} (h : option ∈ raw.optionNames name)
    (value : Text) : (raw.set name option value).outline = raw.outline := by
  unfold optionNames at h
  cases hsection : raw.section? name with
  | none =>
    rw [hsection] at h
    cases h
  | some options =>
    rw [hsection] at h
    have hname : name ∈ raw.sectionNames :=
      mem_sectionNames_iff.mpr (Option.isSome_iff_exists.mpr ⟨options, hsection⟩)
    rw [set, ensureSection_of_mem hname]
    simp only [outline, modifySection, Dict.modify, Dict.Entries.modify, List.map_map]
    refine List.map_congr_left fun entry hentry => ?_
    obtain ⟨other, found⟩ := entry
    dsimp only [Function.comp_apply]
    split
    · next hother =>
      subst hother
      obtain rfl : options = found :=
        Option.some.inj (hsection.symm.trans (Dict.get?_eq_some_iff.mpr hentry))
      have hkeys : option ∈ options.keys := h
      rw [Dict.keys_insert, if_pos hkeys]
    · rfl

end RawConfig

/-- **Two stores that differ at most in what is set for other nodes**: they have one
file, owner and agent, the same sections and options in the same order, and the same
value for every option that applies to the node. -/
structure Store.DiffersForOthers (node : Text) (a b : Store) : Prop where
  path : a.path = b.path
  owner : a.owner = b.owner
  agent : a.agent = b.agent
  outline : a.data.outline = b.data.outline
  values : ∀ name option, a.AppliesTo ⟨name, option⟩ node →
    a.data.get? name option = b.data.get? name option

/-- Another value for an option that does not apply to the node is such a difference. -/
theorem Store.differsForOthers_set {store : Store} {node name option : Text}
    (hset : option ∈ store.data.optionNames name) (h : ¬ store.AppliesTo ⟨name, option⟩ node)
    (value : Text) :
    store.DiffersForOthers node { store with data := store.data.set name option value } where
  path := rfl
  owner := rfl
  agent := rfl
  outline := (RawConfig.outline_set hset value).symm
  values := fun other option' happlies => by
    refine ((RawConfig.get?_set ..).trans (if_neg ?_)).symm
    rintro ⟨rfl, rfl⟩
    exact h happlies

theorem Store.DiffersForOthers.sameView {node : Text} {a b : Store} (h : a.DiffersForOthers node b)
    (name : Text) : SameView node name a b :=
  ⟨h.owner, h.agent, RawConfig.hasSection_of_outline h.outline name, h.values name⟩

theorem Store.DiffersForOthers.answersAlike {node : Text} {a b : Store}
    (h : a.DiffersForOthers node b) : a.AnswersAlike node b where
  location := by rw [h.path]
  owner := h.owner
  agent := h.agent
  hasSection := RawConfig.hasSection_of_outline h.outline
  isSetInAnyScope := fun key => by
    rw [isSetInAnyScope, isSetInAnyScope, RawConfig.optionNames_of_outline h.outline]
  keyword? := fun key => (h.sameView key.sectionOrDefault).keyword?_eq
  descope := fun key => (h.sameView key.sectionOrDefault).descope_eq
  scopedText := fun key => (h.sameView key.sectionOrDefault).scopedText_eq

namespace LinkedStore

variable {a b : LinkedStore} {node : Text}

/-- Two stores differ at most in what is set for other nodes, and so do the stores of
the node beside them. -/
structure DiffersForOthers (node : Text) (a b : LinkedStore) : Prop where
  store : a.store.DiffersForOthers node b.store
  node? : Option.Rel (Store.DiffersForOthers node) a.node? b.node?

theorem DiffersForOthers.answersAlike (h : a.DiffersForOthers node b) : a.AnswersAlike node b :=
  .of_rel (fun _ _ hstore => hstore.answersAlike) h.store h.node?

/-- **What is set for other nodes never leaks.**  Stores that differ at most in that
have the same expansion of every text, the same text and value of every key, and the
same evaluated configuration for the node: values and errors alike. -/
theorem evaluations_eq_of_differsForOthers (h : a.DiffersForOthers node b) :
    (∀ raw sectionName, a.expand raw sectionName node = b.expand raw sectionName node) ∧
    (∀ key keyword, a.evaluateText key keyword node = b.evaluateText key keyword node) ∧
    (∀ key, a.evaluate key node = b.evaluate key node) ∧
    a.evaluated node = b.evaluated node := by
  have halike := h.answersAlike
  refine ⟨halike.expand_eq, halike.evaluateText_eq, halike.evaluate_eq, ?_⟩
  have hsections := evaluatedSections_congr halike.evaluatedText_eq h.store.outline .empty
  unfold evaluated
  rw [hsections]

/-- An object and its node, both with a value for the node `n2` alone. -/
def overridden (secret : Text) : LinkedStore where
  store :=
    { path := "/etc/web.conf"
      data := .ofLists [("env", [("A", "$(upper:node.labels.az) $(B@n2)"), ("B@n2", secret),
        ("B", "open")])]
      owner := ⟨.object ⟨rootNamespace, .svc, "web"⟩, .empty, ["n1", "n2"], [], [], [], false⟩
      agent := .default }
  node? := some
    { path := "/etc/node.conf"
      data := .ofLists [("labels", [("az@n2", secret), ("az@nodes", "eu")])]
      owner := ⟨.node, .empty, ["n1", "n2"], [], [], [], false⟩
      agent := .default }

theorem evaluations_eq_overridden :
    (overridden "x").DiffersForOthers "n1" (overridden "y") ∧
      ((overridden "x").evaluated "n1").result =
        .ok (.ofLists [("env", [("A", "EU open"), ("B", "open")])]) ∧
      (overridden "x").evaluated "n1" = (overridden "y").evaluated "n1" ∧
      ((overridden "x").evaluated "n2").result ≠ ((overridden "y").evaluated "n2").result := by
  have hstore : ¬ (overridden "x").store.AppliesTo ⟨"env", "B@n2"⟩ "n1" := fun h =>
    absurd (h "n2" (by decide)) (by decide)
  have hnode : ¬ (overridden "x").nodeSide.store.AppliesTo ⟨"labels", "az@n2"⟩ "n1" := fun h =>
    absurd (h "n2" (by decide)) (by decide)
  have hset : (overridden "y").store.data = (overridden "x").store.data.set "env" "B@n2" "y" := by
    decide +kernel
  have hsetNode : (overridden "y").nodeSide.store.data =
      (overridden "x").nodeSide.store.data.set "labels" "az@n2" "y" := by
    decide +kernel
  have hdiffers : (overridden "x").DiffersForOthers "n1" (overridden "y") := by
    refine ⟨?_, .some ?_⟩
    · have h := Store.differsForOthers_set (by decide) hstore "y"
      rwa [← hset] at h
    · have h := Store.differsForOthers_set (by decide) hnode "y"
      rwa [← hsetNode] at h
  refine ⟨hdiffers, by decide +kernel, ?_, by decide +kernel⟩
  exact (evaluations_eq_of_differsForOthers hdiffers).2.2.2

end LinkedStore
end ScopedConfig

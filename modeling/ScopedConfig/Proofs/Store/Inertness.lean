import Mathlib.Logic.Relation
import ScopedConfig.Proofs.Store.Reference
import ScopedConfig.Proofs.Store.Visibility

/-! # Scopes of options that take none

An option whose keyword takes no scopes has the bare value alone.  Values that are
stored under a scope all the same are *inert* (`Store.Inert`), and a look-up under the
keyword passes them over.  There are two look-ups that do not go by this keyword: one
of a key that a reference names with its scope, which is none of the keyword, and the
one of the raw text that stands for a text that has to wait.  Both follow the scopes
(`Store.Misreads`, `Store.Shadowed`), and what they find can be an inert value
(`Store.misreads_iff_exists_ne`).

So inert values have no influence on an evaluation that comes by no such look-up
(`evaluations_eq_of_differsInert`), and they have on one that does
(`not_inert_ranked`).  That no look-up goes wrong is asked of the keys that the
evaluation enters, which are those that its references lead to (`Visit.ReadsBare`).
-/
namespace ScopedConfig

namespace Key

theorem baseOption_of_not_mem {option : Text} (h : scopeSeparator ∉ option) (name : Text) :
    (Key.mk name option).baseOption = option := by
  simp only [baseOption, Text.cut_eq_none_iff.mpr h]

theorem baseOption_scopedOption {option : Text} (h : scopeSeparator ∉ option) (name scope : Text) :
    (Key.mk name (scopedOption option scope)).baseOption = option := by
  simp only [baseOption, scopedOption, Text.cut_append h]

theorem baseOption_withoutScope (key : Key) : key.withoutScope.baseOption = key.baseOption :=
  baseOption_of_not_mem key.not_mem_baseOption key.sectionName

theorem withoutScope_withoutScope (key : Key) :
    key.withoutScope.withoutScope = key.withoutScope := by
  rw [withoutScope, baseOption_withoutScope]
  rfl

end Key

namespace RawConfig

theorem hasSection_of_isSome_get? {raw : RawConfig} {name option : Text}
    (h : (raw.get? name option).isSome) : raw.hasSection name = true := by
  refine Dict.contains_iff.mpr (Classical.byContradiction fun habsent => ?_)
  rw [get?_eq_none_of_not_mem habsent] at h
  cases h

/-- Configurations with one outline have the same options set. -/
theorem isSome_get?_of_outline {a b : RawConfig} (h : a.outline = b.outline) (name option : Text) :
    (a.get? name option).isSome = (b.get? name option).isSome := by
  rw [Bool.eq_iff_iff, ← mem_optionNames_iff, ← mem_optionNames_iff, optionNames_of_outline h]

end RawConfig

namespace Store

variable {store a b : Store} {node : Text} {key other : Key}

/-! ## Options that take no scopes -/

/-- Whether the option of a key takes no scopes, by the keyword that it has without
scope. -/
def Unscopable (store : Store) (key : Key) : Prop :=
  ∃ keyword, store.keyword? key.withoutScope = some keyword ∧ keyword.scopable = false

/-- **An inert key**: one under a scope, of an option that takes none. -/
def Inert (store : Store) (key : Key) : Prop := key.scope?.isSome ∧ store.Unscopable key

/-- **Inert values stand before the bare one**: the option takes no scopes, and has a
value under one that the node is in. -/
def Shadowed (store : Store) (key : Key) (node : Text) : Prop :=
  store.Unscopable key ∧ ∃ scope ∈ store.scopesOf (store.viewer node),
    (store.data.get? key.sectionOrDefault (Key.scopedOption key.baseOption scope)).isSome

/-- **A key as it is written is misread**: no keyword that it has with its scope keeps
the scopes from it, and inert values stand before the bare one. -/
def Misreads (store : Store) (key : Key) (node : Text) : Prop :=
  (∀ keyword, store.keyword? key = some keyword → keyword.scopable = true) ∧
    store.Shadowed key node

/-- The keyword of a key depends on its section and its option. -/
theorem keyword?_eq_of_sameEntry (hsection : key.sectionOrDefault = other.sectionOrDefault)
    (hoption : key.option = other.option) : store.keyword? key = store.keyword? other := by
  have hgoverns : Registry.governs key = Registry.governs other := by
    funext kind sectionType keyword
    simp only [Registry.governs, hsection, hoption]
  simp only [keyword?, Owner.lookup?, Registry.lookup?, hgoverns, sectionType, freeKeyword?,
    hsection, hoption]

theorem unscopable_congr (hsection : key.sectionOrDefault = other.sectionOrDefault)
    (hoption : key.baseOption = other.baseOption) :
    store.Unscopable key ↔ store.Unscopable other := by
  have hkeyword : store.keyword? key.withoutScope = store.keyword? other.withoutScope :=
    keyword?_eq_of_sameEntry hsection hoption
  rw [Unscopable, Unscopable, hkeyword]

/-- The bare form of an option is not inert. -/
theorem not_inert_bare (store : Store) (key : Key) :
    ¬ store.Inert ⟨key.sectionOrDefault, key.baseOption⟩ := by
  rintro ⟨hscope, -⟩
  rw [Key.scope?_eq_none key.not_mem_baseOption] at hscope
  cases hscope

/-- A scoped form is inert only if the option takes no scopes. -/
theorem unscopable_of_inert_scoped {scope : Text}
    (h : store.Inert ⟨key.sectionOrDefault, Key.scopedOption key.baseOption scope⟩) :
    store.Unscopable key :=
  (unscopable_congr (key.sectionOrDefault_idem _)
    (Key.baseOption_scopedOption key.not_mem_baseOption ..)).mp h.2

/-- A key without a scope is not misread: if its option takes none, its keyword says so. -/
theorem not_misreads_withoutScope (store : Store) (key : Key) (node : Text) :
    ¬ store.Misreads key.withoutScope node := by
  rintro ⟨hwritten, ⟨keyword, hkeyword, hscopable⟩, -⟩
  rw [key.withoutScope_withoutScope] at hkeyword
  rw [hwritten keyword hkeyword] at hscopable
  cases hscopable

/-- The first form of an option that is set has the value for the node. -/
theorem descope_of_first {before after : List Text} {option value : Text}
    (hvariants : store.variants key.baseOption (store.viewer node) = before ++ option :: after)
    (hvalue : store.data.get? key.sectionOrDefault option = some value)
    (hbefore : ∀ unset ∈ before, store.data.get? key.sectionOrDefault unset = none) :
    store.descope key node = .ok value := by
  have hsection := RawConfig.hasSection_of_isSome_get? (Option.isSome_of_eq_some hvalue)
  rw [descope_eq, if_pos hsection,
    List.findSome?_eq_some_iff.mpr ⟨before, option, after, hvariants, hvalue, hbefore⟩]

/-- Where inert values stand before the bare one, the first of them stands first. -/
theorem exists_first_of_shadowed (h : store.Shadowed key node) :
    ∃ before scope after value,
      store.variants key.baseOption (store.viewer node) =
        before ++ Key.scopedOption key.baseOption scope :: after ∧
      store.data.get? key.sectionOrDefault (Key.scopedOption key.baseOption scope) = some value ∧
      ∀ unset ∈ before, store.data.get? key.sectionOrDefault unset = none := by
  obtain ⟨-, scope, hscope, hset⟩ := h
  have hfound : (((store.scopesOf (store.viewer node)).map
      (Key.scopedOption key.baseOption)).findSome?
        (store.data.get? key.sectionOrDefault)).isSome :=
    List.findSome?_isSome_iff.mpr ⟨_, List.mem_map_of_mem hscope, hset⟩
  obtain ⟨value, hvalue⟩ := Option.isSome_iff_exists.mp hfound
  obtain ⟨before, option, after, hsplit, hoption, hbefore⟩ := List.findSome?_eq_some_iff.mp hvalue
  have hmem : option ∈ (store.scopesOf (store.viewer node)).map (Key.scopedOption key.baseOption) :=
    hsplit ▸ List.mem_append_right _ List.mem_cons_self
  obtain ⟨first, -, rfl⟩ := List.mem_map.mp hmem
  refine ⟨before, first, after ++ [key.baseOption], value, ?_, hoption, hbefore⟩
  rw [variants, hsplit, List.append_assoc, List.cons_append]

theorem exists_descope_of_shadowed (h : store.Shadowed key node) :
    ∃ raw, store.descope key node = .ok raw := by
  obtain ⟨before, scope, after, value, hvariants, hvalue, hbefore⟩ := exists_first_of_shadowed h
  exact ⟨value, descope_of_first hvariants hvalue hbefore⟩

/-- The text of a key that is misread is what a look-up that follows the scopes finds. -/
theorem storedText_of_misreads (h : store.Misreads key node) :
    store.storedText key node = store.descope key node := by
  unfold storedText
  split
  · next keyword hkeyword =>
    obtain ⟨raw, hraw⟩ := exists_descope_of_shadowed h.2
    rw [scopedText, readScoped, if_pos (h.1 keyword hkeyword), hraw]
  · rfl

theorem exists_storedText_of_misreads (h : store.Misreads key node) :
    ∃ raw, store.storedText key node = .ok raw := by
  rw [storedText_of_misreads h]
  exact exists_descope_of_shadowed h.2

/-- An option under a scope is a form of the option. -/
theorem isVariant_scopedOption (option scope : Text) :
    isVariant option (Key.scopedOption option scope) = true := by
  have hsplit : Key.scopedOption option scope = option ++ [scopeSeparator] ++ scope := by
    simp [Key.scopedOption]
  rw [isVariant, hsplit, Text.after?_append]
  simp

/-- A key that is misread is set under a scope. -/
theorem isSetInAnyScope_of_misreads (h : store.Misreads key node) :
    store.isSetInAnyScope key = true := by
  obtain ⟨-, -, scope, -, hset⟩ := h
  exact List.any_eq_true.mpr
    ⟨_, RawConfig.mem_optionNames_iff.mpr hset, isVariant_scopedOption ..⟩

/-! ## Stores that differ in inert values -/

/-- **Two stores that differ at most in inert values**: they have one file, owner and
agent, the same sections and options in the same order, and the same value for every
option that is not inert. -/
structure DiffersInert (a b : Store) : Prop where
  path : a.path = b.path
  owner : a.owner = b.owner
  agent : a.agent = b.agent
  outline : a.data.outline = b.data.outline
  values : ∀ name option, ¬ a.Inert ⟨name, option⟩ →
    a.data.get? name option = b.data.get? name option

/-- Another inert value is such a difference. -/
theorem differsInert_set {name option : Text} (hset : option ∈ store.data.optionNames name)
    (h : store.Inert ⟨name, option⟩) (value : Text) :
    store.DiffersInert { store with data := store.data.set name option value } where
  path := rfl
  owner := rfl
  agent := rfl
  outline := (RawConfig.outline_set hset value).symm
  values := fun other option' hinert => by
    refine ((RawConfig.get?_set ..).trans (if_neg ?_)).symm
    rintro ⟨rfl, rfl⟩
    exact hinert h

namespace DiffersInert

theorem keyword?_eq (h : a.DiffersInert b) (key : Key) : a.keyword? key = b.keyword? key := by
  refine keyword?_congr h.owner (h.values _ _ fun hinert => ?_)
  have hscope := hinert.1
  rw [Key.scope?_eq_none (by decide)] at hscope
  cases hscope

/-- **Look-ups that follow the scopes agree if inert values do not stand before the bare
one.** -/
theorem descope_eq (h : a.DiffersInert b) (hclear : ¬ a.Shadowed key node) :
    a.descope key node = b.descope key node := by
  refine descope_congr h.owner h.agent (RawConfig.hasSection_of_outline h.outline _) ?_
  intro option hoption
  rcases List.mem_append.mp hoption with hscoped | hbare
  · obtain ⟨scope, hscope, rfl⟩ := List.mem_map.mp hscoped
    by_cases hunscopable : a.Unscopable key
    -- under a scope the option has no value, in neither of the stores
    · have hunset : (a.data.get? key.sectionOrDefault
          (Key.scopedOption key.baseOption scope)).isSome = false := by
        rw [← Bool.not_eq_true]
        exact fun hset => hclear ⟨hunscopable, scope, hscope, hset⟩
      have hunset' := hunset
      rw [RawConfig.isSome_get?_of_outline h.outline] at hunset'
      rw [Option.isSome_eq_false_iff, Option.isNone_iff_eq_none] at hunset hunset'
      rw [hunset, hunset']
    · exact h.values _ _ fun hinert => hunscopable (unscopable_of_inert_scoped hinert)
  · rw [List.mem_singleton.mp hbare]
    exact h.values _ _ (a.not_inert_bare key)

/-- **The texts of a key agree unless it is misread.** -/
theorem storedText_eq (h : a.DiffersInert b) (hclear : ¬ a.Misreads key node) :
    a.storedText key node = b.storedText key node := by
  unfold storedText
  rw [← h.keyword?_eq]
  split
  · next keyword hkeyword =>
    have hread : a.readScoped key keyword node = b.readScoped key keyword node := by
      unfold readScoped
      split
      · next hscopable =>
        refine h.descope_eq fun hshadowed => hclear ⟨fun keyword' hkeyword' => ?_, hshadowed⟩
        rw [hkeyword, Option.some.injEq] at hkeyword'
        exact hkeyword' ▸ hscopable
      · have hget : a.get? key.withoutScope = b.get? key.withoutScope :=
          h.values _ _ (a.not_inert_bare key)
        rw [getStrict, getStrict, hget]
    rw [scopedText, scopedText, hread]
  · next hkeyword =>
    refine h.descope_eq fun hshadowed => hclear ⟨fun keyword hkeyword' => ?_, hshadowed⟩
    rw [hkeyword] at hkeyword'
    cases hkeyword'

/-- A difference in inert values leaves a key as misread as it was. -/
theorem misreads (h : a.DiffersInert b) (hmisread : a.Misreads key node) : b.Misreads key node := by
  obtain ⟨hwritten, ⟨keyword, hkeyword, hscopable⟩, scope, hscope, hset⟩ := hmisread
  refine ⟨fun keyword' hkeyword' => hwritten keyword' ?_,
    ⟨keyword, (h.keyword?_eq _).symm.trans hkeyword, hscopable⟩, scope, ?_, ?_⟩
  · exact (h.keyword?_eq key).trans hkeyword'
  · simpa only [scopesOf, groupScopes, viewer, h.owner, h.agent] using hscope
  · rwa [← RawConfig.isSome_get?_of_outline h.outline]

theorem answersAlikeOn (h : a.DiffersInert b) (node : Text) :
    a.AnswersAlikeOn (fun key => ¬ a.Misreads key node) node b where
  location := by rw [h.path]
  owner := h.owner
  agent := h.agent
  hasSection := RawConfig.hasSection_of_outline h.outline
  isSetInAnyScope := fun key => by
    rw [isSetInAnyScope, isSetInAnyScope, RawConfig.optionNames_of_outline h.outline]
  keyword? := h.keyword?_eq
  storedText := fun _ => h.storedText_eq

end DiffersInert

/-- The first inert value that stands before the bare one can be another one. -/
theorem exists_descope_ne_of_shadowed (h : store.Shadowed key node) :
    ∃ other, store.DiffersInert other ∧ store.descope key node ≠ other.descope key node := by
  obtain ⟨before, scope, after, value, hvariants, hvalue, hbefore⟩ := exists_first_of_shadowed h
  have hinert : store.Inert ⟨key.sectionOrDefault, Key.scopedOption key.baseOption scope⟩ := by
    refine ⟨?_, (unscopable_congr (key.sectionOrDefault_idem _)
      (Key.baseOption_scopedOption key.not_mem_baseOption ..)).mpr h.1⟩
    rw [Key.scope?_scopedOption key.not_mem_baseOption]
    rfl
  have hset : Key.scopedOption key.baseOption scope ∈ store.data.optionNames key.sectionOrDefault :=
    RawConfig.mem_optionNames_iff.mpr (Option.isSome_of_eq_some hvalue)
  let data := store.data.set key.sectionOrDefault (Key.scopedOption key.baseOption scope)
    ('!' :: value)
  have hfirst : data.get? key.sectionOrDefault (Key.scopedOption key.baseOption scope) =
      some ('!' :: value) := (RawConfig.get?_set ..).trans (if_pos ⟨rfl, rfl⟩)
  have hunset : ∀ unset ∈ before, data.get? key.sectionOrDefault unset = none := by
    intro unset hmem
    refine (RawConfig.get?_set ..).trans ((if_neg ?_).trans (hbefore unset hmem))
    rintro ⟨-, rfl⟩
    rw [hbefore _ hmem] at hvalue
    cases hvalue
  have hother : Store.descope { store with data := data } key node = .ok ('!' :: value) :=
    descope_of_first hvariants hfirst hunset
  refine ⟨_, differsInert_set hset hinert ('!' :: value), ?_⟩
  rw [descope_of_first hvariants hvalue hbefore]
  intro hsame
  exact List.cons_ne_self _ _ (Except.ok.inj (hsame.trans hother)).symm

/-- **A key is misread exactly if another inert value could change its text.** -/
theorem misreads_iff_exists_ne :
    store.Misreads key node ↔
      ∃ other, store.DiffersInert other ∧
        store.storedText key node ≠ other.storedText key node := by
  constructor
  · intro h
    obtain ⟨other, hdiffers, hne⟩ := exists_descope_ne_of_shadowed h.2
    refine ⟨other, hdiffers, ?_⟩
    rwa [storedText_of_misreads h, storedText_of_misreads (hdiffers.misreads h)]
  · rintro ⟨other, hdiffers, hne⟩
    exact Classical.byContradiction fun hclear => hne (hdiffers.storedText_eq hclear)

end Store

/-! ## Evaluations that read bare values -/

/-- **The expansion of a key reads no inert value**: neither the key nor any other that
its references lead to is misread. -/
def Visit.ReadsBare (node : Text) (v : Visit) : Prop :=
  ∀ w, Relation.ReflTransGen (Visit.Refers node) v w → ¬ w.linked.store.Misreads w.key node

namespace LinkedStore

variable {a b linked : LinkedStore} {key : Key} {keyword : Keyword} {sectionName node name : Text}

/-- The expansion of what a name stands for reads no inert value. -/
def NameReadsBare (linked : LinkedStore) (sectionName node name : Text) : Prop :=
  ∀ referent visit, (linked.referent sectionName node name).result = .ok referent →
    referent.visit? = some visit → visit.ReadsBare node

/-- **The expansion of a text reads no inert value.** -/
def ReadsBare (linked : LinkedStore) (raw sectionName node : Text) : Prop :=
  ∀ name ∈ Reference.names raw, linked.NameReadsBare sectionName node name

theorem readsBare_visit_iff {v : Visit} :
    v.ReadsBare node ↔ ¬ v.linked.store.Misreads v.key node ∧
      v.linked.ReadsBare v.raw v.key.sectionOrDefault node := by
  constructor
  · intro h
    refine ⟨h v .refl, fun name hname referent visit hr hv w hw => ?_⟩
    exact h w (.head ⟨name, hname, referent, hr, hv⟩ hw)
  · rintro ⟨hclear, htext⟩ w hw
    rcases hw.cases_head with rfl | ⟨u, ⟨name, hname, referent, hr, hu⟩, huw⟩
    · exact hclear
    · exact htext name hname referent u hr hu w huw

/-- **An option of an evaluated configuration is evaluated without reading an inert
value**: its expansion reads none, and if its text has to wait, none stands before the
raw one. -/
structure OptionReadsBare (linked : LinkedStore) (key : Key) (node : Text) : Prop where
  governed : ∀ visit, linked.governedVisit key node = .ok visit → visit.ReadsBare node
  ungoverned : ∀ raw, linked.store.keyword? key = none → linked.store.descope key node = .ok raw →
    linked.ReadsBare raw key.sectionName node
  waiting : ∀ e, (linked.evaluateAny key node).result = .error e → e.isPostponed = true →
    ¬ linked.store.Shadowed key node

theorem readsBare_of_names_eq_nil {raw : Text} (h : Reference.names raw = []) :
    linked.ReadsBare raw sectionName node := by
  intro name hname
  rw [h] at hname
  cases hname

/-! ### What is named and misread is entered -/

theorem governedVisit_of_storedText {raw : Text}
    (hkeyword : linked.store.keyword? key = some keyword)
    (hraw : linked.store.storedText key node = .ok raw) :
    linked.governedVisit key node = .ok ⟨linked, key, raw⟩ := by
  rw [governedVisit, hkeyword]
  show linked.visitUnder key keyword node = _
  rw [visitUnder, ← Store.storedText_eq_scopedText hkeyword, hraw]
  rfl

theorem nodeReferent_of_governedVisit {rest : Text} {visit : Visit}
    (hread : Key.read (if Text.contains '.' rest then rest else nodeMark ++ rest) = .ok key)
    (hkey : key.sectionName ∈ nodeSections)
    (hvisit : linked.nodeSide.governedVisit key node = .ok visit) :
    ∃ referent, linked.nodeReferent node name rest = .ok referent ∧
      referent.visit? = some visit := by
  rw [nodeReferent, hread]
  simp only [List.contains_iff_mem.mpr hkey, if_true, hvisit, Except.map]
  split
  · exact ⟨_, rfl, rfl⟩
  · exact ⟨_, rfl, rfl⟩

theorem keyReferent_of_storedText (named : Key) {raw : Text} (hread : Key.read name = .ok named)
    (hset : linked.store.isSetInAnyScope
      (if named.isRelative then named.inSection sectionName else named) = true)
    (hraw : linked.store.storedText
      (if named.isRelative then named.inSection sectionName else named) node = .ok raw) :
    (linked.keyReferent sectionName node name).result = .ok (.key ⟨linked,
      if named.isRelative then named.inSection sectionName else named, raw⟩) := by
  rw [keyReferent, hread]
  simp only [hset, if_true, hraw]
  rfl

/-! ### Two runs -/

/-- Two stores differ at most in inert values, and so do the stores of the node beside
them. -/
structure DiffersInert (a b : LinkedStore) : Prop where
  store : a.store.DiffersInert b.store
  node? : Option.Rel Store.DiffersInert a.node? b.node?

/-- The same key with the same text, seen from stores that differ at most in inert
values. -/
def DiffersInert.SameVisit (v w : Visit) : Prop :=
  v.linked.DiffersInert w.linked ∧ v.key = w.key ∧ v.raw = w.raw

/-- Such a key that is expanded without reading an inert value. -/
def DiffersInert.SameBareVisit (node : Text) (v w : Visit) : Prop :=
  SameVisit v w ∧ v.ReadsBare node

namespace DiffersInert

theorem sameVisit (h : a.DiffersInert b) (key : Key) (raw : Text) :
    SameVisit ⟨a, key, raw⟩ ⟨b, key, raw⟩ :=
  ⟨h, rfl, rfl⟩

theorem nodeSide (h : a.DiffersInert b) : a.nodeSide.DiffersInert b.nodeSide := by
  obtain ⟨hstore, hnode⟩ := nodeSide_of_rel h.store h.node?
  exact ⟨hstore, hnode⟩

/-- A reference to the node stands for alike things unless it leads to a key that is
misread: if the key were, it would be what the reference leads to. -/
theorem nodeReferent_sameVisit (h : a.DiffersInert b) {rest : Text}
    (hclear : ∀ referent visit, a.nodeReferent node name rest = .ok referent →
      referent.visit? = some visit → ¬ visit.linked.store.Misreads visit.key node) :
    Outcome.AlikeResults (Referent.Alike SameVisit) (a.nodeReferent node name rest)
      (b.nodeReferent node name rest) := by
  refine nodeReferent_alike_of (isSome_node?_of_rel h.node?) fun key hread hkey => ?_
  refine governedVisit_alikeOn (h.nodeSide.store.answersAlikeOn node) h.nodeSide.sameVisit ?_
  intro keyword hkeyword hmisread
  obtain ⟨raw, hraw⟩ := Store.exists_storedText_of_misreads hmisread
  obtain ⟨referent, hr, hv⟩ := nodeReferent_of_governedVisit hread hkey
    (governedVisit_of_storedText hkeyword hraw)
  exact hclear referent _ hr hv hmisread

/-- So does a reference to a key of the store. -/
theorem keyReferent_sameVisit (h : a.DiffersInert b)
    (hclear : ∀ referent visit, (a.keyReferent sectionName node name).result = .ok referent →
      referent.visit? = some visit → ¬ visit.linked.store.Misreads visit.key node) :
    (a.keyReferent sectionName node name).Alike (Referent.Alike SameVisit)
      (b.keyReferent sectionName node name) := by
  refine keyReferent_alikeOn (h.store.answersAlikeOn node) h.sameVisit ?_
  intro named hread hmisread
  obtain ⟨raw, hraw⟩ := Store.exists_storedText_of_misreads hmisread
  have hset := Store.isSetInAnyScope_of_misreads hmisread
  exact hclear _ _ (keyReferent_of_storedText named hread hset hraw) rfl hmisread

/-- **Names stand for alike things** if what they stand for is expanded without reading
an inert value. -/
theorem referent_sameBareVisit (h : a.DiffersInert b)
    (hbare : a.NameReadsBare sectionName node name) :
    (a.referent sectionName node name).Alike (Referent.Alike (SameBareVisit node))
      (b.referent sectionName node name) := by
  have hclear : ∀ referent visit, (a.referent sectionName node name).result = .ok referent →
      referent.visit? = some visit → ¬ visit.linked.store.Misreads visit.key node :=
    fun referent visit hr hv => (readsBare_visit_iff.mp (hbare referent visit hr hv)).1
  have halike : (a.referent sectionName node name).Alike (Referent.Alike SameVisit)
      (b.referent sectionName node name) := by
    refine referent_alike_of (h.store.answersAlikeOn node).toHoldsSameKeys ?_ ?_
    · intro rest hmark
      rw [referent_of_mark hmark] at hclear
      exact h.nodeReferent_sameVisit hclear
    · intro hmark hknown
      rw [referent_of_key hmark hknown] at hclear
      exact h.keyReferent_sameVisit hclear
  refine ⟨halike.asked, halike.result.imp fun referent _ hr hrs => ?_⟩
  exact hrs.imp fun v _ hv hvw => ⟨hvw, hbare referent v hr hv⟩

end DiffersInert

theorem isSimulation_sameBareVisit (node : Text) :
    IsSimulation node (DiffersInert.SameBareVisit node) where
  entry := by
    rintro ⟨a, key, raw⟩ ⟨b, _, _⟩ ⟨⟨h, rfl, rfl⟩, -⟩
    exact (h.store.answersAlikeOn node).trailEntry key
  raw := fun h => h.1.2.2
  referent := by
    rintro ⟨a, key, raw⟩ ⟨b, _, _⟩ ⟨⟨h, rfl, rfl⟩, hbare⟩ name hname
    exact h.referent_sameBareVisit ((readsBare_visit_iff.mp hbare).2 name hname)

namespace DiffersInert

/-- **Texts expand to the same** if that reads no inert value. -/
theorem expand_eq (h : a.DiffersInert b) {raw : Text} (hbare : a.ReadsBare raw sectionName node) :
    a.expand raw sectionName node = b.expand raw sectionName node :=
  LinkedStore.expand_eq (isSimulation_sameBareVisit node) fun name hname =>
    h.referent_sameBareVisit (hbare name hname)

theorem evaluateText_eq (h : a.DiffersInert b) (hkeyword : a.store.keyword? key = some keyword)
    (hbare : ∀ visit, a.governedVisit key node = .ok visit → visit.ReadsBare node) :
    a.evaluateText key keyword node = b.evaluateText key keyword node := by
  have hclear : ¬ a.store.Misreads key node := by
    intro hmisread
    obtain ⟨raw, hraw⟩ := Store.exists_storedText_of_misreads hmisread
    have hentered := hbare _ (governedVisit_of_storedText hkeyword hraw)
    exact (readsBare_visit_iff.mp hentered).1 hmisread
  have halike : Outcome.AlikeResults SameVisit (a.visitUnder key keyword node)
      (b.visitUnder key keyword node) :=
    visitUnder_alikeOn (h.store.answersAlikeOn node) h.sameVisit hclear hkeyword
  have hgoverned : a.governedVisit key node = a.visitUnder key keyword node := by
    rw [governedVisit, hkeyword]
  rw [hgoverned] at hbare
  exact LinkedStore.evaluateText_eq (isSimulation_sameBareVisit node)
    (halike.imp fun v _ hv hvw => ⟨hvw, hbare v hv⟩)

theorem evaluate_eq (h : a.DiffersInert b)
    (hbare : ∀ visit, a.governedVisit key node = .ok visit → visit.ReadsBare node) :
    a.evaluate key node = b.evaluate key node :=
  evaluate_congr_of (h.store.keyword?_eq key) fun _ hkeyword => h.evaluateText_eq hkeyword hbare

theorem evaluatedText_eq (h : a.DiffersInert b) (hkey : key.withoutScope = key)
    (hbare : a.OptionReadsBare key node) : a.evaluatedText key node = b.evaluatedText key node := by
  refine evaluatedText_congr_of ?_ fun e he hpostponed =>
    h.store.descope_eq (hbare.waiting e he hpostponed)
  unfold evaluateAny
  rw [← h.store.keyword?_eq]
  split
  · next keyword hkeyword => exact h.evaluateText_eq hkeyword hbare.governed
  · next hkeyword =>
    have hclear : ¬ a.store.Shadowed key node := by
      rintro ⟨⟨keyword, hsome, -⟩, -⟩
      rw [hkey, hkeyword] at hsome
      cases hsome
    rw [← h.store.descope_eq hclear]
    cases hraw : a.store.descope key node with
    | error e => rfl
    | ok raw =>
      show Outcome.andThen _ _ = Outcome.andThen _ _
      have hexpand := h.expand_eq (hbare.ungoverned raw hkeyword hraw)
      simp only [Outcome.ofResult, Outcome.andThen, hexpand]

end DiffersInert

/-- **Values under scopes that an option does not take are inert**, wherever no look-up
misreads them.  Stores that differ at most in such values have the same expansion of a
text, the same value of a key, and the same evaluated configuration, values and errors
alike, if the references on the way lead to no key that is misread, and no option that
has to wait is shadowed. -/
theorem evaluations_eq_of_differsInert (h : a.DiffersInert b) (node : Text) :
    (∀ raw sectionName, a.ReadsBare raw sectionName node →
      a.expand raw sectionName node = b.expand raw sectionName node) ∧
    (∀ key, (∀ visit, a.governedVisit key node = .ok visit → visit.ReadsBare node) →
      a.evaluate key node = b.evaluate key node) ∧
    ((∀ entry ∈ a.store.data.sections.entries, entry.1 ≠ metadataSection →
        ∀ option ∈ entry.2.keys, a.OptionReadsBare (Key.withoutScope ⟨entry.1, option⟩) node) →
      a.evaluated node = b.evaluated node) := by
  refine ⟨fun _ _ => h.expand_eq, fun _ => h.evaluate_eq, fun hbare => ?_⟩
  have hsections := evaluatedSections_congr_of
    (fun entry hentry hname option hoption => h.evaluatedText_eq
      (Key.withoutScope_withoutScope _) (hbare entry hentry hname option hoption))
    h.store.outline .empty
  unfold evaluated
  rw [hsections]

/-- A node with a priority, which takes no scopes, another one for `n1` all the same,
and a rank that refers to it. -/
def ranked (sectionName bare inert : Text) : LinkedStore where
  store :=
    { path := "/etc/node.conf"
      data := .ofLists [(sectionName,
        [("priority", bare), ("priority@n1", inert), ("rank", "$(priority)")])]
      owner := ⟨.node, ⟨[.plain sectionName "priority", .plain sectionName "rank"]⟩, [], [], [], [],
        false⟩
      agent := .default }
  node? := none

theorem differsInert_ranked {sectionName bare : Text}
    (hset : (ranked sectionName bare "y").store.data =
      (ranked sectionName bare "x").store.data.set sectionName "priority@n1" "y")
    (hmem : "priority@n1".toList ∈ (ranked sectionName bare "x").store.data.optionNames sectionName)
    (hkeyword : (ranked sectionName bare "x").store.keyword? ⟨sectionName, "priority"⟩ =
      some (.plain sectionName "priority")) :
    (ranked sectionName bare "x").DiffersInert (ranked sectionName bare "y") := by
  have hinert : (ranked sectionName bare "x").store.Inert ⟨sectionName, "priority@n1"⟩ :=
    ⟨rfl, _, hkeyword, rfl⟩
  have hdiffers := Store.differsInert_set hmem hinert "y"
  rw [← hset] at hdiffers
  exact ⟨hdiffers, .none⟩

/-- The priority is read without its scope, and leads nowhere. -/
theorem readsBare_priority_ranked :
    Visit.ReadsBare "n1" ⟨ranked "DEFAULT" "50" "x", ⟨"DEFAULT", "priority"⟩, "50"⟩ :=
  readsBare_visit_iff.mpr ⟨Store.not_misreads_withoutScope _ ⟨"DEFAULT", "priority"⟩ _,
    readsBare_of_names_eq_nil (by decide +kernel)⟩

/-- The reference leads to the priority. -/
theorem readsBare_reference_ranked :
    (ranked "DEFAULT" "50" "x").ReadsBare "$(priority)" "DEFAULT" "n1" := by
  have hnames : Reference.names "$(priority)" = ["priority".toList] := by decide +kernel
  intro name hname
  rw [hnames, List.mem_singleton] at hname
  subst hname
  intro referent visit hr hv
  have hreferent : ((ranked "DEFAULT" "50" "x").keyReferent "DEFAULT" "n1" "priority").result =
      .ok (.key ⟨ranked "DEFAULT" "50" "x", ⟨"DEFAULT", "priority"⟩, "50"⟩) :=
    keyReferent_of_storedText ⟨[], "priority"⟩ (by decide +kernel) (by decide +kernel)
      (by decide +kernel)
  rw [referent_of_key (by decide +kernel) (by decide +kernel)] at hr
  obtain rfl := Except.ok.inj (hreferent.symm.trans hr)
  obtain rfl := Option.some.inj hv
  exact readsBare_priority_ranked

theorem readsBare_rank_ranked :
    Visit.ReadsBare "n1" ⟨ranked "DEFAULT" "50" "x", ⟨"DEFAULT", "rank"⟩, "$(priority)"⟩ :=
  readsBare_visit_iff.mpr ⟨Store.not_misreads_withoutScope _ ⟨"DEFAULT", "rank"⟩ _,
    readsBare_reference_ranked⟩

/-- An option that has a value is evaluated without reading an inert one if its text is
expanded so. -/
theorem optionReadsBare_of_ok (keyword : Keyword) {raw : Text} (text : Text)
    (hkeyword : linked.store.keyword? key = some keyword)
    (hraw : linked.store.storedText key node = .ok raw)
    (hbare : Visit.ReadsBare node ⟨linked, key, raw⟩)
    (htext : (linked.evaluateAny key node).result = .ok text) :
    linked.OptionReadsBare key node where
  governed := fun visit hvisit => by
    rw [governedVisit_of_storedText hkeyword hraw] at hvisit
    exact Except.ok.inj hvisit ▸ hbare
  ungoverned := fun _ hnone _ => by
    rw [hkeyword] at hnone
    cases hnone
  waiting := fun e he _ => by
    rw [htext] at he
    cases he

theorem evaluations_eq_ranked :
    (ranked "DEFAULT" "50" "x").DiffersInert (ranked "DEFAULT" "50" "y") ∧
      ((ranked "DEFAULT" "50" "x").expand "$(priority)" "DEFAULT" "n1").result = .ok "50" ∧
      (ranked "DEFAULT" "50" "x").expand "$(priority)" "DEFAULT" "n1" =
        (ranked "DEFAULT" "50" "y").expand "$(priority)" "DEFAULT" "n1" ∧
      (ranked "DEFAULT" "50" "x").evaluate ⟨"DEFAULT", "rank"⟩ "n1" =
        (ranked "DEFAULT" "50" "y").evaluate ⟨"DEFAULT", "rank"⟩ "n1" ∧
      ((ranked "DEFAULT" "50" "x").evaluated "n1").result =
        .ok (.ofLists [("DEFAULT", [("priority", "50"), ("rank", "50")])]) ∧
      (ranked "DEFAULT" "50" "x").evaluated "n1" = (ranked "DEFAULT" "50" "y").evaluated "n1" := by
  have hdiffers : (ranked "DEFAULT" "50" "x").DiffersInert (ranked "DEFAULT" "50" "y") :=
    differsInert_ranked (by decide +kernel) (by decide +kernel) (by decide +kernel)
  have hpriority : (ranked "DEFAULT" "50" "x").OptionReadsBare ⟨"DEFAULT", "priority"⟩ "n1" :=
    optionReadsBare_of_ok (.plain "DEFAULT" "priority") "50" (by decide +kernel)
      (by decide +kernel) readsBare_priority_ranked (by decide +kernel)
  have hrank : (ranked "DEFAULT" "50" "x").OptionReadsBare ⟨"DEFAULT", "rank"⟩ "n1" :=
    optionReadsBare_of_ok (.plain "DEFAULT" "rank") "50" (by decide +kernel)
      (by decide +kernel) readsBare_rank_ranked (by decide +kernel)
  obtain ⟨hexpand, hevaluate, hevaluated⟩ := evaluations_eq_of_differsInert hdiffers "n1"
  refine ⟨hdiffers, by decide +kernel, hexpand _ _ readsBare_reference_ranked,
    hevaluate _ hrank.governed, by decide +kernel, hevaluated ?_⟩
  have hkeys : ∀ entry ∈ (ranked "DEFAULT" "50" "x").store.data.sections.entries,
      ∀ option ∈ entry.2.keys, Key.withoutScope ⟨entry.1, option⟩ ∈
        [Key.mk "DEFAULT" "priority", Key.mk "DEFAULT" "rank"] := by
    decide +kernel
  intro entry hentry _ option hoption
  have hkey := hkeys entry hentry option hoption
  rw [List.mem_cons, List.mem_singleton] at hkey
  rcases hkey with hkey | hkey
  · exact hkey ▸ hpriority
  · exact hkey ▸ hrank

/-- **Inert values are read** by a reference that names the key with its scope, by an
evaluation of such a key where options are free, and in place of a bare value that has
to wait. -/
theorem not_inert_ranked :
    ((ranked "DEFAULT" "50" "x").DiffersInert (ranked "DEFAULT" "50" "y") ∧
      ((ranked "DEFAULT" "50" "x").expand "$(priority@n1)" "DEFAULT" "n1").result = .ok "x" ∧
      ((ranked "DEFAULT" "50" "y").expand "$(priority@n1)" "DEFAULT" "n1").result = .ok "y") ∧
    ((ranked "env" "50" "x").DiffersInert (ranked "env" "50" "y") ∧
      ((ranked "env" "50" "x").evaluate ⟨"env", "priority@n1"⟩ "n1").result = .ok (.string "x") ∧
      ((ranked "env" "50" "y").evaluate ⟨"env", "priority@n1"⟩ "n1").result = .ok (.string "y")) ∧
    ((ranked "DEFAULT" "$(fs#0.dev)" "x").DiffersInert (ranked "DEFAULT" "$(fs#0.dev)" "y") ∧
      ((ranked "DEFAULT" "$(fs#0.dev)" "x").evaluated "n1").result ≠
        ((ranked "DEFAULT" "$(fs#0.dev)" "y").evaluated "n1").result) := by
  refine ⟨⟨?_, by decide +kernel, by decide +kernel⟩,
    ⟨?_, by decide +kernel, by decide +kernel⟩, ?_, by decide +kernel⟩
  · exact differsInert_ranked (by decide +kernel) (by decide +kernel) (by decide +kernel)
  · exact differsInert_ranked (by decide +kernel) (by decide +kernel) (by decide +kernel)
  · exact differsInert_ranked (by decide +kernel) (by decide +kernel) (by decide +kernel)

end LinkedStore
end ScopedConfig

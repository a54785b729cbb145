import ScopedConfig.Keyword.Catalog
import ScopedConfig.Proofs.Store.Inertness
import ScopedConfig.Store.Commit

/-! # Entries that are read

An entry that no look-up ever comes to is dead: what it says has no effect.  Under a
keyword that takes scopes, every form of an option is what some nodes read if nothing
goes before it (`Store.scopedText_own`, `scopedText_group`, `scopedText_bare`), and
under one that takes none only the bare form is.  Validation admits an entry by the same
keyword that look-ups read it by (`Store.validate_eq_ok_iff`), which is that of the
option without its scope, so in a configuration that has been validated no entry is dead
(`Store.exists_isLive_of_validate`).
-/
namespace ScopedConfig

namespace Key

theorem option_of_scope? {key : Key} {scope : Text} (h : key.scope? = some scope) :
    key.option = scopedOption key.baseOption scope := by
  unfold scope? at h
  unfold baseOption
  cases hcut : Text.cut scopeSeparator key.option with
  | none =>
    rw [hcut] at h
    cases h
  | some parts =>
    rw [hcut] at h
    obtain rfl : parts.2 = scope := Option.some.inj h
    exact (Text.cut_eq_some hcut).1

theorem option_of_scope?_eq_none {key : Key} (h : key.scope? = none) :
    key.option = key.baseOption := by
  have hcut := Option.map_eq_none_iff.mp h
  simp only [baseOption, hcut]

/-- The scope of a key makes no difference to the key under another scope. -/
theorem withScope_withoutScope (key : Key) (scope : Text) :
    key.withoutScope.withScope scope = key.withScope scope := by
  rw [withScope, baseOption_withoutScope]
  rfl

/-- A key with a scope is the key under that scope, and one without is the bare one. -/
theorem eq_withScope_of_scope? {key : Key} {scope : Text} (h : key.scope? = some scope) :
    key = key.withScope scope :=
  congrArg (Key.mk key.sectionName) (option_of_scope? h)

theorem eq_withoutScope_of_scope? {key : Key} (h : key.scope? = none) : key = key.withoutScope :=
  congrArg (Key.mk key.sectionName) (option_of_scope?_eq_none h)

end Key

namespace Store

variable {store : Store} {key : Key} {keyword : Keyword} {node value : Text}

/-! ## The text of a stored form -/

theorem scopedText_of_descope (hscopable : keyword.scopable = true)
    (h : store.descope key node = .ok value) : store.scopedText key keyword node = .ok value := by
  rw [scopedText, readScoped, if_pos hscopable, h]

/-- What is set for a node by its name is what the node reads. -/
theorem scopedText_own (hscopable : keyword.scopable = true)
    (hvalue : store.get? (key.withScope (store.viewer node)) = some value) :
    store.scopedText key keyword node = .ok value := by
  have hvariants : store.variants key.baseOption (store.viewer node) =
      [] ++ Key.scopedOption key.baseOption (store.viewer node) ::
        (store.variants key.baseOption (store.viewer node)).tail := rfl
  refine scopedText_of_descope hscopable (descope_of_first hvariants hvalue fun unset h => ?_)
  cases h

/-- What is set for a group is what a node of the group reads, if nothing is set for the
node itself nor for a group before that the node is in. -/
theorem scopedText_group {before after : List (Text × List Text)} {group : Text}
    {members : List Text} (hscopable : keyword.scopable = true)
    (hgroups : store.groupScopes = before ++ (group, members) :: after)
    (hmember : store.viewer node ∈ members)
    (hown : store.get? (key.withScope (store.viewer node)) = none)
    (hbefore : ∀ other ∈ before, store.viewer node ∈ other.2 →
      store.get? (key.withScope other.1) = none)
    (hvalue : store.get? (key.withScope group) = some value) :
    store.scopedText key keyword node = .ok value := by
  let isIn (other : Text × List Text) : Bool := other.2.contains (store.viewer node)
  let form (other : Text × List Text) : Text := Key.scopedOption key.baseOption other.1
  have hin : isIn (group, members) = true := List.contains_iff_mem.mpr hmember
  -- of the groups that the node is in, this one splits those before it from those after
  have hforms : (store.groupScopes.filter isIn).map form =
      (before.filter isIn).map form ++ form (group, members) :: (after.filter isIn).map form := by
    rw [hgroups, List.filter_append, List.filter_cons_of_pos hin, List.map_append, List.map_cons]
  have hvariants : store.variants key.baseOption (store.viewer node) =
      (Key.scopedOption key.baseOption (store.viewer node) :: (before.filter isIn).map form) ++
        form (group, members) :: ((after.filter isIn).map form ++ [key.baseOption]) := by
    rw [variants, scopesOf, List.map_cons, List.map_map]
    show _ :: (store.groupScopes.filter isIn).map form ++ _ = _
    rw [hforms]
    simp
  refine scopedText_of_descope hscopable (descope_of_first hvariants hvalue fun unset hunset => ?_)
  rcases List.mem_cons.mp hunset with rfl | hgroup
  · exact hown
  · obtain ⟨other, hother, rfl⟩ := List.mem_map.mp hgroup
    obtain ⟨hmem, hin⟩ := List.mem_filter.mp hother
    exact hbefore other hmem (List.contains_iff_mem.mp hin)

/-- What is set without a scope is what a node reads for which no scoped form is set, and
what every node reads under a keyword that takes no scopes. -/
theorem scopedText_bare
    (hunset : keyword.scopable = true → ∀ scope ∈ store.scopesOf (store.viewer node),
      store.get? (key.withScope scope) = none)
    (hvalue : store.get? key.withoutScope = some value) :
    store.scopedText key keyword node = .ok value := by
  by_cases hscopable : keyword.scopable = true
  -- the bare form comes last, behind all scoped ones
  · refine scopedText_of_descope hscopable (descope_of_first rfl hvalue fun option hoption => ?_)
    obtain ⟨scope, hscope, rfl⟩ := List.mem_map.mp hoption
    exact hunset hscopable scope hscope
  · rw [scopedText, readScoped, if_neg hscopable, getStrict, hvalue]

/-! ## What validation admits -/

/-- **A key that validation admits**: it is in no section that is named as a driver group
and, unless it is the identifier, its option has a keyword, which takes scopes if the key
has one. -/
def Admits (store : Store) (key : Key) : Prop :=
  key.sectionName ∉ DriverGroup.names ∧
    (key ≠ idKey → ∃ keyword, store.keyword? key.withoutScope = some keyword ∧
      (key.scope?.isSome → keyword.scopable = true))

/-- An entry is worth an issue exactly if its key is not admitted. -/
theorem inspect_ne_issue_iff (store : Store) (key : Key) (value : Text) :
    (∀ issue, store.inspect key value ≠ some (.issue issue)) ↔ store.Admits key := by
  -- one case for each test that an entry has to pass, in their order
  unfold inspect Admits
  by_cases hgroup : key.sectionName ∈ DriverGroup.names
  · simp [DriverGroup.isGroup, hgroup]
  by_cases hid : key = idKey
  · simp [DriverGroup.isGroup, hid]
  cases hkeyword : store.keyword? key.withoutScope with
  | none => simp [DriverGroup.isGroup, hgroup, hid]
  | some keyword =>
    cases hscope : key.scope?.isSome <;> cases hscopable : keyword.scopable <;>
      simp [DriverGroup.isGroup, hgroup, hid, hscopable]

/-- What is found is found about the entries of the sections that are checked. -/
theorem mem_findings_iff {finding : Finding} :
    finding ∈ store.findings ↔ ∃ name option value, isUnchecked name = false ∧
      store.data.get? name option = some value ∧
      store.inspect ⟨name, option⟩ value = some finding := by
  rw [findings, List.mem_flatMap]
  constructor
  · rintro ⟨⟨name, options⟩, hsection, hfinding⟩
    dsimp only at hfinding
    split at hfinding
    · cases hfinding
    · next hchecked =>
      obtain ⟨⟨option, value⟩, hentry, hinspect⟩ := List.mem_filterMap.mp hfinding
      refine ⟨name, option, value, by simpa using hchecked, ?_, hinspect⟩
      exact RawConfig.get?_eq_some_iff.mpr
        ⟨options.entries, List.mem_map.mpr ⟨(name, options), hsection, rfl⟩, hentry⟩
  · rintro ⟨name, option, value, hchecked, hvalue, hinspect⟩
    obtain ⟨entries, hsection, hentry⟩ := RawConfig.get?_eq_some_iff.mp hvalue
    obtain ⟨⟨_, options⟩, hmem, hname⟩ := List.mem_map.mp hsection
    obtain ⟨rfl, rfl⟩ := Prod.mk.inj hname
    refine ⟨_, hmem, ?_⟩
    dsimp only
    rw [if_neg (by simp [hchecked])]
    exact List.mem_filterMap.mpr ⟨(option, value), hentry, hinspect⟩

theorem mem_issues_iff {issue : Issue} : issue ∈ store.issues ↔ .issue issue ∈ store.findings := by
  rw [issues, List.mem_filterMap]
  constructor
  · rintro ⟨finding, hfinding, hissue⟩
    cases finding with
    | issue found =>
      obtain rfl : found = issue := Option.some.inj hissue
      exact hfinding
    | unexpected key value => cases hissue
  · exact fun h => ⟨_, h, rfl⟩

/-- **Validation passes exactly if every entry that it looks at is admitted.** -/
theorem validate_eq_ok_iff :
    store.validate = .ok () ↔ ∀ name option value, isUnchecked name = false →
      store.data.get? name option = some value → store.Admits ⟨name, option⟩ := by
  have hissues : store.validate = .ok () ↔ store.issues = [] := by
    unfold validate
    split
    · next h => simp [h]
    · next h => simp [h]
  rw [hissues, List.eq_nil_iff_forall_not_mem]
  constructor
  · intro hnone name option value hchecked hvalue
    refine (inspect_ne_issue_iff store _ value).mp fun issue hinspect => hnone issue ?_
    exact mem_issues_iff.mpr (mem_findings_iff.mpr
      ⟨name, option, value, hchecked, hvalue, hinspect⟩)
  · intro hadmits issue hissue
    obtain ⟨name, option, value, hchecked, hvalue, hinspect⟩ :=
      mem_findings_iff.mp (mem_issues_iff.mp hissue)
    have hadmitted := hadmits name option value hchecked hvalue
    exact (inspect_ne_issue_iff store _ value).mpr hadmitted issue hinspect

/-! ## No dead entry -/

/-- **A value that is set is what is read** of an option under a keyword: with a scope,
it is the text for the node of that name and, if the scope is a group, for the nodes of
the group for which nothing goes before it; without one, it is the text for the nodes
that no scoped form is set for, and for all if the keyword takes no scopes. -/
structure IsLive (store : Store) (key : Key) (keyword : Keyword) (value : Text) : Prop where
  own : ∀ node, node ≠ [] → key.scope? = some node →
    store.scopedText key.withoutScope keyword node = .ok value
  group : ∀ before group members after, key.scope? = some group →
    store.groupScopes = before ++ (group, members) :: after →
    ∀ node, store.viewer node ∈ members →
      store.get? (key.withScope (store.viewer node)) = none →
      (∀ other ∈ before, store.viewer node ∈ other.2 → store.get? (key.withScope other.1) = none) →
      store.scopedText key.withoutScope keyword node = .ok value
  bare : key.scope? = none → ∀ node,
    (keyword.scopable = true →
      ∀ scope ∈ store.scopesOf (store.viewer node), store.get? (key.withScope scope) = none) →
    store.scopedText key.withoutScope keyword node = .ok value

/-- What is set is what is read, under a keyword that takes scopes if the key has one. -/
theorem isLive_of_get? (hvalue : store.get? key = some value)
    (hscopable : key.scope?.isSome → keyword.scopable = true) :
    store.IsLive key keyword value where
  own node hnode hscope := by
    have hviewer : store.viewer node = node := if_neg hnode
    refine scopedText_own (hscopable (Option.isSome_of_eq_some hscope)) ?_
    rw [key.withScope_withoutScope, hviewer, ← Key.eq_withScope_of_scope? hscope]
    exact hvalue
  group before group members after hscope hgroups node hmember hown hbefore := by
    refine scopedText_group (hscopable (Option.isSome_of_eq_some hscope)) hgroups hmember ?_ ?_ ?_
    · rwa [key.withScope_withoutScope]
    · simpa only [key.withScope_withoutScope] using hbefore
    · rw [key.withScope_withoutScope, ← Key.eq_withScope_of_scope? hscope]
      exact hvalue
  bare hscope node hunset := by
    refine scopedText_bare ?_ ?_
    · simpa only [key.withScope_withoutScope] using hunset
    · rw [key.withoutScope_withoutScope, ← Key.eq_withoutScope_of_scope? hscope]
      exact hvalue

/-- **A configuration that has been validated has no dead entry.**  Every option that is
set in a section that is checked, other than the identifier, has a keyword, and what is
set is what is read of the option under this keyword. -/
theorem exists_isLive_of_validate {name option : Text} (hvalid : store.validate = .ok ())
    (hname : name ≠ []) (hchecked : isUnchecked name = false)
    (hid : (⟨name, option⟩ : Key) ≠ idKey)
    (hvalue : store.data.get? name option = some value) :
    ∃ keyword, store.keyword? (Key.withoutScope ⟨name, option⟩) = some keyword ∧
      store.IsLive ⟨name, option⟩ keyword value := by
  obtain ⟨-, hkeyword⟩ := validate_eq_ok_iff.mp hvalid name option value hchecked hvalue
  obtain ⟨keyword, hgoverns, hscopable⟩ := hkeyword hid
  have hsection : Key.sectionOrDefault ⟨name, option⟩ = name := if_neg hname
  have hget : store.get? ⟨name, option⟩ = some value := by
    rw [get?, hsection]
    exact hvalue
  exact ⟨keyword, hgoverns, isLive_of_get? hget hscopable⟩

/-- The store of a service with a command to start it for a node, for a group and for all
other nodes, and a mask that takes no scopes. -/
def started : Store where
  path := "/etc/web.conf"
  data := .ofLists
    [("app#0", [("start@n1", "/own"), ("start@drpnodes", "/far"), ("start", "/any"),
      ("umask", "022")])]
  owner := ⟨.object ⟨rootNamespace, .svc, "web"⟩, Catalog.registry, ["n1", "n2", "n3"],
    ["n3", "d1"], [], [], false⟩
  agent := .default

theorem exists_isLive_of_validate_started :
    ∃ keyword, started.keyword? ⟨"app#0", "start"⟩ = some keyword ∧
      started.scopedText ⟨"app#0", "start"⟩ keyword "n1" = .ok "/own" ∧
      started.scopedText ⟨"app#0", "start"⟩ keyword "n3" = .ok "/far" ∧
      started.scopedText ⟨"app#0", "start"⟩ keyword "n2" = .ok "/any" := by
  have hvalid : started.validate = .ok () := by decide +kernel
  have hown : started.data.get? "app#0" "start@n1" = some "/own" := by decide +kernel
  have hfar : started.data.get? "app#0" "start@drpnodes" = some "/far" := by decide +kernel
  have hany : started.data.get? "app#0" "start" = some "/any" := by decide +kernel
  obtain ⟨keyword, hkeyword, hlive⟩ :=
    exists_isLive_of_validate hvalid (by decide) (by decide) (by decide) hown
  obtain ⟨_, hkeyword', hlive'⟩ :=
    exists_isLive_of_validate hvalid (by decide) (by decide) (by decide) hfar
  obtain ⟨_, hkeyword'', hlive''⟩ :=
    exists_isLive_of_validate hvalid (by decide) (by decide) (by decide) hany
  -- the three entries are forms of one option
  obtain rfl := Option.some.inj (hkeyword.symm.trans hkeyword')
  obtain rfl := Option.some.inj (hkeyword.symm.trans hkeyword'')
  refine ⟨keyword, hkeyword, hlive.own "n1" (by decide) rfl, ?_, ?_⟩
  · exact hlive'.group [("nodes", ["n1", "n2", "n3"])] "drpnodes" ["n3", "d1"] _ rfl rfl "n3"
      (by decide) (by decide +kernel) (by decide +kernel)
  · exact hlive''.bare rfl "n2" fun _ => by decide +kernel

end Store
end ScopedConfig

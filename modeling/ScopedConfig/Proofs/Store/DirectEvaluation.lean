import ScopedConfig.Proofs.Key
import ScopedConfig.Proofs.Reference.Token
import ScopedConfig.Proofs.Store.ReferenceChain
import ScopedConfig.Proofs.Store.Simulation

/-! # A reference means what evaluation means

A text that is one reference comes to what its name comes to, put through the modifier
(`expandWith_token`).  What a name comes to is found by another way than the text of a
key that is evaluated.  For a key that is set the two ways meet: both read the value by
the scoping rules of the same keyword, and go on with the same key on an empty trail
(`dereference_of_isSet`).  A reference to the node asks for a keyword first, as an
evaluation of the key on the store of the node does, and is never looked for elsewhere
(`result_dereference_node`).
-/
namespace ScopedConfig

namespace Key

/-- **A key that a reference can name in full**: it has a section, one without a dot that
is not read as the node, it has an option, and its text can be enclosed and does not
begin with a modifier. -/
structure IsReferable (key : Key) : Prop where
  hasSection : key.sectionName ≠ []
  undotted : '.' ∉ key.sectionName
  notNode : key.sectionName ≠ "node".toList
  hasOption : key.option ≠ []
  isInner : Reference.IsInner key.fullText
  unmodified : ¬ Reference.HasModifier key.fullText

end Key

/-- The names that stand for a value whatever the keys are. -/
def wellKnownNames : List Text :=
  ["nodename", "short_nodename", "rid", "rindex", "svcmgr", "nodemgr", "etc", "var"].map
    String.toList

theorem Store.wellKnown?_eq_none {name : Text} (h : name ∉ wellKnownNames) (store : Store)
    (sectionName node : Text) : store.wellKnown? sectionName node name = none := by
  have hnames : (store.wellKnown sectionName node).map (fun entry => entry.1.toList) =
      wellKnownNames := rfl
  rw [wellKnown?, Option.map_eq_none_iff, List.find?_eq_none]
  intro entry hentry hname
  rw [decide_eq_true_eq] at hname
  rw [← hnames, ← hname] at h
  exact h (List.mem_map_of_mem hentry)

theorem dot_not_mem_of_mem_wellKnownNames : ∀ name ∈ wellKnownNames, '.' ∉ name := by
  decide

/-- A name is only marked as one of the node if its section is the node. -/
theorem after?_nodeMark_fullText {key : Key} (hdot : '.' ∉ key.sectionName)
    (hnode : key.sectionName ≠ "node".toList) : Text.after? nodeMark key.fullText = none := by
  rw [Option.eq_none_iff_forall_ne_some]
  intro rest hrest
  have hcut : Text.cut '.' key.fullText = some (key.sectionName, key.option) :=
    Text.cut_append hdot key.option
  have hmarked : key.fullText = nodeMark ++ rest := Text.after?_eq_some_iff.mp hrest
  have hmark : nodeMark ++ rest = "node".toList ++ '.' :: rest := rfl
  rw [hmarked, hmark, Text.cut_append (by decide), Option.some.injEq, Prod.mk.injEq] at hcut
  exact hnode hcut.1.symm

theorem after?_nodeMark_of_not_mem {name : Text} (hdot : '.' ∉ name) :
    Text.after? nodeMark name = none := by
  rw [Option.eq_none_iff_forall_ne_some]
  intro rest hrest
  rw [Text.after?_eq_some_iff.mp hrest] at hdot
  exact hdot (List.mem_append_left rest (by decide))

theorem not_hasModifier_nodeMark (rest : Text) : ¬ Reference.HasModifier (nodeMark ++ rest) := by
  rintro ⟨modifier, after, h⟩
  have hhead : some 'n' = (modifier.name ++ ':' :: after).head? := congrArg List.head? h
  cases modifier <;> exact absurd (Option.some.inj hhead) (by decide)

namespace LinkedStore

variable {linked : LinkedStore} {key : Key} {keyword : Keyword} {sectionName node name : Text}

/-! ## One reference -/

/-- **A text that is one reference comes to what its name comes to**, put through the
modifier of the reference; an error is that of the name. -/
theorem expandWith_token {resolve : Text → Outcome Text} {r : Reference}
    (h : Reference.IsInner r.inner) :
    (expandWith resolve r.token).result = (resolve r.name).result.map r.modify := by
  have hnames : Reference.names r.token = [r.name] := Reference.names_token h
  cases hr : (resolve r.name).result with
  | ok value =>
    have hvalues : ∀ name ∈ Reference.names r.token, (resolve name).result = .ok value := by
      intro name hname
      rw [hnames, List.mem_singleton] at hname
      rw [hname, hr]
    have hreplaced : Reference.replaceAll (fun _ => value) r.token = r.modify value := by
      rw [Reference.replaceAll, Reference.scan_token h]
      exact List.append_nil _
    rw [expandWith_of_values hvalues, hreplaced]
    rfl
  | error e =>
    refine expandWith_of_leading ?_
    have herror : (resolve r.name).error? = some e := Outcome.error?_eq_some_iff.mpr hr
    have herrors : errorsOf resolve [r.name] = [e] := by
      rw [errorsOf, List.eraseDups_cons]
      simp [herror]
    rw [hnames, herrors]
    cases hp : e.isPostponed <;> simp [EvalError.leading?, hp]

/-- The same, for a reference that is written with a modifier or without. -/
theorem result_expand_written {enclosure : Enclosure} {modifier? : Option Modifier}
    (hinner : Reference.IsInner name) (hmodifier : ¬ Reference.HasModifier name) :
    (linked.expand (Reference.written enclosure modifier? name).token sectionName node).result =
      (dereference (enterFirst node) linked sectionName node name).result.map
        (modifier?.elim id Modifier.apply) := by
  unfold expand
  rw [expandWith_token (Reference.isInner_written hinner), Reference.name_written hmodifier,
    Reference.modify_written hmodifier]

/-! ## What a name comes to -/

/-- **A name that is read as a key that is set comes to what the key comes to** under the
keyword that governs it. -/
theorem dereference_of_isSet (named : Key) (hmark : Text.after? nodeMark name = none)
    (hknown : name ∉ wellKnownNames) (hread : Key.read name = .ok named)
    (hkey : (if named.isRelative then named.inSection sectionName else named) = key)
    (hset : linked.store.isSetInAnyScope key = true)
    (hkeyword : linked.store.keyword? key = some keyword) :
    dereference (enterFirst node) linked sectionName node name =
      linked.evaluateText key keyword node := by
  have hreferent : linked.referent sectionName node name =
      .ofResult ((linked.visitUnder key keyword node).map .key) := by
    rw [referent_of_key hmark (Store.wellKnown?_eq_none hknown ..), keyReferent, hread]
    dsimp only
    rw [hkey, if_pos hset, Store.storedText_eq_scopedText hkeyword, visitUnder]
    cases linked.store.scopedText key keyword node <;> rfl
  rw [dereference, hreferent, evaluateText]
  cases linked.visitUnder key keyword node <;> rfl

/-- **A name of the node comes to what its key comes to on the side of the node**, under
the keyword that governs it there. -/
theorem result_dereference_node (hkey : key.sectionName ∈ nodeSections)
    (hoption : key.option ≠ []) :
    (dereference (enterFirst node) linked sectionName node (nodeMark ++ key.fullText)).result =
      linked.nodeSide.store.keyword key >>= fun keyword =>
        (linked.nodeSide.evaluateText key keyword node).result := by
  have hsection : '.' ∉ key.sectionName :=
    (by decide : ∀ name ∈ nodeSections, '.' ∉ name) _ hkey
  have hdot : Text.contains '.' key.fullText = true :=
    List.any_eq_true.mpr ⟨'.', List.mem_append_right _ List.mem_cons_self, rfl⟩
  have hsides : linked.nodeSide.store.keyword key >>= (fun keyword =>
      (linked.nodeSide.evaluateText key keyword node).result) =
      linked.nodeSide.governedVisit key node >>= fun visit => (enterFirst node visit).result := by
    simp only [result_evaluateText, governedVisit_eq, bind_assoc]
  rw [hsides, dereference, referent_of_mark (Text.after?_append nodeMark key.fullText),
    nodeReferent, hdot, if_pos rfl, Key.read_fullText hsection hoption]
  dsimp only
  rw [if_pos (List.contains_iff_mem.mpr hkey)]
  cases linked.nodeSide.governedVisit key node with
  | error e => rfl
  | ok visit => split <;> rfl

/-! ## Both ways -/

/-- A key that is set comes to the same by a reference to it, in full from any section
or by its option from its own. -/
theorem result_expand_of_isSet {enclosure : Enclosure} {modifier? : Option Modifier}
    (named : Key) (hinner : Reference.IsInner name) (hmodifier : ¬ Reference.HasModifier name)
    (hmark : Text.after? nodeMark name = none) (hknown : name ∉ wellKnownNames)
    (hread : Key.read name = .ok named)
    (hkey : (if named.isRelative then named.inSection sectionName else named) = key)
    (hset : linked.store.isSetInAnyScope key = true)
    (hkeyword : linked.store.keyword? key = some keyword) :
    (linked.expand (Reference.written enclosure modifier? name).token sectionName node).result =
      (linked.evaluateText key keyword node).result.map (modifier?.elim id Modifier.apply) := by
  rw [result_expand_written hinner hmodifier,
    dereference_of_isSet named hmark hknown hread hkey hset hkeyword]

/-- **A reference means what evaluation means**, with the modifier applied to a value and
errors as they are.  A key that is set and governed by a keyword comes by a reference in
full, from whatever section, and by its option from its own section, to its text under
that keyword.  A reference to the node comes to the text of its key in the store of the
node, set or not, under the keyword that governs it there, and fails without one. -/
theorem reference_means_evaluation (linked : LinkedStore) (node : Text) (enclosure : Enclosure)
    (modifier? : Option Modifier) :
    (∀ key keyword, key.IsReferable → linked.store.isSetInAnyScope key = true →
      linked.store.keyword? key = some keyword →
      (∀ sectionName,
        (linked.expand (Reference.written enclosure modifier? key.fullText).token sectionName
          node).result =
          (linked.evaluateText key keyword node).result.map
            (modifier?.elim id Modifier.apply)) ∧
      ('.' ∉ key.option → ¬ Reference.HasModifier key.option → key.option ∉ wellKnownNames →
        (linked.expand (Reference.written enclosure modifier? key.option).token key.sectionName
          node).result =
          (linked.evaluateText key keyword node).result.map
            (modifier?.elim id Modifier.apply))) ∧
    (∀ nodeStore key, linked.node? = some nodeStore → key.sectionName ∈ nodeSections →
      key.option ≠ [] → Reference.IsInner (nodeMark ++ key.fullText) → ∀ sectionName,
        (linked.expand (Reference.written enclosure modifier? (nodeMark ++ key.fullText)).token
          sectionName node).result =
          (nodeStore.keyword key >>= fun keyword =>
            (evaluateText ⟨nodeStore, none⟩ key keyword node).result).map
              (modifier?.elim id Modifier.apply)) := by
  refine ⟨fun key keyword href hset hkeyword =>
      ⟨fun sectionName => ?_, fun hdot hmodifier hknown => ?_⟩,
    fun nodeStore key hnode hkey hoption hinner sectionName => ?_⟩
  · have hknown : key.fullText ∉ wellKnownNames := fun hmem =>
      dot_not_mem_of_mem_wellKnownNames _ hmem (List.mem_append_right _ List.mem_cons_self)
    have habsolute : key.isRelative = false := by
      rw [Key.isRelative, List.isEmpty_eq_false_iff]
      exact href.hasSection
    exact result_expand_of_isSet key href.isInner href.unmodified
      (after?_nodeMark_fullText href.undotted href.notNode) hknown
      (Key.read_fullText href.undotted href.hasOption) (by rw [habsolute]; rfl) hset hkeyword
  · have hinner : Reference.IsInner key.option :=
      ⟨href.hasOption, fun c hc =>
        href.isInner.2 c (List.mem_append_right _ (List.mem_cons_of_mem _ hc))⟩
    exact result_expand_of_isSet ⟨[], key.option⟩ hinner hmodifier
      (after?_nodeMark_of_not_mem hdot) hknown (Key.read_option hdot href.hasOption) rfl hset
      hkeyword
  · have hside : linked.nodeSide = ⟨nodeStore, none⟩ := by
      rw [nodeSide, hnode]
    rw [result_expand_written hinner (not_hasModifier_nodeMark key.fullText),
      result_dereference_node hkey hoption, hside]

/-- A keyword of disks that takes scopes. -/
def diskKeyword : Keyword := { Keyword.plain "fs" "dev" with scopable := true }

/-- A store with a disk whose name is set for a node and made of another key, and a
store of the node without keywords. -/
def mounted : LinkedStore where
  store :=
    { path := "/etc/web.conf"
      data := .ofLists [("fs#0", [("dev@n1", "/dev/{env.disk}")]), ("env", [("disk", "sdb")])]
      owner := ⟨.node, ⟨[diskKeyword]⟩, [], [], [], [], false⟩
      agent := .default }
  node? := some
    { path := "/etc/node.conf"
      data := .ofLists [("node", [("env", "prod")])]
      owner := ⟨.node, .empty, [], [], [], [], false⟩
      agent := .default }

theorem reference_means_evaluation_mounted :
    Key.IsReferable ⟨"fs#0", "dev"⟩ ∧
      mounted.store.isSetInAnyScope ⟨"fs#0", "dev"⟩ = true ∧
      mounted.store.keyword? ⟨"fs#0", "dev"⟩ = some diskKeyword ∧
      (mounted.expand "$(upper:fs#0.dev)" "app#1" "n1").result = .ok "/DEV/SDB" ∧
      (mounted.expand "$(upper:dev)" "fs#0" "n1").result = .ok "/DEV/SDB" ∧
      (mounted.expand "$(upper:node.node.env)" "app#1" "n1").result =
        .error (.noKeyword ⟨"node", "env"⟩) := by
  have href : Key.IsReferable ⟨"fs#0", "dev"⟩ :=
    ⟨by decide, by decide, by decide, by decide, by decide +kernel,
      Reference.not_hasModifier_of_not_mem (by decide)⟩
  have hset : mounted.store.isSetInAnyScope ⟨"fs#0", "dev"⟩ = true := by decide +kernel
  have hkeyword : mounted.store.keyword? ⟨"fs#0", "dev"⟩ = some diskKeyword := by
    decide +kernel
  have hvalue : (mounted.evaluateText ⟨"fs#0", "dev"⟩ diskKeyword "n1").result =
      .ok "/dev/sdb" := by decide +kernel
  obtain ⟨hkey, hnode⟩ := reference_means_evaluation mounted "n1" .parentheses (some .upper)
  obtain ⟨hfull, hown⟩ := hkey _ _ href hset hkeyword
  rw [hvalue] at hfull hown
  refine ⟨href, hset, hkeyword, ?_, ?_, ?_⟩
  · exact (hfull "app#1").trans (by decide +kernel)
  · have hplain : ¬ Reference.HasModifier "dev" := Reference.not_hasModifier_of_not_mem (by decide)
    exact (hown (by decide) hplain (by decide)).trans (by decide +kernel)
  · exact (hnode _ ⟨"node", "env"⟩ rfl (by decide) (by decide) (by decide +kernel)
      "app#1").trans (by decide +kernel)

/-- A store with a value for an option without a name. -/
def nameless : LinkedStore where
  store :=
    { path := "/etc/node.conf"
      data := .ofLists [("env", [([], "v")])]
      owner := ⟨.node, .empty, [], [], [], [], false⟩
      agent := .default }
  node? := none

/-- An option without a name is evaluated but not referred to, since no text names it. -/
theorem reference_not_evaluation_nameless :
    Reference.IsInner (Key.fullText ⟨"env", []⟩) ∧
      ¬ Reference.HasModifier (Key.fullText ⟨"env", []⟩) ∧
      nameless.store.isSetInAnyScope ⟨"env", []⟩ = true ∧
      nameless.store.keyword? ⟨"env", []⟩ =
        some { Keyword.plain "env" [] with scopable := true } ∧
      (nameless.evaluateText ⟨"env", []⟩ { Keyword.plain "env" [] with scopable := true } []).result =
        .ok "v" ∧
      (nameless.expand "{env.}" "DEFAULT" []).result = .error (.unknownReference "env.") := by
  refine ⟨by decide +kernel, Reference.not_hasModifier_of_not_mem (by decide),
    by decide +kernel, by decide +kernel, by decide +kernel, by decide +kernel⟩

end LinkedStore
end ScopedConfig

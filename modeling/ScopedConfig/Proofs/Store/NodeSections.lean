import ScopedConfig.Proofs.Store.Visibility

/-! # What an object sees of its node

References to the node go through one gate, which lets the sections `env`, `labels`
and `node` pass.  But a value of these sections may refer to another section of the
node, and it is expanded in the store of the node, behind the gate.  If no value and
no default of the three sections has a reference, then nothing else of the node
reaches an object, however deep references to the node are nested in its own values
(`evaluations_eq_of_sameNodeSections`).

The two runs go through related keys: a key of the object with one text, or a key of
the node with one text without references, at which expansion ends.
-/
namespace ScopedConfig

namespace Reference

theorem names_eq_nil_of_not_occursIn {text : Text} (h : occursIn text = false) :
    names text = [] := by
  rw [occursIn, Bool.not_eq_false', List.isEmpty_iff] at h
  rw [names, h, List.map_nil]

end Reference

namespace Store

variable {a b : Store} {node : Text} {key : Key}

/-- **Two stores agree on the sections that a reference to the node may name**, and
have one file, owner and agent. -/
structure SameNodeSections (a b : Store) : Prop where
  path : a.path = b.path
  owner : a.owner = b.owner
  agent : a.agent = b.agent
  hasSection : ∀ name ∈ nodeSections, a.data.hasSection name = b.data.hasSection name
  values : ∀ name ∈ nodeSections, ∀ option, a.data.get? name option = b.data.get? name option

/-- **The sections that a reference to the node may name have no references**, neither
in a value nor in a default of the keywords that govern their keys. -/
structure PlainNodeSections (store : Store) : Prop where
  values : ∀ name ∈ nodeSections, ∀ option value, store.data.get? name option = some value →
    Reference.occursIn value = false
  defaults : ∀ key keyword, key.sectionName ∈ nodeSections → store.keyword? key = some keyword →
    Reference.occursIn keyword.default = false

theorem sectionOrDefault_of_mem_nodeSections (h : key.sectionName ∈ nodeSections) :
    key.sectionOrDefault = key.sectionName := by
  have hne : key.sectionName ≠ [] := by
    intro hnil
    rw [hnil] at h
    exact absurd h (by decide)
  exact if_neg hne

theorem SameNodeSections.sameView (h : a.SameNodeSections b) (hkey : key.sectionName ∈ nodeSections)
    (node : Text) : SameView node key.sectionOrDefault a b := by
  rw [sectionOrDefault_of_mem_nodeSections hkey]
  exact ⟨h.owner, h.agent, h.hasSection _ hkey, fun option _ => h.values _ hkey option⟩

/-- What a keyword gives a key is a value of the section or the default. -/
theorem scopedText_eq_ok {store : Store} {keyword : Keyword} {raw : Text}
    (h : store.scopedText key keyword node = .ok raw) :
    (∃ option, store.data.get? key.sectionOrDefault option = some raw) ∨ raw = keyword.default := by
  have hread : store.readScoped key keyword node = .ok raw →
      ∃ option, store.data.get? key.sectionOrDefault option = some raw := by
    intro hraw
    unfold readScoped at hraw
    split at hraw
    · rw [descope_eq] at hraw
      split at hraw
      · split at hraw
        · next value hfound =>
          obtain rfl : value = raw := Except.ok.inj hraw
          obtain ⟨option, -, hoption⟩ := List.exists_of_findSome?_eq_some hfound
          exact ⟨option, hoption⟩
        · cases hraw
      · cases hraw
    · unfold getStrict at hraw
      split at hraw
      · next value hfound => exact ⟨_, hfound.trans (congrArg some (Except.ok.inj hraw))⟩
      · cases hraw
  unfold scopedText at h
  split at h
  · next value hvalue => exact .inl (hread (hvalue.trans h))
  · split at h
    · exact .inr (Except.ok.inj h).symm
    · cases h

/-- The text of a key of these sections has no names to resolve. -/
theorem PlainNodeSections.names_eq_nil {store : Store} (h : store.PlainNodeSections)
    (hkey : key.sectionName ∈ nodeSections) {keyword : Keyword}
    (hkeyword : store.keyword? key = some keyword) {raw : Text}
    (hraw : store.scopedText key keyword node = .ok raw) : Reference.names raw = [] := by
  refine Reference.names_eq_nil_of_not_occursIn ?_
  rcases scopedText_eq_ok hraw with ⟨option, hset⟩ | rfl
  · rw [sectionOrDefault_of_mem_nodeSections hkey] at hset
    exact h.values _ hkey option raw hset
  · exact h.defaults key keyword hkey hkeyword

end Store

namespace LinkedStore

variable {store a b : Store} {node : Text}

/-- The same key with the same text, either of the object beside one of two stores of
the node, or of these stores and without references. -/
inductive BesideNode (store a b : Store) : Visit → Visit → Prop
  | object (key : Key) (raw : Text) :
    BesideNode store a b ⟨⟨store, some a⟩, key, raw⟩ ⟨⟨store, some b⟩, key, raw⟩
  | node (key : Key) {raw : Text} (h : Reference.names raw = []) :
    BesideNode store a b ⟨⟨a, none⟩, key, raw⟩ ⟨⟨b, none⟩, key, raw⟩

/-- Behind the gate the keys of the node are the same, and their texts end there. -/
theorem governedVisit_besideNode (h : a.SameNodeSections b) (hplain : a.PlainNodeSections)
    {key : Key} (hkey : key.sectionName ∈ nodeSections) :
    Outcome.AlikeResults (BesideNode store a b) (governedVisit ⟨a, none⟩ key node)
      (governedVisit ⟨b, none⟩ key node) := by
  have hview := h.sameView hkey node
  unfold governedVisit
  dsimp only
  rw [← hview.keyword?_eq]
  split
  · next keyword hkeyword =>
    unfold visitUnder
    dsimp only
    rw [← hview.scopedText_eq]
    exact .of_map fun raw hraw => .node key (hplain.names_eq_nil hkey hkeyword hraw)
  · exact .error _

theorem referent_besideNode (h : a.SameNodeSections b) (hplain : a.PlainNodeSections)
    (sectionName name : Text) :
    (LinkedStore.referent ⟨store, some a⟩ sectionName node name).Alike
      (Referent.Alike (BesideNode store a b))
      (LinkedStore.referent ⟨store, some b⟩ sectionName node name) := by
  refine referent_alike ?_ ?_ ?_ ?_ sectionName name
  · exact .refl node store
  · exact .object
  · rfl
  · exact fun _ => governedVisit_besideNode h hplain

theorem isSimulation_besideNode (h : a.SameNodeSections b) (hplain : a.PlainNodeSections) :
    IsSimulation node (BesideNode store a b) where
  entry := by
    rintro v w (⟨key, raw⟩ | ⟨key, -⟩)
    · rfl
    · show a.trailEntry key = b.trailEntry key
      rw [Store.trailEntry, Store.trailEntry, h.path]
  raw := by
    rintro v w (⟨key, raw⟩ | ⟨key, -⟩) <;> rfl
  referent := by
    rintro v w (⟨key, raw⟩ | ⟨key, hnames⟩) name hname
    · exact referent_besideNode h hplain _ name
    · rw [hnames] at hname
      cases hname

/-- **Nothing of the node but its open sections reaches an object.**  Two stores of the
node that agree on these sections, which have no references, can stand beside an object
for each other: every text expands to the same, every key has the same text and value,
and the configuration evaluates to the same, values and errors alike. -/
theorem evaluations_eq_of_sameNodeSections (h : a.SameNodeSections b)
    (hplain : a.PlainNodeSections) (store : Store) (node : Text) :
    (∀ raw sectionName, LinkedStore.expand ⟨store, some a⟩ raw sectionName node =
      LinkedStore.expand ⟨store, some b⟩ raw sectionName node) ∧
    (∀ key keyword, LinkedStore.evaluateText ⟨store, some a⟩ key keyword node =
      LinkedStore.evaluateText ⟨store, some b⟩ key keyword node) ∧
    (∀ key, LinkedStore.evaluate ⟨store, some a⟩ key node =
      LinkedStore.evaluate ⟨store, some b⟩ key node) ∧
    LinkedStore.evaluated ⟨store, some a⟩ node = LinkedStore.evaluated ⟨store, some b⟩ node := by
  have hsim : IsSimulation node (BesideNode store a b) := isSimulation_besideNode h hplain
  have hstore : store.AnswersAlike node store := .refl node store
  have hexpand : ∀ raw sectionName, LinkedStore.expand ⟨store, some a⟩ raw sectionName node =
      LinkedStore.expand ⟨store, some b⟩ raw sectionName node := fun raw sectionName =>
    expand_eq hsim fun name _ => referent_besideNode h hplain sectionName name
  have htext : ∀ key keyword, LinkedStore.evaluateText ⟨store, some a⟩ key keyword node =
      LinkedStore.evaluateText ⟨store, some b⟩ key keyword node := fun key keyword =>
    evaluateText_eq hsim (visitUnder_alike hstore .object key keyword)
  refine ⟨hexpand, htext, evaluate_congr hstore htext, ?_⟩
  -- the object is the same on both sides, and so are the names of its sections and options
  have hsections : LinkedStore.evaluatedSections ⟨store, some a⟩ node .empty
      store.data.sections.entries =
        LinkedStore.evaluatedSections ⟨store, some b⟩ node .empty store.data.sections.entries :=
    evaluatedSections_congr (evaluatedText_congr hstore hexpand htext) rfl .empty
  unfold evaluated
  rw [hsections]

/-- A node without keywords, with one open value and one in another section. -/
def guarded (secret : Text) : Store where
  path := "/etc/node.conf"
  data := .ofLists [("env", [("X", "open")]), ("cluster", [("key", secret)])]
  owner := ⟨.node, .empty, [], [], [], [], false⟩
  agent := .default

/-- An object that refers to both values, to one of them through a key of its own. -/
def curious : Store where
  path := "/etc/web.conf"
  data := .ofLists [("env", [("A", "$(upper:B)"), ("B", "$(node.env.X)"),
    ("C", "$(node.cluster.key)")])]
  owner := ⟨.object ⟨rootNamespace, .svc, "web"⟩, .empty, [], [], [], [], false⟩
  agent := .default

theorem evaluations_eq_guarded :
    (guarded "x").SameNodeSections (guarded "y") ∧ (guarded "x").PlainNodeSections ∧
      (guarded "x").data ≠ (guarded "y").data ∧
      (LinkedStore.expand ⟨curious, some (guarded "x")⟩ "$(A)" "env" []).result = .ok "OPEN" ∧
      (LinkedStore.evaluate ⟨curious, some (guarded "x")⟩ ⟨"env", "C"⟩ []).result =
        .error (.denied "node.cluster.key") ∧
      LinkedStore.evaluate ⟨curious, some (guarded "x")⟩ ⟨"env", "C"⟩ [] =
        LinkedStore.evaluate ⟨curious, some (guarded "y")⟩ ⟨"env", "C"⟩ [] := by
  have hset : (guarded "y").data = (guarded "x").data.set "cluster" "key" "y" := by decide
  have hsame : (guarded "x").SameNodeSections (guarded "y") :=
    { path := rfl
      owner := rfl
      agent := rfl
      hasSection := by decide
      values := fun name hname option => by
        rw [hset, RawConfig.get?_set]
        refine (if_neg ?_).symm
        rintro ⟨rfl, -⟩
        exact absurd hname (by decide) }
  have hplain : (guarded "x").PlainNodeSections :=
    { values := fun name _ option value hvalue => by
        have hall : ∀ entry ∈ (guarded "x").data.toLists, ∀ pair ∈ entry.2,
            Reference.occursIn pair.2 = false := by decide
        obtain ⟨options, hoptions, hpair⟩ := RawConfig.get?_eq_some_iff.mp hvalue
        exact hall _ hoptions _ hpair
      defaults := fun key keyword _ hkeyword => by
        have hfree : Store.freeKeyword? key = some keyword := hkeyword
        unfold Store.freeKeyword? at hfree
        split at hfree
        · rw [← Option.some.inj hfree]
          rfl
        · cases hfree }
  refine ⟨hsame, hplain, by decide, by decide +kernel, by decide +kernel, ?_⟩
  exact (evaluations_eq_of_sameNodeSections hsame hplain curious []).2.2.1 _

end LinkedStore
end ScopedConfig

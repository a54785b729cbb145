import ScopedConfig.Proofs.RawConfig.Entries
import ScopedConfig.Proofs.RawConfig.Fidelity
import ScopedConfig.Proofs.Store.Visibility

/-! # Order never changes a value

An evaluation looks for values under the names of sections and options, which are unique,
and asks of all options of a section at once only whether there is a form of an option
among them.  Neither depends on an order, so stores that differ at most in the order of
their entries answer every look-up alike, and no evaluation tells them apart
(`evaluations_eq_of_reordered`).  Writing a configuration and reading it back is such a
difference (`reordered_of_read_render`).
-/
namespace ScopedConfig

/-- What is read back from the text of a configuration has its entries, in another order
if the default section was not the first one. -/
theorem RawConfig.reordered_of_read_render {raw r : RawConfig} (h : raw.Lossless)
    (hread : read raw.render = .ok r) : r.Reordered raw :=
  reordered_iff_same.mpr ((same_of_read_render_iff hread).mpr h)

namespace Store

variable {a b : Store}

/-- **Two stores that differ at most in the order of their entries**: they have one file,
owner and agent, and the same sections and entries. -/
structure Reordered (a b : Store) : Prop where
  path : a.path = b.path
  owner : a.owner = b.owner
  agent : a.agent = b.agent
  data : a.data.Reordered b.data

namespace Reordered

theorem hasSection (h : a.Reordered b) (name : Text) :
    a.data.hasSection name = b.data.hasSection name := by
  rw [Bool.eq_iff_iff, RawConfig.hasSection, RawConfig.hasSection, Dict.contains_iff,
    Dict.contains_iff]
  exact h.data.sections.mem_iff

theorem get? (h : a.Reordered b) (name option : Text) :
    a.data.get? name option = b.data.get? name option :=
  (RawConfig.reordered_iff.mp h.data).2 name option

/-- Whether a form of an option is set depends on which options there are. -/
theorem isSetInAnyScope (h : a.Reordered b) (key : Key) :
    a.isSetInAnyScope key = b.isSetInAnyScope key := by
  have hmem : ∀ option, option ∈ a.data.optionNames key.sectionOrDefault ↔
      option ∈ b.data.optionNames key.sectionOrDefault := by
    intro option
    rw [RawConfig.mem_optionNames_iff, RawConfig.mem_optionNames_iff, h.get?]
  rw [Bool.eq_iff_iff, Store.isSetInAnyScope, Store.isSetInAnyScope, List.any_eq_true,
    List.any_eq_true]
  simp only [hmem]

theorem sameView (h : a.Reordered b) (node name : Text) : SameView node name a b :=
  ⟨h.owner, h.agent, h.hasSection name, fun option _ => h.get? name option⟩

theorem answersAlike (h : a.Reordered b) (node : Text) : a.AnswersAlike node b where
  location := by rw [h.path]
  owner := h.owner
  agent := h.agent
  hasSection := h.hasSection
  isSetInAnyScope := h.isSetInAnyScope
  keyword? := fun key => (h.sameView node key.sectionOrDefault).keyword?_eq
  descope := fun key => (h.sameView node key.sectionOrDefault).descope_eq
  scopedText := fun key => (h.sameView node key.sectionOrDefault).scopedText_eq

end Reordered
end Store

namespace LinkedStore

variable {a b : LinkedStore}

/-- Two stores differ at most in the order of their entries, and so do the stores of the
node beside them. -/
structure Reordered (a b : LinkedStore) : Prop where
  store : a.store.Reordered b.store
  node? : Option.Rel Store.Reordered a.node? b.node?

theorem Reordered.answersAlike (h : a.Reordered b) (node : Text) : a.AnswersAlike node b :=
  .of_rel (fun _ _ hstore => hstore.answersAlike node) h.store h.node?

/-- **Order never changes a value.**  Stores that differ at most in the order of their
sections and of the options in them have, for every node, the same expansion of every text
in every section, and the same text and value of every key: values and errors alike. -/
theorem evaluations_eq_of_reordered (h : a.Reordered b) (node : Text) :
    (∀ raw sectionName, a.expand raw sectionName node = b.expand raw sectionName node) ∧
    (∀ key keyword, a.evaluateText key keyword node = b.evaluateText key keyword node) ∧
    ∀ key, a.evaluate key node = b.evaluate key node :=
  have halike := h.answersAlike node
  ⟨halike.expand_eq, halike.evaluateText_eq, halike.evaluate_eq⟩

/-- An object and its node whose values refer to each other, with their entries in one of
two orders. -/
def arranged (objectData nodeData : List (Text × List (Text × Text))) : LinkedStore where
  store :=
    { path := "/etc/web.conf"
      data := .ofLists objectData
      owner := ⟨.object ⟨rootNamespace, .svc, "web"⟩, .empty, ["n1", "n2"], [], [], [], false⟩
      agent := .default }
  node? := some
    { path := "/etc/node.conf"
      data := .ofLists nodeData
      owner := ⟨.node, .empty, ["n1", "n2"], [], [], [], false⟩
      agent := .default }

/-- The entries with the sections and the options as they were first written. -/
def written : LinkedStore :=
  arranged
    [("env", [("A", "$(upper:node.labels.az) $(B)"), ("B@n1", "$(A)"), ("B", "{DEFAULT.tier}")]),
      ("fs#0", []), ("DEFAULT", [("tier", "db"), ("id", "x")])]
    [("labels", [("az", "us"), ("az@nodes", "eu")]), ("env", [("X", "1")])]

/-- The same entries with the default section in front, and options turned round. -/
def rearranged : LinkedStore :=
  arranged
    [("DEFAULT", [("id", "x"), ("tier", "db")]), ("fs#0", []),
      ("env", [("B", "{DEFAULT.tier}"), ("B@n1", "$(A)"), ("A", "$(upper:node.labels.az) $(B)")])]
    [("env", [("X", "1")]), ("labels", [("az@nodes", "eu"), ("az", "us")])]

theorem evaluations_eq_rearranged :
    written.Reordered rearranged ∧ written.store.data ≠ rearranged.store.data ∧
      (written.evaluate ⟨"env", "A"⟩ "n2").result = .ok (.string "EU db") ∧
      (written.evaluate ⟨"env", "A"⟩ "n1").result =
        .error (.cycle [⟨"env", "A"⟩, ⟨"env", "B"⟩, ⟨"env", "A"⟩]) ∧
      ∀ node, written.evaluate ⟨"env", "A"⟩ node = rearranged.evaluate ⟨"env", "A"⟩ node := by
  have hreordered : written.Reordered rearranged :=
    ⟨⟨rfl, rfl, rfl, by decide +kernel⟩, .some ⟨rfl, rfl, rfl, by decide +kernel⟩⟩
  refine ⟨hreordered, by decide, by decide +kernel, by decide +kernel, fun node => ?_⟩
  exact (evaluations_eq_of_reordered hreordered node).2.2 _

end LinkedStore
end ScopedConfig

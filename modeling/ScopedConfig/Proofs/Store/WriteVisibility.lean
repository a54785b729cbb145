import ScopedConfig.Lists
import ScopedConfig.Proofs.Store.Inertness
import ScopedConfig.Proofs.Store.MutationEffect
import ScopedConfig.Proofs.Store.NodeSections
import ScopedConfig.Proofs.Store.ReferenceChain

/-! # Which nodes see a write

A node reads the first form of an option that is set, of those that the keyword gives
it (`Store.forms`, `Store.toOption_readScoped`).  A write changes one form.  It decides
for the nodes that read this form and have none set before it (`Store.Decides`); the
search stops there with the new value, and for all other nodes it stops where it did
(`Lists.findSome?_of_written`).  A text without references is expanded to itself, so
those that the write decides for see it as it was given (`evaluate_after_set`).
-/
namespace ScopedConfig

/-! ## Texts without references -/

namespace Reference

theorem scanFrom_of_no_reference {before : Option Char} {text : Text}
    (h : ∀ r, .reference r ∉ Piece.scanFrom before 0 text) :
    Piece.scanFrom before 0 text = text.map Piece.char := by
  induction text generalizing before with
  | nil => rfl
  | cons c rest ih =>
    rw [Piece.scanFrom] at h ⊢
    cases hat : at? before (c :: rest) with
    | some r =>
      rw [hat] at h
      exact absurd List.mem_cons_self (h r)
    | none =>
      rw [hat] at h
      dsimp only
      rw [ih fun r hr => h r (List.mem_cons_of_mem _ hr), List.map_cons]

theorem replaceAll_of_not_occursIn {text : Text} (h : occursIn text = false) (value : Text → Text) :
    replaceAll value text = text := by
  have hscan : Piece.scan text = text.map Piece.char := by
    refine scanFrom_of_no_reference fun r hr => ?_
    have hnames := name_mem_names hr
    rw [names_eq_nil_of_not_occursIn h] at hnames
    cases hnames
  rw [replaceAll, hscan, List.flatMap_map]
  exact List.flatMap_singleton' text

end Reference

namespace LinkedStore

/-- A text without references is expanded to itself. -/
theorem enterFirst_of_plain {visit : Visit} {node : Text}
    (h : Reference.occursIn visit.raw = false) :
    (enterFirst node visit).result = .ok visit.raw := by
  have hnames : ∀ enter : Visit → Outcome Text, ∀ name ∈ Reference.names visit.raw,
      (dereference enter visit.linked visit.key.sectionOrDefault node name).result = .ok [] := by
    intro enter name hname
    rw [Reference.names_eq_nil_of_not_occursIn h] at hname
    cases hname
  have hself := Reference.replaceAll_of_not_occursIn h fun _ => []
  exact (expandWith_of_values (hnames _)).trans (congrArg Except.ok hself)

/-- A key whose text has no references is that text, as its keyword reads it. -/
theorem evaluate_eq_typed {linked : LinkedStore} {key : Key} {keyword : Keyword} {node text : Text}
    (hkeyword : linked.store.keyword? key = some keyword)
    (htext : linked.store.scopedText key keyword node = .ok text)
    (hplain : Reference.occursIn text = false) :
    (linked.evaluate key node).result = typed keyword text := by
  have hgoverning : linked.store.keyword key = .ok keyword := by
    rw [Store.keyword, hkeyword]
  have hvisit : linked.visitUnder key keyword node = .ok ⟨linked, key, text⟩ := by
    rw [visitUnder, htext]
    rfl
  have hentered : (enterFirst node ⟨linked, key, text⟩).result = .ok text :=
    enterFirst_of_plain hplain
  simp only [result_evaluate, hgoverning, hvisit, hentered, bind, Except.bind]

/-- **A key without a converter, whose text has no references, is that text.** -/
theorem evaluate_of_plain {linked : LinkedStore} {key : Key} {keyword : Keyword} {node text : Text}
    (hkeyword : linked.store.keyword? key = some keyword) (hconverter : keyword.converter = none)
    (htext : linked.store.scopedText key keyword node = .ok text)
    (hplain : Reference.occursIn text = false) :
    (linked.evaluate key node).result = .ok (.string text) := by
  rw [evaluate_eq_typed hkeyword htext hplain, typed, hconverter]

end LinkedStore

namespace Store

variable {store : Store} {raw : RawConfig} {key : Key} {keyword : Keyword}
  {node written value : Text}

/-! ## The forms that a node reads -/

/-- **The forms of an option that a node reads under a keyword**, the one that goes first
in front: that of its own name, those of the groups that it is in, and the bare one.  Of
an option that takes no scopes there is only the bare form. -/
def forms (store : Store) (key : Key) (keyword : Keyword) (node : Text) : List Text :=
  let viewer := store.viewer node
  let ofGroup (scope : Text) (members : List Text) : List Text :=
    if viewer ∈ members then [Key.scopedOption key.baseOption scope] else []
  if keyword.scopable then
    Key.scopedOption key.baseOption viewer ::
      (ofGroup "nodes" store.owner.nodes ++ (ofGroup "drpnodes" store.owner.drpNodes ++
        ofGroup "encapnodes" store.owner.encapNodes)) ++ [key.baseOption]
  else [key.baseOption]

/-- These are the forms under the scopes that the node is in. -/
theorem variants_eq_forms (store : Store) (key : Key) (node : Text) (h : keyword.scopable = true) :
    store.variants key.baseOption (store.viewer node) = store.forms key keyword node := by
  have hgroups : ∀ groups : List (Text × List Text),
      ((groups.filter fun group => group.2.contains (store.viewer node)).map Prod.fst).map
          (Key.scopedOption key.baseOption) =
        groups.flatMap fun group =>
          if store.viewer node ∈ group.2 then [Key.scopedOption key.baseOption group.1]
          else [] := by
    intro groups
    induction groups with
    | nil => rfl
    | cons group rest ih =>
      rw [List.flatMap_cons, ← ih]
      by_cases hmem : store.viewer node ∈ group.2 <;> simp [hmem]
  have hscoped : (store.scopesOf (store.viewer node)).map (Key.scopedOption key.baseOption) =
      Key.scopedOption key.baseOption (store.viewer node) ::
        store.groupScopes.flatMap fun group =>
          if store.viewer node ∈ group.2 then [Key.scopedOption key.baseOption group.1] else [] :=
    congrArg (List.cons _) (hgroups store.groupScopes)
  rw [variants, hscoped, groupScopes, List.flatMap_cons, List.flatMap_cons, List.flatMap_cons,
    List.flatMap_nil, List.append_nil, forms, if_pos h]

theorem forms_of_not_scopable (store : Store) (key : Key) (node : Text)
    (h : ¬ keyword.scopable = true) : store.forms key keyword node = [key.baseOption] := by
  rw [forms, if_neg h]

/-- A look-up that follows the scopes finds the first form that is set. -/
theorem toOption_descope (store : Store) (key : Key) (node : Text) :
    (store.descope key node).toOption =
      (store.variants key.baseOption (store.viewer node)).findSome?
        (store.data.get? key.sectionOrDefault) := by
  rw [descope_eq]
  split
  · cases (store.variants key.baseOption (store.viewer node)).findSome?
      (store.data.get? key.sectionOrDefault) <;> rfl
  · next hsection =>
    -- in a section that is not there, no form is set
    refine (List.findSome?_eq_none_iff.mpr fun option _ => ?_).symm
    refine Option.not_isSome_iff_eq_none.mp fun hset => ?_
    exact hsection (RawConfig.hasSection_of_isSome_get? hset)

/-- A node reads the first form that is set. -/
theorem toOption_readScoped (store : Store) (key : Key) (keyword : Keyword) (node : Text) :
    (store.readScoped key keyword node).toOption =
      (store.forms key keyword node).findSome? (store.data.get? key.sectionOrDefault) := by
  unfold readScoped
  split
  · next hscopable =>
    rw [toOption_descope, variants_eq_forms store key node hscopable]
  · next hbare =>
    have hget : store.get? key.withoutScope =
        store.data.get? key.sectionOrDefault key.baseOption := rfl
    rw [getStrict, hget, forms_of_not_scopable store key node hbare, List.findSome?_singleton]
    cases store.data.get? key.sectionOrDefault key.baseOption <;> rfl

/-- **Two readings come to the same**: to one text, or to something missing. -/
inductive SameReading : Except EvalError Text → Except EvalError Text → Prop
  | text (value : Text) : SameReading (.ok value) (.ok value)
  | missing {e e' : EvalError} (h : e.isMissing = true) (h' : e'.isMissing = true) :
    SameReading (.error e) (.error e')

/-- Stores in which a node reads the same value, or none, give the key the same text. -/
theorem sameReading_scopedText {a b : Store}
    (h : (a.readScoped key keyword node).toOption = (b.readScoped key keyword node).toOption) :
    SameReading (a.scopedText key keyword node) (b.scopedText key keyword node) := by
  unfold scopedText
  cases ha : a.readScoped key keyword node with
  | ok value =>
    rw [ha] at h
    cases hb : b.readScoped key keyword node with
    | ok other =>
      rw [hb] at h
      obtain rfl : value = other := Option.some.inj h
      exact .text value
    | error e =>
      rw [hb] at h
      cases h
  | error e =>
    rw [ha] at h
    cases hb : b.readScoped key keyword node with
    | ok other =>
      rw [hb] at h
      cases h
    | error e' =>
      have he := isMissing_of_readScoped ha
      have he' := isMissing_of_readScoped hb
      simp only [he, he', Bool.true_and]
      split
      · exact .text keyword.default
      · exact .missing he he'

/-! ## Writing one form -/

/-- **A form of an option decides for a node**: the node reads it, and no form that goes
before it is set. -/
def Decides (store : Store) (key : Key) (keyword : Keyword) (written node : Text) : Prop :=
  written ∈ store.forms key keyword node ∧
    ∀ earlier ∈ (store.forms key keyword node).takeWhile (· ≠ written),
      store.data.get? key.sectionOrDefault earlier = none

instance : Decidable (store.Decides key keyword written node) :=
  inferInstanceAs (Decidable (_ ∧ _))

/-- Of an option that takes no scopes, the bare form decides for every node, and no other
form does for any. -/
theorem decides_iff_of_not_scopable (h : keyword.scopable = false) :
    store.Decides key keyword written node ↔ written = key.baseOption := by
  have hbare : ¬ keyword.scopable = true := by simp [h]
  rw [Decides, forms_of_not_scopable store key node hbare, List.mem_singleton]
  refine and_iff_left_of_imp ?_
  rintro rfl
  simp

variable (hself : raw.get? key.sectionOrDefault written = some value)
  (hothers : ∀ option, option ≠ written →
    raw.get? key.sectionOrDefault option = store.data.get? key.sectionOrDefault option)

include hself hothers in
theorem toOption_readScoped_of_written (keyword : Keyword) (node : Text) :
    ((store.withData raw).readScoped key keyword node).toOption =
      if store.Decides key keyword written node then some value
      else (store.readScoped key keyword node).toOption := by
  have hforms : (store.withData raw).forms key keyword node = store.forms key keyword node := rfl
  rw [toOption_readScoped, toOption_readScoped, hforms]
  refine (Lists.findSome?_of_written hself hothers _).trans ?_
  -- membership is decided in two ways here, which come to the same
  unfold Decides
  congr

include hself hothers in
/-- The text of the key is the new value for the nodes that the form decides for. -/
theorem scopedText_of_decides (h : store.Decides key keyword written node) :
    (store.withData raw).scopedText key keyword node = .ok value := by
  have hread := toOption_readScoped_of_written hself hothers keyword node
  rw [if_pos h] at hread
  unfold scopedText
  cases hvalue : (store.withData raw).readScoped key keyword node with
  | ok found =>
    rw [hvalue] at hread
    exact congrArg Except.ok (Option.some.inj hread)
  | error e =>
    rw [hvalue] at hread
    cases hread

include hself hothers in
/-- For all other nodes it is what it was. -/
theorem sameReading_of_not_decides (h : ¬ store.Decides key keyword written node) :
    SameReading (store.scopedText key keyword node)
      ((store.withData raw).scopedText key keyword node) := by
  have hread := toOption_readScoped_of_written hself hothers keyword node
  rw [if_neg h] at hread
  exact sameReading_scopedText hread.symm

include hothers in
/-- The keyword of an option stays, whatever form of the option is written: its own
keyword does not depend on the type of the section, and others do not if that is not
written. -/
theorem keyword?_of_written (h : written = key.option ∨ scopeSeparator ∈ written) :
    (store.withData raw).keyword? key = store.keyword? key := by
  by_cases htype : key.option = "type".toList
  · simp only [keyword?, sectionType, htype, if_true]
    rfl
  · refine keyword?_congr rfl (hothers _ ?_)
    rintro rfl
    rcases h with h | h
    · exact htype h.symm
    · exact absurd h (by decide)

end Store

/-! ## A write and what is seen of it -/

/-- The form of an option under a scope, or without one. -/
def Key.form (option : Text) : Option Text → Text
  | some scope => scopedOption option scope
  | none => option

theorem Key.form_eq_or_mem (option : Text) (scope? : Option Text) :
    form option scope? = option ∨ scopeSeparator ∈ form option scope? := by
  cases scope? with
  | none => exact .inl rfl
  | some scope => exact .inr (List.mem_append_right _ List.mem_cons_self)

namespace RawConfig

/-- A value is set in a section that is no driver group, and nothing else. -/
theorem exists_apply_set (raw : RawConfig) {name : Text} (option value : Text) (index : Nat)
    (hgroup : Key.sectionOrDefault ⟨name, option⟩ ∉ DriverGroup.names) :
    ∃ changed count, raw.apply ⟨⟨name, option⟩, .set, value, index⟩ = .ok (changed, count) ∧
      changed.get? (Key.sectionOrDefault ⟨name, option⟩) option = some value ∧
      ∀ other, other ≠ option →
        changed.get? (Key.sectionOrDefault ⟨name, option⟩) other =
          raw.get? (Key.sectionOrDefault ⟨name, option⟩) other := by
  have houtcome : ∀ value?, KeyOp.outcome ⟨⟨name, option⟩, .set, value, index⟩ value? =
      .ok (some value) := by
    intro value?
    rw [KeyOp.outcome, if_neg (by simp)]
    rfl
  cases happly : raw.apply ⟨⟨name, option⟩, .set, value, index⟩ with
  | error e =>
    obtain ⟨_, -, herror⟩ := exists_of_apply_error happly
    rw [houtcome] at herror
    cases herror
  | ok result =>
    obtain ⟨changed, count⟩ := result
    have hmutated := mutated_of_apply_ok happly
    have htarget : raw.IsTarget ⟨⟨name, option⟩, .set, value, index⟩
        (Key.sectionOrDefault ⟨name, option⟩) := by
      rw [IsTarget, if_neg hgroup]
    refine ⟨changed, count, rfl, ?_, fun other hother => hmutated.frame _ other ?_⟩
    · have hvalue := hmutated.outcome _ htarget
      rw [houtcome] at hvalue
      exact (Except.ok.inj hvalue).symm
    · rintro ⟨-, h⟩
      exact hother h

end RawConfig

namespace Session

theorem store_linked (session : Session) (target : Target) :
    (session.linked target).store = (session.member target).store := by
  obtain ⟨own, node?, files, ids⟩ := session
  cases target <;> cases node? <;> rfl

/-- What a `set` does to the store of a target. -/
theorem exists_apply_set (session : Session) (target : Target) (key : Key) (option value : Text)
    (index : Nat) (hgroup : key.sectionOrDefault ∉ DriverGroup.names) :
    ∃ after count raw,
      session.apply target ⟨⟨key.sectionName, option⟩, .set, value, index⟩ = (after, .ok count) ∧
      (after.linked target).store = (session.member target).store.withData raw ∧
      raw.get? key.sectionOrDefault option = some value ∧
      ∀ other, other ≠ option → raw.get? key.sectionOrDefault other =
        (session.member target).store.data.get? key.sectionOrDefault other := by
  obtain ⟨raw, count, happly, hself, hothers⟩ :=
    (session.member target).store.data.exists_apply_set option value index hgroup
  refine ⟨session.withData target raw, count, raw, ?_, ?_, hself, hothers⟩
  · rw [apply, happly]
  · rw [store_linked, store_member_withData]

/-- **A write is seen by exactly the nodes it applies to.**  Text without references is
set for an option in a section that is no driver group, under a scope or bare.  Nodes for
which this form decides see the text as it was given; for all other nodes the text of the
option is what it was, be it a value, the default or missing. -/
theorem evaluate_after_set (session : Session) (target : Target) (key : Key) (keyword : Keyword)
    (scope? : Option Text) (value : Text) (index : Nat)
    (hgroup : key.sectionOrDefault ∉ DriverGroup.names)
    (hkeyword : (session.linked target).store.keyword? key = some keyword)
    (hconverter : keyword.converter = none) (hvalue : Reference.occursIn value = false) :
    ∃ after count,
      session.apply target
        ⟨⟨key.sectionName, Key.form key.option scope?⟩, .set, value, index⟩ =
          (after, .ok count) ∧
      (after.linked target).store.keyword? key = some keyword ∧
      ∀ node,
        if (session.linked target).store.Decides key keyword (Key.form key.option scope?) node then
          (after.evaluate target (·.evaluate key node)).2 = .ok (.string value)
        else
          Store.SameReading ((session.linked target).store.scopedText key keyword node)
            ((after.linked target).store.scopedText key keyword node) := by
  rw [store_linked] at hkeyword ⊢
  obtain ⟨after, count, raw, happly, hstore, hself, hothers⟩ :=
    session.exists_apply_set target key (Key.form key.option scope?) value index hgroup
  have hstays : (after.linked target).store.keyword? key = some keyword := by
    rw [hstore, Store.keyword?_of_written hothers (Key.form_eq_or_mem key.option scope?), hkeyword]
  refine ⟨after, count, happly, hstays, fun node => ?_⟩
  split
  · next hdecides =>
    refine LinkedStore.evaluate_of_plain hstays hconverter ?_ hvalue
    rw [hstore]
    exact Store.scopedText_of_decides hself hothers hdecides
  · next hdecides =>
    rw [hstore]
    exact Store.sameReading_of_not_decides hself hothers hdecides

/-- The keyword of a directory that every node has to have. -/
def mountKeyword : Keyword := { Keyword.plain "fs" "mnt" with scopable := true, required := true }

/-- A session of a service on two nodes and one for disasters, with a directory for one
of the two. -/
def mounting : Session where
  own :=
    { store :=
        { path := "/etc/web.conf"
          data := .ofLists [("fs#0", [("mnt@n1", "/own")])]
          owner := ⟨.object ⟨rootNamespace, .svc, "web"⟩, ⟨[mountKeyword]⟩, ["n1", "n2"], ["d1"],
            [], [], false⟩
          agent := .default }
      asked := []
      commits := 0 }
  node? := none
  files := .empty
  ids := ⟨fun _ => [], 0⟩

theorem evaluate_after_set_mounting :
    ∃ after count,
      mounting.apply .own ⟨⟨"fs#0", "mnt@nodes"⟩, .set, [], 0⟩ = (after, .ok count) ∧
      (after.evaluate .own (·.evaluate ⟨"fs#0", "mnt"⟩ "n2")).2 = .ok (.string []) ∧
      (after.linked .own).store.scopedText ⟨"fs#0", "mnt"⟩ mountKeyword "n1" = .ok "/own" ∧
      ∀ text,
        (after.linked .own).store.scopedText ⟨"fs#0", "mnt"⟩ mountKeyword "d1" ≠ .ok text := by
  obtain ⟨after, count, happly, -, hnodes⟩ :=
    evaluate_after_set mounting .own ⟨"fs#0", "mnt"⟩ mountKeyword (some "nodes") [] 0
      (by decide) (by decide +kernel) rfl rfl
  have hfirst := hnodes "n1"
  have hsecond := hnodes "n2"
  have hthird := hnodes "d1"
  rw [if_neg (by decide +kernel)] at hfirst hthird
  rw [if_pos (by decide +kernel)] at hsecond
  have hown : (mounting.linked .own).store.scopedText ⟨"fs#0", "mnt"⟩ mountKeyword "n1" =
      .ok "/own" := by decide +kernel
  have hmissing : (mounting.linked .own).store.scopedText ⟨"fs#0", "mnt"⟩ mountKeyword "d1" =
      .error (.missing (.scopes ⟨"fs#0", "mnt"⟩)) := by decide +kernel
  rw [hown] at hfirst
  rw [hmissing] at hthird
  refine ⟨after, count, happly, hsecond, ?_, fun text htext => ?_⟩
  · generalize (after.linked .own).store.scopedText _ _ _ = reading at hfirst ⊢
    cases hfirst
    rfl
  · rw [htext] at hthird
    cases hthird

end Session
end ScopedConfig

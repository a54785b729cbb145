import Mathlib.Logic.Relation
import ScopedConfig.Proofs.Store.ReferenceChain
import ScopedConfig.Proofs.Store.Termination
import ScopedConfig.Proofs.Store.UnsetKey

/-! # What an evaluation waits for

A name has to wait if it stands for a key that is not set, of a resource that is not
there, and the owner does not know it; no other look-up is put off
(`referent_eq_postponed_iff`).  An evaluation may come to such a name at any depth, in
the store that it starts in or, behind a reference to the node, on the side of the node.
The places that it comes to are the text it starts with and the texts of the keys that
are referred to from there (`Place.Leads`).  An error that tells to wait tells of a name
at one of them, and of the resource that the store of this place does not have
(`Query.exists_awaits_of_error`); so an evaluation that stays in its store does not wait
for a resource that is there (`Query.postponed_absent`).
-/
namespace ScopedConfig

namespace LinkedStore

variable {linked : LinkedStore} {key : Key} {keyword : Keyword}
  {sectionName node name other rid : Text} {e : EvalError}

/-! ## Names that have to wait -/

/-- **A name has to wait for a resource**: it stands for a key that is not set, the section
of the key is one of a resource and is not there, and the owner does not know the
name. -/
structure Awaits (linked : LinkedStore) (sectionName node name rid : Text) : Prop where
  key : ∃ key, linked.store.NamesUnset sectionName node name key ∧ key.sectionOrDefault = rid
  symbol : linked.store.owner.symbol? linked.store.agent name = none
  resource : resourceSeparator ∈ rid
  absent : linked.store.data.hasSection rid = false

theorem isMissing_of_visitUnder (h : linked.visitUnder key keyword node = .error e) :
    e.isMissing = true :=
  Store.isMissing_of_scopedText (Outcome.map_eq_error_iff.mp h)

theorem governedVisit_ne_postponed :
    linked.governedVisit key node ≠ .error (.postponed name rid) := by
  intro h
  unfold governedVisit at h
  split at h
  · cases isMissing_of_visitUnder h
  · cases h

theorem unsetVisit_eq_postponed_iff :
    linked.unsetVisit node name key = .error (.postponed other rid) ↔
      other = name ∧ key.sectionOrDefault = rid ∧ resourceSeparator ∈ rid ∧
        linked.store.data.hasSection rid = false := by
  have hresource : ∀ text : Text,
      Text.contains resourceSeparator text = true ↔ resourceSeparator ∈ text := by
    simp [Text.contains]
  unfold unsetVisit
  constructor
  · intro h
    split at h
    · split at h
      · cases isMissing_of_visitUnder h
      · cases h
    · next habsent =>
      split at h
      · next hmark =>
        obtain ⟨rfl, rfl⟩ := EvalError.postponed.inj (Except.error.inj h)
        exact ⟨rfl, rfl, (hresource _).mp hmark, Bool.eq_false_iff.mpr habsent⟩
      · cases h
  · rintro ⟨rfl, rfl, hmark, habsent⟩
    rw [habsent, if_neg Bool.false_ne_true, if_pos ((hresource _).mpr hmark)]

theorem nodeReferent_ne_postponed {rest : Text} :
    linked.nodeReferent node name rest ≠ .error (.postponed other rid) := by
  intro h
  unfold nodeReferent at h
  split at h
  · cases h
  · split at h
    · exact governedVisit_ne_postponed (Outcome.map_eq_error_iff.mp h)
    · cases h

/-- The look-up of a key of the store is only put off if the key is not set, the owner does
not know the name, and the key has to wait. -/
theorem exists_unset_of_keyReferent
    (h : (linked.keyReferent sectionName node name).result = .error (.postponed other rid)) :
    ∃ named, Key.read name = .ok named ∧
      linked.store.isSetInAnyScope (named.seenFrom sectionName) = false ∧
      linked.store.owner.symbol? linked.store.agent name = none ∧
      linked.unsetVisit node name (named.seenFrom sectionName) = .error (.postponed other rid) := by
  unfold keyReferent at h
  split at h
  · cases h
  · next named hread =>
    dsimp only at h
    rw [← Key.seenFrom] at h
    split at h
    · cases Store.isMissing_of_storedText (Outcome.map_eq_error_iff.mp h)
    · next hunset =>
      split at h
      · cases h
      · next hsymbol =>
        exact ⟨named, hread, Bool.eq_false_iff.mpr hunset, hsymbol, Outcome.map_eq_error_iff.mp h⟩

/-- **A look-up is put off exactly if its name has to wait**, and the error tells of that
name and of the resource. -/
theorem referent_eq_postponed_iff :
    (linked.referent sectionName node name).result = .error (.postponed other rid) ↔
      other = name ∧ linked.Awaits sectionName node name rid := by
  constructor
  · intro h
    unfold referent at h
    split at h
    · exact absurd h nodeReferent_ne_postponed
    · next hmark =>
      split at h
      · cases h
      · next hknown =>
        obtain ⟨named, hread, hunset, hsymbol, hvisit⟩ := exists_unset_of_keyReferent h
        obtain ⟨rfl, hrid, hresource, habsent⟩ := unsetVisit_eq_postponed_iff.mp hvisit
        have hkey : linked.store.NamesUnset sectionName node other (named.seenFrom sectionName) :=
          ⟨hmark, hknown, ⟨named, hread, rfl⟩, hunset⟩
        exact ⟨rfl, ⟨_, hkey, hrid⟩, hsymbol, hresource, habsent⟩
  · rintro ⟨rfl, ⟨key, hkey, hrid⟩, hsymbol, hresource, habsent⟩
    rw [referent_of_namesUnset hkey, hsymbol,
      unsetVisit_eq_postponed_iff.mpr ⟨rfl, hrid, hresource, habsent⟩]
    rfl

end LinkedStore

/-! ## Places -/

/-- **A place of an evaluation**: a text under expansion, the stores that its names are
looked up in, and the section that it is seen from. -/
structure Place where
  linked : LinkedStore
  sectionName : Text
  raw : Text

namespace Place

variable {linked : LinkedStore} {place next : Place} {node name rid : Text}

/-- The place where the text of a key is. -/
def ofVisit (visit : Visit) : Place := ⟨visit.linked, visit.key.sectionOrDefault, visit.raw⟩

/-- **One place leads to another**: its text refers to the key whose text is there. -/
def Leads (node : Text) (place next : Place) : Prop :=
  ∃ visit, place.linked.TextRefers place.sectionName node place.raw visit ∧ next = ofVisit visit

/-- A place is reached from another one along references. -/
def Reaches (node : Text) (place next : Place) : Prop :=
  Relation.ReflTransGen (Leads node) place next

/-- A token of the text has a name that has to wait. -/
def Awaits (place : Place) (node name rid : Text) : Prop :=
  name ∈ Reference.names place.raw ∧ place.linked.Awaits place.sectionName node name rid

/-- A place is in the store where the evaluation starts, or on the side of the node. -/
def IsOf (linked : LinkedStore) (place : Place) : Prop :=
  place.linked = linked ∨ place.linked = linked.nodeSide

theorem IsOf.leads (h : place.IsOf linked) (hleads : place.Leads node next) :
    next.IsOf linked := by
  obtain ⟨visit, ⟨name, -, referent, hr, hvisit⟩, rfl⟩ := hleads
  exact LinkedStore.sees_of_side h (LinkedStore.sees_of_referent hr hvisit)

/-- **An evaluation stays in its store and on the side of the node.** -/
theorem IsOf.reaches (h : place.IsOf linked) (hreaches : place.Reaches node next) :
    next.IsOf linked := by
  induction hreaches with
  | refl => exact h
  | tail _ hleads ih => exact ih.leads hleads

theorem IsOf.store (h : place.IsOf linked) :
    place.linked.store = linked.store ∨ linked.node? = some place.linked.store := by
  rcases h with h | h <;> rw [h]
  · exact .inl rfl
  · unfold LinkedStore.nodeSide
    cases linked.node? with
    | none => exact .inl rfl
    | some store => exact .inr rfl

/-- What a text waits for is waited for at a place that it leads to. -/
theorem exists_awaits_of_expandWith (place : Place) {enter : Visit → Outcome Text}
    (h : (LinkedStore.expandWith
      (LinkedStore.dereference enter place.linked place.sectionName node) place.raw).result =
        .error (.postponed name rid))
    (henter : ∀ visit, (enter visit).result = .error (.postponed name rid) →
      ∃ next, (ofVisit visit).Reaches node next ∧ next.Awaits node name rid) :
    ∃ next, place.Reaches node next ∧ next.Awaits node name rid := by
  obtain ⟨token, htoken, hname⟩ := LinkedStore.exists_of_expandWith_error h
  rcases LinkedStore.error_of_dereference hname with hlookup | ⟨referent, visit, hr, hv, hvisit⟩
  · obtain ⟨rfl, hawaits⟩ := LinkedStore.referent_eq_postponed_iff.mp hlookup
    exact ⟨place, .refl, htoken, hawaits⟩
  · obtain ⟨next, hreaches, hawaits⟩ := henter visit hvisit
    exact ⟨next, .head ⟨visit, ⟨token, htoken, referent, hr, hv⟩, rfl⟩ hreaches, hawaits⟩

/-- The expansion of the text of a key only waits for what is waited for at a place that
the key leads to. -/
theorem exists_awaits_of_enterAt {room : Nat} {trail : Trail} {visit : Visit}
    (h : (LinkedStore.enterAt node room trail visit).result = .error (.postponed name rid)) :
    ∃ next, (ofVisit visit).Reaches node next ∧ next.Awaits node name rid := by
  -- each key that is entered has less room than the one that refers to it
  induction room generalizing trail visit with
  | zero =>
    unfold LinkedStore.enterAt at h
    split at h <;> cases h
  | succ left ih =>
    unfold LinkedStore.enterAt at h
    split at h
    · cases h
    · have hentered : ∀ inner,
          (LinkedStore.enterAt node left (trail ++ [visit.entry]) inner).result =
            .error (.postponed name rid) →
          ∃ next, (ofVisit inner).Reaches node next ∧ next.Awaits node name rid := fun _ => ih
      exact exists_awaits_of_expandWith (ofVisit visit) h hentered

/-- A text with a name that has to wait comes to an error that tells to wait. -/
theorem isPostponed_of_awaits (place : Place) (enter : Visit → Outcome Text)
    (h : place.Awaits node name rid) :
    ∃ e, (LinkedStore.expandWith
      (LinkedStore.dereference enter place.linked place.sectionName node) place.raw).result =
        .error e ∧ e.isPostponed = true := by
  obtain ⟨hname, hawaits⟩ := h
  have hlookup := LinkedStore.referent_eq_postponed_iff.mpr ⟨rfl, hawaits⟩
  have hderef : (LinkedStore.dereference enter place.linked place.sectionName node name).result =
      .error (.postponed name rid) := by
    unfold LinkedStore.dereference Outcome.andThen
    rw [hlookup]
  have hmem := (LinkedStore.mem_errorsOf_iff _).mpr ⟨name, hname, hderef⟩
  cases hl : EvalError.leading? (LinkedStore.errorsOf
      (LinkedStore.dereference enter place.linked place.sectionName node)
      (Reference.names place.raw)) with
  | none =>
    rw [EvalError.leading?_eq_none_iff.mp hl] at hmem
    cases hmem
  | some first =>
    exact ⟨first, LinkedStore.expandWith_of_leading hl,
      EvalError.isPostponed_of_leading? hmem rfl hl⟩

/-- A key that nothing leads to is always entered. -/
theorem isPostponed_of_enterFirst {visit : Visit} (h : (ofVisit visit).Awaits node name rid) :
    ∃ e, (LinkedStore.enterFirst node visit).result = .error e ∧ e.isPostponed = true := by
  have hentered : LinkedStore.enterFirst node visit = Descent.outcome node ⟨[], visit⟩ := rfl
  have hroom : (Descent.mk [] visit).trail.length < maxReferenceDepth := Nat.zero_lt_succ 31
  rw [hentered, Descent.outcome_of_room List.not_mem_nil hroom]
  exact isPostponed_of_awaits (ofVisit visit) _ h

end Place

/-! ## Queries -/

/-- **What is asked of a store**: what a text expands to, seen from a section, or the text
of a key under a keyword, or the value of a key. -/
inductive Query where
  | text (raw sectionName : Text)
  | keyText (key : Key) (keyword : Keyword)
  | value (key : Key)

namespace Query

variable {linked : LinkedStore} {query : Query} {node name rid : Text}

/-- The error that a query comes to. -/
def error? (linked : LinkedStore) (node : Text) : Query → Option EvalError
  | text raw sectionName => (linked.expand raw sectionName node).error?
  | keyText key keyword => (linked.evaluateText key keyword node).error?
  | value key => (linked.evaluate key node).error?

/-- The place that a query starts at, if it has a text. -/
def start (linked : LinkedStore) (node : Text) : Query → Except EvalError Place
  | text raw sectionName => .ok ⟨linked, sectionName, raw⟩
  | keyText key keyword => (linked.visitUnder key keyword node).map Place.ofVisit
  | value key => (linked.governedVisit key node).map Place.ofVisit

/-- **A query comes to a place**: its start leads there. -/
def Visits (query : Query) (linked : LinkedStore) (node : Text) (place : Place) : Prop :=
  ∃ start, query.start linked node = .ok start ∧ start.Reaches node place

/-- **A query goes to the node** if it comes to a place that is in another store. -/
def EntersNode (query : Query) (linked : LinkedStore) (node : Text) : Prop :=
  ∃ place, query.Visits linked node place ∧ place.linked ≠ linked

/-- **What a query waits for is waited for at a place that it comes to.** -/
theorem exists_awaits_of_error (h : query.error? linked node = some (.postponed name rid)) :
    ∃ place, query.Visits linked node place ∧ place.Awaits node name rid := by
  cases query with
  | text raw sectionName =>
    have hentered : ∀ visit, (LinkedStore.enterFirst node visit).result =
        .error (.postponed name rid) →
        ∃ next, (Place.ofVisit visit).Reaches node next ∧ next.Awaits node name rid :=
      fun _ => Place.exists_awaits_of_enterAt
    obtain ⟨place, hreaches, hawaits⟩ := Place.exists_awaits_of_expandWith
      ⟨linked, sectionName, raw⟩ (Outcome.error?_eq_some_iff.mp h) hentered
    exact ⟨place, ⟨_, rfl, hreaches⟩, hawaits⟩
  | keyText key keyword =>
    have hresult := Outcome.error?_eq_some_iff.mp h
    rw [LinkedStore.result_evaluateText] at hresult
    rcases Outcome.bind_eq_error_iff.mp hresult with hlookup | ⟨visit, hvisit, hentered⟩
    · cases LinkedStore.isMissing_of_visitUnder hlookup
    · obtain ⟨place, hreaches, hawaits⟩ := Place.exists_awaits_of_enterAt hentered
      exact ⟨place, ⟨_, Outcome.map_eq_ok_iff.mpr ⟨visit, hvisit, rfl⟩, hreaches⟩, hawaits⟩
  | value key =>
    obtain ⟨visit, hvisit, hentered⟩ := LinkedStore.exists_entered_of_evaluate_error
      (Outcome.error?_eq_some_iff.mp h) LinkedStore.governedVisit_ne_postponed (by simp)
    obtain ⟨place, hreaches, hawaits⟩ := Place.exists_awaits_of_enterAt hentered
    exact ⟨place, ⟨_, Outcome.map_eq_ok_iff.mpr ⟨visit, hvisit, rfl⟩, hreaches⟩, hawaits⟩

theorem isOf_of_start {start : Place} (h : query.start linked node = .ok start) :
    start.IsOf linked := by
  have hlookup : ∀ result, linked.IsLookup result → result.map Place.ofVisit = .ok start →
      start.IsOf linked := by
    intro result hresult hmap
    obtain ⟨visit, rfl, rfl⟩ := Outcome.map_eq_ok_iff.mp hmap
    exact .inl hresult
  cases query with
  | text raw sectionName =>
    obtain rfl := Except.ok.inj h
    exact .inl rfl
  | keyText key keyword => exact hlookup _ (LinkedStore.isLookup_visitUnder ..) h
  | value key => exact hlookup _ (LinkedStore.isLookup_governedVisit ..) h

/-- A query only comes to places in its store and on the side of the node. -/
theorem Visits.isOf {place : Place} (h : query.Visits linked node place) :
    place.IsOf linked := by
  obtain ⟨start, hstart, hreaches⟩ := h
  exact (isOf_of_start hstart).reaches hreaches

/-- Without a store of the node there is nowhere else to go. -/
theorem not_entersNode_of_unlinked (h : linked.node? = none) : ¬ query.EntersNode linked node := by
  rintro ⟨place, hvisits, hother⟩
  have hside : linked.nodeSide = linked := by rw [LinkedStore.nodeSide, h]
  have hof := hvisits.isOf
  rw [Place.IsOf, hside, or_self] at hof
  exact hother hof

/-- **A query whose own text has a name that has to wait is told to wait.** -/
theorem isPostponed_of_start {start : Place} (hstart : query.start linked node = .ok start)
    (h : start.Awaits node name rid) :
    ∃ e, query.error? linked node = some e ∧ e.isPostponed = true := by
  cases query with
  | text raw sectionName =>
    obtain rfl := Except.ok.inj hstart
    obtain ⟨e, he, hpostponed⟩ := Place.isPostponed_of_awaits _ _ h
    exact ⟨e, Outcome.error?_eq_some_iff.mpr he, hpostponed⟩
  | keyText key keyword =>
    obtain ⟨visit, hvisit, rfl⟩ := Outcome.map_eq_ok_iff.mp hstart
    obtain ⟨e, he, hpostponed⟩ := Place.isPostponed_of_enterFirst h
    have hresult : (linked.evaluateText key keyword node).result = .error e := by
      rw [LinkedStore.result_evaluateText]
      exact Outcome.bind_eq_error_iff.mpr (.inr ⟨visit, hvisit, he⟩)
    exact ⟨e, Outcome.error?_eq_some_iff.mpr hresult, hpostponed⟩
  | value key =>
    obtain ⟨visit, hvisit, rfl⟩ := Outcome.map_eq_ok_iff.mp hstart
    obtain ⟨e, he, hpostponed⟩ := Place.isPostponed_of_enterFirst h
    rw [LinkedStore.governedVisit_eq] at hvisit
    obtain ⟨keyword, hkeyword, hvisit⟩ := Outcome.bind_eq_ok_iff.mp hvisit
    have hresult : (linked.evaluate key node).result = .error e := by
      rw [LinkedStore.result_evaluate]
      refine Outcome.bind_eq_error_iff.mpr (.inr ⟨keyword, hkeyword, ?_⟩)
      exact Outcome.bind_eq_error_iff.mpr
        (.inl (Outcome.bind_eq_error_iff.mpr (.inr ⟨visit, hvisit, he⟩)))
    exact ⟨e, Outcome.error?_eq_some_iff.mpr hresult, hpostponed⟩

/-- **Waiting means that a resource is not there yet.**  If the expansion of a text, or of
the text of a key, or the value of a key has to wait for a resource, then it has come to a
text with a name that has to wait for it: this name is a key of the resource and not set,
the name of the resource has the mark of one, and the store that the text is in, the store
itself or that of the node, has no section for it.  So as long as nothing leads to the
store of the node, no section that is in the store is waited for, even if it is empty. -/
theorem postponed_absent (linked : LinkedStore) (query : Query) (node name rid : Text) :
    (query.error? linked node = some (.postponed name rid) →
      ∃ place, query.Visits linked node place ∧
        (place.linked.store = linked.store ∨ linked.node? = some place.linked.store) ∧
        place.Awaits node name rid ∧ resourceSeparator ∈ rid ∧
        place.linked.store.data.hasSection rid = false) ∧
    (¬ query.EntersNode linked node → linked.store.data.hasSection rid = true →
      query.error? linked node ≠ some (.postponed name rid)) := by
  constructor
  · intro h
    obtain ⟨place, hvisits, hawaits⟩ := exists_awaits_of_error h
    exact ⟨place, hvisits, hvisits.isOf.store, hawaits, hawaits.2.resource, hawaits.2.absent⟩
  · intro hstays hpresent h
    obtain ⟨place, hvisits, -, hawaits⟩ := exists_awaits_of_error h
    have hhere : place.linked = linked := by
      by_contra hother
      exact hstays ⟨place, hvisits, hother⟩
    have habsent := hawaits.absent
    rw [hhere, hpresent] at habsent
    cases habsent

/-- A store with a key that leads to the device of a file system, and resources. -/
def pending (resources : List (Text × List (Text × Text))) : LinkedStore where
  store :=
    { path := "/etc/web.conf"
      data := .ofLists (("env", [("a", "$(b)"), ("b", "\x7bfs#1.dev\x7d")]) :: resources)
      owner := ⟨.object ⟨rootNamespace, .svc, "web"⟩, .empty, ["n1"], [], [], [], false⟩
      agent := .default }
  node? := none

theorem postponed_absent_pending :
    (value ⟨"env", "a"⟩).error? (pending []) [] = some (.postponed "fs#1.dev" "fs#1") ∧
      (∃ place, (value ⟨"env", "a"⟩).Visits (pending []) [] place ∧
        place.Awaits [] "fs#1.dev" "fs#1") ∧
      ¬ (value ⟨"env", "a"⟩).EntersNode (pending [("fs#1", [])]) [] ∧
      (pending [("fs#1", [])]).store.data.hasSection "fs#1" = true ∧
      (value ⟨"env", "a"⟩).error? (pending [("fs#1", [])]) [] ≠
        some (.postponed "fs#1.dev" "fs#1") := by
  have herror : (value ⟨"env", "a"⟩).error? (pending []) [] =
      some (.postponed "fs#1.dev" "fs#1") := by decide +kernel
  have hstays : ¬ (value ⟨"env", "a"⟩).EntersNode (pending [("fs#1", [])]) [] :=
    not_entersNode_of_unlinked rfl
  have hpresent : (pending [("fs#1", [])]).store.data.hasSection "fs#1" = true := by
    decide +kernel
  obtain ⟨place, hvisits, -, hawaits, -⟩ := (postponed_absent _ _ _ _ _).1 herror
  exact ⟨herror, ⟨place, hvisits, hawaits⟩, hstays, hpresent,
    (postponed_absent _ _ _ _ _).2 hstays hpresent⟩

end Query
end ScopedConfig

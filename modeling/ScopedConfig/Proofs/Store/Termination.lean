import Mathlib.Logic.Relation
import ScopedConfig.Proofs.Store.Reference
import ScopedConfig.Proofs.Store.Simulation

/-! # Expansion ends

Expanding a key may ask for the expansion of other keys, which are read from the stores
and are no part of it: only the trail bounds that.  A *descent* is the expansion of a
key with the trail that leads to it, and `Descent.Asks` is the step from one descent to
another.  Each step puts one more key on the trail, which takes no key twice and has
room for 32, so the steps are well founded (`Descent.wellFounded_asks`).

Whether a descent ends is said without a bound of its own (`Descent.Ends`): it ends if
it stops at its key, or if all descents that it asks for end.  Every descent ends, with
one outcome, and that is the one computed (`expansion_ends`).
-/
namespace ScopedConfig

/-- A text refers to a key if one of its names stands for the text of the key. -/
def LinkedStore.TextRefers (linked : LinkedStore) (sectionName node raw : Text) (w : Visit) :
    Prop :=
  ∃ name ∈ Reference.names raw, ∃ referent,
    (linked.referent sectionName node name).result = .ok referent ∧ referent.visit? = some w

namespace LinkedStore

variable {linked : LinkedStore} {sectionName node raw : Text}

/-- What a text comes to only depends on what the keys come to that it refers to. -/
theorem expandWith_dereference_congr {enter other : Visit → Outcome Text}
    (h : ∀ w, linked.TextRefers sectionName node raw w → enter w = other w) :
    expandWith (dereference enter linked sectionName node) raw =
      expandWith (dereference other linked sectionName node) raw := by
  refine expandWith_congr fun name hname => ?_
  unfold dereference Outcome.andThen
  cases hr : (linked.referent sectionName node name).result with
  | error e => rfl
  | ok referent =>
    cases referent with
    | text value => rfl
    | key w =>
      simp only [Referent.follow, h w ⟨name, hname, .key w, hr, rfl⟩]
    | nodeKey w =>
      simp only [Referent.follow, h w ⟨name, hname, .nodeKey w, hr, rfl⟩]

end LinkedStore

/-- The expansion of a key: the trail that leads to it, and the key with its text. -/
structure Descent where
  trail : Trail
  visit : Visit

namespace Descent

variable {node : Text} {d outer inner : Descent}

/-! ## One step down -/

/-- **One descent asks for another**: its key is not on the trail and there is room for
it, and once it is there, a key that it refers to is expanded. -/
structure Asks (node : Text) (outer inner : Descent) : Prop where
  absent : outer.visit.entry ∉ outer.trail
  room : outer.trail.length < maxReferenceDepth
  trail : inner.trail = outer.trail ++ [outer.visit.entry]
  refers : outer.visit.Refers node inner.visit

/-- **Every step down enters one more key.** -/
theorem Asks.length (h : outer.Asks node inner) :
    inner.trail.length = outer.trail.length + 1 := by
  rw [h.trail, List.length_append, List.length_singleton]

/-- The trail of a descent: no key is on it twice, and it is not longer than there is
room. -/
structure IsSound (d : Descent) : Prop where
  nodup : d.trail.Nodup
  length : d.trail.length ≤ maxReferenceDepth

theorem isSound_first (visit : Visit) : IsSound ⟨[], visit⟩ :=
  ⟨List.nodup_nil, Nat.zero_le _⟩

theorem IsSound.asks (h : outer.IsSound) (hasks : outer.Asks node inner) : inner.IsSound := by
  refine ⟨?_, ?_⟩
  · rw [hasks.trail]
    exact Lists.nodup_concat h.nodup hasks.absent
  · rw [hasks.length]
    exact hasks.room

/-- **The trail is sound however deep a descent is.** -/
theorem IsSound.reflTransGen (h : outer.IsSound)
    (hsteps : Relation.ReflTransGen (Asks node) outer inner) : inner.IsSound := by
  induction hsteps with
  | refl => exact h
  | tail _ hasks ih => exact ih.asks hasks

/-- The room that a descent has left on the trail. -/
def room (d : Descent) : Nat := maxReferenceDepth - d.trail.length

theorem Asks.room_lt (h : outer.Asks node inner) : inner.room < outer.room := by
  have hlength := h.length
  have hroom := h.room
  unfold Descent.room
  omega

/-- **There is no endless descent.** -/
theorem wellFounded_asks (node : Text) :
    WellFounded fun inner outer : Descent => outer.Asks node inner :=
  Subrelation.wf (fun h => h.room_lt) (measure room).wf

/-! ## Ending -/

/-- **A descent ends with an outcome**: it stops at a key that is on the trail or has no
room, or it asks for other descents, all of which end, and puts their outcomes into the
text of its key. -/
inductive Ends (node : Text) : Descent → Outcome Text → Prop
  | cycle {d : Descent} (h : d.visit.entry ∈ d.trail) :
      Ends node d (.error (cycleError d.trail d.visit.entry))
  | full {d : Descent} (absent : d.visit.entry ∉ d.trail)
      (h : maxReferenceDepth ≤ d.trail.length) :
      Ends node d (.error (depthError d.visit.entry))
  | expanded {d : Descent} (absent : d.visit.entry ∉ d.trail)
      (hroom : d.trail.length < maxReferenceDepth) (enter : Visit → Outcome Text)
      (h : ∀ inner : Descent, d.Asks node inner → Ends node inner (enter inner.visit)) :
      Ends node d (LinkedStore.expandWith
        (LinkedStore.dereference enter d.visit.linked d.visit.key.sectionOrDefault node)
        d.visit.raw)

/-- What a descent comes to. -/
def outcome (node : Text) (d : Descent) : Outcome Text :=
  LinkedStore.enterAt node d.room d.trail d.visit

theorem outcome_of_mem (h : d.visit.entry ∈ d.trail) :
    d.outcome node = .error (cycleError d.trail d.visit.entry) := by
  unfold outcome LinkedStore.enterAt
  rw [if_pos h]

theorem outcome_of_full (absent : d.visit.entry ∉ d.trail)
    (h : maxReferenceDepth ≤ d.trail.length) :
    d.outcome node = .error (depthError d.visit.entry) := by
  have hroom : d.room = 0 := Nat.sub_eq_zero_of_le h
  unfold outcome LinkedStore.enterAt
  rw [if_neg absent, hroom]

/-- With room on the trail, the key is put there and its text expanded. -/
theorem outcome_of_room (absent : d.visit.entry ∉ d.trail)
    (hroom : d.trail.length < maxReferenceDepth) :
    d.outcome node = LinkedStore.expandWith
      (LinkedStore.dereference (fun w => outcome node ⟨d.trail ++ [d.visit.entry], w⟩)
        d.visit.linked d.visit.key.sectionOrDefault node) d.visit.raw := by
  have hleft : d.room = room ⟨d.trail ++ [d.visit.entry], d.visit⟩ + 1 := by
    unfold room
    rw [List.length_append, List.length_singleton]
    omega
  unfold outcome
  rw [hleft, LinkedStore.enterAt.eq_def]
  exact if_neg absent

/-- A descent that ends ends with what is computed. -/
theorem Ends.eq_outcome {o : Outcome Text} (h : d.Ends node o) : o = d.outcome node := by
  induction h with
  | cycle h => exact (outcome_of_mem h).symm
  | full absent h => exact (outcome_of_full absent h).symm
  | expanded absent hroom enter h ih =>
    rw [outcome_of_room absent hroom]
    refine LinkedStore.expandWith_dereference_congr fun w hw => ?_
    exact ih ⟨_, w⟩ ⟨absent, hroom, rfl, hw⟩

/-- **Every descent ends**, from any trail and for any stores. -/
theorem ends_outcome (node : Text) (d : Descent) : d.Ends node (d.outcome node) := by
  induction d using (wellFounded_asks node).induction with
  | _ d ih =>
    by_cases hmem : d.visit.entry ∈ d.trail
    · rw [outcome_of_mem hmem]
      exact .cycle hmem
    by_cases hroom : d.trail.length < maxReferenceDepth
    · rw [outcome_of_room hmem hroom]
      refine .expanded hmem hroom _ fun inner hasks => ?_
      have hinner : inner = ⟨d.trail ++ [d.visit.entry], inner.visit⟩ := by
        rw [← hasks.trail]
      rw [← hinner]
      exact ih inner hasks
    · rw [outcome_of_full hmem (Nat.le_of_not_lt hroom)]
      exact .full hmem (Nat.le_of_not_lt hroom)

theorem ends_iff {o : Outcome Text} : d.Ends node o ↔ o = d.outcome node := by
  constructor
  · exact Ends.eq_outcome
  · rintro rfl
    exact ends_outcome node d

end Descent

namespace LinkedStore

/-- **The expansion of a text ends with an outcome**: all descents end that the text
starts, each from an empty trail, and their outcomes put into the text make the
outcome. -/
def TextEnds (linked : LinkedStore) (sectionName node raw : Text) (outcome : Outcome Text) :
    Prop :=
  ∃ enter : Visit → Outcome Text,
    (∀ w, linked.TextRefers sectionName node raw w → Descent.Ends node ⟨[], w⟩ (enter w)) ∧
      outcome = expandWith (dereference enter linked sectionName node) raw

variable {linked : LinkedStore} {sectionName node raw : Text}

theorem textEnds_iff {outcome : Outcome Text} :
    linked.TextEnds sectionName node raw outcome ↔ outcome = linked.expand raw sectionName node := by
  constructor
  · rintro ⟨enter, hends, rfl⟩
    exact expandWith_dereference_congr fun w hw => (hends w hw).eq_outcome
  · rintro rfl
    exact ⟨enterFirst node, fun w _ => Descent.ends_outcome node ⟨[], w⟩, rfl⟩

/-- The text of a key under a keyword is what the descent to the key comes to. -/
theorem evaluateText_of_visitUnder {key : Key} {keyword : Keyword} {visit : Visit}
    (h : linked.visitUnder key keyword node = .ok visit) :
    linked.evaluateText key keyword node = Descent.outcome node ⟨[], visit⟩ := by
  unfold evaluateText
  rw [h]
  rfl

/-- **Expansion always ends.**  Whatever the stores hold, the expansion of a text and
that of the text of a key end, and with one outcome only, which is the one computed.
For on the trail of every descent that they come to, no key is twice and there are not
more than 32, and every step further down enters one more, so that there is no endless
descent. -/
theorem expansion_ends (linked : LinkedStore) (node : Text) :
    (∀ raw sectionName outcome,
      linked.TextEnds sectionName node raw outcome ↔
        outcome = linked.expand raw sectionName node) ∧
    (∀ key keyword visit, linked.visitUnder key keyword node = .ok visit → ∀ outcome,
      Descent.Ends node ⟨[], visit⟩ outcome ↔
        outcome = linked.evaluateText key keyword node) ∧
    (∀ first inner, Relation.ReflTransGen (Descent.Asks node) ⟨[], first⟩ inner →
      inner.trail.Nodup ∧ inner.trail.length ≤ maxReferenceDepth ∧
        ∀ further, inner.Asks node further →
          further.trail = inner.trail ++ [inner.visit.entry] ∧
            inner.visit.entry ∉ inner.trail) ∧
    WellFounded (fun inner outer => Descent.Asks node outer inner) := by
  refine ⟨fun raw sectionName outcome => textEnds_iff, fun key keyword visit h outcome => ?_,
    fun first inner hsteps => ?_, Descent.wellFounded_asks node⟩
  · rw [evaluateText_of_visitUnder h]
    exact Descent.ends_iff
  · have hsound := (Descent.isSound_first first).reflTransGen hsteps
    exact ⟨hsound.nodup, hsound.length, fun further hasks => ⟨hasks.trail, hasks.absent⟩⟩

/-- A keyword whose default refers to its own key, as a key of the node. -/
def mirroredKeyword : Keyword := { Keyword.plain "node" "env" with default := "{node.env}" }

/-- A store of a node, with no other store to refer to, in which a default refers to
itself. -/
def mirrored : LinkedStore where
  store :=
    { path := "/etc/node.conf"
      data := .ofLists [("node", [])]
      owner := ⟨.node, ⟨[mirroredKeyword]⟩, [], [], [], [], false⟩
      agent := .default }
  node? := none

/-- The key whose default refers to itself. -/
def mirroredVisit : Visit := ⟨mirrored, ⟨"node", "env"⟩, "{node.env}"⟩

theorem expansion_ends_mirrored :
    mirrored.visitUnder ⟨"node", "env"⟩ mirroredKeyword [] = .ok mirroredVisit ∧
      Descent.Ends [] ⟨[], mirroredVisit⟩
        (mirrored.evaluateText ⟨"node", "env"⟩ mirroredKeyword []) ∧
      (mirrored.evaluateText ⟨"node", "env"⟩ mirroredKeyword []).result =
        .error (.cycle [⟨"node", "env"⟩, ⟨"node", "env"⟩]) ∧
      Relation.ReflTransGen (Descent.Asks []) ⟨[], mirroredVisit⟩
        ⟨[mirroredVisit.entry], mirroredVisit⟩ ∧
      [mirroredVisit.entry].Nodup ∧ [mirroredVisit.entry].length ≤ maxReferenceDepth := by
  have hvisit : mirrored.visitUnder ⟨"node", "env"⟩ mirroredKeyword [] = .ok mirroredVisit := rfl
  have hasks : Descent.Asks [] ⟨[], mirroredVisit⟩ ⟨[mirroredVisit.entry], mirroredVisit⟩ :=
    ⟨List.not_mem_nil, by decide, rfl, "node.env", by decide +kernel, .key mirroredVisit, rfl, rfl⟩
  obtain ⟨-, hkey, htrail, -⟩ := expansion_ends mirrored []
  obtain ⟨hnodup, hlength, -⟩ := htrail _ _ (.single hasks)
  exact ⟨hvisit, (hkey _ _ _ hvisit _).mpr rfl, by decide +kernel, .single hasks, hnodup, hlength⟩

end LinkedStore
end ScopedConfig

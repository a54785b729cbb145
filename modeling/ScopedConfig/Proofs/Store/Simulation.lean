import Mathlib.Data.List.Basic
import ScopedConfig.Proofs.Store.Resolution
import ScopedConfig.Store.Evaluation

/-! # Evaluations that go the same way

Two evaluations may be of stores that differ and still go the same way.  That is said
by a relation between the keys under expansion: related keys take the same place on
the trail and have the same text, and each name of that text stands for the same text
or for related keys again (`IsSimulation`).  Related keys then come to the same
outcome, whatever the trail (`enterAt_eq`).

The plainest such relation is between the same keys of two stores that answer every
look-up of an evaluation alike (`Store.AnswersAlike`); no evaluation tells such stores
apart (`LinkedStore.AnswersAlike.expand_eq` and what follows it).
-/
namespace ScopedConfig

/-! ## Related outcomes -/

namespace Outcome

variable {α β γ δ : Type} {related : α → β → Prop}

/-- Two results are alike: they are related values, or the same error. -/
inductive AlikeResults (related : α → β → Prop) :
    Except EvalError α → Except EvalError β → Prop
  | ok {a : α} {b : β} (h : related a b) : AlikeResults related (.ok a) (.ok b)
  | error (e : EvalError) : AlikeResults related (.error e) (.error e)

/-- Two outcomes are alike: the same symbols were asked for, and the results are
alike. -/
structure Alike (related : α → β → Prop) (x : Outcome α) (y : Outcome β) : Prop where
  asked : x.asked = y.asked
  result : AlikeResults related x.result y.result

theorem AlikeResults.map {related' : γ → δ → Prop} {x : Except EvalError α}
    {y : Except EvalError β} {f : α → γ} {g : β → δ} (h : AlikeResults related x y)
    (hfg : ∀ a b, related a b → related' (f a) (g b)) :
    AlikeResults related' (x.map f) (y.map g) := by
  cases h with
  | ok hab => exact .ok (hfg _ _ hab)
  | error e => exact .error e

/-- Values made of one result are alike if they are related wherever it is a value. -/
theorem AlikeResults.of_map {related : β → γ → Prop} {x : Except EvalError α} {f : α → β}
    {g : α → γ} (h : ∀ value, x = .ok value → related (f value) (g value)) :
    AlikeResults related (x.map f) (x.map g) := by
  cases x with
  | ok value => exact .ok (h value rfl)
  | error e => exact .error e

/-- What is related otherwise wherever the first result is a value is alike otherwise. -/
theorem AlikeResults.imp {related' : α → β → Prop} {x : Except EvalError α}
    {y : Except EvalError β} (h : AlikeResults related x y)
    (himp : ∀ a b, x = .ok a → related a b → related' a b) : AlikeResults related' x y := by
  cases h with
  | ok hab => exact .ok (himp _ _ rfl hab)
  | error e => exact .error e

/-- What follows from alike outcomes is the same if it is for related values. -/
theorem Alike.andThen_eq {x : Outcome α} {y : Outcome β} {f : α → Outcome γ}
    {g : β → Outcome γ} (h : Alike related x y) (hfg : ∀ a b, related a b → f a = g b) :
    x.andThen f = y.andThen g := by
  obtain ⟨asked, result⟩ := x
  obtain ⟨asked', result'⟩ := y
  obtain ⟨rfl, hresult⟩ := h
  cases hresult with
  | ok hab => simp only [andThen, hfg _ _ hab]
  | error e => rfl

end Outcome

/-- Two names stand for alike things: for the same text, or for related keys. -/
inductive Referent.Alike (related : Visit → Visit → Prop) : Referent → Referent → Prop
  | text (value : Text) : Referent.Alike related (.text value) (.text value)
  | key {v w : Visit} (h : related v w) : Referent.Alike related (.key v) (.key w)
  | nodeKey {v w : Visit} (h : related v w) : Referent.Alike related (.nodeKey v) (.nodeKey w)

theorem Referent.Alike.imp {related related' : Visit → Visit → Prop} {r s : Referent}
    (h : Referent.Alike related r s)
    (himp : ∀ v w, r.visit? = some v → related v w → related' v w) :
    Referent.Alike related' r s := by
  cases h with
  | text value => exact .text value
  | key hvw => exact .key (himp _ _ rfl hvw)
  | nodeKey hvw => exact .nodeKey (himp _ _ rfl hvw)

theorem Referent.Alike.follow_eq {related : Visit → Visit → Prop} {r s : Referent}
    {enter other : Visit → Outcome Text} (h : Referent.Alike related r s)
    (henter : ∀ v w, related v w → enter v = other w) : r.follow enter = s.follow other := by
  cases h with
  | text value => rfl
  | key hvw => exact henter _ _ hvw
  | nodeKey hvw => exact congrArg Outcome.elsewhere (henter _ _ hvw)

namespace LinkedStore

variable {a b : LinkedStore} {node : Text} {related : Visit → Visit → Prop}

/-! ## Related keys -/

/-- An expansion only depends on what the names of the text come to. -/
theorem expandWith_congr {resolve other : Text → Outcome Text} {raw : Text}
    (h : ∀ name ∈ Reference.names raw, resolve name = other name) :
    expandWith resolve raw = expandWith other raw := by
  have hfold : (Reference.names raw).foldl (Resolution.step resolve) .empty =
      (Reference.names raw).foldl (Resolution.step other) .empty := by
    refine List.foldl_ext _ _ _ fun r name hname => ?_
    rw [Resolution.step, Resolution.step, h name hname]
  rw [expandWith, expandWith, hfold]

theorem dereference_eq {enter other : Visit → Outcome Text} {sectionName sectionName' name : Text}
    (h : (a.referent sectionName node name).Alike (Referent.Alike related)
      (b.referent sectionName' node name))
    (henter : ∀ v w, related v w → enter v = other w) :
    dereference enter a sectionName node name = dereference other b sectionName' node name :=
  h.andThen_eq fun _ _ hrs => hrs.follow_eq henter

/-- **A relation along which expansions go the same way**: related keys have one place
on the trail and one text, and the names of the text stand for alike things. -/
structure IsSimulation (node : Text) (related : Visit → Visit → Prop) : Prop where
  entry : ∀ {v w}, related v w → v.entry = w.entry
  raw : ∀ {v w}, related v w → v.raw = w.raw
  referent : ∀ {v w}, related v w → ∀ name ∈ Reference.names v.raw,
    (v.linked.referent v.key.sectionOrDefault node name).Alike (Referent.Alike related)
      (w.linked.referent w.key.sectionOrDefault node name)

/-- **Related keys come to the same outcome**, whatever leads to them. -/
theorem enterAt_eq (hsim : IsSimulation node related) {v w : Visit} (h : related v w)
    (room : Nat) (trail : Trail) : enterAt node room trail v = enterAt node room trail w := by
  -- every key entered leaves one place less on the trail, and leads to related keys again
  induction room generalizing trail v w with
  | zero =>
    unfold enterAt
    rw [hsim.entry h]
  | succ left ih =>
    unfold enterAt
    rw [hsim.entry h, hsim.raw h]
    split
    · rfl
    · refine expandWith_congr fun name hname => ?_
      exact dereference_eq (hsim.referent h name (hsim.raw h ▸ hname)) fun _ _ hvw => ih hvw _

theorem expand_eq (hsim : IsSimulation node related) {raw sectionName : Text}
    (h : ∀ name ∈ Reference.names raw,
      (a.referent sectionName node name).Alike (Referent.Alike related)
        (b.referent sectionName node name)) :
    a.expand raw sectionName node = b.expand raw sectionName node :=
  expandWith_congr fun name hname =>
    dereference_eq (h name hname) fun _ _ hvw => enterAt_eq hsim hvw _ _

theorem evaluateText_eq (hsim : IsSimulation node related) {key : Key} {keyword : Keyword}
    (h : Outcome.AlikeResults related (a.visitUnder key keyword node)
      (b.visitUnder key keyword node)) :
    a.evaluateText key keyword node = b.evaluateText key keyword node :=
  Outcome.Alike.andThen_eq ⟨rfl, h⟩ fun _ _ hvw => enterAt_eq hsim hvw _ _

/-! ## Whole configurations -/

/-- The options of a section come to the same if their texts do. -/
theorem evaluatedOptions_congr {sectionName : Text} {options : List Text}
    (htext : ∀ option ∈ options,
      a.evaluatedText (Key.withoutScope ⟨sectionName, option⟩) node =
        b.evaluatedText (Key.withoutScope ⟨sectionName, option⟩) node) (done : Options) :
    a.evaluatedOptions sectionName node done options =
      b.evaluatedOptions sectionName node done options := by
  induction options generalizing done with
  | nil => rfl
  | cons option rest ih =>
    simp only [evaluatedOptions, htext option List.mem_cons_self,
      ih fun other hother => htext other (List.mem_cons_of_mem _ hother)]

/-- Sections come to the same if they have the same names and options, and these the
same texts. -/
theorem evaluatedSections_congr_of {sections others : List (Text × Options)}
    (htext : ∀ entry ∈ sections, entry.1 ≠ metadataSection → ∀ option ∈ entry.2.keys,
      a.evaluatedText (Key.withoutScope ⟨entry.1, option⟩) node =
        b.evaluatedText (Key.withoutScope ⟨entry.1, option⟩) node)
    (h : sections.map (fun entry => (entry.1, entry.2.keys)) =
      others.map fun entry => (entry.1, entry.2.keys)) (done : Dict Text Options) :
    a.evaluatedSections node done sections = b.evaluatedSections node done others := by
  induction sections generalizing others done with
  | nil =>
    obtain rfl : others = [] := List.map_eq_nil_iff.mp h.symm
    rfl
  | cons entry rest ih =>
    obtain ⟨name, options⟩ := entry
    cases others with
    | nil => cases h
    | cons entry' rest' =>
      obtain ⟨name', options'⟩ := entry'
      rw [List.map_cons, List.map_cons, List.cons.injEq, Prod.mk.injEq] at h
      obtain ⟨⟨rfl, hkeys⟩, hrest⟩ := h
      dsimp only at hkeys
      have hothers := fun done =>
        ih (fun entry hentry => htext entry (List.mem_cons_of_mem _ hentry)) hrest done
      simp only [evaluatedSections, ← hkeys, hothers]
      split
      · rfl
      · next hname => rw [evaluatedOptions_congr (htext _ List.mem_cons_self hname)]

theorem evaluatedSections_congr
    (htext : ∀ key, a.evaluatedText key node = b.evaluatedText key node)
    {sections others : List (Text × Options)}
    (h : sections.map (fun entry => (entry.1, entry.2.keys)) =
      others.map fun entry => (entry.1, entry.2.keys)) (done : Dict Text Options) :
    a.evaluatedSections node done sections = b.evaluatedSections node done others :=
  evaluatedSections_congr_of (fun _ _ _ _ _ => htext _) h done

end LinkedStore

/-! ## Stores that answer alike -/

/-- **Two stores that hold the same keys under the same keywords.** -/
structure Store.HoldsSameKeys (a b : Store) : Prop where
  location : FilePath.location a.path = FilePath.location b.path
  owner : a.owner = b.owner
  agent : a.agent = b.agent
  hasSection : ∀ name, a.data.hasSection name = b.data.hasSection name
  isSetInAnyScope : ∀ key, a.isSetInAnyScope key = b.isSetInAnyScope key
  keyword? : ∀ key, a.keyword? key = b.keyword? key

/-- Two stores that besides answer for some of the keys alike. -/
structure Store.AnswersAlikeOn (keys : Key → Prop) (node : Text) (a b : Store) : Prop
    extends a.HoldsSameKeys b where
  storedText : ∀ key, keys key → a.storedText key node = b.storedText key node

/-- **Two stores that answer every look-up of an evaluation for a node alike.** -/
structure Store.AnswersAlike (node : Text) (a b : Store) : Prop extends a.HoldsSameKeys b where
  descope : ∀ key, a.descope key node = b.descope key node
  scopedText : ∀ key keyword, a.scopedText key keyword node = b.scopedText key keyword node

theorem Store.storedText_eq_scopedText {store : Store} {key : Key} {keyword : Keyword} {node : Text}
    (h : store.keyword? key = some keyword) :
    store.storedText key node = store.scopedText key keyword node := by
  rw [storedText, h]

namespace Store.HoldsSameKeys

variable {a b : Store}

theorem wellKnown? (h : a.HoldsSameKeys b) (sectionName node name : Text) :
    a.wellKnown? sectionName node name = b.wellKnown? sectionName node name := by
  simp only [Store.wellKnown?, Store.wellKnown, Store.viewer, h.agent]

theorem trailEntry (h : a.HoldsSameKeys b) (key : Key) : a.trailEntry key = b.trailEntry key := by
  simp only [Store.trailEntry, h.location]

end Store.HoldsSameKeys

/-- What the keyword of one of the keys makes of it is the same. -/
theorem Store.AnswersAlikeOn.scopedText {keys : Key → Prop} {a b : Store} {node : Text}
    (h : a.AnswersAlikeOn keys node b) {key : Key} {keyword : Keyword} (hkey : keys key)
    (hkeyword : a.keyword? key = some keyword) :
    a.scopedText key keyword node = b.scopedText key keyword node := by
  rw [← storedText_eq_scopedText hkeyword, ← storedText_eq_scopedText (h.keyword? key ▸ hkeyword)]
  exact h.storedText key hkey

namespace Store.AnswersAlike

variable {a b : Store} {node : Text}

theorem refl (node : Text) (a : Store) : a.AnswersAlike node a :=
  ⟨⟨rfl, rfl, rfl, fun _ => rfl, fun _ => rfl, fun _ => rfl⟩, fun _ => rfl, fun _ _ => rfl⟩

theorem storedText (h : a.AnswersAlike node b) (key : Key) :
    a.storedText key node = b.storedText key node := by
  simp only [Store.storedText, h.keyword?, h.scopedText, h.descope]

/-- Alike on all keys. -/
theorem on (h : a.AnswersAlike node b) : a.AnswersAlikeOn (fun _ => True) node b :=
  ⟨h.toHoldsSameKeys, fun key _ => h.storedText key⟩

end Store.AnswersAlike

namespace LinkedStore

variable {keys : Key → Prop} {a b : LinkedStore} {node : Text} {related : Visit → Visit → Prop}

theorem visitUnder_alike (hstore : a.store.AnswersAlike node b.store)
    (hvisit : ∀ key raw, related ⟨a, key, raw⟩ ⟨b, key, raw⟩) (key : Key) (keyword : Keyword) :
    Outcome.AlikeResults related (a.visitUnder key keyword node) (b.visitUnder key keyword node) := by
  rw [visitUnder, visitUnder, hstore.scopedText]
  exact .of_map fun raw _ => hvisit key raw

section On

variable (hstore : a.store.AnswersAlikeOn keys node b.store)
  (hvisit : ∀ key raw, related ⟨a, key, raw⟩ ⟨b, key, raw⟩)
include hstore hvisit

theorem visitUnder_alikeOn {key : Key} {keyword : Keyword} (hkey : keys key)
    (hkeyword : a.store.keyword? key = some keyword) :
    Outcome.AlikeResults related (a.visitUnder key keyword node) (b.visitUnder key keyword node) := by
  rw [visitUnder, visitUnder, hstore.scopedText hkey hkeyword]
  exact .of_map fun raw _ => hvisit key raw

theorem governedVisit_alikeOn {key : Key}
    (hkey : ∀ keyword, a.store.keyword? key = some keyword → keys key) :
    Outcome.AlikeResults related (a.governedVisit key node) (b.governedVisit key node) := by
  rw [governedVisit, governedVisit, ← hstore.keyword?]
  split
  · next keyword hkeyword =>
    exact visitUnder_alikeOn hstore hvisit (hkey keyword hkeyword) hkeyword
  · exact .error _

theorem unsetVisit_alikeOn (name : Text) {key : Key} (hkey : keys key) :
    Outcome.AlikeResults related (a.unsetVisit node name key) (b.unsetVisit node name key) := by
  rw [unsetVisit, unsetVisit, hstore.hasSection, ← hstore.keyword?]
  split
  · split
    · next keyword hkeyword => exact visitUnder_alikeOn hstore hvisit hkey hkeyword
    · exact .error _
  · split <;> exact .error _

theorem keyReferent_alikeOn {sectionName name : Text}
    (hkey : ∀ named, Key.read name = .ok named →
      keys (if named.isRelative then named.inSection sectionName else named)) :
    (a.keyReferent sectionName node name).Alike (Referent.Alike related)
      (b.keyReferent sectionName node name) := by
  unfold keyReferent
  split
  · exact ⟨rfl, .error _⟩
  · next named hnamed =>
    have hkeys := hkey named hnamed
    dsimp only
    generalize (if named.isRelative then named.inSection sectionName else named) = key at hkeys
    rw [hstore.isSetInAnyScope, hstore.storedText key hkeys, hstore.owner, hstore.agent]
    split
    · exact ⟨rfl, .of_map fun raw _ => .key (hvisit key raw)⟩
    · split
      · exact ⟨rfl, .ok (.text _)⟩
      · exact ⟨rfl, (unsetVisit_alikeOn hstore hvisit name hkeys).map fun _ _ => .key⟩

end On

theorem governedVisit_alike (hstore : a.store.AnswersAlike node b.store)
    (hvisit : ∀ key raw, related ⟨a, key, raw⟩ ⟨b, key, raw⟩) (key : Key) :
    Outcome.AlikeResults related (a.governedVisit key node) (b.governedVisit key node) :=
  governedVisit_alikeOn hstore.on hvisit fun _ _ => trivial

/-- A reference to the node stands for alike things if the key that follows the mark,
in one of the sections that it may name, does on the side of the node. -/
theorem nodeReferent_alike_of {name rest : Text} (hlinked : a.node?.isSome = b.node?.isSome)
    (hside : ∀ key, Key.read (if Text.contains '.' rest then rest else nodeMark ++ rest) = .ok key →
      key.sectionName ∈ nodeSections → Outcome.AlikeResults related
        (a.nodeSide.governedVisit key node) (b.nodeSide.governedVisit key node)) :
    Outcome.AlikeResults (Referent.Alike related) (a.nodeReferent node name rest)
      (b.nodeReferent node name rest) := by
  unfold nodeReferent
  split
  · exact .error _
  · next key hread =>
    split
    · next hkey =>
      refine (hside key hread (List.contains_iff_mem.mp hkey)).map fun _ _ hvw => ?_
      rw [hlinked]
      split
      · exact .nodeKey hvw
      · exact .key hvw
    · exact .error _

theorem referent_of_mark {linked : LinkedStore} {sectionName name rest : Text}
    (h : Text.after? nodeMark name = some rest) :
    linked.referent sectionName node name = .ofResult (linked.nodeReferent node name rest) := by
  rw [referent, h]

theorem referent_of_key {linked : LinkedStore} {sectionName name : Text}
    (hmark : Text.after? nodeMark name = none)
    (hknown : linked.store.wellKnown? sectionName node name = none) :
    linked.referent sectionName node name = linked.keyReferent sectionName node name := by
  rw [referent, hmark, hknown]

/-- A name stands for alike things if it does as a reference to the node and as a key
of the store. -/
theorem referent_alike_of (hstore : a.store.HoldsSameKeys b.store)
    {sectionName name : Text}
    (hnode : ∀ rest, Text.after? nodeMark name = some rest →
      Outcome.AlikeResults (Referent.Alike related) (a.nodeReferent node name rest)
        (b.nodeReferent node name rest))
    (hkey : Text.after? nodeMark name = none →
      a.store.wellKnown? sectionName node name = none →
      (a.keyReferent sectionName node name).Alike (Referent.Alike related)
        (b.keyReferent sectionName node name)) :
    (a.referent sectionName node name).Alike (Referent.Alike related)
      (b.referent sectionName node name) := by
  cases hmark : Text.after? nodeMark name with
  | some rest =>
    rw [referent_of_mark hmark, referent_of_mark hmark]
    exact ⟨rfl, hnode rest hmark⟩
  | none =>
    cases hknown : a.store.wellKnown? sectionName node name with
    | some value =>
      rw [referent, referent, hmark, hknown, ← hstore.wellKnown?, hknown]
      exact ⟨rfl, .ok (.text _)⟩
    | none =>
      rw [referent_of_key hmark hknown, referent_of_key hmark (hstore.wellKnown? .. ▸ hknown)]
      exact hkey hmark hknown

/-- **Names stand for alike things** in stores that answer alike, if references to
the node do. -/
theorem referent_alike (hstore : a.store.AnswersAlike node b.store)
    (hvisit : ∀ key raw, related ⟨a, key, raw⟩ ⟨b, key, raw⟩)
    (hlinked : a.node?.isSome = b.node?.isSome)
    (hside : ∀ key, key.sectionName ∈ nodeSections → Outcome.AlikeResults related
      (a.nodeSide.governedVisit key node) (b.nodeSide.governedVisit key node))
    (sectionName name : Text) :
    (a.referent sectionName node name).Alike (Referent.Alike related)
      (b.referent sectionName node name) :=
  referent_alike_of hstore.toHoldsSameKeys
    (fun _ _ => nodeReferent_alike_of hlinked fun key _ => hside key)
    (fun _ _ => keyReferent_alikeOn hstore.on hvisit fun _ _ => trivial)

/-- A key evaluates to the same if its text under its own keyword does. -/
theorem evaluate_congr_of {key : Key} (hkeyword : a.store.keyword? key = b.store.keyword? key)
    (htext : ∀ keyword, a.store.keyword? key = some keyword →
      a.evaluateText key keyword node = b.evaluateText key keyword node) :
    a.evaluate key node = b.evaluate key node := by
  unfold evaluate Store.keyword
  rw [← hkeyword]
  split
  · next keyword hgoverns =>
    show a.evaluateUnder key keyword node = b.evaluateUnder key keyword node
    rw [evaluateUnder, evaluateUnder, htext keyword hgoverns]
  · rfl

theorem evaluate_congr (hstore : a.store.AnswersAlike node b.store)
    (htext : ∀ key keyword, a.evaluateText key keyword node = b.evaluateText key keyword node)
    (key : Key) : a.evaluate key node = b.evaluate key node :=
  evaluate_congr_of (hstore.keyword? key) fun keyword _ => htext key keyword

/-- The text of a key in an evaluated configuration is the same if the text of the key
is, and the raw one too where that has to wait. -/
theorem evaluatedText_congr_of {key : Key}
    (hany : a.evaluateAny key node = b.evaluateAny key node)
    (hraw : ∀ e, (a.evaluateAny key node).result = .error e → e.isPostponed = true →
      a.store.descope key node = b.store.descope key node) :
    a.evaluatedText key node = b.evaluatedText key node := by
  unfold evaluatedText
  dsimp only
  rw [← hany]
  split
  · rfl
  · next e he =>
    split
    · rfl
    · split
      · next hpostponed => rw [hraw e he hpostponed]
      · rfl

/-- The text of a key in an evaluated configuration is the same if its text under a
keyword and its expansion are. -/
theorem evaluatedText_congr (hstore : a.store.AnswersAlike node b.store)
    (hexpand : ∀ raw sectionName, a.expand raw sectionName node = b.expand raw sectionName node)
    (htext : ∀ key keyword, a.evaluateText key keyword node = b.evaluateText key keyword node)
    (key : Key) : a.evaluatedText key node = b.evaluatedText key node := by
  refine evaluatedText_congr_of ?_ fun _ _ _ => hstore.descope key
  simp only [evaluateAny, hstore.keyword?, hstore.descope, htext, hexpand]

/-! ## Stores beside a store of the node -/

section Beside

variable {R : Store → Store → Prop}

theorem isSome_node?_of_rel (h : Option.Rel R a.node? b.node?) :
    a.node?.isSome = b.node?.isSome := by
  generalize a.node? = x, b.node? = y at h
  cases h <;> rfl

/-- Stores that are related together with the stores of the node beside them are on the
side of the node. -/
theorem nodeSide_of_rel (hstore : R a.store b.store) (hnode : Option.Rel R a.node? b.node?) :
    R a.nodeSide.store b.nodeSide.store ∧ Option.Rel R a.nodeSide.node? b.nodeSide.node? := by
  unfold nodeSide
  cases ha : a.node? <;> cases hb : b.node? <;> rw [ha, hb] at hnode
  · exact ⟨hstore, by rw [ha, hb]; exact .none⟩
  · cases hnode
  · cases hnode
  · cases hnode with
    | some hrel => exact ⟨hrel, .none⟩

end Beside

/-- Two stores answer alike together with the stores of the node beside them. -/
structure AnswersAlike (node : Text) (a b : LinkedStore) : Prop where
  store : a.store.AnswersAlike node b.store
  node? : Option.Rel (Store.AnswersAlike node) a.node? b.node?

namespace AnswersAlike

/-- Stores answer alike if they are related, and related stores do. -/
theorem of_rel {R : Store → Store → Prop} (hR : ∀ x y, R x y → x.AnswersAlike node y)
    (hstore : R a.store b.store) (hnode : Option.Rel R a.node? b.node?) : a.AnswersAlike node b where
  store := hR _ _ hstore
  node? := by
    generalize a.node? = x, b.node? = y at hnode ⊢
    cases hnode with
    | some hbeside => exact .some (hR _ _ hbeside)
    | none => exact .none

theorem isSome_node? (h : a.AnswersAlike node b) : a.node?.isSome = b.node?.isSome :=
  isSome_node?_of_rel h.node?

theorem nodeSide (h : a.AnswersAlike node b) : a.nodeSide.AnswersAlike node b.nodeSide := by
  obtain ⟨hstore, hnode⟩ := nodeSide_of_rel h.store h.node?
  exact ⟨hstore, hnode⟩

/-- The same key with the same text, seen from stores that answer alike. -/
def SameVisit (node : Text) (v w : Visit) : Prop :=
  v.linked.AnswersAlike node w.linked ∧ v.key = w.key ∧ v.raw = w.raw

theorem referent_sameVisit (h : a.AnswersAlike node b) (sectionName name : Text) :
    (a.referent sectionName node name).Alike (Referent.Alike (SameVisit node))
      (b.referent sectionName node name) :=
  referent_alike h.store (fun _ _ => ⟨h, rfl, rfl⟩) h.isSome_node?
    (fun key _ => governedVisit_alike h.nodeSide.store (fun _ _ => ⟨h.nodeSide, rfl, rfl⟩) key)
    sectionName name

theorem isSimulation_sameVisit (node : Text) : IsSimulation node (SameVisit node) where
  entry := by
    rintro ⟨a, key, raw⟩ ⟨b, _, _⟩ ⟨h, rfl, rfl⟩
    exact h.store.trailEntry key
  raw := fun h => h.2.2
  referent := by
    rintro ⟨a, key, raw⟩ ⟨b, _, _⟩ ⟨h, rfl, rfl⟩ name -
    exact h.referent_sameVisit _ name

/-- **Texts expand to the same** in stores that answer alike. -/
theorem expand_eq (h : a.AnswersAlike node b) (raw sectionName : Text) :
    a.expand raw sectionName node = b.expand raw sectionName node :=
  LinkedStore.expand_eq (isSimulation_sameVisit node) fun name _ =>
    h.referent_sameVisit sectionName name

theorem evaluateText_eq (h : a.AnswersAlike node b) (key : Key) (keyword : Keyword) :
    a.evaluateText key keyword node = b.evaluateText key keyword node :=
  LinkedStore.evaluateText_eq (isSimulation_sameVisit node)
    (visitUnder_alike h.store (fun _ _ => ⟨h, rfl, rfl⟩) key keyword)

theorem evaluate_eq (h : a.AnswersAlike node b) (key : Key) :
    a.evaluate key node = b.evaluate key node :=
  evaluate_congr h.store h.evaluateText_eq key

theorem evaluatedText_eq (h : a.AnswersAlike node b) (key : Key) :
    a.evaluatedText key node = b.evaluatedText key node :=
  evaluatedText_congr h.store h.expand_eq h.evaluateText_eq key

end AnswersAlike

end LinkedStore
end ScopedConfig

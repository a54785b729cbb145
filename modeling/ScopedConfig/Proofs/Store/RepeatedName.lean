import Mathlib.Data.List.Nodup
import ScopedConfig.Proofs.Store.AbsentResource

/-! # How often a name is looked up

While a text is expanded, the values that names have come to are kept, and a name with a
value is not looked up again.  A name without one is not kept, so it is looked up for
every token that has it (`lookups_eq_attempts`).  The owner of the store is asked what
these look-ups ask for, in their order (`asked_expandWith`).  So each name is looked up
once exactly if no name without a value is that of two tokens (`looksUpOnce_iff`).
-/
namespace ScopedConfig

/-! ## Attempts -/

/-- Takes one more name, unless it is settled and has been taken already. -/
def attempt (settled : Text → Bool) (taken : List Text) (name : Text) : List Text :=
  if settled name ∧ name ∈ taken then taken else taken ++ [name]

/-- **Names taken one after another**, the settled ones only once. -/
def attempts (settled : Text → Bool) (names : List Text) : List Text :=
  names.foldl (attempt settled) []

section Attempts

/-! One name more. -/

theorem mem_attempt_iff {settled : Text → Bool} {taken : List Text} {name other : Text} :
    other ∈ attempt settled taken name ↔ other ∈ taken ++ [name] := by
  unfold attempt
  split
  · next h =>
    rw [List.mem_append, List.mem_singleton, iff_self_or]
    rintro rfl
    exact h.2
  · rfl

theorem attempt_sublist (settled : Text → Bool) (taken : List Text) (name : Text) :
    (attempt settled taken name).Sublist (taken ++ [name]) := by
  unfold attempt
  split
  · exact List.sublist_append_left taken [name]
  · exact List.Sublist.refl _

theorem eraseDups_attempt (settled : Text → Bool) (taken : List Text) (name : Text) :
    (attempt settled taken name).eraseDups = (taken ++ [name]).eraseDups := by
  unfold attempt
  split
  · next h => exact (Lists.eraseDups_concat_of_mem h.2).symm
  · rfl

/-- The counts are those of all names, but for settled names that have been taken. -/
theorem count_attempt (settled : Text → Bool) (taken : List Text) (name other : Text) :
    (attempt settled taken name).count other =
      if settled other ∧ other ∈ taken then taken.count other
      else taken.count other + [name].count other := by
  unfold attempt
  by_cases heq : name = other
  · subst heq
    split
    · rfl
    · exact List.count_append
  · have hother : [name].count other = 0 := by simp [heq]
    rw [hother, Nat.add_zero, ite_self]
    split
    · rfl
    · rw [List.count_append, hother, Nat.add_zero]

/-! All names. -/

theorem attempts_concat (settled : Text → Bool) (names : List Text) (name : Text) :
    attempts settled (names ++ [name]) = attempt settled (attempts settled names) name :=
  List.foldl_concat ..

theorem mem_attempts_iff {settled : Text → Bool} {names : List Text} {name : Text} :
    name ∈ attempts settled names ↔ name ∈ names := by
  induction names using List.reverseRecOn with
  | nil => rfl
  | append_singleton names last ih =>
    rw [attempts_concat, mem_attempt_iff, List.mem_append, List.mem_append, ih]

theorem attempts_sublist (settled : Text → Bool) (names : List Text) :
    (attempts settled names).Sublist names := by
  induction names using List.reverseRecOn with
  | nil => exact List.Sublist.slnil
  | append_singleton names last ih =>
    rw [attempts_concat]
    exact (attempt_sublist ..).trans (ih.append_right [last])

/-- Every name is taken where it first appears. -/
theorem eraseDups_attempts (settled : Text → Bool) (names : List Text) :
    (attempts settled names).eraseDups = names.eraseDups := by
  induction names using List.reverseRecOn with
  | nil => rfl
  | append_singleton names last ih =>
    rw [attempts_concat, eraseDups_attempt]
    by_cases hmem : last ∈ names
    · rw [Lists.eraseDups_concat_of_mem (mem_attempts_iff.mpr hmem), ih,
        Lists.eraseDups_concat_of_mem hmem]
    · rw [Lists.eraseDups_concat_of_not_mem (mt mem_attempts_iff.mp hmem), ih,
        Lists.eraseDups_concat_of_not_mem hmem]

/-- A settled name is taken once, and one that is not settled wherever it is. -/
theorem count_attempts (settled : Text → Bool) (names : List Text) (name : Text) :
    (attempts settled names).count name =
      if settled name then min 1 (names.count name) else names.count name := by
  induction names using List.reverseRecOn with
  | nil => simp [attempts]
  | append_singleton names last ih =>
    have hmem : name ∈ attempts settled names ↔ 0 < names.count name :=
      mem_attempts_iff.trans List.count_pos_iff.symm
    have hone : [last].count name ≤ 1 := List.count_le_length
    rw [attempts_concat, count_attempt, List.count_append, ih]
    by_cases hs : settled name = true
    · simp only [hs, true_and, if_true, hmem]
      split <;> omega
    · simp only [hs, false_and, if_false, Bool.false_eq_true]

end Attempts

namespace LinkedStore

/-! ## Look-ups -/

/-- A name is settled if it has a value. -/
def settled (resolve : Text → Outcome Text) (name : Text) : Bool := (resolve name).error?.isNone

/-- **The look-ups of an expansion**: the names that it looks up, as a look-up that asks for
its name shows them. -/
def lookups (resolve : Text → Outcome Text) (raw : Text) : List Text :=
  (expandWith (fun name => ⟨[name], (resolve name).result⟩) raw).asked

section Lookups

variable {resolve : Text → Outcome Text} {raw : Text}

theorem settled_iff {name : Text} :
    settled resolve name = true ↔ ∃ value, (resolve name).result = .ok value := by
  rw [settled, Option.isNone_iff_eq_none, Outcome.error?_eq_none_iff]

/-- What names ask for is what the attempts ask for. -/
theorem asked_foldl_step (resolve : Text → Outcome Text) (names : List Text) :
    (names.foldl (Resolution.step resolve) .empty).asked =
      (attempts (settled resolve) names).flatMap fun name => (resolve name).asked := by
  induction names using List.reverseRecOn with
  | nil => rfl
  | append_singleton names last ih =>
    have hknown := ((Resolution.describes_empty resolve).foldl_step names).values last
    rw [List.nil_append] at hknown
    -- the values that are kept are those of the settled names that have been taken
    have hkept : ((names.foldl (Resolution.step resolve) .empty).values.lookup last).isSome = true ↔
        settled resolve last = true ∧ last ∈ attempts (settled resolve) names := by
      rw [hknown, mem_attempts_iff, settled_iff]
      by_cases hmem : last ∈ names
      · cases hr : (resolve last).result <;> simp [hmem, Except.toOption]
      · simp [hmem]
    rw [List.foldl_concat, attempts_concat, Resolution.step, attempt]
    split
    · next value hvalue =>
      rw [hvalue] at hkept
      rw [if_pos (hkept.mp rfl), ih]
    · next hnone =>
      rw [hnone] at hkept
      rw [if_neg (mt hkept.mpr Bool.false_ne_true), Resolution.asked_record, ih,
        List.flatMap_append, List.flatMap_singleton]

theorem asked_expandWith (resolve : Text → Outcome Text) (raw : Text) :
    (expandWith resolve raw).asked =
      (attempts (settled resolve) (Reference.names raw)).flatMap fun name =>
        (resolve name).asked := by
  rw [← asked_foldl_step]
  unfold expandWith
  dsimp only
  split <;> rfl

theorem lookups_eq_attempts (resolve : Text → Outcome Text) (raw : Text) :
    lookups resolve raw = attempts (settled resolve) (Reference.names raw) :=
  (asked_expandWith ..).trans (List.flatMap_singleton' _)

end Lookups

/-! ## Names of keys that have nothing -/

variable {linked : LinkedStore} {key : Key} {visit : Visit} {sectionName node name : Text}
  {room : Nat} {trail : Trail}

/-- **A name stands for a key that has nothing**: the key is not set, and no keyword has a
default for it. -/
def NamesBare (linked : LinkedStore) (sectionName node name : Text) : Prop :=
  ∃ key, linked.store.NamesUnset sectionName node name key ∧
    ∀ keyword, linked.store.keyword? key = some keyword → keyword.default = []

theorem asked_enterAt_of_empty (h : visit.raw = []) :
    (enterAt node room trail visit).asked = [] := by
  unfold enterAt
  split
  · rfl
  · cases room with
    | zero => rfl
    | succ left =>
      dsimp only
      rw [h]
      rfl

/-- What is read of a key that has nothing is the empty text. -/
theorem raw_of_unsetVisit (hunset : linked.store.isSetInAnyScope key = false)
    (hbare : ∀ keyword, linked.store.keyword? key = some keyword → keyword.default = [])
    (h : linked.unsetVisit node name key = .ok visit) : visit.raw = [] := by
  unfold unsetVisit at h
  split at h
  · split at h
    · next keyword hkeyword =>
      obtain ⟨raw, hraw, rfl⟩ := Outcome.map_eq_ok_iff.mp h
      exact (Store.scopedText_of_isUnset hunset hraw).trans (hbare keyword hkeyword)
    · cases h
  · split at h <;> cases h

/-- **For a key that has nothing, the owner is asked for the name and nothing else.** -/
theorem asked_dereference_of_namesBare (h : linked.NamesBare sectionName node name) :
    (dereference (enterAt node room trail) linked sectionName node name).asked = [name] := by
  obtain ⟨key, hkey, hbare⟩ := h
  unfold dereference Outcome.andThen
  rw [referent_of_namesUnset hkey]
  cases linked.store.owner.symbol? linked.store.agent name with
  | some value => rfl
  | none =>
    cases hvisit : linked.unsetVisit node name key with
    | error e => rfl
    | ok visit =>
      have hempty := raw_of_unsetVisit hkey.unset hbare hvisit
      exact congrArg (name :: ·) (asked_enterAt_of_empty hempty)

end LinkedStore

/-! ## Expansions -/

/-- **An expansion**: a text at its place, the node that it is for, and the room and the
trail that there are for the keys that it refers to. -/
structure Expansion extends Place where
  node : Text
  room : Nat
  trail : Trail

namespace Expansion

/-- What a name comes to. -/
def resolve (x : Expansion) (name : Text) : Outcome Text :=
  LinkedStore.dereference (LinkedStore.enterAt x.node x.room x.trail) x.linked x.sectionName
    x.node name

/-- What the text comes to. -/
def outcome (x : Expansion) : Outcome Text := LinkedStore.expandWith x.resolve x.raw

/-- The names of the text, one for each token. -/
def names (x : Expansion) : List Text := Reference.names x.raw

/-- The names that are looked up. -/
def lookups (x : Expansion) : List Text := LinkedStore.lookups x.resolve x.raw

/-- The expansion of a text that nothing leads to. -/
def ofText (linked : LinkedStore) (raw sectionName node : Text) : Expansion :=
  ⟨⟨linked, sectionName, raw⟩, node, maxReferenceDepth, []⟩

theorem outcome_ofText (linked : LinkedStore) (raw sectionName node : Text) :
    (ofText linked raw sectionName node).outcome = linked.expand raw sectionName node := rfl

/-- The expansion of the text of a key, with the trail that leads to the key. -/
def ofVisit (node : Text) (left : Nat) (trail : Trail) (visit : Visit) : Expansion :=
  ⟨Place.ofVisit visit, node, left, trail ++ [visit.entry]⟩

theorem outcome_ofVisit {node : Text} {left : Nat} {trail : Trail} {visit : Visit}
    (absent : visit.entry ∉ trail) :
    (ofVisit node left trail visit).outcome =
      LinkedStore.enterAt node (left + 1) trail visit := by
  rw [LinkedStore.enterAt.eq_def]
  exact (if_neg absent).symm

/-- **The course of the look-ups**: they follow the tokens, and every name is among them
where it first appears, one with a value only there and one without a value for each of
its tokens.  The owner is asked what the look-ups ask for, which for keys that have
nothing are the names. -/
structure LooksUp (x : Expansion) : Prop where
  order : x.lookups.Sublist x.names
  first : x.lookups.eraseDups = x.names.eraseDups
  settled : ∀ name value, (x.resolve name).result = .ok value →
    x.lookups.count name = min 1 (x.names.count name)
  failed : ∀ name e, (x.resolve name).result = .error e →
    x.lookups.count name = x.names.count name
  asked : x.outcome.asked = x.lookups.flatMap fun name => (x.resolve name).asked
  bare : (∀ name ∈ x.names, x.linked.NamesBare x.sectionName x.node name) →
    x.outcome.asked = x.lookups

/-- **Each name is looked up once**: none is looked up twice, and if all of them stand for
keys that have nothing, the owner is asked for each of them where it first appears. -/
structure LooksUpOnce (x : Expansion) : Prop where
  once : ∀ name, x.lookups.count name ≤ 1
  asked : (∀ name ∈ x.names, x.linked.NamesBare x.sectionName x.node name) →
    x.outcome.asked = x.names.eraseDups

variable {x : Expansion}

theorem asked_outcome (x : Expansion) :
    x.outcome.asked = x.lookups.flatMap fun name => (x.resolve name).asked := by
  rw [lookups, LinkedStore.lookups_eq_attempts]
  exact LinkedStore.asked_expandWith ..

theorem asked_outcome_of_namesBare
    (h : ∀ name ∈ x.names, x.linked.NamesBare x.sectionName x.node name) :
    x.outcome.asked = x.lookups := by
  have hself : ∀ name ∈ x.lookups, (x.resolve name).asked = [name] := by
    intro name hname
    rw [lookups, LinkedStore.lookups_eq_attempts] at hname
    exact LinkedStore.asked_dereference_of_namesBare (h name (mem_attempts_iff.mp hname))
  rw [asked_outcome, List.flatMap_congr hself]
  exact List.flatMap_singleton' _

theorem looksUp (x : Expansion) : x.LooksUp := by
  have hattempts : x.lookups = attempts (LinkedStore.settled x.resolve) x.names :=
    LinkedStore.lookups_eq_attempts ..
  refine ⟨?_, ?_, fun name value h => ?_, fun name e h => ?_, asked_outcome x,
    asked_outcome_of_namesBare⟩
  · rw [hattempts]
    exact attempts_sublist ..
  · rw [hattempts]
    exact eraseDups_attempts ..
  · rw [hattempts, count_attempts, if_pos (LinkedStore.settled_iff.mpr ⟨value, h⟩)]
  · rw [hattempts, count_attempts, if_neg]
    rw [LinkedStore.settled_iff, h]
    rintro ⟨value, hvalue⟩
    cases hvalue

/-- **A name without a value is looked up for each of its tokens, any other once.**  While
the text of a value is expanded, on its own or for a key at any depth, names that have come
to a value are not looked up again, and nothing is kept of the others.  So each name is
looked up once exactly if no name without a value is that of two tokens. -/
theorem looksUpOnce_iff (x : Expansion) :
    x.LooksUp ∧
      (x.LooksUpOnce ↔
        ∀ name e, (x.resolve name).result = .error e → x.names.count name ≤ 1) := by
  have hlooks := looksUp x
  refine ⟨hlooks, fun honce name e h => ?_, fun hcount => ?_⟩
  · rw [← hlooks.failed name e h]
    exact honce.once name
  · have honce : ∀ name, x.lookups.count name ≤ 1 := by
      intro name
      cases hr : (x.resolve name).result with
      | ok value =>
        rw [hlooks.settled name value hr]
        exact Nat.min_le_left ..
      | error e =>
        rw [hlooks.failed name e hr]
        exact hcount name e hr
    refine ⟨honce, fun hbare => ?_⟩
    rw [hlooks.bare hbare, ← hlooks.first]
    exact (Lists.eraseDups_of_nodup (List.nodup_iff_count_le_one.mpr honce)).symm

/-- **Where no name has a value, the look-ups multiply with the tokens**, and they do so
again at every key that is looked up. -/
theorem asked_of_all_failed
    (h : ∀ name ∈ x.names, ∃ e, (x.resolve name).result = .error e) :
    x.outcome.asked = x.names.flatMap fun name => (x.resolve name).asked := by
  have hlooks := looksUp x
  have hcount : ∀ name, x.lookups.count name = x.names.count name := by
    intro name
    by_cases hname : name ∈ x.names
    · obtain ⟨e, he⟩ := h name hname
      exact hlooks.failed name e he
    · rw [List.count_eq_zero.mpr hname, List.count_eq_zero.mpr (mt hlooks.order.mem hname)]
  have hlength := (List.perm_iff_count.mpr hcount).length_eq
  rw [hlooks.asked, hlooks.order.eq_of_length hlength]

/-- A store without keywords, whose owner has no symbols and notes what it is asked for. -/
def recorded (sections : List (Text × List (Text × Text))) : LinkedStore where
  store :=
    { path := "/etc/app.conf"
      data := .ofLists sections
      owner := ⟨.table .svc [] false, .empty, ["n1"], [], [], [], false⟩
      agent := .default }
  node? := none

example : (ofText (recorded [("app", [("a", "\x7bb\x7d $(b)"), ("b", "\x7bx\x7d $(x)")])])
    "\x7ba\x7d $(a)" "app" []).outcome.asked = List.replicate 8 "x".toList := by
  decide +kernel

/-- The expansion of a text in such a store without any keys. -/
def ofRecorded (raw : Text) : Expansion := ofText (recorded [("DEFAULT", [])]) raw "DEFAULT" []

theorem looksUpOnce_iff_recorded :
    (ofRecorded "\x7bx\x7d $(y)").LooksUp ∧ (ofRecorded "\x7bx\x7d $(y)").LooksUpOnce ∧
      (ofRecorded "\x7bx\x7d $(y)").outcome.asked = ["x", "y"] := by
  obtain ⟨hlooks, hiff⟩ := looksUpOnce_iff (ofRecorded "\x7bx\x7d $(y)")
  have hnodup : (ofRecorded "\x7bx\x7d $(y)").names.Nodup := by decide +kernel
  exact ⟨hlooks, hiff.mpr fun name _ _ => List.nodup_iff_count_le_one.mp hnodup name,
    by decide +kernel⟩

theorem namesBare_recorded : (recorded [("DEFAULT", [])]).NamesBare "DEFAULT" [] "x" := by
  have hunset : (recorded [("DEFAULT", [])]).store.NamesUnset "DEFAULT" [] "x" ⟨"DEFAULT", "x"⟩ :=
    ⟨by decide +kernel, by decide +kernel, ⟨⟨[], "x"⟩, by decide +kernel, by decide +kernel⟩,
      by decide +kernel⟩
  have hkeyword : (recorded [("DEFAULT", [])]).store.keyword? ⟨"DEFAULT", "x"⟩ = none := by
    decide +kernel
  refine ⟨_, hunset, fun keyword h => ?_⟩
  rw [hkeyword] at h
  cases h

/-- A name of two tokens, of a key that has nothing, is looked up twice. -/
theorem not_looksUpOnce_recorded :
    (∀ name ∈ (ofRecorded "\x7bx\x7d \x7bupper:x\x7d").names,
      (recorded [("DEFAULT", [])]).NamesBare "DEFAULT" [] name) ∧
    (ofRecorded "\x7bx\x7d \x7bupper:x\x7d").outcome.asked = ["x", "x"] ∧
    ¬ (ofRecorded "\x7bx\x7d \x7bupper:x\x7d").LooksUpOnce := by
  have hnames : (ofRecorded "\x7bx\x7d \x7bupper:x\x7d").names = ["x", "x"] := by
    decide +kernel
  have hlookups : (ofRecorded "\x7bx\x7d \x7bupper:x\x7d").lookups = ["x", "x"] := by
    decide +kernel
  refine ⟨fun name h => ?_, by decide +kernel, fun h => ?_⟩
  · rw [hnames] at h
    obtain rfl : name = "x".toList := by simpa using h
    exact namesBare_recorded
  · have honce := h.once "x"
    rw [hlookups] at honce
    exact absurd honce (by decide)

end Expansion
end ScopedConfig

import ScopedConfig.Proofs.Store.EvaluatedConfiguration
import ScopedConfig.Proofs.Store.WriteVisibility

/-! # Texts that have to wait

A reference to a resource that is not configured yet has to wait, and so has the key
whose text it stands in.  An evaluated configuration is to go on past such a key and to
show the text that its evaluation was to expand (`KeepsWaiting`).  The text that it
shows is looked up once more, by the scopes alone: the look-up knows neither that an
option takes no scopes nor that it has a default.

Two things can go wrong with that, and nothing else can (`keepsWaiting_iff`).  Where no
form of the option applies to the node, the evaluation was to expand the default; the
look-up finds nothing, and the configuration is given up (`Store.Unread`).  Where the
option takes no scopes and has a value under one all the same, the look-up finds that
one (`Store.Disguised`).
-/
namespace ScopedConfig

theorem EvalError.isMissing_of_isPostponed {e : EvalError} (h : e.isPostponed = true) :
    e.isMissing = false := by
  cases e with
  | postponed => rfl
  | _ => cases h

namespace Store

variable {store : Store} {key : Key} {node raw : Text}

/-! ## The text that is expanded -/

/-- The value of a key under the scopes that a node is in, or else without scope. -/
def scopedValue? (store : Store) (key : Key) (node : Text) : Option Text :=
  (store.variants key.baseOption (store.viewer node)).findSome?
    (store.data.get? key.sectionOrDefault)

/-- **The text that the evaluation of a key expands**: its value among the forms that
its keyword gives it, or the default.  A key without keyword has a value under a scope,
or none. -/
def expandedText? (store : Store) (key : Key) (node : Text) : Option Text :=
  match store.keyword? key with
  | some keyword =>
    some (((store.forms key keyword node).findSome?
      (store.data.get? key.sectionOrDefault)).getD keyword.default)
  | none => store.scopedValue? key node

/-- **No value of a key applies to a node.** -/
def Unread (store : Store) (key : Key) (node : Text) : Prop :=
  store.scopedValue? key node = none

instance : Decidable (store.Unread key node) := inferInstanceAs (Decidable (_ = _))

/-- **A key is disguised**: its option takes no scopes, and the first value under a scope
that the node is in is another text than the bare value, or than the default if there is
none. -/
def Disguised (store : Store) (key : Key) (node : Text) : Prop :=
  ∃ keyword value, store.keyword? key = some keyword ∧ keyword.scopable = false ∧
    ((store.scopesOf (store.viewer node)).map (Key.scopedOption key.baseOption)).findSome?
        (store.data.get? key.sectionOrDefault) = some value ∧
      value ≠ (store.data.get? key.sectionOrDefault key.baseOption).getD keyword.default

theorem scopedValue?_eq_some_iff :
    store.scopedValue? key node = some raw ↔ store.descope key node = .ok raw := by
  rw [scopedValue?, ← toOption_descope]
  cases store.descope key node <;> simp [Except.toOption]

theorem unread_iff : store.Unread key node ↔ ∃ e, store.descope key node = .error e := by
  rw [Unread, scopedValue?, ← toOption_descope]
  cases store.descope key node <;> simp [Except.toOption]

theorem expandedText?_of_storedText (h : store.storedText key node = .ok raw) :
    store.expandedText? key node = some raw := by
  unfold storedText at h
  unfold expandedText?
  cases hkeyword : store.keyword? key with
  | none =>
    rw [hkeyword] at h
    exact scopedValue?_eq_some_iff.mpr h
  | some keyword =>
    rw [hkeyword] at h
    dsimp only [scopedText] at h ⊢
    rw [← toOption_readScoped]
    cases hread : store.readScoped key keyword node with
    | ok value =>
      rw [hread] at h
      exact congrArg some (Except.ok.inj h)
    | error e =>
      rw [hread] at h
      dsimp only at h
      split at h
      · exact congrArg some (Except.ok.inj h)
      · cases h

/-- The look-up by the scopes goes to the bare value where nothing stands under one. -/
theorem scopedValue?_eq_or (store : Store) (key : Key) (node : Text) :
    store.scopedValue? key node =
      (((store.scopesOf (store.viewer node)).map (Key.scopedOption key.baseOption)).findSome?
        (store.data.get? key.sectionOrDefault)).or
        (store.data.get? key.sectionOrDefault key.baseOption) := by
  rw [scopedValue?, variants, List.findSome?_append, List.findSome?_singleton]

/-- **The look-up by the scopes finds the text that is expanded**, if it finds any, unless
the key is disguised. -/
theorem disguised_iff_ne (hread : ¬ store.Unread key node) :
    store.Disguised key node ↔ store.scopedValue? key node ≠ store.expandedText? key node := by
  obtain ⟨found, hfound⟩ := Option.ne_none_iff_exists'.mp hread
  unfold expandedText?
  cases hkeyword : store.keyword? key with
  | none => simp [Disguised, hkeyword]
  | some keyword =>
    dsimp only
    by_cases hscopable : keyword.scopable = true
    · rw [← variants_eq_forms store key node hscopable, ← scopedValue?, hfound, Option.getD_some]
      simp [Disguised, hkeyword, hscopable]
    · rw [forms_of_not_scopable store key node hscopable, List.findSome?_singleton]
      have hcases := store.scopedValue?_eq_or key node
      cases hscoped : ((store.scopesOf (store.viewer node)).map
          (Key.scopedOption key.baseOption)).findSome? (store.data.get? key.sectionOrDefault) with
      | some value =>
        rw [hscoped, Option.some_or] at hcases
        simp [Disguised, hkeyword, hscopable, hscoped, hcases]
      | none =>
        -- the bare value is what is found and what is expanded
        rw [hscoped, Option.none_or, hfound] at hcases
        simp [Disguised, hscoped, hfound, ← hcases]

end Store

namespace LinkedStore

variable {linked : LinkedStore} {key : Key} {node : Text} {e : EvalError} {out : RawConfig}

/-! ## Keys that have to wait -/

/-- **The evaluation of a key has to wait** for a resource that is not configured yet. -/
def Waits (linked : LinkedStore) (key : Key) (node : Text) : Prop :=
  ∃ e, (linked.evaluateAny key node).result = .error e ∧ e.isPostponed = true

/-- **An evaluation of the configuration comes to a key**: none of the keys before it
puts an end to it. -/
def Reaches (linked : LinkedStore) (key : Key) (node : Text) : Prop :=
  ∃ before behind, linked.bareKeys = before ++ key :: behind ∧
    linked.firstError? node before = none

theorem waits_iff :
    linked.Waits key node ↔ (linked.evaluateAny key node).error?.any EvalError.isPostponed := by
  simp only [Waits, Option.any_eq_true, Outcome.error?_eq_some_iff]

instance : Decidable (linked.Waits key node) := decidable_of_iff _ waits_iff.symm

theorem Reaches.mem_bareKeys (h : linked.Reaches key node) : key ∈ linked.bareKeys := by
  obtain ⟨before, behind, hkeys, -⟩ := h
  rw [hkeys]
  exact List.mem_append_right _ List.mem_cons_self

/-- A key that has to wait has a text that is to be expanded. -/
theorem exists_expandedText_of_waits (h : linked.Waits key node) :
    ∃ raw, linked.store.storedText key node = .ok raw ∧
      linked.store.expandedText? key node = some raw := by
  obtain ⟨e, he, hpostponed⟩ := h
  cases hstored : linked.store.storedText key node with
  | ok raw => exact ⟨raw, rfl, Store.expandedText?_of_storedText hstored⟩
  | error e' =>
    -- what is missing does not have to wait
    have hresult : (linked.evaluateAny key node).result = .error e' := by
      unfold evaluateAny
      unfold Store.storedText at hstored
      cases hkeyword : linked.store.keyword? key with
      | none =>
        rw [hkeyword] at hstored
        dsimp only at hstored ⊢
        rw [Outcome.result_bind, Outcome.ofResult, hstored]
        rfl
      | some keyword =>
        rw [hkeyword] at hstored
        dsimp only at hstored ⊢
        rw [evaluateText, visitUnder, hstored]
        rfl
    rw [hresult] at he
    obtain rfl := Except.error.inj he
    have hmissing := Store.isMissing_of_storedText hstored
    rw [EvalError.isMissing_of_isPostponed hpostponed] at hmissing
    cases hmissing

/-- A key that has to wait is shown with what the look-up by the scopes finds, if it
finds anything. -/
theorem result_evaluatedText_of_waits (h : linked.Waits key node) :
    (linked.evaluatedText key node).result = (linked.store.descope key node).map some := by
  obtain ⟨e, he, hpostponed⟩ := h
  have hmissing : ¬ e.isMissing = true := by
    rw [EvalError.isMissing_of_isPostponed hpostponed]
    exact Bool.false_ne_true
  simp only [evaluatedText, he, if_neg hmissing, if_pos hpostponed]

/-- **What is missing, or has to wait, only puts an end to the evaluation of a key that
has to wait and is unread.**  The error is that something is missing. -/
theorem evaluatedText_error_cases (h : (linked.evaluatedText key node).result = .error e) :
    (linked.Waits key node ∧ linked.store.Unread key node ∧ e.isMissing = true) ∨
      (e.isMissing = false ∧ e.isPostponed = false) := by
  by_cases hwaits : linked.Waits key node
  · left
    rw [result_evaluatedText_of_waits hwaits] at h
    cases hdescope : linked.store.descope key node with
    | ok raw =>
      rw [hdescope] at h
      cases h
    | error e' =>
      rw [hdescope] at h
      obtain rfl := Except.error.inj h
      exact ⟨hwaits, Store.unread_iff.mpr ⟨e', hdescope⟩, Store.isMissing_of_descope hdescope⟩
  · right
    unfold evaluatedText at h
    cases hany : (linked.evaluateAny key node).result with
    | ok text =>
      simp only [hany] at h
      cases h
    | error e' =>
      have hpostponed : ¬ e'.isPostponed = true := fun hpostponed => hwaits ⟨e', hany, hpostponed⟩
      simp only [hany, if_neg hpostponed] at h
      split at h
      · cases h
      · next hmissing =>
        obtain rfl := Except.error.inj h
        exact ⟨Bool.eq_false_iff.mpr hmissing, Bool.eq_false_iff.mpr hpostponed⟩

theorem evaluatedText_of_unread (h : linked.Waits key node)
    (hunread : linked.store.Unread key node) :
    ∃ e, (linked.evaluatedText key node).result = .error e ∧ e.isMissing = true := by
  obtain ⟨e, he⟩ := Store.unread_iff.mp hunread
  refine ⟨e, ?_, Store.isMissing_of_descope he⟩
  rw [result_evaluatedText_of_waits h, he]
  rfl

/-! ## The configuration -/

/-- The evaluation of a configuration ends with the error of a key that it comes to. -/
theorem evaluated_eq_error_iff :
    (linked.evaluated node).result = .error e ↔
      ∃ key, linked.Reaches key node ∧ (linked.evaluatedText key node).result = .error e := by
  rw [← Outcome.error?_eq_some_iff, error?_evaluated, firstError?, List.findSome?_eq_some_iff]
  constructor
  · rintro ⟨before, key, behind, hkeys, herror, hbefore⟩
    refine ⟨key, ⟨before, behind, hkeys, ?_⟩, Outcome.error?_eq_some_iff.mp herror⟩
    exact List.findSome?_eq_none_iff.mpr hbefore
  · rintro ⟨key, ⟨before, behind, hkeys, hbefore⟩, herror⟩
    refine ⟨before, key, behind, hkeys, Outcome.error?_eq_some_iff.mpr herror, ?_⟩
    exact List.findSome?_eq_none_iff.mp hbefore

/-- **The evaluation of a configuration never has to wait.** -/
theorem not_isPostponed_of_evaluated (h : (linked.evaluated node).result = .error e) :
    e.isPostponed = false := by
  obtain ⟨key, -, herror⟩ := evaluated_eq_error_iff.mp h
  rcases evaluatedText_error_cases herror with ⟨-, -, hmissing⟩ | ⟨-, hother⟩
  · refine Bool.eq_false_iff.mpr fun hpostponed => ?_
    rw [EvalError.isMissing_of_isPostponed hpostponed] at hmissing
    cases hmissing
  · exact hother

/-- In a configuration that is evaluated, a key that has to wait has the text that the
look-up by the scopes finds. -/
theorem exists_shown_of_waits (h : (linked.evaluated node).result = .ok out)
    (hkey : key ∈ linked.bareKeys) (hwaits : linked.Waits key node) :
    ∃ raw, linked.store.scopedValue? key node = some raw ∧
      out.get? key.sectionName key.option = some raw := by
  obtain ⟨name, hname, option, hoption, rfl⟩ := mem_bareKeys_iff.mp hkey
  obtain ⟨text?, htext, hget⟩ := exists_shown h hname hoption
  have hshown := result_evaluatedText_of_waits hwaits
  cases hdescope : linked.store.descope (Key.withoutScope ⟨name, option⟩) node with
  | error e =>
    rw [hdescope] at hshown
    cases htext.symm.trans hshown
  | ok raw =>
    rw [hdescope] at hshown
    obtain rfl : text? = some raw := Except.ok.inj (htext.symm.trans hshown)
    exact ⟨raw, Store.scopedValue?_eq_some_iff.mpr hdescope, hget⟩

/-- **An evaluated configuration goes on past texts that have to wait, and keeps them.** -/
structure KeepsWaiting (linked : LinkedStore) (node : Text) : Prop where
  /-- It is not given up for anything that is missing or has to wait. -/
  going : ∀ e, (linked.evaluated node).result = .error e →
    e.isMissing = false ∧ e.isPostponed = false
  /-- A key that has to wait is there with the text that its evaluation was to expand:
  the value that its keyword gives it, or the default. -/
  texts : ∀ out, (linked.evaluated node).result = .ok out → ∀ key ∈ linked.bareKeys,
    linked.Waits key node → ∃ raw, linked.store.storedText key node = .ok raw ∧
      linked.store.expandedText? key node = some raw ∧
      out.get? key.sectionName key.option = some raw

theorem going_iff :
    (∀ e, (linked.evaluated node).result = .error e →
        e.isMissing = false ∧ e.isPostponed = false) ↔
      ∀ key, linked.Reaches key node → linked.Waits key node →
        ¬ linked.store.Unread key node := by
  constructor
  · intro hgoing key hreaches hwaits hunread
    obtain ⟨e, he, hmissing⟩ := evaluatedText_of_unread hwaits hunread
    have hpresent := (hgoing e (evaluated_eq_error_iff.mpr ⟨key, hreaches, he⟩)).1
    rw [hmissing] at hpresent
    cases hpresent
  · intro hread e he
    obtain ⟨key, hreaches, herror⟩ := evaluated_eq_error_iff.mp he
    rcases evaluatedText_error_cases herror with ⟨hwaits, hunread, -⟩ | hother
    · exact absurd hunread (hread key hreaches hwaits)
    · exact hother

theorem texts_iff (h : (linked.evaluated node).result = .ok out) (hkey : key ∈ linked.bareKeys)
    (hwaits : linked.Waits key node) :
    (∃ raw, linked.store.storedText key node = .ok raw ∧
        linked.store.expandedText? key node = some raw ∧
        out.get? key.sectionName key.option = some raw) ↔
      ¬ linked.store.Disguised key node := by
  obtain ⟨shown, hshown, hget⟩ := exists_shown_of_waits h hkey hwaits
  obtain ⟨raw, hstored, hexpanded⟩ := exists_expandedText_of_waits hwaits
  have hread : ¬ linked.store.Unread key node := by
    intro hunread
    cases hunread.symm.trans hshown
  rw [Store.disguised_iff_ne hread, ne_eq, not_not, hshown, hexpanded, hget]
  constructor
  · rintro ⟨same, -, hraw, hsame⟩
    exact hsame.trans hraw.symm
  · intro hsame
    exact ⟨raw, hstored, rfl, hsame⟩

/-- **What becomes of texts that have to wait.**  An evaluated configuration goes on past
them and keeps them exactly if no key that has to wait is unread, of those that the
evaluation comes to, and if none is disguised where the evaluation comes to its end. -/
theorem keepsWaiting_iff :
    linked.KeepsWaiting node ↔
      (∀ key, linked.Reaches key node → linked.Waits key node →
        ¬ linked.store.Unread key node) ∧
      ∀ out, (linked.evaluated node).result = .ok out → ∀ key ∈ linked.bareKeys,
        linked.Waits key node → ¬ linked.store.Disguised key node := by
  constructor
  · intro hkeeps
    refine ⟨going_iff.mp hkeeps.going, fun out h key hkey hwaits => ?_⟩
    exact (texts_iff h hkey hwaits).mp (hkeeps.texts out h key hkey hwaits)
  · rintro ⟨hread, hplain⟩
    refine ⟨going_iff.mpr hread, fun out h key hkey hwaits => ?_⟩
    exact (texts_iff h hkey hwaits).mpr (hplain out h key hkey hwaits)

/-! ## Stores of their own -/

/-- A node with two options of its own section: a priority, which takes no scopes, and a
comment, which does. -/
def commented (default : Text) (options : List (Text × Text)) : LinkedStore where
  store :=
    { path := "/etc/node.conf"
      data := .ofLists [("DEFAULT", options)]
      owner := ⟨.node, ⟨[.plain "DEFAULT" "priority",
        { Keyword.plain "DEFAULT" "comment" with scopable := true, default := default }]⟩,
        [], [], [], [], false⟩
      agent := .default }
  node? := none

/-- A priority that has to wait as it stands without scope, and a comment that has to
wait as it stands under the scope of `n1`. -/
def delayed : LinkedStore :=
  commented [] [("priority@n2", "x"), ("priority", "$(fs#0.dev)"), ("comment@n1", "{ip#3.ipname}"),
    ("comment", "none")]

theorem keepsWaiting_delayed :
    (delayed.evaluated "n1").result = .ok (.ofLists
        [("DEFAULT", [("priority", "$(fs#0.dev)"), ("comment", "{ip#3.ipname}")])]) ∧
      (∀ key ∈ delayed.bareKeys, delayed.Waits key "n1") ∧ delayed.KeepsWaiting "n1" := by
  have hread : ∀ key ∈ delayed.bareKeys, ¬ delayed.store.Unread key "n1" := by decide +kernel
  have hsame : ∀ key ∈ delayed.bareKeys,
      delayed.store.scopedValue? key "n1" = delayed.store.expandedText? key "n1" := by
    decide +kernel
  refine ⟨by decide +kernel, by decide +kernel, keepsWaiting_iff.mpr ⟨?_, ?_⟩⟩
  · intro key hreaches _
    exact hread key hreaches.mem_bareKeys
  · intro out _ key hkey _ hdisguised
    exact (Store.disguised_iff_ne (hread key hkey)).mp hdisguised (hsame key hkey)

/-- **Two things go wrong.**  A comment with a default that has to wait, and with a value
for another node alone, puts an end to the evaluation.  A priority that has to wait is
shown with what stands under the scope of the node, which it does not take. -/
theorem not_keepsWaiting_commented :
    ((commented "{ip#3.ipname}" [("comment@n2", "x")]).evaluated "n1").result =
        .error (.missing (.scopes ⟨"DEFAULT", "comment"⟩)) ∧
      ¬ (commented "{ip#3.ipname}" [("comment@n2", "x")]).KeepsWaiting "n1" ∧
    ((commented [] [("priority", "$(fs#0.dev)"), ("priority@n1", "x")]).evaluated "n1").result =
        .ok (.ofLists [("DEFAULT", [("priority", "x")])]) ∧
      ¬ (commented [] [("priority", "$(fs#0.dev)"), ("priority@n1", "x")]).KeepsWaiting "n1" := by
  have hgivenUp : ((commented "{ip#3.ipname}" [("comment@n2", "x")]).evaluated "n1").result =
      .error (.missing (.scopes ⟨"DEFAULT", "comment"⟩)) := by decide +kernel
  have hshown : ((commented [] [("priority", "$(fs#0.dev)"), ("priority@n1", "x")]).evaluated
      "n1").result = .ok (.ofLists [("DEFAULT", [("priority", "x")])]) := by decide +kernel
  refine ⟨hgivenUp, fun hkeeps => ?_, hshown, fun hkeeps => ?_⟩
  · have hpresent := (hkeeps.going _ hgivenUp).1
    cases hpresent
  · obtain ⟨raw, -, hexpanded, hget⟩ := hkeeps.texts _ hshown ⟨"DEFAULT", "priority"⟩
      (by decide +kernel) (by decide +kernel)
    have hraw : (commented [] [("priority", "$(fs#0.dev)"), ("priority@n1", "x")]).store.expandedText?
        ⟨"DEFAULT", "priority"⟩ "n1" = some "$(fs#0.dev)" := by decide +kernel
    have hx : RawConfig.get? (.ofLists [("DEFAULT", [("priority", "x")])]) "DEFAULT" "priority" =
        some "x" := by decide +kernel
    have hsame := (hraw.symm.trans hexpanded).trans (hget.symm.trans hx)
    exact absurd (Option.some.inj hsame) (by decide)

end LinkedStore
end ScopedConfig

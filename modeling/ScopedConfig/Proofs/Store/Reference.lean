import ScopedConfig.Proofs.Store.Resolution

/-! # What a key refers to

A key *refers* to another one if its text has a name that stands for the other one
(`Visit.Refers`).  Looking a name up never fails because of the keys under expansion
(`isReference_referent`); such an error comes from entering a key.  So a key that
fails with one is on the trail, or has no room, or refers to a key that fails with
it (`error_of_enterAt`), and a key that is expanded only refers to keys that are
(`ok_of_enterAt`).
-/
namespace ScopedConfig

/-- Whether an error is about the keys under expansion. -/
def EvalError.isNesting : EvalError → Bool
  | cycle _ | tooDeep _ _ => true
  | _ => false

theorem EvalError.not_isNesting_of_isMissing {e : EvalError} (h : e.isMissing = true) :
    e.isNesting = false := by
  cases e with
  | missing => rfl
  | _ => cases h

/-- **One key refers to another**: the text of the one has a name that stands for
the text of the other. -/
def Visit.Refers (node : Text) (v w : Visit) : Prop :=
  ∃ name ∈ Reference.names v.raw, ∃ referent,
    (v.linked.referent v.key.sectionOrDefault node name).result = .ok referent ∧
      referent.visit? = some w

/-! ## What names lead to -/

namespace Store

variable {store : Store} {key : Key} {node : Text} {e : EvalError}

/-! Look-ups only fail since something is missing. -/

theorem isMissing_of_descope (h : store.descope key node = .error e) : e.isMissing = true := by
  unfold descope at h
  split at h
  · obtain rfl := Except.error.inj h
    rfl
  · split at h
    · cases h
    · obtain rfl := Except.error.inj h
      rfl

theorem isMissing_of_getStrict (h : store.getStrict key = .error e) : e.isMissing = true := by
  unfold getStrict at h
  split at h
  · cases h
  · obtain rfl := Except.error.inj h
    rfl

theorem isMissing_of_readScoped {keyword : Keyword}
    (h : store.readScoped key keyword node = .error e) : e.isMissing = true := by
  unfold readScoped at h
  split at h
  · exact isMissing_of_descope h
  · exact isMissing_of_getStrict h

theorem isMissing_of_scopedText {keyword : Keyword}
    (h : store.scopedText key keyword node = .error e) : e.isMissing = true := by
  unfold scopedText at h
  split at h
  · cases h
  · next error herror =>
    split at h
    · cases h
    · exact isMissing_of_readScoped (herror.trans (congrArg _ (Except.error.inj h)))

theorem isMissing_of_storedText (h : store.storedText key node = .error e) :
    e.isMissing = true := by
  unfold storedText at h
  split at h
  · exact isMissing_of_scopedText h
  · exact isMissing_of_descope h

end Store

namespace LinkedStore

variable {linked : LinkedStore} {key : Key} {node : Text}

/-- A key that is looked up is of the stores it is looked up in, and an error is not
about keys under expansion. -/
def IsLookup (linked : LinkedStore) : Except EvalError Visit → Prop
  | .ok visit => visit.linked = linked
  | .error e => e.isNesting = false

theorem isLookup_visitUnder (linked : LinkedStore) (key : Key) (keyword : Keyword) (node : Text) :
    linked.IsLookup (linked.visitUnder key keyword node) := by
  unfold visitUnder
  cases h : linked.store.scopedText key keyword node with
  | ok raw => exact rfl
  | error e => exact EvalError.not_isNesting_of_isMissing (Store.isMissing_of_scopedText h)

theorem isLookup_governedVisit (linked : LinkedStore) (key : Key) (node : Text) :
    linked.IsLookup (linked.governedVisit key node) := by
  unfold governedVisit
  split
  · exact isLookup_visitUnder ..
  · exact rfl

theorem isLookup_unsetVisit (linked : LinkedStore) (node name : Text) (key : Key) :
    linked.IsLookup (linked.unsetVisit node name key) := by
  unfold unsetVisit
  split
  · split
    · exact isLookup_visitUnder ..
    · exact rfl
  · split <;> exact rfl

/-- A name stands for a key of the store itself or of the side of the node, and an
error is not about keys under expansion. -/
def IsReference (linked : LinkedStore) : Except EvalError Referent → Prop
  | .ok referent => ∀ visit, referent.visit? = some visit →
      visit.linked = linked ∨ visit.linked = linked.nodeSide
  | .error e => e.isNesting = false

theorem IsLookup.isReference {side : LinkedStore} {result : Except EvalError Visit}
    (h : side.IsLookup result) (hside : side = linked ∨ side = linked.nodeSide)
    {referent : Visit → Referent} (hr : ∀ visit, (referent visit).visit? = some visit) :
    linked.IsReference (result.map referent) := by
  cases result with
  | error e => exact h
  | ok visit =>
    intro w hw
    rw [hr, Option.some.injEq] at hw
    have hlinked : visit.linked = side := h
    rw [← hw, hlinked]
    exact hside

theorem isReference_nodeReferent (linked : LinkedStore) (node name rest : Text) :
    linked.IsReference (linked.nodeReferent node name rest) := by
  unfold nodeReferent
  split
  · exact rfl
  · next key _ =>
    split
    · refine (isLookup_governedVisit linked.nodeSide key node).isReference (.inr rfl) fun visit => ?_
      split <;> rfl
    · exact rfl

theorem isReference_keyReferent (linked : LinkedStore) (sectionName node name : Text) :
    linked.IsReference (linked.keyReferent sectionName node name).result := by
  unfold keyReferent
  split
  · exact rfl
  · next named _ =>
    dsimp only
    generalize (if named.isRelative then named.inSection sectionName else named) = key
    split
    · cases h : linked.store.storedText key node with
      | error e => exact EvalError.not_isNesting_of_isMissing (Store.isMissing_of_storedText h)
      | ok raw =>
        intro visit hv
        obtain rfl := Option.some.inj hv
        exact .inl rfl
    · split
      · intro visit hv
        cases hv
      · exact (isLookup_unsetVisit linked node name key).isReference (.inl rfl) fun _ => rfl

theorem isReference_referent (linked : LinkedStore) (sectionName node name : Text) :
    linked.IsReference (linked.referent sectionName node name).result := by
  unfold referent
  split
  · exact isReference_nodeReferent ..
  · split
    · intro visit h
      cases h
    · exact isReference_keyReferent ..

/-! ## One key under expansion -/

section Follow

variable {enter : Visit → Outcome Text} {sectionName name : Text}

/-- A name comes to an error that its look-up has, or that the key has which it stands
for. -/
theorem error_of_dereference {e : EvalError}
    (h : (dereference enter linked sectionName node name).result = .error e) :
    (linked.referent sectionName node name).result = .error e ∨
      ∃ referent visit, (linked.referent sectionName node name).result = .ok referent ∧
        referent.visit? = some visit ∧ (enter visit).result = .error e := by
  unfold dereference Outcome.andThen at h
  cases hr : (linked.referent sectionName node name).result with
  | error e' =>
    rw [hr] at h
    exact .inl (congrArg _ (Except.error.inj h))
  | ok referent =>
    rw [hr] at h
    cases referent with
    | text value => cases h
    | key visit | nodeKey visit => exact .inr ⟨_, visit, rfl, rfl, h⟩

/-- A name that stands for a key has the error of the key. -/
theorem exists_of_dereference_error {e : EvalError}
    (h : (dereference enter linked sectionName node name).result = .error e)
    (he : e.isNesting = true) :
    ∃ referent visit, (linked.referent sectionName node name).result = .ok referent ∧
      referent.visit? = some visit ∧ (enter visit).result = .error e := by
  refine (error_of_dereference h).resolve_left fun hlookup => ?_
  have hreference := isReference_referent linked sectionName node name
  rw [hlookup] at hreference
  rw [show e.isNesting = false from hreference] at he
  cases he

/-- A name that stands for a key only has a value if the key has one. -/
theorem exists_of_dereference_ok {text : Text} {referent : Referent} {visit : Visit}
    (h : (dereference enter linked sectionName node name).result = .ok text)
    (hr : (linked.referent sectionName node name).result = .ok referent)
    (hv : referent.visit? = some visit) : (enter visit).result = .ok text := by
  unfold dereference Outcome.andThen at h
  rw [hr] at h
  cases referent with
  | text value => cases hv
  | key w | nodeKey w =>
    obtain rfl := Option.some.inj hv
    exact h

end Follow

variable {room : Nat} {trail : Trail} {v : Visit}

/-- An error about the keys under expansion arises at the key itself or at one that
it refers to. -/
theorem error_of_enterAt {e : EvalError} (h : (enterAt node room trail v).result = .error e)
    (he : e.isNesting = true) :
    (v.entry ∈ trail ∧ e = cycleError trail v.entry) ∨
    (v.entry ∉ trail ∧ room = 0 ∧ e = depthError v.entry) ∨
    (v.entry ∉ trail ∧ ∃ left w, room = left + 1 ∧ v.Refers node w ∧
      (enterAt node left (trail ++ [v.entry]) w).result = .error e) := by
  unfold enterAt at h
  split at h
  · next hmem => exact .inl ⟨hmem, (Except.error.inj h).symm⟩
  · next absent =>
    cases room with
    | zero => exact .inr (.inl ⟨absent, rfl, (Except.error.inj h).symm⟩)
    | succ left =>
      obtain ⟨name, hname, hderef⟩ := exists_of_expandWith_error h
      obtain ⟨referent, w, hr, hw, hwe⟩ := exists_of_dereference_error hderef he
      exact .inr (.inr ⟨absent, left, w, rfl, ⟨name, hname, referent, hr, hw⟩, hwe⟩)

/-- A key is only expanded if it is not on the trail, there is room for it, and all
keys that it refers to are expanded. -/
theorem ok_of_enterAt {text : Text} (h : (enterAt node room trail v).result = .ok text) :
    v.entry ∉ trail ∧ ∃ left, room = left + 1 ∧
      ∀ w, v.Refers node w → ∃ text, (enterAt node left (trail ++ [v.entry]) w).result = .ok text := by
  unfold enterAt at h
  split at h
  · cases h
  · next absent =>
    cases room with
    | zero => cases h
    | succ left =>
      refine ⟨absent, left, rfl, fun w ⟨name, hname, referent, hr, hw⟩ => ?_⟩
      obtain ⟨value, hvalue⟩ := forall_of_expandWith_ok h name hname
      exact ⟨value, exists_of_dereference_ok hvalue hr hw⟩

end LinkedStore
end ScopedConfig

import ScopedConfig.Proofs.Store.Reference
import ScopedConfig.Store.Evaluation

/-! # Cycles and depth of references

The chains of references that start with a key are what the trail goes through while
the key is expanded: an expansion that fails with a cycle or for lack of room does so
at the end of such a chain (`exists_chain_of_error`), and one that succeeds has gone
through all of them, none of which repeats a key or is longer than there is room
(`chain_of_ok`).  Together that makes the detection of cycles and of depth exact
(`evaluate_nesting`).
-/
namespace ScopedConfig
namespace LinkedStore

variable {linked : LinkedStore} {node : Text} {room : Nat} {trail : Trail} {v : Visit}

/-! ## Chains of keys under expansion -/

/-- **An error about the keys under expansion ends a chain of references**: its last
key is one that the trail or the chain has already, or it is one more than there is
room for. -/
theorem exists_chain_of_error {e : EvalError} (h : (enterAt node room trail v).result = .error e)
    (he : e.isNesting = true) :
    ∃ inner last, (inner ++ [last]).head? = some v ∧
      (inner ++ [last]).IsChain (Visit.Refers node) ∧
      ((last.entry ∈ trail ++ inner.map Visit.entry ∧
          e = cycleError (trail ++ inner.map Visit.entry) last.entry) ∨
        (inner.length = room ∧ e = depthError last.entry)) := by
  -- the chain grows at its front, by the key that is left when the trail gets shorter
  induction room generalizing trail v with
  | zero =>
    rcases error_of_enterAt h he with ⟨hmem, rfl⟩ | ⟨-, -, rfl⟩ | ⟨-, left, w, hroom, -⟩
    · exact ⟨[], v, rfl, .singleton v, .inl ⟨by simpa using hmem, by simp⟩⟩
    · exact ⟨[], v, rfl, .singleton v, .inr ⟨rfl, rfl⟩⟩
    · cases hroom
  | succ room ih =>
    rcases error_of_enterAt h he with ⟨hmem, rfl⟩ | ⟨-, hroom, -⟩ | ⟨-, left, w, hroom, href, hw⟩
    · exact ⟨[], v, rfl, .singleton v, .inl ⟨by simpa using hmem, by simp⟩⟩
    · cases hroom
    · obtain rfl : room = left := by omega
      obtain ⟨inner, last, hhead, hchain, hend⟩ := ih hw
      refine ⟨v :: inner, last, rfl, ?_, ?_⟩
      · obtain ⟨rest, hrest⟩ : ∃ rest, inner ++ [last] = w :: rest :=
          ⟨_, List.eq_cons_of_mem_head? hhead⟩
        rw [List.cons_append, hrest]
        exact .cons_cons href (hrest ▸ hchain)
      · simpa [List.append_assoc] using hend

/-- **A key that is expanded has been followed along every chain of references**,
none of which is longer than there is room or meets a key again. -/
theorem chain_of_ok {text : Text} {rest : List Visit}
    (h : (enterAt node room trail v).result = .ok text)
    (hchain : (v :: rest).IsChain (Visit.Refers node)) (htrail : trail.Nodup) :
    rest.length < room ∧ (trail ++ (v :: rest).map Visit.entry).Nodup := by
  -- along the chain the trail takes up each key, so it stays without repetition
  induction rest generalizing room trail v text with
  | nil =>
    obtain ⟨absent, left, rfl, -⟩ := ok_of_enterAt h
    exact ⟨Nat.succ_pos left, Lists.nodup_concat htrail absent⟩
  | cons w rest ih =>
    obtain ⟨absent, left, rfl, hnext⟩ := ok_of_enterAt h
    obtain ⟨href, htail⟩ := List.isChain_cons_cons.mp hchain
    obtain ⟨value, hvalue⟩ := hnext w href
    obtain ⟨hlength, hnodup⟩ :=
      ih hvalue htail (Lists.nodup_concat htrail absent)
    refine ⟨Nat.succ_lt_succ hlength, ?_⟩
    rwa [List.append_assoc] at hnodup

/-! ## Keys and their entries -/

/-- The store of the node, if there is one, is kept in another file. -/
def SeparateFiles (linked : LinkedStore) : Prop :=
  ∀ node, linked.node? = some node →
    FilePath.location node.path ≠ FilePath.location linked.store.path

/-- A visit is of a key of the store or of the side of the node. -/
def Sees (linked : LinkedStore) (visit : Visit) : Prop :=
  visit.linked = linked ∨ visit.linked = linked.nodeSide

theorem nodeSide_nodeSide (linked : LinkedStore) : linked.nodeSide.nodeSide = linked.nodeSide := by
  obtain ⟨store, node?⟩ := linked
  cases node? <;> rfl

/-- What is seen from the store or from the side of the node is of one of these. -/
theorem sees_of_side {side : LinkedStore} {visit : Visit}
    (hside : side = linked ∨ side = linked.nodeSide) (h : side.Sees visit) :
    linked.Sees visit := by
  rcases hside with rfl | rfl
  · exact h
  -- what the side of the node refers to is on the side of the node
  · rw [Sees, nodeSide_nodeSide, or_self] at h
    exact .inr h

/-- The keys that names stand for are of the store or of the side of the node. -/
theorem sees_of_referent {sectionName name : Text} {referent : Referent} {visit : Visit}
    (h : (linked.referent sectionName node name).result = .ok referent)
    (hvisit : referent.visit? = some visit) : linked.Sees visit := by
  have hside := isReference_referent linked sectionName node name
  rw [h] at hside
  exact hside visit hvisit

theorem Sees.refers {v w : Visit} (h : linked.Sees v) (href : v.Refers node w) :
    linked.Sees w := by
  obtain ⟨name, -, referent, hr, hw⟩ := href
  exact sees_of_side h (sees_of_referent hr hw)

theorem Sees.chain {v : Visit} {rest : List Visit} (h : linked.Sees v)
    (hchain : (v :: rest).IsChain (Visit.Refers node)) : ∀ w ∈ v :: rest, linked.Sees w := by
  induction rest generalizing v with
  | nil => simpa using h
  | cons w rest ih =>
    obtain ⟨href, htail⟩ := List.isChain_cons_cons.mp hchain
    exact List.forall_mem_cons.mpr ⟨h, ih (h.refers href) htail⟩

end LinkedStore

/-- Whether two visits are of one key: of one store, section and option, whatever
the scopes. -/
structure Visit.SameKey (v w : Visit) : Prop where
  store : v.linked.store = w.linked.store
  sectionName : v.key.sectionOrDefault = w.key.sectionOrDefault
  option : v.key.baseOption = w.key.baseOption

theorem Visit.SameKey.entry {v w : Visit} (h : v.SameKey w) : v.entry = w.entry := by
  rw [Visit.entry, Visit.entry, Store.trailEntry, Store.trailEntry, h.store, h.sectionName,
    h.option]

namespace LinkedStore

variable {linked : LinkedStore} {key : Key} {node : Text}

/-- As long as the store of the node has a file of its own, the trail tells keys
apart. -/
theorem sameKey_of_entry {v w : Visit} (hfiles : linked.SeparateFiles) (hv : linked.Sees v)
    (hw : linked.Sees w) (h : v.entry = w.entry) : v.SameKey w := by
  have hlocation : FilePath.location v.linked.store.path = FilePath.location w.linked.store.path :=
    congrArg TrailEntry.location h
  have hkey : (⟨v.key.sectionOrDefault, v.key.baseOption⟩ : Key) =
      ⟨w.key.sectionOrDefault, w.key.baseOption⟩ := congrArg TrailEntry.key h
  obtain ⟨hsection, hoption⟩ := Key.mk.inj hkey
  refine ⟨?_, hsection, hoption⟩
  cases hn : linked.node? with
  | none =>
    have hside : linked.nodeSide = linked := by rw [nodeSide, hn]
    rw [Sees, hside, or_self] at hv hw
    rw [hv, hw]
  | some store =>
    have hside : linked.nodeSide.store = store := by rw [nodeSide, hn]
    have hne := hfiles store hn
    rcases hv with hv | hv <;> rcases hw with hw | hw
    · rw [hv, hw]
    · rw [hv, hw, hside] at hlocation
      exact absurd hlocation.symm hne
    · rw [hv, hw, hside] at hlocation
      exact absurd hlocation hne
    · rw [hv, hw]

/-! ## Evaluation -/

theorem result_evaluateText (linked : LinkedStore) (key : Key) (keyword : Keyword) (node : Text) :
    (linked.evaluateText key keyword node).result =
      linked.visitUnder key keyword node >>= fun visit => (enterFirst node visit).result :=
  Outcome.result_bind ..

/-- Evaluation in steps: the keyword, the text of the key, what it expands to, and
its type. -/
theorem result_evaluate (linked : LinkedStore) (key : Key) (node : Text) :
    (linked.evaluate key node).result =
      linked.store.keyword key >>= fun keyword =>
        (linked.visitUnder key keyword node >>= fun visit => (enterFirst node visit).result) >>=
          typed keyword := by
  unfold evaluate
  rw [Outcome.result_bind]
  refine congrArg _ (funext fun keyword => ?_)
  unfold evaluateUnder
  rw [Outcome.result_bind, result_evaluateText]
  rfl

theorem governedVisit_eq (linked : LinkedStore) (key : Key) (node : Text) :
    linked.governedVisit key node =
      linked.store.keyword key >>= fun keyword => linked.visitUnder key keyword node := by
  unfold governedVisit Store.keyword
  cases linked.store.keyword? key <;> rfl

/-- Reading a text as a value only fails in the converter. -/
theorem exists_conversion_of_typed {keyword : Keyword} {text : Text} {e : EvalError}
    (h : typed keyword text = .error e) : ∃ error, e = .conversion error := by
  unfold typed at h
  split at h
  · next converter _ =>
    cases hc : converter.convert text with
    | ok value =>
      rw [hc] at h
      cases h
    | error error =>
      rw [hc] at h
      exact ⟨error, (Except.error.inj h).symm⟩
  · cases h

/-- An error of a key that neither the look-up nor the converter has comes from expanding
the text of the key. -/
theorem exists_entered_of_evaluate_error {e : EvalError}
    (h : (linked.evaluate key node).result = .error e)
    (hlookup : linked.governedVisit key node ≠ .error e) (he : ∀ error, e ≠ .conversion error) :
    ∃ v, linked.governedVisit key node = .ok v ∧ (enterFirst node v).result = .error e := by
  rw [governedVisit_eq, ne_eq, Outcome.bind_eq_error_iff, not_or] at hlookup
  rw [result_evaluate] at h
  rcases Outcome.bind_eq_error_iff.mp h with hk | ⟨keyword, hk, h⟩
  · exact absurd hk hlookup.1
  · rcases Outcome.bind_eq_error_iff.mp h with h | ⟨text, -, ht⟩
    · rcases Outcome.bind_eq_error_iff.mp h with hv | ⟨v, hv, henter⟩
      · exact absurd ⟨keyword, hk, hv⟩ hlookup.2
      · exact ⟨v, governedVisit_eq linked key node ▸ Outcome.bind_eq_ok_iff.mpr ⟨keyword, hk, hv⟩,
          henter⟩
    · obtain ⟨error, herror⟩ := exists_conversion_of_typed ht
      exact absurd herror (he error)

/-- An error about the keys under expansion comes from expanding the text of the
key. -/
theorem exists_of_evaluate_error {e : EvalError} (h : (linked.evaluate key node).result = .error e)
    (he : e.isNesting = true) :
    ∃ v, linked.governedVisit key node = .ok v ∧ (enterFirst node v).result = .error e := by
  refine exists_entered_of_evaluate_error h ?_ ?_
  · intro hv
    have hnot := isLookup_governedVisit linked key node
    rw [hv] at hnot
    rw [show e.isNesting = false from hnot] at he
    cases he
  · rintro error rfl
    cases he

/-- A key only has a value if its text can be expanded. -/
theorem exists_of_evaluate_ok {value : Value} {v : Visit}
    (h : (linked.evaluate key node).result = .ok value)
    (hv : linked.governedVisit key node = .ok v) :
    ∃ text, (enterFirst node v).result = .ok text := by
  rw [result_evaluate] at h
  rw [governedVisit_eq] at hv
  obtain ⟨keyword, hk, h⟩ := Outcome.bind_eq_ok_iff.mp h
  obtain ⟨text, htext, -⟩ := Outcome.bind_eq_ok_iff.mp h
  obtain ⟨w, hw, henter⟩ := Outcome.bind_eq_ok_iff.mp htext
  obtain ⟨keyword', hk', hv⟩ := Outcome.bind_eq_ok_iff.mp hv
  obtain rfl : keyword = keyword' := Except.ok.inj (hk.symm.trans hk')
  obtain rfl : w = v := Except.ok.inj (hw.symm.trans hv)
  exact ⟨text, henter⟩

/-- **A chain of references from a key**: it starts with the text of the key under
its keyword, and every key refers to the next one. -/
structure IsChainFrom (linked : LinkedStore) (key : Key) (node : Text) (visits : List Visit) :
    Prop where
  starts : ∀ first, visits.head? = some first → linked.governedVisit key node = .ok first
  refers : visits.IsChain (Visit.Refers node)

/-- Whether a chain of references meets a key again or has more keys than there is
room for. -/
def Overruns (visits : List Visit) : Prop :=
  ¬ visits.Pairwise (fun v w => ¬ v.SameKey w) ∨ maxReferenceDepth < visits.length

theorem IsChainFrom.sees {visits : List Visit} (h : linked.IsChainFrom key node visits) :
    ∀ v ∈ visits, linked.Sees v := by
  cases visits with
  | nil => exact fun v hv => absurd hv List.not_mem_nil
  | cons first rest =>
    have hlookup := isLookup_governedVisit linked key node
    rw [h.starts first rfl] at hlookup
    exact Sees.chain (.inl hlookup) h.refers

/-- The part of a chain from the first key with an entry on. -/
theorem exists_split_of_mem {visits : List Visit} {entry : TrailEntry}
    (h : entry ∈ visits.map Visit.entry) :
    ∃ before first between, visits = before ++ first :: between ∧ first.entry = entry ∧
      (visits.map Visit.entry).dropWhile (· ≠ entry) = (first :: between).map Visit.entry := by
  induction visits with
  | nil => cases h
  | cons v rest ih =>
    by_cases he : v.entry = entry
    · exact ⟨[], v, rest, rfl, he, by simp [he]⟩
    · have hrest : entry ∈ rest.map Visit.entry :=
        (List.mem_cons.mp h).resolve_left fun e => he e.symm
      obtain ⟨before, first, between, rfl, hfirst, hdrop⟩ := ih hrest
      refine ⟨v :: before, first, between, rfl, hfirst, ?_⟩
      rw [List.map_cons, List.dropWhile_cons_of_pos (by simpa using he), hdrop]

/-- An error about the keys under expansion ends a chain of references, which comes
back to a key or is too long. -/
theorem exists_chain_of_evaluate_error {e : EvalError}
    (h : (linked.evaluate key node).result = .error e) (he : e.isNesting = true) :
    ∃ inner last, linked.IsChainFrom key node (inner ++ [last]) ∧
      ((last.entry ∈ inner.map Visit.entry ∧
          e = cycleError (inner.map Visit.entry) last.entry) ∨
        (inner.length = maxReferenceDepth ∧ e = depthError last.entry)) := by
  obtain ⟨v, hv, henter⟩ := exists_of_evaluate_error h he
  obtain ⟨inner, last, hhead, hchain, hend⟩ := exists_chain_of_error henter he
  refine ⟨inner, last, ⟨fun first hfirst => ?_, hchain⟩, hend⟩
  rw [hhead, Option.some.injEq] at hfirst
  exact hfirst ▸ hv

/-- Keys with a value are expanded along chains that do not overrun. -/
theorem not_overruns_of_evaluate_ok {value : Value} {visits : List Visit}
    (h : (linked.evaluate key node).result = .ok value)
    (hvisits : linked.IsChainFrom key node visits) : ¬ Overruns visits := by
  cases visits with
  | nil => simp [Overruns]
  | cons first rest =>
    obtain ⟨text, henter⟩ := exists_of_evaluate_ok h (hvisits.starts first rfl)
    obtain ⟨hlength, hnodup⟩ := chain_of_ok henter hvisits.refers List.nodup_nil
    rintro (hrepeat | hlong)
    · rw [List.nil_append, List.Nodup, List.pairwise_map] at hnodup
      exact hrepeat (hnodup.imp fun hne hsame => hne hsame.entry)
    · rw [List.length_cons] at hlong
      omega

/-- **The detection of cycles and of depth is exact.**  A cycle that is reported is a
chain of references that ends where it began; without a chain that meets a key again
or has more keys than there is room for no cycle or lack of room is reported; and
with one there is no value. -/
theorem evaluate_nesting (hfiles : linked.SeparateFiles) :
    (∀ chain, (linked.evaluate key node).result = .error (.cycle chain) →
      ∃ before first between last,
        linked.IsChainFrom key node (before ++ first :: between ++ [last]) ∧
          first.SameKey last ∧
          chain = (first :: between ++ [last]).map fun v => v.entry.key) ∧
    ((∀ visits, linked.IsChainFrom key node visits → ¬ Overruns visits) →
      ∀ e, (linked.evaluate key node).result = .error e → e.isNesting = false) ∧
    (∀ visits, linked.IsChainFrom key node visits → Overruns visits →
      ∃ e, (linked.evaluate key node).result = .error e) := by
  -- a chain that comes back to an entry comes back to a key
  have hcomes : ∀ {before between : List Visit} {first last : Visit},
      linked.IsChainFrom key node (before ++ first :: between ++ [last]) →
      first.entry = last.entry → first.SameKey last := by
    intro before between first last hchain he
    exact sameKey_of_entry hfiles (hchain.sees first (by simp)) (hchain.sees last (by simp)) he
  refine ⟨fun chain h => ?_, fun hnone e h => ?_, fun visits hvisits hover => ?_⟩
  · obtain ⟨inner, last, hchain, ⟨hmem, hcycle⟩ | ⟨-, hdepth⟩⟩ :=
      exists_chain_of_evaluate_error h rfl
    · obtain ⟨before, first, between, rfl, hfirst, hdrop⟩ := exists_split_of_mem hmem
      refine ⟨before, first, between, last, hchain, hcomes hchain hfirst, ?_⟩
      rw [cycleError, hdrop] at hcycle
      obtain rfl := EvalError.cycle.inj hcycle
      simp
    · cases hdepth
  -- either error would end a chain that overruns
  · by_contra he
    obtain ⟨inner, last, hchain, ⟨hmem, -⟩ | ⟨hlength, -⟩⟩ :=
      exists_chain_of_evaluate_error h (by simpa using he)
    · obtain ⟨before, first, between, rfl, hfirst, -⟩ := exists_split_of_mem hmem
      refine hnone _ hchain (.inl fun hpairwise => ?_)
      rw [List.pairwise_append] at hpairwise
      exact hpairwise.2.2 first (by simp) last (by simp) (hcomes hchain hfirst)
    · refine hnone _ hchain (.inr ?_)
      rw [List.length_append, hlength]
      exact Nat.lt_succ_self _
  · cases hr : (linked.evaluate key node).result with
    | error e => exact ⟨e, rfl⟩
    | ok value => exact absurd hover (not_overruns_of_evaluate_ok hr hvisits)

/-- A store with two keys that refer to each other, and a store of the node. -/
def circular : LinkedStore where
  store :=
    { path := "/etc/web.conf"
      data := .ofLists [("env", [("A", "$(upper:B) $(node.env.C)"), ("B", "$(env.A)")])]
      owner := ⟨.node, .empty, [], [], [], [], false⟩
      agent := .default }
  node? := some
    { path := "/etc/node.conf"
      data := .ofLists [("env", [("C", "c")])]
      owner := ⟨.node, .empty, [], [], [], [], false⟩
      agent := .default }

theorem evaluate_nesting_circular :
    circular.SeparateFiles ∧
      (circular.evaluate ⟨"env", "A"⟩ []).result =
        .error (.cycle [⟨"env", "A"⟩, ⟨"env", "B"⟩, ⟨"env", "A"⟩]) ∧
      ∃ before first between last,
        circular.IsChainFrom ⟨"env", "A"⟩ [] (before ++ first :: between ++ [last]) ∧
          first.SameKey last ∧
          ([⟨"env", "A"⟩, ⟨"env", "B"⟩, ⟨"env", "A"⟩] : List Key) =
            (first :: between ++ [last]).map fun v => v.entry.key := by
  have hfiles : circular.SeparateFiles := by
    intro node hn
    obtain rfl := Option.some.inj hn
    decide
  have hcycle : (circular.evaluate ⟨"env", "A"⟩ []).result =
      .error (.cycle [⟨"env", "A"⟩, ⟨"env", "B"⟩, ⟨"env", "A"⟩]) := by
    decide +kernel
  exact ⟨hfiles, hcycle, (evaluate_nesting hfiles).1 _ hcycle⟩

end LinkedStore
end ScopedConfig

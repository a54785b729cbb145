import ScopedConfig.Proofs.Store.Resolution

/-! # Expansion as a tree

What a text expands to can be seen from a tree that has a child for every name of
the text.  The child of a name is the text that the name stands for, the tree of a
key's text, or a failure: because the name stands for nothing, or because its key is
under expansion already or has no room left on the trail.

Which error is reported is decided at every key anew, from the errors of its names.
Yet the outcome is that of the whole tree (`expand_result`): the leftmost postponed
failure, else the leftmost failure, else the text with every reference replaced.
-/
namespace ScopedConfig

/-- What an expansion goes through: a text that is found, an error, or a text with
a child for each of its names. -/
inductive ExpansionTree where
  | value (text : Text)
  | failure (error : EvalError)
  | branch (raw : Text) (children : List (Text × ExpansionTree))

namespace ExpansionTree

mutual

/-- The errors of the failing leaves, from left to right. -/
def failures : ExpansionTree → List EvalError
  | .value _ => []
  | .failure error => [error]
  | .branch _ children => failuresOf children

/-- The errors of the failing leaves below children, from left to right. -/
def failuresOf : List (Text × ExpansionTree) → List EvalError
  | [] => []
  | (_, child) :: rest => child.failures ++ failuresOf rest

end

mutual

/-- The text of a tree without failures. -/
def text : ExpansionTree → Text
  | .value text => text
  | .failure _ => []
  | .branch raw children =>
    Reference.replaceAll (fun name => ((textsOf children).lookup name).getD []) raw

/-- The texts of children. -/
def textsOf : List (Text × ExpansionTree) → List (Text × Text)
  | [] => []
  | (name, child) :: rest => (name, child.text) :: textsOf rest

end

/-- **The outcome of a tree**: the leftmost postponed failure, else the leftmost
failure, else the text. -/
def outcome (tree : ExpansionTree) : Except EvalError Text :=
  match tree.failures.find? EvalError.isPostponed, tree.failures.head? with
  | some e, _ => .error e
  | none, some e => .error e
  | none, none => .ok tree.text

theorem failuresOf_eq (children : List (Text × ExpansionTree)) :
    failuresOf children = children.flatMap fun child => child.2.failures := by
  induction children with
  | nil => rfl
  | cons child rest ih => rw [failuresOf, ih, List.flatMap_cons]

theorem textsOf_eq (children : List (Text × ExpansionTree)) :
    textsOf children = children.map fun child => (child.1, child.2.text) := by
  induction children with
  | nil => rfl
  | cons child rest ih => rw [textsOf, ih, List.map_cons]

theorem outcome_eq (tree : ExpansionTree) :
    tree.outcome = match EvalError.leading? tree.failures with
      | some e => .error e
      | none => .ok tree.text := by
  rw [outcome, EvalError.leading?]
  cases tree.failures.find? EvalError.isPostponed with
  | some e => rfl
  | none => cases tree.failures.head? <;> rfl

/-- A tree has a postponed outcome exactly if it has a postponed leaf. -/
theorem outcome_isPostponed_iff (tree : ExpansionTree) :
    (∃ e, tree.outcome = .error e ∧ e.isPostponed = true) ↔
      ∃ e ∈ tree.failures, e.isPostponed = true := by
  cases hfind : tree.failures.find? EvalError.isPostponed with
  | some first =>
    have hp : first.isPostponed = true := List.find?_some hfind
    have houtcome : tree.outcome = .error first := by simp only [outcome, hfind]
    exact iff_of_true ⟨first, houtcome, hp⟩ ⟨first, List.mem_of_find?_eq_some hfind, hp⟩
  | none =>
    have hnone : ∀ e ∈ tree.failures, e.isPostponed = false := by
      simpa using List.find?_eq_none.mp hfind
    refine iff_of_false ?_ ?_
    · rintro ⟨e, he, hp⟩
      rw [outcome, hfind] at he
      cases hhead : tree.failures.head? with
      | some first =>
        rw [hhead] at he
        obtain rfl : first = e := by simpa using he
        rw [hnone first (List.mem_of_mem_head? hhead)] at hp
        cases hp
      | none =>
        rw [hhead] at he
        cases he
    · rintro ⟨e, he, hp⟩
      rw [hnone e he] at hp
      cases hp

theorem outcome_of_failures_eq_nil {tree : ExpansionTree} (h : tree.failures = []) :
    tree.outcome = .ok tree.text := by
  rw [outcome_eq, h]
  rfl

/-- The tree of a text, given the trees of names. -/
def ofText (child : Text → ExpansionTree) (raw : Text) : ExpansionTree :=
  .branch raw ((Reference.distinctNames raw).map fun name => (name, child name))

theorem failures_ofText (child : Text → ExpansionTree) (raw : Text) :
    (ofText child raw).failures =
      (Reference.distinctNames raw).flatMap fun name => (child name).failures := by
  rw [ofText, failures, failuresOf_eq, List.flatMap_map]

theorem lookup_map_mk {names : List Text} {name : Text} (h : name ∈ names) (f : Text → Text) :
    (names.map fun name => (name, f name)).lookup name = some (f name) := by
  induction names with
  | nil => cases h
  | cons first rest ih =>
    by_cases e : name = first
    · subst e
      rw [List.map_cons, List.lookup_cons_self]
    · have hne : (name == first) = false := by simpa using e
      rw [List.map_cons, List.lookup_cons, hne]
      exact ih ((List.mem_cons.mp h).resolve_left e)

theorem text_ofText (child : Text → ExpansionTree) (raw : Text) :
    (ofText child raw).text = Reference.replaceAll (fun name => (child name).text) raw := by
  rw [ofText, text, textsOf_eq, List.map_map]
  refine Reference.replaceAll_congr fun name hn => ?_
  have hlookup := lookup_map_mk (Reference.mem_distinctNames.mpr hn) fun name => (child name).text
  exact congrArg (·.getD []) hlookup

/-- **The local rule gives the global one.**  A text whose names come to the
outcomes of trees comes to the outcome of the tree that has these as children. -/
theorem expandWith_eq_outcome {resolve : Text → Outcome Text} {child : Text → ExpansionTree}
    (h : ∀ name, (resolve name).result = (child name).outcome) (raw : Text) :
    (LinkedStore.expandWith resolve raw).result = (ofText child raw).outcome := by
  have herror : ∀ name, (resolve name).error? = EvalError.leading? (child name).failures := by
    intro name
    rw [Outcome.error?, h, outcome_eq]
    cases EvalError.leading? (child name).failures <;> rfl
  -- the errors of the names are the leading errors of the children
  have hleading : EvalError.leading? (LinkedStore.errorsOf resolve (Reference.names raw)) =
      EvalError.leading? (ofText child raw).failures := by
    rw [failures_ofText, List.flatMap_def, ← EvalError.leading?_filterMap, List.filterMap_map]
    simp only [LinkedStore.errorsOf, herror, Reference.distinctNames, Function.comp_def]
  rw [outcome_eq]
  cases hl : EvalError.leading? (ofText child raw).failures with
  | some e => exact LinkedStore.expandWith_of_leading (hleading.trans hl)
  | none =>
    have hnone := EvalError.leading?_eq_none_iff.mp hl
    rw [failures_ofText, List.flatMap_eq_nil_iff] at hnone
    rw [text_ofText]
    refine LinkedStore.expandWith_of_values fun name hn => ?_
    rw [h, outcome_of_failures_eq_nil (hnone name (Reference.mem_distinctNames.mpr hn))]

/-- A postponed leaf is reported even from below a later name. -/
example :
    (ofText
      (fun name =>
        if name = "a".toList then .failure (.denied "a")
        else ofText (fun name => .failure (.postponed name "fs#1")) "$(b) $(c)")
      "$(a) $(d)").outcome = .error (.postponed "b" "fs#1") := by
  decide +kernel

end ExpansionTree

/-! ## The trees of texts -/

namespace LinkedStore

/-- The tree of what a name stands for, given the trees of keys. -/
def referentTree (treeOf : Visit → ExpansionTree) : Except EvalError Referent → ExpansionTree
  | .error e => .failure e
  | .ok (.text value) => .value value
  | .ok (.key visit) => treeOf visit
  | .ok (.nodeKey visit) => treeOf visit

/-- The tree of a text seen from a section, given the trees of keys: a name has the
tree of what it stands for. -/
def textTree (treeOf : Visit → ExpansionTree) (linked : LinkedStore) (sectionName node : Text) :
    Text → ExpansionTree :=
  .ofText fun name => referentTree treeOf (linked.referent sectionName node name).result

/-- The tree of a key, with the trail that leads to it and the room that is left on
it: a failure if the key is on the trail or there is no room, else the tree of its
text. -/
def visitTree (node : Text) : (room : Nat) → Trail → Visit → ExpansionTree
  | room, trail, visit =>
    if visit.entry ∈ trail then .failure (cycleError trail visit.entry)
    else
      match room with
      | 0 => .failure (depthError visit.entry)
      | left + 1 =>
        textTree (visitTree node left (trail ++ [visit.entry])) visit.linked
          visit.key.sectionOrDefault node visit.raw

/-- The tree of a text seen from a section and a node. -/
def expansionTree (linked : LinkedStore) (raw sectionName node : Text) : ExpansionTree :=
  textTree (visitTree node maxReferenceDepth []) linked sectionName node raw

theorem dereference_eq_outcome {enter : Visit → Outcome Text} {treeOf : Visit → ExpansionTree}
    (h : ∀ visit, (enter visit).result = (treeOf visit).outcome) (linked : LinkedStore)
    (sectionName node name : Text) :
    (dereference enter linked sectionName node name).result =
      (referentTree treeOf (linked.referent sectionName node name).result).outcome := by
  unfold dereference Outcome.andThen
  cases (linked.referent sectionName node name).result with
  | error e =>
    cases hp : e.isPostponed <;>
      simp [referentTree, ExpansionTree.outcome, ExpansionTree.failures, hp]
  | ok referent =>
    cases referent with
    | text value => rfl
    | key visit => exact h visit
    | nodeKey visit => exact h visit

theorem enterAt_eq_outcome (node : Text) (room : Nat) (trail : Trail) (visit : Visit) :
    (enterAt node room trail visit).result = (visitTree node room trail visit).outcome := by
  induction room generalizing trail visit with
  | zero =>
    unfold enterAt visitTree
    split <;> rfl
  | succ left ih =>
    unfold enterAt visitTree
    split
    · rfl
    · exact ExpansionTree.expandWith_eq_outcome (dereference_eq_outcome (ih _) _ _ _) _

/-- **Which error an expansion reports.**  The expansion of a text fails with a
postponed error exactly if some leaf of its tree is postponed; it reports the
leftmost postponed leaf, else the leftmost failing leaf, and without a failing leaf
it is the text with every reference replaced. -/
theorem expand_result (linked : LinkedStore) (raw sectionName node : Text) :
    ((∃ e, (linked.expand raw sectionName node).result = .error e ∧ e.isPostponed = true) ↔
      ∃ e ∈ (linked.expansionTree raw sectionName node).failures, e.isPostponed = true) ∧
    (linked.expand raw sectionName node).result =
      match (linked.expansionTree raw sectionName node).failures.find? EvalError.isPostponed,
        (linked.expansionTree raw sectionName node).failures.head? with
      | some e, _ => .error e
      | none, some e => .error e
      | none, none => .ok (linked.expansionTree raw sectionName node).text := by
  have houtcome : (linked.expand raw sectionName node).result =
      (linked.expansionTree raw sectionName node).outcome :=
    ExpansionTree.expandWith_eq_outcome
      (dereference_eq_outcome (enterAt_eq_outcome node maxReferenceDepth []) linked sectionName node)
      raw
  refine ⟨?_, houtcome⟩
  rw [houtcome]
  exact ExpansionTree.outcome_isPostponed_iff _

end LinkedStore
end ScopedConfig

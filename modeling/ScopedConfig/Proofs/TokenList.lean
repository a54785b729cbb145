import ScopedConfig.KeyOp.Basic
import ScopedConfig.Lists
import ScopedConfig.Proofs.Text.Words

/-! # Values are lists of tokens

The operations on values are operations on the lists of their tokens.  A value that is
put together anew has the tokens that it is put together from (`tokens_ofTokens`), and
one that is not put together anew is the old value, blanks and all.  The operand need
not be a token: as one of several tokens it is looked for as it is, and where it is
written it adds the tokens that it has.  So mutations are operations on lists, whatever
the parts of a text are found with (`listOperations`).
-/
namespace ScopedConfig.TokenList

variable {current value token : Text}

theorem hasToken_iff : hasToken current token = true ↔ token ∈ tokens current :=
  List.contains_iff_mem

theorem isWord_of_mem_tokens (h : token ∈ tokens current) : token.IsWord :=
  Text.isWord_of_mem_words h

/-- **A list of tokens is read back from the value that is made of it.** -/
theorem tokens_ofTokens {list : List Text} (h : ∀ token ∈ list, token.IsWord) :
    tokens (ofTokens list) = list :=
  (Text.words_join_space list).trans (Text.flatMap_words h)

/-- Text behind a value adds its tokens. -/
theorem tokens_append (current addition : Text) :
    tokens (append current addition) = tokens current ++ tokens addition := by
  by_cases hempty : current = []
  · subst hempty
    rfl
  · rw [append, if_neg hempty]
    exact Text.words_append_blank current addition (by decide)

theorem merge_of_mem (h : token ∈ tokens current) : merge current token = current :=
  if_pos (hasToken_iff.mpr h)

theorem merge_of_not_mem (h : token ∉ tokens current) :
    merge current token = append current token :=
  if_neg (mt hasToken_iff.mp h)

theorem remove_of_not_mem (h : token ∉ tokens current) : remove current token = current :=
  if_neg (mt hasToken_iff.mp h)

/-- Removing leaves the other tokens. -/
theorem tokens_remove (current token : Text) :
    tokens (remove current token) = (tokens current).filter (· ≠ token) := by
  by_cases hmem : token ∈ tokens current
  · rw [remove, if_pos (hasToken_iff.mpr hmem)]
    refine tokens_ofTokens fun other hother => ?_
    exact isWord_of_mem_tokens (List.mem_filter.mp hother).1
  · rw [remove_of_not_mem hmem, List.filter_eq_self.mpr]
    intro other hother
    rw [decide_eq_true_eq]
    rintro rfl
    exact hmem hother

theorem append_eq_nil_iff {addition : Text} :
    append current addition = [] ↔ addition = [] ∧ current = [] := by
  by_cases hempty : current = []
  · subst hempty
    simp [append]
  · simp [append, hempty]

/-- A token that is merged is there. -/
theorem mem_tokens_merge (current : Text) (h : token.IsWord) :
    token ∈ tokens (merge current token) := by
  by_cases hmem : token ∈ tokens current
  · rwa [merge_of_mem hmem]
  · rw [merge_of_not_mem hmem, tokens_append]
    exact List.mem_append_right _ (Text.mem_words_self_iff.mpr h)

/-- **Merging again changes nothing exactly if a token is merged**, or nothing is merged
into nothing. -/
theorem merge_merge_eq_iff :
    merge (merge current value) value = merge current value ↔
      value.IsWord ∨ value = [] ∧ current = [] := by
  constructor
  · intro h
    by_cases hword : value.IsWord
    · exact .inl hword
    -- what is no token is never found, so it is appended both times
    · have habsent : ∀ text, value ∉ tokens text := fun _ hmem => hword (isWord_of_mem_tokens hmem)
      rw [merge_of_not_mem (habsent _), merge_of_not_mem (habsent _)] at h
      by_cases hempty : append current value = []
      · exact .inr (append_eq_nil_iff.mp hempty)
      · have hlonger : append current value ++ ' ' :: value = append current value := by
          rwa [append, if_neg hempty] at h
        cases List.append_right_eq_self.mp hlonger
  · rintro (hword | ⟨rfl, rfl⟩)
    · exact merge_of_mem (mem_tokens_merge current hword)
    · rfl

/-- Inserting puts the tokens of a value between those before and behind the place. -/
theorem tokens_ofTokens_insertIdx (current value : Text) {index : Nat}
    (h : index ≤ (tokens current).length) :
    tokens (ofTokens ((tokens current).insertIdx index value)) =
      (tokens current).take index ++ tokens value ++ (tokens current).drop index := by
  have hbefore : ∀ token ∈ (tokens current).take index, token.IsWord :=
    fun _ htoken => isWord_of_mem_tokens (List.mem_of_mem_take htoken)
  have hbehind : ∀ token ∈ (tokens current).drop index, token.IsWord :=
    fun _ htoken => isWord_of_mem_tokens (List.mem_of_mem_drop htoken)
  calc tokens (ofTokens ((tokens current).insertIdx index value))
      = ((tokens current).insertIdx index value).flatMap Text.words := Text.words_join_space _
    _ = ((tokens current).take index ++ value :: (tokens current).drop index).flatMap
          Text.words := by rw [Lists.insertIdx_eq_append h]
    _ = (tokens current).take index ++ tokens value ++ (tokens current).drop index := by
        rw [List.flatMap_append, List.flatMap_cons, Text.flatMap_words hbefore,
          Text.flatMap_words hbehind, List.append_assoc]
        rfl

/-! ## What mutations do to the tokens of a value -/

/-- **The parts of a text between its blanks**, but for the empty ones: what the tokens of a
value are, whatever finds them. -/
def parts (text : Text) : List Text := (text.splitOnP Text.isBlank).filter fun part => part ≠ []

theorem tokens_eq_parts (text : Text) : tokens text = parts text :=
  Text.words_eq_filter_splitOnP text

/-- What a mutation with another operator makes of a current value. -/
def applyAs (op : KeyOp) (operator : Operator) (current : Text) : Except KeyOpError Text :=
  KeyOp.apply { op with operator } current

/-- **Mutations are operations on lists of tokens.**  The operators have the operand and the
index of one mutation, and the current value of its key. -/
structure ListOperations (op : KeyOp) (current : Text) : Prop where
  /-- A value that is appended adds its tokens behind. -/
  append : ∃ text, applyAs op .append current = .ok text ∧
    parts text = parts current ++ parts op.value
  /-- Merging leaves a value that has the token as it is, and appends to another one. -/
  merge : applyAs op .merge current =
    if op.value ∈ parts current then .ok current else applyAs op .append current
  /-- Removing takes away the tokens that are the one given, and no others. -/
  remove : ∃ text, applyAs op .remove current = .ok text ∧
    parts text = (parts current).filter (· ≠ op.value)
  /-- A value without the token is left as it is. -/
  remove_absent : op.value ∉ parts current → applyAs op .remove current = .ok current
  /-- Toggling removes a token that is there, and merges another one. -/
  toggle : applyAs op .toggle current =
    if op.value ∈ parts current then applyAs op .remove current else applyAs op .merge current
  /-- Inserting fails exactly beyond the last token, and tells how many there are.  Else
  it parts the tokens at the place, and puts those of the value in between. -/
  insert : match applyAs op .insert current with
    | .error e => (parts current).length < op.index ∧
        e = .indexOutOfRange op.index (parts current).length
    | .ok text => op.index ≤ (parts current).length ∧
        parts text =
          (parts current).take op.index ++ parts op.value ++ (parts current).drop op.index

/-- **The operators work on the tokens of values**, whatever blanks the values have and
whether the operand is a token, several or none. -/
theorem listOperations (op : KeyOp) (current : Text) : ListOperations op current := by
  constructor <;> simp only [← tokens_eq_parts]
  case append => exact ⟨_, rfl, tokens_append current op.value⟩
  case merge =>
    by_cases hmem : op.value ∈ tokens current
    · rw [if_pos hmem]
      exact congrArg Except.ok (merge_of_mem hmem)
    · rw [if_neg hmem]
      exact congrArg Except.ok (merge_of_not_mem hmem)
  case remove => exact ⟨_, rfl, tokens_remove current op.value⟩
  case remove_absent => exact fun hmem => congrArg Except.ok (remove_of_not_mem hmem)
  case toggle =>
    by_cases hmem : op.value ∈ tokens current
    · rw [if_pos hmem]
      exact congrArg Except.ok (if_pos (hasToken_iff.mpr hmem))
    · rw [if_neg hmem]
      exact congrArg Except.ok (if_neg (mt hasToken_iff.mp hmem))
  case insert =>
    by_cases hindex : op.index ≤ (tokens current).length
    · have hinsert : applyAs op .insert current =
          .ok (ofTokens ((tokens current).insertIdx op.index op.value)) := by
        simp only [applyAs, KeyOp.apply, insert?, if_pos hindex]
      rw [hinsert]
      exact ⟨hindex, tokens_ofTokens_insertIdx current op.value hindex⟩
    · have hinsert : applyAs op .insert current =
          .error (.indexOutOfRange op.index (tokens current).length) := by
        simp only [applyAs, KeyOp.apply, insert?, if_neg hindex]
      rw [hinsert]
      exact ⟨Nat.not_le.mp hindex, rfl⟩

end ScopedConfig.TokenList

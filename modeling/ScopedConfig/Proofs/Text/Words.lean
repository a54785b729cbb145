import Mathlib.Data.List.Basic
import ScopedConfig.Proofs.Text.Lines

/-! # Words of a text

A text has the words of what is before a blank and then those of what is behind it
(`words_append_blank`), whatever blanks there are.  So words that are joined with
spaces are found again, and a part that is joined in without being a word is found as
the words that it has (`words_join_space`).
-/
namespace ScopedConfig.Text

/-- **A text that is one word**: it is not empty and has no blanks. -/
def IsWord (text : Text) : Prop := text ≠ [] ∧ text.any isBlank = false

instance (text : Text) : Decidable text.IsWord := inferInstanceAs (Decidable (_ ∧ _))

/-- The fields of a text are those of the split of lists. -/
theorem splitWhere_eq_splitOnP (p : Char → Bool) (text : Text) :
    splitWhere p text = text.splitOnP p := by
  induction text with
  | nil => exact List.splitOnP_nil.symm
  | cons c rest ih =>
    rw [splitWhere, List.splitOnP_cons_eq_if_modifyHead, ← ih]
    by_cases hc : p c = true
    · rw [if_pos hc, if_pos hc]
    · rw [if_neg hc, if_neg hc]
      obtain ⟨field, fields, hfields⟩ := List.exists_cons_of_ne_nil (splitWhere_ne_nil p rest)
      rw [hfields]
      rfl

/-- **The words are the fields between blanks that are not empty.** -/
theorem words_eq_filter_splitOnP (text : Text) :
    words text = (text.splitOnP isBlank).filter fun field => field ≠ [] := by
  rw [words, splitWhere_eq_splitOnP]
  refine List.filter_congr fun field _ => ?_
  cases field <;> rfl

theorem isWord_of_mem_words {text word : Text} (h : word ∈ words text) : word.IsWord := by
  obtain ⟨hmem, hne⟩ := List.mem_filter.mp h
  exact ⟨by simpa using hne, any_eq_false_of_mem_splitWhere hmem⟩

/-- **A blank parts the words.** -/
theorem words_append_blank (before after : Text) {c : Char} (h : isBlank c = true) :
    words (before ++ c :: after) = words before ++ words after := by
  simp only [words_eq_filter_splitOnP]
  rw [List.splitOnP_append_cons before after h, List.filter_append]

/-- A word is the only one that it has. -/
theorem words_of_isWord {word : Text} (h : word.IsWord) : words word = [word] := by
  obtain ⟨hne, hsolid⟩ := h
  have hfields : splitWhere isBlank word = [word] := by
    rw [splitWhere_eq_splitOnP]
    exact List.splitOnP_eq_singleton fun c hc =>
      Bool.eq_false_iff.mpr (List.any_eq_false.mp hsolid c hc)
  rw [words, hfields]
  simp [hne]

/-- A text is among its words exactly if it is one. -/
theorem mem_words_self_iff {text : Text} : text ∈ words text ↔ text.IsWord := by
  constructor
  · exact isWord_of_mem_words
  · intro h
    rw [words_of_isWord h]
    exact List.mem_singleton_self text

/-- **Parts that are joined with spaces have the words of all parts**, in order. -/
theorem words_join_space (parts : List Text) : words (join [' '] parts) = parts.flatMap words := by
  induction parts with
  | nil => rfl
  | cons part parts ih =>
    cases parts with
    | nil => simp [join]
    | cons next rest =>
      have hjoin : join [' '] (part :: next :: rest) = part ++ ' ' :: join [' '] (next :: rest) := by
        simp [join]
      rw [hjoin, words_append_blank _ _ (by decide), ih]
      exact List.flatMap_cons.symm

/-- Words have themselves. -/
theorem flatMap_words {parts : List Text} (h : ∀ part ∈ parts, part.IsWord) :
    parts.flatMap words = parts := by
  induction parts with
  | nil => rfl
  | cons part rest ih =>
    obtain ⟨hpart, hrest⟩ := List.forall_mem_cons.mp h
    rw [List.flatMap_cons, words_of_isWord hpart, ih hrest, List.singleton_append]

end ScopedConfig.Text

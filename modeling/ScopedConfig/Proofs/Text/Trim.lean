import Mathlib.Data.List.DropRight
import ScopedConfig.Text.Blank

/-! # Trimmed texts

A text is **trimmed** when no blank is at either of its ends, and the texts that
`trim` returns are exactly the trimmed ones (`trim_eq_self_iff`, `trim_trim`).
What reading relies on is that a character that is no blank stops the trimming:
behind such a first character, and before such a last one, nothing is lost.
-/
namespace ScopedConfig.Text

/-- A text whose first character, if there is one, is no blank. -/
def StartsSolid (text : Text) : Prop := ∀ c, text.head? = some c → isBlank c = false

/-- A text whose last character, if there is one, is no blank. -/
def EndsSolid (text : Text) : Prop := ∀ c, text.getLast? = some c → isBlank c = false

theorem inRanges_eq_false {ranges : List (Nat × Nat)} {c : Char}
    (h : ∀ range ∈ ranges, range.2 < c.toNat ∨ c.toNat < range.1) : inRanges ranges c = false := by
  rw [inRanges, List.any_eq_false]
  intro range hrange hin
  rw [Bool.and_eq_true, decide_eq_true_eq, decide_eq_true_eq] at hin
  have := h range hrange
  omega

/-- No visible character of ASCII is a blank. -/
theorem isBlank_eq_false {c : Char} (h : 33 ≤ c.toNat ∧ c.toNat ≤ 126) : isBlank c = false := by
  have htable : ∀ range ∈ blankRanges, range.2 < 33 ∨ 126 < range.1 := by decide
  refine inRanges_eq_false fun range hrange => ?_
  have := htable range hrange
  omega

theorem trimStart_eq_self_iff {text : Text} : trimStart text = text ↔ StartsSolid text := by
  cases text with
  | nil => simp [trimStart, StartsSolid]
  | cons c rest => simp [trimStart, StartsSolid, List.dropWhile_eq_self_iff]

theorem trimEnd_eq_self_iff {text : Text} : trimEnd text = text ↔ EndsSolid text := by
  rw [show trimEnd text = text.rdropWhile isBlank from rfl, List.rdropWhile_eq_self_iff]
  constructor
  · intro h c hc
    obtain ⟨hne, hlast⟩ := List.mem_getLast?_eq_getLast hc
    exact Bool.eq_false_iff.mpr (hlast ▸ h hne)
  · intro h hne
    exact Bool.eq_false_iff.mp (h _ (List.getLast?_eq_some_getLast hne))

theorem startsSolid_nil : StartsSolid [] := fun _ h => by cases h

theorem startsSolid_cons {c : Char} {rest : Text} (h : isBlank c = false) :
    StartsSolid (c :: rest) := fun d hd => by
  rw [List.head?_cons, Option.some.injEq] at hd
  exact hd ▸ h

theorem endsSolid_concat {c : Char} (text : Text) (h : isBlank c = false) :
    EndsSolid (text ++ [c]) := fun d hd => by
  rw [List.getLast?_concat, Option.some.injEq] at hd
  exact hd ▸ h

theorem startsSolid_trimStart (text : Text) : StartsSolid (trimStart text) :=
  trimStart_eq_self_iff.mp (List.dropWhile_idempotent isBlank text)

theorem endsSolid_trimEnd (text : Text) : EndsSolid (trimEnd text) :=
  trimEnd_eq_self_iff.mp (List.rdropWhile_idempotent isBlank text)

theorem trimEnd_prefix_self (text : Text) : trimEnd text <+: text :=
  List.rdropWhile_prefix isBlank text

/-- Dropping the blanks at the end of a text leaves its first character alone. -/
theorem StartsSolid.trimEnd {text : Text} (h : StartsSolid text) :
    StartsSolid (Text.trimEnd text) := by
  intro c hc
  obtain ⟨rest, hrest⟩ := trimEnd_prefix_self text
  refine h c ?_
  rw [← hrest, List.head?_append, hc]
  rfl

theorem startsSolid_trim (text : Text) : StartsSolid (trim text) :=
  (startsSolid_trimStart text).trimEnd

theorem endsSolid_trim (text : Text) : EndsSolid (trim text) := endsSolid_trimEnd _

theorem trim_of_solid {text : Text} (hs : StartsSolid text) (he : EndsSolid text) :
    trim text = text := by
  rw [trim, trimStart_eq_self_iff.mpr hs, trimEnd_eq_self_iff.mpr he]

theorem trim_eq_self_iff {text : Text} : trim text = text ↔ StartsSolid text ∧ EndsSolid text :=
  ⟨fun h => h ▸ ⟨startsSolid_trim text, endsSolid_trim text⟩, fun h => trim_of_solid h.1 h.2⟩

/-- Trimming twice is trimming once. -/
theorem trim_trim (text : Text) : trim (trim text) = trim text :=
  trim_of_solid (startsSolid_trim text) (endsSolid_trim text)

theorem mem_of_mem_trim {c : Char} {text : Text} (h : c ∈ trim text) : c ∈ text :=
  (List.dropWhile_suffix isBlank).subset ((trimEnd_prefix_self _).subset h)

theorem trimEnd_cons_of_solid {c : Char} (rest : Text) (h : isBlank c = false) :
    trimEnd (c :: rest) = c :: trimEnd rest := by
  induction rest using List.reverseRecOn with
  | nil => simp [trimEnd, h]
  | append_singleton rest d ih =>
    have hcons : c :: (rest ++ [d]) = (c :: rest) ++ [d] := rfl
    rw [hcons]
    by_cases hd : isBlank d = true
    · rw [show trimEnd (c :: rest ++ [d]) = trimEnd (c :: rest) from
          List.rdropWhile_concat_pos isBlank _ d hd,
        show trimEnd (rest ++ [d]) = trimEnd rest from
          List.rdropWhile_concat_pos isBlank _ d hd, ih]
    · rw [show trimEnd (c :: rest ++ [d]) = c :: rest ++ [d] from
          List.rdropWhile_concat_neg isBlank _ d hd,
        show trimEnd (rest ++ [d]) = rest ++ [d] from
          List.rdropWhile_concat_neg isBlank _ d hd]
      rfl

/-- A line that starts with a character that is no blank still does when it is
trimmed. -/
theorem trim_cons_of_solid {c : Char} (rest : Text) (h : isBlank c = false) :
    trim (c :: rest) = c :: trimEnd rest := by
  rw [trim, trimStart_eq_self_iff.mpr (startsSolid_cons h), trimEnd_cons_of_solid rest h]

theorem head?_trim (text : Text) : (trim text).head? = (trimStart text).head? := by
  have hstarts := startsSolid_trimStart text
  rw [trim]
  cases h : trimStart text with
  | nil => rfl
  | cons c rest =>
    rw [trimEnd_cons_of_solid rest (hstarts c (by rw [h]; rfl))]
    rfl

/-- What stands behind a text that is not blank does not matter to its first solid
character. -/
theorem head?_trim_append {text : Text} (h : trim text ≠ []) (rest : Text) :
    (trim (text ++ rest)).head? = (trim text).head? := by
  have hstart : (text.dropWhile isBlank).isEmpty = false := by
    rw [List.isEmpty_eq_false_iff]
    intro e
    exact h (by rw [trim, trimStart, e]; rfl)
  rw [head?_trim, head?_trim, trimStart, trimStart, List.dropWhile_append, hstart]
  obtain ⟨c, tail, htail⟩ := List.exists_cons_of_ne_nil (List.isEmpty_eq_false_iff.mp hstart)
  rw [htail]
  rfl

/-- A blank behind a trimmed text is all that trimming takes away. -/
theorem trim_concat_of_blank {text : Text} {b : Char} (ht : trim text = text)
    (hne : text ≠ []) (hb : isBlank b = true) : trim (text ++ [b]) = text := by
  obtain ⟨c, rest, rfl⟩ := List.exists_cons_of_ne_nil hne
  have hc : isBlank c = false := (trim_eq_self_iff.mp ht).1 c rfl
  have hend : trimEnd (c :: rest) = c :: rest :=
    trimEnd_eq_self_iff.mpr (trim_eq_self_iff.mp ht).2
  rw [trim, List.cons_append, trimStart_eq_self_iff.mpr (startsSolid_cons hc),
    ← List.cons_append]
  exact (List.rdropWhile_concat_pos isBlank (c :: rest) b hb).trans hend

theorem startsBlank_eq_false {text : Text} (h : StartsSolid text) : startsBlank text = false := by
  cases text with
  | nil => rfl
  | cons c rest => exact h c rfl

end ScopedConfig.Text

import Mathlib.Data.List.Basic
import ScopedConfig.Key
import ScopedConfig.Proofs.Text.Cut

/-! # Keys and their texts

A key is read from the text that has its section in it, up to the first dot, and an
option without a dot is read as a key without a section.  The text that leaves the default
section out is the end of every text of the key, and it means the same key unless the
option has a dot (`exists_read_text_iff`): then the option is taken for a section and
an option of that.
-/
namespace ScopedConfig.Key

variable {key : Key} {text : Text}

/-- The text of a key, section included. -/
def fullText (key : Key) : Text := key.sectionName ++ '.' :: key.option

theorem read_fullText (hsection : '.' ∉ key.sectionName) (hoption : key.option ≠ []) :
    Key.read key.fullText = .ok key := by
  unfold Key.read fullText
  rw [Text.cut_append hsection]
  exact if_neg hoption

theorem read_option (hdot : '.' ∉ key.option) (hoption : key.option ≠ []) :
    Key.read key.option = .ok ⟨[], key.option⟩ := by
  unfold Key.read
  rw [Text.cut_eq_none_iff.mpr hdot]
  exact if_neg hoption

/-- A text that is read as a key is its option, or all of it. -/
theorem of_read_eq_ok (h : Key.read text = .ok key) :
    key.option ≠ [] ∧
      (key.sectionName = [] ∧ '.' ∉ key.option ∧ text = key.option ∨
        '.' ∉ key.sectionName ∧ text = key.fullText) := by
  unfold Key.read at h
  cases hcut : Text.cut '.' text with
  | none =>
    rw [hcut] at h
    dsimp only at h
    split at h
    · cases h
    · next hoption =>
      cases h
      exact ⟨hoption, .inl ⟨rfl, Text.cut_eq_none_iff.mp hcut, rfl⟩⟩
  | some parts =>
    obtain ⟨htext, hdot⟩ := Text.cut_eq_some hcut
    rw [hcut] at h
    dsimp only at h
    split at h
    · cases h
    · next hoption =>
      cases h
      exact ⟨hoption, .inr ⟨hdot, htext⟩⟩

theorem text_of_default (h : key.sectionOrDefault = defaultSection) : key.text = key.option := by
  unfold sectionOrDefault at h
  split at h
  · next hnone => exact if_pos (.inl hnone)
  · exact if_pos (.inr h)

theorem text_of_not_default (h : key.sectionOrDefault ≠ defaultSection) :
    key.sectionName ≠ [] ∧ key.text = key.fullText := by
  unfold sectionOrDefault at h
  split at h
  · exact absurd rfl h
  · next hsome => exact ⟨hsome, if_neg (not_or.mpr ⟨hsome, h⟩)⟩

/-- A key leaves out of the text that it is read from no more than what precedes the
option. -/
theorem exists_append_text (h : Key.read text = .ok key) : ∃ start, start ++ key.text = text := by
  obtain ⟨-, ⟨hnone, -, rfl⟩ | ⟨-, rfl⟩⟩ := of_read_eq_ok h
  · exact ⟨[], text_of_default (if_pos hnone)⟩
  · by_cases hdefault : key.sectionOrDefault = defaultSection
    · refine ⟨key.sectionName ++ ['.'], ?_⟩
      rw [text_of_default hdefault, List.append_assoc]
      rfl
    · exact ⟨[], (text_of_not_default hdefault).2⟩

theorem text_ne_nil (h : Key.read text = .ok key) : key.text ≠ [] := by
  obtain ⟨hoption, -⟩ := of_read_eq_ok h
  unfold Key.text
  split
  · exact hoption
  · exact List.append_ne_nil_of_right_ne_nil _ (List.cons_ne_nil _ _)

/-- **The text of a key that has been read means that key**, exactly unless it leaves the
default section out before an option with a dot. -/
theorem exists_read_text_iff (h : Key.read text = .ok key) :
    (∃ again, Key.read key.text = .ok again ∧
      again.sectionOrDefault = key.sectionOrDefault ∧ again.option = key.option) ↔
      (key.sectionOrDefault = defaultSection → '.' ∉ key.option) := by
  obtain ⟨hoption, hfrom⟩ := of_read_eq_ok h
  constructor
  · rintro ⟨again, hread, -, hsame⟩ hdefault hdot
    rw [text_of_default hdefault] at hread
    obtain ⟨-, ⟨-, hundotted, -⟩ | ⟨-, hcut⟩⟩ := of_read_eq_ok hread
    · exact hundotted (hsame ▸ hdot)
    · -- what follows the dot is shorter than the option
      have hlength := congrArg List.length hcut
      rw [fullText, hsame, List.length_append, List.length_cons] at hlength
      omega
  · intro hundotted
    by_cases hdefault : key.sectionOrDefault = defaultSection
    · refine ⟨⟨[], key.option⟩, ?_, hdefault.symm, rfl⟩
      rw [text_of_default hdefault]
      exact read_option (hundotted hdefault) hoption
    · obtain ⟨hsome, htext⟩ := text_of_not_default hdefault
      obtain ⟨hnone, -⟩ | ⟨hdot, -⟩ := hfrom
      · exact absurd hnone hsome
      · exact ⟨key, htext ▸ read_fullText hdot hoption, rfl, rfl⟩

end ScopedConfig.Key

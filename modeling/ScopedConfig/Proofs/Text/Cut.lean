import Mathlib.Data.List.Basic
import ScopedConfig.Text.Basic

/-! # Cutting a text

A text is cut at its first separator, or around a fixed beginning or ending.  Each
of these undoes the putting together, and says how the text was put together where
it succeeds.
-/
namespace ScopedConfig.Text

theorem cut_append {s : Char} {before : Text} (h : s ∉ before) (after : Text) :
    cut s (before ++ s :: after) = some (before, after) := by
  induction before with
  | nil => simp [cut]
  | cons c before ih =>
    have hc : c ≠ s := (List.ne_of_not_mem_cons h).symm
    simp [cut, hc, ih (List.not_mem_of_not_mem_cons h)]

theorem cut_eq_some {s : Char} {text before after : Text}
    (h : cut s text = some (before, after)) : text = before ++ s :: after ∧ s ∉ before := by
  induction text generalizing before with
  | nil => cases h
  | cons c text ih =>
    rw [cut] at h
    split at h
    · next hc =>
      obtain ⟨rfl, rfl⟩ := Prod.mk.inj (Option.some.inj h)
      exact ⟨by rw [hc, List.nil_append], List.not_mem_nil⟩
    · next hc =>
      obtain ⟨⟨rest, after'⟩, hcut, e⟩ := Option.map_eq_some_iff.mp h
      obtain ⟨rfl, rfl⟩ := Prod.mk.inj e
      obtain ⟨rfl, hrest⟩ := ih hcut
      exact ⟨rfl, fun hs => (List.mem_cons.mp hs).elim (fun e => hc e.symm) hrest⟩

theorem cut_eq_none_iff {s : Char} {text : Text} : cut s text = none ↔ s ∉ text := by
  induction text with
  | nil => simp [cut]
  | cons c text ih =>
    by_cases hc : c = s
    · simp [cut, hc]
    · have hc' : ¬ s = c := fun e => hc e.symm
      simp [cut, hc, hc', ih]

theorem before?_concat (c : Char) (text : Text) : before? c (text ++ [c]) = some text := by
  simp [before?]

theorem before?_eq_some {c : Char} {text before : Text} (h : before? c text = some before) :
    text = before ++ [c] := by
  unfold before? at h
  split at h
  · next hlast =>
    obtain rfl := Option.some.inj h
    exact (List.dropLast_append_getLast? c hlast).symm
  · cases h

theorem after?_append (start text : Text) : after? start (start ++ text) = some text := by
  induction start with
  | nil => rfl
  | cons c start ih => simpa [after?] using ih

theorem after?_eq_some_iff {start text rest : Text} :
    after? start text = some rest ↔ text = start ++ rest := by
  constructor
  · intro h
    induction start generalizing text with
    | nil => exact Option.some.inj h
    | cons s start ih =>
      cases text with
      | nil => cases h
      | cons c text =>
        rw [after?] at h
        split at h
        · next hsame => rw [hsame, ih h, List.cons_append]
        · cases h
  · rintro rfl
    exact after?_append start rest

end ScopedConfig.Text

import ScopedConfig.Proofs.Text.Cut
import ScopedConfig.Reference.Scan

/-! # A text that is one reference

What encloses a reference is no character of a name, so the token of a reference is
read as that reference and nothing else (`scan_token`).  What it encloses is cut at the
first colon; the names of the modifiers have none, so a modifier that is written before
a name is read back (`parts_written`, `name_written`), and without one the name is
what is enclosed, unless it begins like a modifier itself.
-/
namespace ScopedConfig

namespace Piece

/-- The characters of a reference that has been read are passed over. -/
theorem scanFrom_length (before : Option Char) (passed rest : Text) :
    scanFrom before passed.length (passed ++ rest) =
      scanFrom (passed.getLast?.or before) 0 rest := by
  induction passed generalizing before with
  | nil => rfl
  | cons c passed ih =>
    rw [List.length_cons, List.cons_append, scanFrom, ih, List.getLast?_cons, Option.some_or]
    cases passed.getLast? <;> rfl

end Piece

namespace Reference

variable {r : Reference} {enclosure : Enclosure} {name inner : Text}

/-- Whether a text can be enclosed as a reference. -/
def IsInner (inner : Text) : Prop := inner ≠ [] ∧ ∀ c ∈ inner, isNameCharacter c = true

-- the general instance may go through every character that there is
instance (inner : Text) : Decidable (IsInner inner) :=
  decidable_of_iff (inner ≠ [] ∧ inner.all isNameCharacter = true)
    (and_congr_right fun _ => List.all_eq_true)

/-- Whether a name begins with a modifier and a colon. -/
def HasModifier (name : Text) : Prop :=
  ∃ (modifier : Modifier) (rest : Text), name = modifier.name ++ ':' :: rest

/-! ## Reading a token -/

/-- **A reference can stand** behind a character, or at the start of a text: it encloses
characters of a name, and if it is in braces, that is no dollar sign. -/
structure CanFollow (r : Reference) (previous : Option Char) : Prop where
  inner : IsInner r.inner
  unescaped : r.enclosure = .braces → previous ≠ some '$'

theorem canFollow_none_iff : r.CanFollow none ↔ IsInner r.inner :=
  ⟨CanFollow.inner, fun h => ⟨h, fun _ => by simp⟩⟩

theorem innerBefore?_eq_some_iff {closing : Char} (hclosing : isNameCharacter closing = false)
    {text : Text} :
    innerBefore? closing text = some inner ↔
      IsInner inner ∧ ∃ after, text = inner ++ closing :: after := by
  constructor
  · intro h
    have hall := List.all_eq_true.mp (List.all_takeWhile (p := isNameCharacter) (l := text))
    have htext := List.takeWhile_append_dropWhile (p := isNameCharacter) (l := text)
    unfold innerBefore? at h
    split at h
    · cases h
    · next hne =>
      split at h
      · next hhead =>
        obtain rfl := Option.some.inj h
        refine ⟨⟨hne, hall⟩, (text.dropWhile isNameCharacter).tail, ?_⟩
        rw [← List.eq_cons_of_mem_head? hhead, htext]
      · cases h
  · rintro ⟨h, after, rfl⟩
    have htake : (inner ++ closing :: after).takeWhile isNameCharacter = inner := by
      rw [List.takeWhile_append_of_pos h.2, List.takeWhile_cons_of_neg (by simp [hclosing]),
        List.append_nil]
    have hdrop : (inner ++ closing :: after).dropWhile isNameCharacter = closing :: after := by
      rw [List.dropWhile_append_of_pos h.2, List.dropWhile_cons_of_neg (by simp [hclosing])]
    obtain ⟨c, rest, rfl⟩ := List.exists_cons_of_ne_nil h.1
    unfold innerBefore?
    rw [htake, hdrop]
    exact if_pos rfl

/-- **A reference is read at the start of a text exactly if its token stands there** and
it can follow the character before. -/
theorem at?_eq_some_iff {previous : Option Char} {text : Text} :
    at? previous text = some r ↔ r.CanFollow previous ∧ ∃ after, text = r.token ++ after := by
  have hparenthesis : isNameCharacter ')' = false := by decide +kernel
  have hbrace : isNameCharacter '\x7d' = false := by decide +kernel
  constructor
  · intro h
    unfold at? at h
    split at h
    · obtain ⟨inner, hinner, rfl⟩ := Option.map_eq_some_iff.mp h
      obtain ⟨hin, after, rfl⟩ := (innerBefore?_eq_some_iff hparenthesis).mp hinner
      exact ⟨⟨hin, by simp⟩, after, by simp [token]⟩
    · split at h
      · cases h
      · next hprevious =>
        obtain ⟨inner, hinner, rfl⟩ := Option.map_eq_some_iff.mp h
        obtain ⟨hin, after, rfl⟩ := (innerBefore?_eq_some_iff hbrace).mp hinner
        exact ⟨⟨hin, fun _ => hprevious⟩, after, by simp [token]⟩
    · cases h
  · rintro ⟨⟨hinner, hprevious⟩, after, rfl⟩
    obtain ⟨enclosure, inner⟩ := r
    cases enclosure with
    | parentheses =>
      have hread := (innerBefore?_eq_some_iff hparenthesis).mpr ⟨hinner, after, rfl⟩
      simp [token, at?, hread]
    | braces =>
      have hread := (innerBefore?_eq_some_iff hbrace).mpr ⟨hinner, after, rfl⟩
      simp [token, at?, hread, hprevious rfl]

theorem at?_token (h : IsInner r.inner) : at? none r.token = some r :=
  at?_eq_some_iff.mpr ⟨canFollow_none_iff.mpr h, [], (List.append_nil _).symm⟩

/-- The sign that a token begins with stands nowhere else in it. -/
theorem exists_token_eq_cons (r : Reference) :
    ∃ opening rest, r.token = opening :: rest ∧ (opening = '$' ∨ opening = '\x7b') ∧
      (IsInner r.inner → '$' ∉ rest ∧ '\x7b' ∉ rest) := by
  have hdollar : isNameCharacter '$' ≠ true := by decide +kernel
  have hbrace : isNameCharacter '\x7b' ≠ true := by decide +kernel
  obtain ⟨enclosure, inner⟩ := r
  cases enclosure with
  | parentheses =>
    refine ⟨_, _, rfl, .inl rfl, fun h => ⟨?_, ?_⟩⟩
    · simpa using fun hc => hdollar (h.2 _ hc)
    · simpa using fun hc => hbrace (h.2 _ hc)
  | braces =>
    refine ⟨_, _, rfl, .inr rfl, fun h => ⟨?_, ?_⟩⟩
    · simpa using fun hc => hdollar (h.2 _ hc)
    · simpa using fun hc => hbrace (h.2 _ hc)

/-- **The token of a reference is scanned as that reference.** -/
theorem scan_token (h : IsInner r.inner) : Piece.scan r.token = [.reference r] := by
  obtain ⟨c, rest, htoken, -⟩ := r.exists_token_eq_cons
  have hread := at?_token h
  rw [htoken] at hread
  have hpassed : Piece.scanFrom (some c) rest.length rest = [] := by
    have hall := Piece.scanFrom_length (some c) rest []
    rwa [List.append_nil] at hall
  rw [Piece.scan, htoken, Piece.scanFrom, hread]
  dsimp only
  rw [htoken, List.length_cons, Nat.add_sub_cancel, hpassed]

theorem names_token (h : IsInner r.inner) : names r.token = [r.name] := by
  rw [names, all, scan_token h]
  rfl

/-! ## Modifier and name -/

theorem colon_not_mem_name (modifier : Modifier) : ':' ∉ modifier.name := by
  cases modifier <;> decide

theorem ofName?_name (modifier : Modifier) : Modifier.ofName? modifier.name = some modifier := by
  cases modifier <;> decide

theorem parts_of_modifier (modifier : Modifier) (name : Text) :
    parts (modifier.name ++ ':' :: name) = (some modifier, name) := by
  unfold parts
  rw [Text.cut_append (colon_not_mem_name modifier)]
  dsimp only
  rw [ofName?_name]

theorem parts_of_not_hasModifier (h : ¬ HasModifier name) : parts name = (none, name) := by
  unfold parts
  split
  · rfl
  · next before after hcut =>
    split
    · next modifier hname =>
      have hbefore : modifier.name = before := by simpa using List.find?_some hname
      exact absurd ⟨modifier, after, hbefore ▸ (Text.cut_eq_some hcut).1⟩ h
    · rfl

theorem not_hasModifier_of_not_mem (h : ':' ∉ name) : ¬ HasModifier name := by
  rintro ⟨modifier, rest, rfl⟩
  exact h (List.mem_append_right _ List.mem_cons_self)

/-- The reference to a name, with a modifier before it or without. -/
def written (enclosure : Enclosure) (modifier? : Option Modifier) (name : Text) : Reference :=
  ⟨enclosure, match modifier? with
    | some modifier => modifier.name ++ ':' :: name
    | none => name⟩

variable {modifier? : Option Modifier}

theorem isInner_written (h : IsInner name) : IsInner (written enclosure modifier? name).inner := by
  cases modifier? with
  | none => exact h
  | some modifier =>
    have hname : modifier.name.all isNameCharacter = true := by
      cases modifier <;> decide +kernel
    refine ⟨by simp [written], fun c hc => ?_⟩
    rcases List.mem_append.mp hc with hc | hc
    · exact List.all_eq_true.mp hname c hc
    · rcases List.mem_cons.mp hc with rfl | hc
      · decide +kernel
      · exact h.2 c hc

theorem parts_written (h : ¬ HasModifier name) :
    parts (written enclosure modifier? name).inner = (modifier?, name) := by
  cases modifier? with
  | none => exact parts_of_not_hasModifier h
  | some modifier => exact parts_of_modifier modifier name

theorem name_written (h : ¬ HasModifier name) :
    (written enclosure modifier? name).name = name :=
  congrArg Prod.snd (parts_written h)

/-- What a reference makes of the text that its name stands for. -/
theorem modify_written (h : ¬ HasModifier name) :
    (written enclosure modifier? name).modify = modifier?.elim id Modifier.apply := by
  have hmodifier : (written enclosure modifier? name).modifier? = modifier? :=
    congrArg Prod.fst (parts_written h)
  funext value
  unfold modify
  rw [hmodifier]
  cases modifier? <;> rfl

end Reference
end ScopedConfig

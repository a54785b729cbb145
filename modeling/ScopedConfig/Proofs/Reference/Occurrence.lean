import Mathlib.Data.List.Basic
import ScopedConfig.Proofs.Reference.Token

/-! # Where references stand

A text is read from left to right, and a reference that is read is passed over.  No
reference is lost or made up by that: a reference that begins inside another one would
begin with a sign that stands nowhere in a token but in front (`occursFrom_token`), and
where no reference begins the next character decides nothing but what follows it
(`occursFrom_char`).  So the references of a text are all that occur in it
(`mem_locate_iff`), and `located_exact` says which those are without any reading.
-/
namespace ScopedConfig

/-! ## Reading pieces -/

namespace Piece

/-- **The pieces of a text**, given the character before it: a reference where one
stands, and a character where none does. -/
inductive Reads : Option Char → Text → List Piece → Prop
  | nil (previous : Option Char) : Reads previous [] []
  | reference {previous : Option Char} {r : Reference} {after : Text} {pieces : List Piece}
      (h : r.CanFollow previous) (rest : Reads r.token.getLast? after pieces) :
      Reads previous (r.token ++ after) (.reference r :: pieces)
  | char {previous : Option Char} {c : Char} {after : Text} {pieces : List Piece}
      (h : ∀ r : Reference, r.CanFollow previous → ¬ r.token <+: c :: after)
      (rest : Reads (some c) after pieces) :
      Reads previous (c :: after) (.char c :: pieces)

/-- A text is read as its pieces. -/
theorem reads_scanFrom (previous : Option Char) (text : Text) :
    Reads previous text (scanFrom previous 0 text) := by
  induction hn : text.length using Nat.strongRecOn generalizing previous text with
  | ind n ih =>
    subst hn
    cases text with
    | nil => exact .nil previous
    | cons c rest =>
      rw [scanFrom]
      cases hat : Reference.at? previous (c :: rest) with
      | none =>
        refine .char (fun r hr hprefix => ?_) (ih rest.length (Nat.lt_succ_self _) _ _ rfl)
        obtain ⟨after, hafter⟩ := hprefix
        rw [Reference.at?_eq_some_iff.mpr ⟨hr, after, hafter.symm⟩] at hat
        cases hat
      | some r =>
        obtain ⟨hr, after, htext⟩ := Reference.at?_eq_some_iff.mp hat
        obtain ⟨opening, inside, htoken, -⟩ := r.exists_token_eq_cons
        -- what is left of the token is passed over
        rw [htoken, List.cons_append] at htext
        obtain ⟨rfl, rfl⟩ := List.cons.inj htext
        have hlast : inside.getLast?.or (some c) = r.token.getLast? := by
          rw [htoken, List.getLast?_cons]
          cases inside.getLast? <;> rfl
        dsimp only
        rw [htoken, List.length_cons, Nat.add_sub_cancel, scanFrom_length, hlast,
          ← List.cons_append, ← htoken]
        refine .reference hr (ih after.length ?_ _ _ rfl)
        rw [List.length_cons, List.length_append]
        omega

variable {previous : Option Char} {text : Text} {pieces : List Piece}

/-- Nothing of a text is lost in its pieces. -/
theorem Reads.flatMap_text (h : Reads previous text pieces) : pieces.flatMap Piece.text = text := by
  induction h with
  | nil => rfl
  | reference _ _ ih => rw [List.flatMap_cons, ih, Piece.text]
  | char _ _ ih => rw [List.flatMap_cons, ih, Piece.text, List.singleton_append]

end Piece

/-! ## Occurrences -/

namespace Located

/-- **A reference occurs in a text**: its token stands there, from the one byte up to the
other, and it can follow what is before. -/
def OccursIn (text : Text) (l : Located) : Prop :=
  ∃ before after, text = before ++ l.reference.token ++ after ∧
    (String.ofList before).utf8ByteSize = l.start ∧
    (String.ofList (before ++ l.reference.token)).utf8ByteSize = l.stop ∧
    l.reference.CanFollow before.getLast?

/-- A reference occurs in the part of a text from an offset on, with a character before
it. -/
def OccursFrom (offset : Nat) (previous : Option Char) (text : Text) (l : Located) : Prop :=
  ∃ before after, text = before ++ l.reference.token ++ after ∧
    offset + Text.byteSize before = l.start ∧
    l.start + Text.byteSize l.reference.token = l.stop ∧
    l.reference.CanFollow (before.getLast?.or previous)

variable {l : Located} {offset : Nat} {previous : Option Char} {after : Text}

theorem occursFrom_zero {text : Text} : l.OccursFrom 0 none text ↔ l.OccursIn text := by
  unfold OccursFrom OccursIn
  simp only [Text.byteSize_eq, Nat.zero_add, Option.or_none, String.ofList_append,
    String.utf8ByteSize_append]
  grind

theorem not_occursFrom_nil : ¬ l.OccursFrom offset previous [] := by
  rintro ⟨before, after, h, -⟩
  obtain ⟨opening, inside, htoken, -⟩ := l.reference.exists_token_eq_cons
  simp [htoken] at h

/-- Where no reference begins, one occurs exactly if it does behind the next
character. -/
theorem occursFrom_char {c : Char}
    (h : ∀ r : Reference, r.CanFollow previous → ¬ r.token <+: c :: after) :
    l.OccursFrom offset previous (c :: after) ↔
      l.OccursFrom (offset + c.utf8Size) (some c) after := by
  constructor
  · rintro ⟨before, behind, htext, hstart, hstop, hfollow⟩
    cases before with
    | nil => exact absurd ⟨behind, htext.symm⟩ (h _ hfollow)
    | cons d before =>
      obtain ⟨rfl, rfl⟩ := List.cons.inj htext
      refine ⟨before, behind, rfl, ?_, hstop, ?_⟩
      · rw [← hstart, Text.byteSize, Nat.add_assoc]
      · rw [List.getLast?_cons] at hfollow
        cases hlast : before.getLast? <;> simpa [hlast] using hfollow
  · rintro ⟨before, behind, rfl, hstart, hstop, hfollow⟩
    refine ⟨c :: before, behind, rfl, ?_, hstop, ?_⟩
    · rw [← hstart, Text.byteSize, Nat.add_assoc]
    · rw [List.getLast?_cons]
      cases hlast : before.getLast? <;> simpa [hlast] using hfollow

/-- Of a token and what follows it, the last character is not one before the token. -/
theorem getLast?_token_append (r : Reference) (more : Text) (previous : Option Char) :
    (r.token ++ more).getLast?.or previous = more.getLast?.or r.token.getLast? := by
  obtain ⟨opening, inside, htoken, -⟩ := r.exists_token_eq_cons
  rw [List.getLast?_append, Option.or_assoc, htoken, List.getLast?_cons, Option.some_or]

/-- A token in a text that begins with a token begins where that one does, or behind
it. -/
theorem eq_nil_or_exists_of_token {r other : Reference} (hinner : Reference.IsInner r.inner)
    {before behind : Text} (h : r.token ++ after = before ++ (other.token ++ behind)) :
    before = [] ∨ ∃ more, before = r.token ++ more ∧ after = more ++ (other.token ++ behind) := by
  rcases List.append_eq_append_iff.mp h with hbehind | ⟨inside, htoken, hother⟩
  · exact .inr hbehind
  · cases inside with
    | nil =>
      rw [List.append_nil] at htoken
      exact .inr ⟨[], by rw [htoken, List.append_nil], hother.symm⟩
    | cons sign inside =>
      cases before with
      | nil => exact .inl rfl
      | cons c before =>
        -- the sign that it begins with would stand inside the first token
        obtain ⟨opening, rest, hopens, hopening, -⟩ := other.exists_token_eq_cons
        obtain ⟨first, tail, htail, -, habsent⟩ := r.exists_token_eq_cons
        rw [hopens] at hother
        obtain ⟨rfl, -⟩ := List.cons.inj hother
        rw [htail] at htoken
        obtain ⟨-, rfl⟩ := List.cons.inj htoken
        obtain ⟨hdollar, hbrace⟩ := habsent hinner
        rcases hopening with rfl | rfl
        · exact absurd (List.mem_append_right _ List.mem_cons_self) hdollar
        · exact absurd (List.mem_append_right _ List.mem_cons_self) hbrace

/-- **Where a reference begins, no other one begins before its end.** -/
theorem occursFrom_token {r : Reference} (h : r.CanFollow previous) :
    l.OccursFrom offset previous (r.token ++ after) ↔
      l = ⟨offset, offset + Text.byteSize r.token, r⟩ ∨
        l.OccursFrom (offset + Text.byteSize r.token) r.token.getLast? after := by
  obtain ⟨start, stop, other⟩ := l
  constructor
  · rintro ⟨before, behind, htext, hstart, hstop, hfollow⟩
    dsimp only at htext hstart hstop hfollow
    rw [List.append_assoc] at htext
    rcases eq_nil_or_exists_of_token h.inner htext with rfl | ⟨more, rfl, rfl⟩
    -- only one reference is read at one place
    · have hread := Reference.at?_eq_some_iff.mpr ⟨h, after, rfl⟩
      have hother : Reference.at? previous (other.token ++ behind) = some other :=
        Reference.at?_eq_some_iff.mpr ⟨hfollow, behind, rfl⟩
      rw [htext, List.nil_append, hother, Option.some.injEq] at hread
      subst hread
      exact .inl (by rw [← hstop, ← hstart]; rfl)
    · refine .inr ⟨more, behind, (List.append_assoc ..).symm, ?_, hstop, ?_⟩
      · rw [← hstart, Text.byteSize_append, Nat.add_assoc]
      · rwa [getLast?_token_append] at hfollow
  · rintro (e | ⟨before, behind, rfl, hstart, hstop, hfollow⟩)
    · obtain ⟨rfl, rfl, rfl⟩ := Located.mk.inj e
      exact ⟨[], after, rfl, rfl, rfl, h⟩
    · refine ⟨r.token ++ before, behind, ?_, ?_, hstop, ?_⟩
      · simp only [List.append_assoc]
      · rw [← hstart, Text.byteSize_append, Nat.add_assoc]
      · rwa [getLast?_token_append]

end Located

/-! ## What is located -/

/-- **The references among the pieces of a text are those that occur in it.** -/
theorem Piece.Reads.mem_locate_iff {previous : Option Char} {text : Text} {pieces : List Piece}
    (h : Piece.Reads previous text pieces) {offset : Nat} {l : Located} :
    l ∈ locate offset pieces ↔ l.OccursFrom offset previous text := by
  induction h generalizing offset with
  | nil => exact iff_of_false List.not_mem_nil Located.not_occursFrom_nil
  | reference h _ ih =>
    rw [Located.occursFrom_token h, ← ih]
    exact List.mem_cons
  | char h _ ih =>
    rw [Located.occursFrom_char h, ← ih]
    simp [locate, reference?, Piece.text, Text.byteSize]

theorem le_start_of_mem_locate {offset : Nat} {pieces : List Piece} {l : Located}
    (h : l ∈ locate offset pieces) : offset ≤ l.start := by
  induction pieces generalizing offset with
  | nil => cases h
  | cons piece rest ih =>
    cases piece with
    | char c => exact Nat.le_of_add_right_le (ih h)
    | reference r =>
      rcases List.mem_cons.mp h with rfl | h
      · exact Nat.le_refl offset
      · exact Nat.le_of_add_right_le (ih h)

/-- References are located in order, and none reaches into the next. -/
theorem pairwise_locate (offset : Nat) (pieces : List Piece) :
    (locate offset pieces).Pairwise fun l m => l.start < l.stop ∧ l.stop ≤ m.start := by
  induction pieces generalizing offset with
  | nil => exact .nil
  | cons piece rest ih =>
    cases piece with
    | char c => exact ih _
    | reference r =>
      refine .cons (fun m hm => ⟨?_, le_start_of_mem_locate hm⟩) (ih _)
      obtain ⟨opening, inside, htoken, -⟩ := r.exists_token_eq_cons
      have hopening := opening.utf8Size_pos
      simp only [Piece.text, htoken, Text.byteSize]
      omega

namespace Reference

/-- **What a reference encloses is divided at a modifier**: the part before the first
colon is the modifier and the rest the name, if that part is the name of a modifier;
else there is none, and all of it is the name. -/
def IsDivided (r : Reference) : Prop :=
  (∃ (modifier : Modifier) (rest : Text), r.inner = modifier.name ++ ':' :: rest ∧
      ':' ∉ modifier.name ∧ r.modifier? = some modifier ∧ r.name = rest) ∨
    (¬ HasModifier r.inner ∧ r.modifier? = none ∧ r.name = r.inner)

theorem isDivided (r : Reference) : r.IsDivided := by
  by_cases h : HasModifier r.inner
  · obtain ⟨modifier, rest, hinner⟩ := h
    have hparts := parts_of_modifier modifier rest
    rw [← hinner] at hparts
    exact .inl ⟨modifier, rest, hinner, colon_not_mem_name modifier,
      congrArg Prod.fst hparts, congrArg Prod.snd hparts⟩
  · have hparts := parts_of_not_hasModifier h
    exact .inr ⟨h, congrArg Prod.fst hparts, congrArg Prod.snd hparts⟩

/-- **The references of a text are those that occur in it**, in order, none reaching into
the next, each divided into its modifier and its name. -/
theorem located_exact (text : Text) :
    (located text).Pairwise (fun l m => l.start < l.stop ∧ l.stop ≤ m.start) ∧
      ∀ l, (l ∈ located text ↔ l.OccursIn text) ∧ l.reference.IsDivided := by
  refine ⟨pairwise_locate 0 _, fun l => ⟨?_, isDivided l.reference⟩⟩
  exact (Piece.reads_scanFrom none text).mem_locate_iff.trans Located.occursFrom_zero

example :
    located "$(é{b}) {{c}} $${d} $(upper:e)" =
      [⟨4, 7, ⟨.braces, "b"⟩⟩, ⟨10, 13, ⟨.braces, "c"⟩⟩, ⟨21, 31, ⟨.parentheses, "upper:e"⟩⟩] := by
  decide +kernel

end Reference
end ScopedConfig

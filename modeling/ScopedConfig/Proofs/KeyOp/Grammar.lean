import ScopedConfig.KeyOp.Reader
import ScopedConfig.Proofs.Number.Digits

/-! # The grammar of mutations

A mutation is read at the first place, behind one character or more, at which an
assignment stands: an index in brackets if there is one, an operator, and the value, which
is all the rest (`splitKey_of_standsFirstAt`).  What stands at a place is read in one way
only (`readAssignment_eq_some_iff`), so the first place decides the key, the operator and
the value.  That is all there is to a text of one line.  A text of several lines is refused
although its value could have them, and this is where the grammar is not followed
(`followsGrammar_iff`).
-/
namespace ScopedConfig.KeyOp

namespace Assignment

/-- What stands between the key and the value. -/
def mark (a : Assignment) : Text :=
  match a.index with
  | some digits => '[' :: digits ++ ']' :: a.operator.symbol
  | none => a.operator.symbol

/-- The text of an assignment. -/
def text (a : Assignment) : Text := a.mark ++ a.value

/-- Whether a text gives an index: one digit or more, of whatever script. -/
def IsIndex (digits : Text) : Prop := digits ≠ [] ∧ digits.all Text.isDecimalDigit = true

instance (digits : Text) : Decidable (IsIndex digits) := inferInstanceAs (Decidable (_ ∧ _))

/-- An assignment that a text can hold.  An insertion is written as an assignment with an
index. -/
structure WellFormed (a : Assignment) : Prop where
  index : ∀ digits ∈ a.index, IsIndex digits
  operator : a.operator ≠ .insert

instance (a : Assignment) : Decidable a.WellFormed :=
  decidable_of_iff ((∀ digits ∈ a.index, IsIndex digits) ∧ a.operator ≠ .insert)
    ⟨fun ⟨hindex, hoperator⟩ => ⟨hindex, hoperator⟩, fun h => ⟨h.index, h.operator⟩⟩

/-- **What an assignment does**, and the index at which it does it.  An index goes with
a plain assignment only, and has to be written in the digits from `0` to `9` and to fit
into 64 bits. -/
def operation? (a : Assignment) : Option (Operator × Nat) :=
  match a.index with
  | none => some (a.operator, 0)
  | some digits =>
    let index := Nat.ofDigitChars 10 digits 0
    if a.operator = .set ∧ digits.all Text.isDigit = true ∧ index ≤ Integer.nat64Max then
      some (.insert, index)
    else none

/-- What an assignment that stands in a text makes of a key. -/
def reading (a : Assignment) (text : Text) (key : Key) : Except KeyOpError KeyOp :=
  match a.operation? with
  | some (operator, index) => .ok ⟨key, operator, a.value, index⟩
  | none => .error (.invalidIndex text)

end Assignment

variable {text key value after digits : Text} {operator : Operator} {a b : Assignment} {i j : Nat}

/-! ## What stands at the start of a text -/

theorem readOperator_eq_some_iff :
    readOperator text = some (operator, value) ↔
      operator ≠ .insert ∧ text = operator.symbol ++ value := by
  constructor
  · intro h
    unfold readOperator at h
    split at h
    all_goals
      cases h <;> exact ⟨nofun, rfl⟩
  · rintro ⟨hoperator, rfl⟩
    cases operator
    case insert => exact absurd rfl hoperator
    all_goals rfl

theorem readIndex_eq_some_iff :
    readIndex text = some (digits, after) ↔
      Assignment.IsIndex digits ∧ text = '[' :: digits ++ ']' :: after := by
  constructor
  · intro h
    unfold readIndex at h
    split at h
    · next rest =>
      dsimp only at h
      split at h
      · cases h
      · next hafter hsome =>
        cases h
        have hall := List.all_takeWhile (p := Text.isDecimalDigit) (l := rest)
        have hrest := List.takeWhile_append_dropWhile (p := Text.isDecimalDigit) (l := rest)
        rw [hafter] at hrest
        exact ⟨⟨fun hnil => hsome hnil, hall⟩, congrArg (List.cons '[') hrest.symm⟩
      · cases h
    · cases h
  · rintro ⟨⟨hsome, hall⟩, rfl⟩
    have hdigit : ∀ c ∈ digits, Text.isDecimalDigit c = true := List.all_eq_true.mp hall
    have hbracket : Text.isDecimalDigit ']' = false := by decide
    have htake : (digits ++ ']' :: after).takeWhile Text.isDecimalDigit = digits := by
      rw [List.takeWhile_append_of_pos hdigit, List.takeWhile_cons_of_neg (by simp [hbracket]),
        List.append_nil]
    have hdrop : (digits ++ ']' :: after).dropWhile Text.isDecimalDigit = ']' :: after := by
      rw [List.dropWhile_append_of_pos hdigit, List.dropWhile_cons_of_neg (by simp [hbracket])]
    obtain ⟨c, rest, rfl⟩ := List.exists_cons_of_ne_nil hsome
    unfold readIndex
    simp only [List.cons_append] at htake hdrop ⊢
    rw [htake, hdrop]
    rfl

/-- **At the start of a text at most one assignment is read**, the one that it spells. -/
theorem readAssignment_eq_some_iff :
    readAssignment text = some a ↔ a.WellFormed ∧ text = a.text := by
  constructor
  · intro h
    unfold readAssignment at h
    split at h
    · next digits after hindex =>
      obtain ⟨hdigits, rfl⟩ := readIndex_eq_some_iff.mp hindex
      obtain ⟨⟨operator, value⟩, hoperator, rfl⟩ := Option.map_eq_some_iff.mp h
      obtain ⟨hinsert, rfl⟩ := readOperator_eq_some_iff.mp hoperator
      refine ⟨⟨fun other hother => ?_, hinsert⟩, ?_⟩
      · obtain rfl := Option.some.inj hother
        exact hdigits
      · simp [Assignment.text, Assignment.mark]
    · obtain ⟨⟨operator, value⟩, hoperator, rfl⟩ := Option.map_eq_some_iff.mp h
      obtain ⟨hinsert, rfl⟩ := readOperator_eq_some_iff.mp hoperator
      exact ⟨⟨nofun, hinsert⟩, rfl⟩
  · rintro ⟨⟨hindex, hinsert⟩, rfl⟩
    obtain ⟨index, operator, value⟩ := a
    have hoperator : readOperator (operator.symbol ++ value) = some (operator, value) :=
      readOperator_eq_some_iff.mpr ⟨hinsert, rfl⟩
    cases index with
    | none =>
      have hplain : readIndex (operator.symbol ++ value) = none := by
        cases operator <;> rfl
      simp only [readAssignment, Assignment.text, Assignment.mark, hplain, hoperator,
        Option.map_some]
    | some digits =>
      have hread : readIndex ('[' :: digits ++ ']' :: (operator.symbol ++ value)) =
          some (digits, operator.symbol ++ value) :=
        readIndex_eq_some_iff.mpr ⟨hindex digits rfl, rfl⟩
      simp only [readAssignment, Assignment.text, Assignment.mark, List.append_assoc,
        List.cons_append] at hread ⊢
      simp only [hread, hoperator, Option.map_some]

/-! ## Places in a text -/

/-- An assignment stands at a place of a text, behind one character or more. -/
def StandsAt (text : Text) (i : Nat) (a : Assignment) : Prop :=
  1 ≤ i ∧ a.WellFormed ∧ text.drop i = a.text

instance (text : Text) (i : Nat) (a : Assignment) : Decidable (StandsAt text i a) :=
  inferInstanceAs (Decidable (_ ∧ _))

/-- The first place at which an assignment stands. -/
def StandsFirstAt (text : Text) (i : Nat) (a : Assignment) : Prop :=
  StandsAt text i a ∧ ∀ j < i, ∀ b, ¬ StandsAt text j b

theorem StandsAt.eq (ha : StandsAt text i a) (hb : StandsAt text i b) : a = b := by
  have hread := readAssignment_eq_some_iff.mpr ha.2
  rw [readAssignment_eq_some_iff.mpr hb.2] at hread
  exact (Option.some.inj hread).symm

/-- There is one first place, and one assignment at it. -/
theorem StandsFirstAt.eq (ha : StandsFirstAt text i a) (hb : StandsFirstAt text j b) :
    i = j ∧ a = b := by
  obtain hlt | rfl | hgt := Nat.lt_trichotomy i j
  · exact absurd ha.1 (hb.2 i hlt a)
  · exact ⟨rfl, ha.1.eq hb.1⟩
  · exact absurd hb.1 (ha.2 j hgt b)

theorem not_standsAt_zero : ¬ StandsAt text 0 a := fun h => absurd h.1 (by decide)

/-- Behind the first character stands what is read there, and further on what stands in
the text without that character. -/
theorem standsAt_cons_succ {c : Char} :
    StandsAt (c :: text) (i + 1) a ↔
      i = 0 ∧ readAssignment text = some a ∨ StandsAt text i a := by
  rw [StandsAt, StandsAt, readAssignment_eq_some_iff, List.drop_succ_cons]
  cases i with
  | zero => simp
  | succ i => simp

theorem standsFirstAt_of_splitKey (h : splitKey text = some (key, a)) :
    StandsFirstAt text key.length a ∧ text.take key.length = key := by
  induction text generalizing key with
  | nil => cases h
  | cons c rest ih =>
    rw [splitKey] at h
    cases hread : readAssignment rest with
    | some b =>
      rw [hread] at h
      cases h
      refine ⟨⟨standsAt_cons_succ.mpr (.inl ⟨rfl, hread⟩), fun j hj b => ?_⟩, rfl⟩
      obtain rfl : j = 0 := Nat.lt_one_iff.mp hj
      exact not_standsAt_zero
    | none =>
      rw [hread] at h
      obtain ⟨⟨before, b⟩, hsplit, e⟩ := Option.map_eq_some_iff.mp h
      cases e
      obtain ⟨⟨hstands, hfirst⟩, htake⟩ := ih hsplit
      refine ⟨⟨standsAt_cons_succ.mpr (.inr hstands), fun j hj b hb => ?_⟩,
        congrArg (List.cons c) htake⟩
      cases j with
      | zero => exact not_standsAt_zero hb
      | succ j =>
        rcases standsAt_cons_succ.mp hb with ⟨-, hfound⟩ | hb
        · rw [hread] at hfound
          cases hfound
        · exact hfirst j (Nat.lt_of_succ_lt_succ hj) b hb

theorem not_standsAt_of_splitKey (h : splitKey text = none) (i : Nat) (a : Assignment) :
    ¬ StandsAt text i a := by
  induction text generalizing i with
  | nil =>
    rintro ⟨-, hformed, htext⟩
    rw [List.drop_nil] at htext
    have hread := readAssignment_eq_some_iff.mpr ⟨hformed, htext⟩
    cases hread
  | cons c rest ih =>
    intro hstands
    rw [splitKey] at h
    split at h
    · cases h
    · next hread =>
      rw [Option.map_eq_none_iff] at h
      cases i with
      | zero => exact not_standsAt_zero hstands
      | succ i =>
        rcases standsAt_cons_succ.mp hstands with ⟨-, hfound⟩ | hstands
        · rw [hread] at hfound
          cases hfound
        · exact ih h i hstands

/-- **A key ends where an assignment stands for the first time.** -/
theorem splitKey_of_standsFirstAt (h : StandsFirstAt text i a) :
    splitKey text = some (text.take i, a) := by
  cases hsplit : splitKey text with
  | none => exact absurd h.1 (not_standsAt_of_splitKey hsplit i a)
  | some found =>
    obtain ⟨hfirst, htake⟩ := standsFirstAt_of_splitKey hsplit
    obtain ⟨rfl, rfl⟩ := h.eq hfirst
    rw [htake]

/-! ## What is read -/

/-- **The grammar of a text**: it is no mutation exactly if nothing stands anywhere in it;
otherwise the key is what precedes the first assignment, and the operator, the index and
the value are those of that assignment. -/
structure FollowsGrammar (text : Text) : Prop where
  noOperator : read text = .error (.noOperator text) ↔ ∀ i a, ¬ StandsAt text i a
  malformedKey : ∀ {i a error}, StandsFirstAt text i a →
    Key.read (text.take i) = .error error → read text = .error (.key error)
  malformedIndex : ∀ {i a key}, StandsFirstAt text i a → Key.read (text.take i) = .ok key →
    a.operation? = none → read text = .error (.invalidIndex text)
  mutation : ∀ {i a key operator index}, StandsFirstAt text i a →
    Key.read (text.take i) = .ok key → a.operation? = some (operator, index) →
      read text = .ok ⟨key, operator, a.value, index⟩

theorem read_of_lineFeed (h : '\n' ∈ text) : read text = .error (.noOperator text) := by
  have hcontains : Text.contains '\n' text = true := List.any_eq_true.mpr ⟨_, h, by decide⟩
  unfold read
  rw [hcontains]
  rfl

theorem contains_lineFeed (h : '\n' ∉ text) : Text.contains '\n' text = false := by
  rw [← Bool.not_eq_true, Text.contains, List.any_eq_true]
  rintro ⟨c, hc, e⟩
  rw [beq_iff_eq] at e
  exact h (e ▸ hc)

/-- The operation of an assignment with an index is an insertion there, if the index is
read as a number and the assignment is a plain one. -/
theorem Assignment.operation?_of_index (h : IsIndex digits) (hindex : a.index = some digits) :
    a.operation? =
      match a.operator, Integer.readNat 10 Integer.nat64Max digits with
      | .set, .ok index => some (.insert, index)
      | _, _ => none := by
  have hplus : digits.head? ≠ some '+' := by
    intro hhead
    have hdigit := List.all_eq_true.mp h.2 '+' (List.mem_of_head? hhead)
    exact absurd hdigit (by decide)
  have hread : ∀ n, Integer.readNat 10 Integer.nat64Max digits = .ok n ↔
      digits ≠ [] ∧ (∀ c ∈ digits, Text.isDigit c = true) ∧
        Nat.ofDigitChars 10 digits 0 = n ∧ n ≤ Integer.nat64Max :=
    fun _ => Integer.readNat_eq_ok_iff hplus
  unfold operation?
  rw [hindex]
  dsimp only
  split
  · next hfits =>
    obtain ⟨hset, hall, hle⟩ := hfits
    rw [hset, (hread _).mpr ⟨h.1, List.all_eq_true.mp hall, rfl, hle⟩]
  · next hrefused =>
    split
    · next index hset hnumber =>
      obtain ⟨-, hall, rfl, hle⟩ := (hread index).mp hnumber
      exact absurd ⟨hset, List.all_eq_true.mpr hall, hle⟩ hrefused
    · rfl

theorem Assignment.reading_eq_ok_iff {key : Key} {op : KeyOp} :
    a.reading text key = .ok op ↔
      ∃ operator index, a.operation? = some (operator, index) ∧
        ⟨key, operator, a.value, index⟩ = op := by
  unfold reading
  rcases a.operation? with _ | ⟨operator, index⟩ <;> simp

theorem Assignment.reading_eq_error_iff {key : Key} {error : KeyOpError} :
    a.reading text key = .error error ↔ a.operation? = none ∧ .invalidIndex text = error := by
  unfold reading
  cases a.operation? <;> simp

/-- **A text of one line is read at the first assignment in it**: first the key, then the
operation. -/
theorem read_of_standsFirstAt (hline : '\n' ∉ text) (h : StandsFirstAt text i a) :
    read text = (Key.read (text.take i)).mapError .key >>= a.reading text := by
  unfold read
  rw [contains_lineFeed hline, if_neg Bool.false_ne_true, splitKey_of_standsFirstAt h]
  refine bind_congr fun key => ?_
  unfold Assignment.reading
  cases hindex : a.index with
  | none => simp only [Assignment.operation?, hindex]
  | some digits =>
    rw [Assignment.operation?_of_index (h.1.2.1.index digits hindex) hindex]
    dsimp only
    cases a.operator <;> cases Integer.readNat 10 Integer.nat64Max digits <;> rfl

theorem read_of_not_standsAt (h : ∀ i a, ¬ StandsAt text i a) :
    read text = .error (.noOperator text) := by
  have hsplit : splitKey text = none := by
    refine Option.eq_none_iff_forall_ne_some.mpr fun ⟨key, a⟩ hsome => ?_
    exact h _ a (standsFirstAt_of_splitKey hsome).1.1
  unfold read
  rw [hsplit, ite_self]

theorem followsGrammar_of_line (hline : '\n' ∉ text) : FollowsGrammar text where
  noOperator := by
    refine ⟨fun hread => not_standsAt_of_splitKey ?_, read_of_not_standsAt⟩
    refine Option.eq_none_iff_forall_ne_some.mpr fun ⟨keyText, a⟩ hsplit => ?_
    -- what is read at an assignment has other errors
    rw [read_of_standsFirstAt hline (standsFirstAt_of_splitKey hsplit).1] at hread
    cases hkey : Key.read (text.take keyText.length) with
    | error error =>
      rw [hkey] at hread
      cases hread
    | ok key =>
      rw [hkey] at hread
      cases (Assignment.reading_eq_error_iff.mp hread).2
  malformedKey hfirst hkey := by
    rw [read_of_standsFirstAt hline hfirst, hkey]
    rfl
  malformedIndex hfirst hkey hoperation := by
    rw [read_of_standsFirstAt hline hfirst, hkey]
    exact Assignment.reading_eq_error_iff.mpr ⟨hoperation, rfl⟩
  mutation hfirst hkey hoperation := by
    rw [read_of_standsFirstAt hline hfirst, hkey]
    exact Assignment.reading_eq_ok_iff.mpr ⟨_, _, hoperation, rfl⟩

/-- **The grammar holds of exactly the texts of one line**, and of texts in which nothing
stands; all other texts are refused as if there were no operator in them. -/
theorem followsGrammar_iff (text : Text) :
    (FollowsGrammar text ↔ '\n' ∉ text ∨ ∀ i a, ¬ StandsAt text i a) ∧
      ('\n' ∈ text → read text = .error (.noOperator text)) := by
  refine ⟨⟨fun h => ?_, ?_⟩, read_of_lineFeed⟩
  · by_cases hline : '\n' ∈ text
    · exact .inr (h.noOperator.mp (read_of_lineFeed hline))
    · exact .inl hline
  · rintro (hline | hnone)
    · exact followsGrammar_of_line hline
    · exact
        { noOperator := iff_of_true (read_of_not_standsAt hnone) hnone
          malformedKey := fun hfirst => absurd hfirst.1 (hnone _ _)
          malformedIndex := fun hfirst => absurd hfirst.1 (hnone _ _)
          mutation := fun hfirst => absurd hfirst.1 (hnone _ _) }

example : read "tags[0][01]=a[2]=b" = .ok ⟨⟨[], "tags[0]"⟩, .insert, "a[2]=b", 1⟩ := by decide

/-- A value of two lines is refused, though an operator stands behind the key. -/
theorem not_followsGrammar_greeting :
    StandsFirstAt "env.motd=hi\nyou" 8 ⟨none, .set, "hi\nyou"⟩ ∧
      Key.read (List.take 8 "env.motd=hi\nyou".toList) = .ok ⟨"env", "motd"⟩ ∧
      read "env.motd=hi\nyou" = .error (.noOperator "env.motd=hi\nyou") ∧
      ¬ FollowsGrammar "env.motd=hi\nyou" := by
  have hsplit : splitKey "env.motd=hi\nyou" =
      some ("env.motd".toList, (⟨none, .set, "hi\nyou"⟩ : Assignment)) := by decide
  have hfirst : StandsFirstAt "env.motd=hi\nyou" 8 ⟨none, .set, "hi\nyou"⟩ :=
    (standsFirstAt_of_splitKey hsplit).1
  have hread : read "env.motd=hi\nyou" = .error (.noOperator "env.motd=hi\nyou") := by decide
  exact ⟨hfirst, by decide, hread, fun h => h.noOperator.mp hread 8 _ hfirst.1⟩

end ScopedConfig.KeyOp

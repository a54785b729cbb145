import Mathlib.Data.List.TakeWhile
import ScopedConfig.Number.Decimal
import ScopedConfig.Number.Integer
import ScopedConfig.Proofs.Text.Trim
import ScopedConfig.Text.DecimalDigit

/-! # Numbers in digits

A run of the digits `0` to `9` is read as the number that it writes in base ten, up to
the limit, and nothing else is read (`readNat_eq_ok_iff`).  The digits in which a number
is written are such a run, and they write that number.  Where decimal numbers are read,
such a run is one without a point and an exponent (`Decimal.read_digits`).
-/
namespace ScopedConfig

namespace Text

variable {c : Char} {n : Nat}

theorem isDigit_iff : isDigit c = true ↔ 48 ≤ c.toNat ∧ c.toNat ≤ 57 := by
  rw [isDigit, inRange, Bool.and_eq_true, decide_eq_true_eq, decide_eq_true_eq]
  rfl

theorem isDecimalDigit_of_isDigit (h : isDigit c = true) : isDecimalDigit c = true := by
  obtain ⟨hfirst, hlast⟩ := isDigit_iff.mp h
  refine List.any_eq_true.mpr ⟨(0x30, 0x39), List.mem_cons_self, ?_⟩
  rw [Bool.and_eq_true, decide_eq_true_eq, decide_eq_true_eq]
  exact ⟨hfirst, hlast⟩

/-- From the first letter of ASCII to the last there are no digits of any script. -/
theorem isDecimalDigit_eq_false (h : 65 ≤ c.toNat ∧ c.toNat ≤ 122) : isDecimalDigit c = false := by
  have htable : ∀ range ∈ decimalDigitRanges, range.2 < 65 ∨ 122 < range.1 := by decide
  refine inRanges_eq_false fun range hrange => ?_
  have := htable range hrange
  omega

/-- Lower case changes nothing but the capital letters of ASCII. -/
theorem toLower_eq_or (c : Char) : c.toLower = c ∨ 65 ≤ c.toNat ∧ c.toNat ≤ 90 := by
  unfold Char.toLower
  split
  · next h => exact .inr ⟨UInt32.le_iff_toNat_le.mp h.1, UInt32.le_iff_toNat_le.mp h.2⟩
  · exact .inl rfl

theorem toLower_of_isDigit (h : isDigit c = true) : c.toLower = c := by
  have hlast := (isDigit_iff.mp h).2
  exact (toLower_eq_or c).resolve_right (by omega)

/-- The letters stand for larger numbers than there are in base ten. -/
theorem digitBelow?_ten :
    digitBelow? 10 c = if isDigit c then some (c.toNat - '0'.toNat) else none := by
  have hlower : inRange 'a' 'z' c = true → 97 ≤ c.toNat := fun h =>
    of_decide_eq_true (Bool.and_eq_true_iff.mp h).1
  have hupper : inRange 'A' 'Z' c = true → 65 ≤ c.toNat := fun h =>
    of_decide_eq_true (Bool.and_eq_true_iff.mp h).1
  have hzero : '0'.toNat = 48 := rfl
  have ha : 'a'.toNat = 97 := rfl
  have hA : 'A'.toNat = 65 := rfl
  unfold digitBelow?
  dsimp only
  split
  · next hdigit =>
    have hle := (isDigit_iff.mp hdigit).2
    rw [Option.filter_some, if_pos (by rw [decide_eq_true_eq]; omega)]
  · split
    · next h =>
      have := hlower h
      rw [Option.filter_some, if_neg (by rw [decide_eq_true_eq]; omega)]
    · split
      · next h =>
        have := hupper h
        rw [Option.filter_some, if_neg (by rw [decide_eq_true_eq]; omega)]
      · rfl

theorem ofNat_ne_nil (n : Nat) : ofNat n ≠ [] := Nat.toDigits_ne_nil

theorem isDigit_of_mem_ofNat (h : c ∈ ofNat n) : isDigit c = true := by
  have hdigit := Nat.isDigit_of_mem_toDigits (by decide) (Nat.le_refl 10) h
  rw [Char.isDigit, Bool.and_eq_true, decide_eq_true_eq, decide_eq_true_eq] at hdigit
  exact isDigit_iff.mpr hdigit

end Text

namespace Integer

variable {limit value n : Nat} {excess : IntegerFault} {digits : Text}

theorem le_ofDigitChars (digits : Text) (value : Nat) :
    value ≤ Nat.ofDigitChars 10 digits value := by
  rw [Nat.ofDigitChars_eq_ofDigitChars_zero]
  have hpow : 1 ≤ 10 ^ digits.length := Nat.one_le_pow _ _ (by decide)
  exact Nat.le_add_right_of_le (Nat.le_mul_of_pos_left value hpow)

/-- Digits behind a number are read as long as the number grows no larger than the
limit. -/
theorem readDigits_eq_ok_iff (h : value ≤ limit) :
    readDigits 10 limit excess value digits = .ok n ↔
      (∀ c ∈ digits, Text.isDigit c = true) ∧ Nat.ofDigitChars 10 digits value = n ∧ n ≤ limit := by
  induction digits generalizing value with
  | nil =>
    rw [readDigits, Nat.ofDigitChars_nil, Except.ok.injEq]
    constructor
    · rintro rfl
      exact ⟨fun c hc => absurd hc List.not_mem_nil, rfl, h⟩
    · rintro ⟨-, rfl, -⟩
      rfl
  | cons c rest ih =>
    rw [readDigits, Text.digitBelow?_ten, List.forall_mem_cons, Nat.ofDigitChars_cons,
      Nat.mul_comm 10 value]
    by_cases hc : Text.isDigit c = true
    · rw [if_pos hc]
      dsimp only
      split
      · next hle => rw [ih hle, and_iff_right hc]
      · next hgt =>
        -- the number of all digits is not smaller than that of the first ones
        have hgrows := le_ofDigitChars rest (value * 10 + (c.toNat - '0'.toNat))
        constructor
        · nofun
        · rintro ⟨-, rfl, hle⟩
          exact absurd (Nat.le_trans hgrows hle) hgt
    · rw [if_neg hc]
      exact ⟨nofun, fun hall => absurd hall.1.1 hc⟩

/-- **A number is read from one or more digits that write it**, if it is within the
limit.  A text with a plus sign in front is another way to write a number. -/
theorem readNat_eq_ok_iff (hplus : digits.head? ≠ some '+') :
    readNat 10 limit digits = .ok n ↔
      digits ≠ [] ∧ (∀ c ∈ digits, Text.isDigit c = true) ∧
        Nat.ofDigitChars 10 digits 0 = n ∧ n ≤ limit := by
  cases digits with
  | nil => exact ⟨nofun, fun h => absurd rfl h.1⟩
  | cons c rest =>
    have hc : c ≠ '+' := fun h => hplus (congrArg some h)
    rw [readNat, if_neg hc, readMagnitude, if_neg (List.cons_ne_nil c rest),
      readDigits_eq_ok_iff (Nat.zero_le limit)]
    exact (and_iff_right (List.cons_ne_nil c rest)).symm

end Integer

namespace Decimal

variable {digits : Text}

theorem digitsValue_eq (digits : Text) : digitsValue digits = Nat.ofDigitChars 10 digits 0 := by
  simp only [digitsValue, Nat.ofDigitChars_eq_foldl, Nat.mul_comm]

section Digits
variable (hne : digits ≠ []) (hdigits : ∀ c ∈ digits, Text.isDigit c = true)
include hne hdigits

theorem readUnsigned_digits (negative : Bool) :
    readUnsigned negative digits = some ⟨negative, Nat.ofDigitChars 10 digits 0, 0⟩ := by
  have hwhole : digits.takeWhile Text.isDigit = digits := List.takeWhile_eq_self_iff.mpr hdigits
  have hrest : digits.dropWhile Text.isDigit = [] := List.dropWhile_eq_nil_iff.mpr hdigits
  unfold readUnsigned
  rw [hwhole, hrest]
  dsimp only
  rw [if_neg fun h => hne h.1, List.append_nil, digitsValue_eq]
  rfl

/-- **Digits are read as the natural number that they write**, as near as the format has it. -/
theorem read_digits :
    read digits = .ok (toBinary64 ⟨false, Nat.ofDigitChars 10 digits 0, 0⟩) := by
  obtain ⟨c, rest, rfl⟩ := List.exists_cons_of_ne_nil hne
  have hc : Text.isDigit c = true := hdigits c List.mem_cons_self
  have hfirst (d : Char) (hd : Text.isDigit d = false) : c ≠ d := by
    rintro rfl
    exact absurd hc (by rw [hd]; decide)
  have hsign : takeSign (c :: rest) = (false, c :: rest) := by
    rw [takeSign, if_neg (hfirst '-' (by decide)), if_neg (hfirst '+' (by decide))]
  -- the names of numbers start with letters
  have hlower : ((c :: rest).map Char.toLower).head? = some c :=
    congrArg some (Text.toLower_of_isDigit hc)
  have hname (d : Char) {name : Text} (hhead : name.head? = some d)
      (hd : Text.isDigit d = false) : (c :: rest).map Char.toLower ≠ name := fun h => by
    rw [h, hhead] at hlower
    exact hfirst d hd (Option.some.inj hlower).symm
  unfold read
  rw [if_neg hne, hsign]
  dsimp only
  rw [if_neg (hname 'n' rfl (by decide)), if_neg, readUnsigned_digits hne hdigits]
  rw [Bool.or_eq_true, decide_eq_true_eq, decide_eq_true_eq]
  rintro (h | h)
  exacts [hname 'i' rfl (by decide) h, hname 'i' rfl (by decide) h]

end Digits
end Decimal
end ScopedConfig

import Mathlib.Data.Nat.Factorization.Basic
import ScopedConfig.Number.Decimal

/-! # Natural numbers in the binary format

A natural number becomes the nearest one with a significand of 53 bits (`nearest`), and is
kept if it has such a significand itself (`IsExact`, `nearest_eq_self_iff`).  Rounding never
crosses a number that it keeps (`le_nearest`).

What the format holds of a natural number is a significand and an exponent, which may be
negative, or infinity if the number is large (`Represents`).  Conversion and multiplication
say which natural number they make only up to `nearest` (`represents_ofRatio`,
`Represents.mulNat`), so that no proof after these looks at significands again.
-/
namespace ScopedConfig.Binary64

variable {a b c n t d k shift significand : Nat} {x : Binary64}

/-! ## Rounding a ratio -/

theorem roundHalfEven_cases (n d : Nat) :
    roundHalfEven n d = n / d ∨ roundHalfEven n d = n / d + 1 := by
  unfold roundHalfEven
  dsimp only
  split
  · exact .inl rfl
  · split
    · exact .inr rfl
    · rcases Nat.mod_two_eq_zero_or_one (n / d) with h | h <;> rw [h]
      exacts [.inl rfl, .inr rfl]

theorem div_le_roundHalfEven (n d : Nat) : n / d ≤ roundHalfEven n d := by
  rcases roundHalfEven_cases n d with h | h <;> omega

/-- A multiple is not rounded. -/
theorem roundHalfEven_mul_cancel (hd : 0 < d) (h : d ∣ n) : roundHalfEven n d * d = n := by
  have hquotient : roundHalfEven n d = n / d := by
    unfold roundHalfEven
    rw [Nat.mod_eq_zero_of_dvd h]
    exact if_pos hd
  rw [hquotient, Nat.div_mul_cancel h]

/-- The rounded ratio depends on the value of the ratio alone. -/
theorem roundHalfEven_mul_right (hc : 0 < c) (n d : Nat) :
    roundHalfEven (n * c) (d * c) = roundHalfEven n d := by
  unfold roundHalfEven
  dsimp only
  rw [Nat.mul_div_mul_right n d hc, Nat.mul_mod_mul_right, ← Nat.mul_assoc]
  simp only [Nat.mul_lt_mul_right hc]

/-! ## Rounding a natural number -/

/-- A natural number with a significand of at most 53 bits. -/
def IsExact (n : Nat) : Prop :=
  ∃ significand exponent, significand < 2 ^ 53 ∧ n = significand * 2 ^ exponent

/-- How far apart the numbers of the format are that are as large as this one, but no less
than one. -/
def spacing (n : Nat) : Nat := 2 ^ (n.log2 - 52)

/-- **The natural number with a significand of 53 bits that is nearest**, the one with an
even significand of two. -/
def nearest (n : Nat) : Nat := roundHalfEven n (spacing n) * spacing n

theorem spacing_pos (n : Nat) : 0 < spacing n := Nat.two_pow_pos _

theorem spacing_of_log2_eq (h : n.log2 = 52 + k) : spacing n = 2 ^ k := by
  rw [spacing, h, Nat.add_sub_cancel_left]

theorem div_spacing_lt (n : Nat) : n / spacing n < 2 ^ 53 := by
  rw [Nat.div_lt_iff_lt_mul (spacing_pos n), spacing, ← Nat.pow_add]
  exact Nat.lt_of_lt_of_le Nat.lt_log2_self (Nat.pow_le_pow_right (by decide) (by omega))

theorem isExact_of_lt (h : n < 2 ^ 53) : IsExact n := ⟨n, 0, h, (Nat.mul_one n).symm⟩

theorem isExact_two_pow (k : Nat) : IsExact (2 ^ k) := ⟨1, k, by decide, (Nat.one_mul _).symm⟩

theorem isExact_nearest (n : Nat) : IsExact (nearest n) := by
  have hlt := div_spacing_lt n
  have hcases := roundHalfEven_cases n (spacing n)
  rcases Nat.lt_or_ge (roundHalfEven n (spacing n)) (2 ^ 53) with h | h
  · exact ⟨_, n.log2 - 52, h, rfl⟩
  · have hcarry : roundHalfEven n (spacing n) = 2 ^ 53 := by omega
    rw [nearest, hcarry, spacing, ← Nat.pow_add]
    exact isExact_two_pow _

theorem IsExact.spacing_dvd (h : IsExact n) : spacing n ∣ n := by
  obtain ⟨m, k, hm, rfl⟩ := h
  rcases Nat.eq_zero_or_pos (m * 2 ^ k) with hzero | hpos
  · rw [hzero]
    exact Nat.dvd_zero _
  · have hlt : m * 2 ^ k < 2 ^ (53 + k) := by
      rw [Nat.pow_add]
      exact Nat.mul_lt_mul_of_pos_right hm (Nat.two_pow_pos k)
    have hlog := (Nat.log2_lt (Nat.ne_of_gt hpos)).mpr hlt
    exact (Nat.pow_dvd_pow 2 (by omega)).trans (Nat.dvd_mul_left _ _)

/-- **Rounding keeps exactly the numbers with a significand of 53 bits.** -/
theorem nearest_eq_self_iff : nearest n = n ↔ IsExact n := by
  constructor
  · exact fun h => h ▸ isExact_nearest n
  · exact fun h => roundHalfEven_mul_cancel (spacing_pos n) h.spacing_dvd

instance (n : Nat) : Decidable (IsExact n) := decidable_of_iff _ nearest_eq_self_iff

/-- Rounding down to a multiple does not go below another multiple. -/
theorem le_div_mul_of_dvd (hd : 0 < d) (hdvd : d ∣ t) (h : t ≤ n) : t ≤ n / d * d := by
  obtain ⟨q, rfl⟩ := hdvd
  rw [Nat.mul_comm d q] at h ⊢
  exact Nat.mul_le_mul_right d ((Nat.le_div_iff_mul_le hd).mpr h)

/-- **Rounding does not go below a number that it keeps.** -/
theorem IsExact.le_nearest (ht : IsExact t) (h : t ≤ n) : t ≤ nearest n := by
  suffices t ≤ n / spacing n * spacing n from
    Nat.le_trans this (Nat.mul_le_mul_right _ (div_le_roundHalfEven n _))
  rcases Nat.eq_zero_or_pos t with rfl | hpos
  · exact Nat.zero_le _
  have hne : n ≠ 0 := by omega
  rcases Nat.lt_or_ge t (2 ^ n.log2) with hlt | hge
  · -- the least number with as many bits is between the two
    have hdvd : spacing n ∣ 2 ^ n.log2 := Nat.pow_dvd_pow 2 (Nat.sub_le _ _)
    exact Nat.le_trans (Nat.le_of_lt hlt)
      (le_div_mul_of_dvd (spacing_pos n) hdvd (Nat.log2_self_le hne))
  · have hlog : t.log2 = n.log2 := by
      rw [Nat.log2_eq_iff (by omega)]
      exact ⟨hge, Nat.lt_of_le_of_lt h Nat.lt_log2_self⟩
    have hdvd := ht.spacing_dvd
    rw [spacing, hlog] at hdvd
    exact le_div_mul_of_dvd (spacing_pos n) hdvd h

/-- The odd part of a divisor divides the significand. -/
theorem IsExact.of_dvd (hb : IsExact b) (hne : b ≠ 0) (hdvd : a ∣ b) : IsExact a := by
  obtain ⟨m, k, hm, rfl⟩ := hb
  have ha : a ≠ 0 := fun h => hne (Nat.eq_zero_of_zero_dvd (h ▸ hdvd))
  obtain ⟨exponent, odd, hodd, rfl⟩ := Nat.exists_eq_two_pow_mul_odd ha
  have hcoprime : odd.Coprime (2 ^ k) := (Nat.coprime_two_right.mpr hodd).pow_right k
  have hm0 : 0 < m := Nat.pos_of_ne_zero fun h => hne (by rw [h, Nat.zero_mul])
  have hle : odd ≤ m :=
    Nat.le_of_dvd hm0 (hcoprime.dvd_of_dvd_mul_right ((Nat.dvd_mul_left _ _).trans hdvd))
  exact ⟨odd, exponent, Nat.lt_of_le_of_lt hle hm, Nat.mul_comm _ _⟩

/-! ## Numbers of the format -/

/-- **A number of the format that is a natural number**, or infinity for a large one. -/
inductive Represents : Binary64 → Nat → Prop
  | finite {significand : Nat} {exponent : Int} {n : Nat} (shift : Nat)
      (h : ratio significand exponent = (n * 2 ^ shift, 2 ^ shift)) :
      Represents (.finite false significand exponent) n
  | infinite {n : Nat} (h : 2 ^ 63 ≤ n) : Represents (.infinite false) n

theorem represents_zero : Represents (zero false) 0 :=
  .finite 1074 (by decide +kernel)

theorem represents_finite (significand exponent : Nat) :
    Represents (.finite false significand exponent) (significand * 2 ^ exponent) := by
  refine .finite 0 ?_
  rw [ratio, if_pos (Int.natCast_nonneg _), Int.toNat_natCast, Nat.pow_zero, Nat.mul_one]
  rfl

/-- A significand that is a multiple of the unit which a negative exponent gives. -/
theorem represents_finite_neg (n shift : Nat) :
    Represents (.finite false (n * 2 ^ shift) (-(shift : Int))) n := by
  refine .finite shift ?_
  rw [ratio]
  split
  · next h =>
    obtain rfl : shift = 0 := by omega
    exact Prod.ext (Nat.mul_one _) rfl
  · rw [Int.neg_neg, Int.toNat_natCast]
    rfl

/-- A full significand with a natural exponent. -/
theorem represents_make (hge : 2 ^ 52 ≤ significand) (k : Nat) :
    Represents (make false significand k) (significand * 2 ^ k) := by
  have hlarge (h : maxExponent < (k : Int) + 1) : 2 ^ 63 ≤ significand * 2 ^ k := by
    have hk : 11 ≤ k := by
      rw [maxExponent] at h
      omega
    calc 2 ^ 63 = 2 ^ 52 * 2 ^ 11 := rfl
      _ ≤ significand * 2 ^ k := Nat.mul_le_mul hge (Nat.pow_le_pow_right (by decide) hk)
  unfold make
  by_cases hcarry : significand = Nat.pow 2 53
  · rw [if_pos hcarry]
    dsimp only
    split
    · next h => exact .infinite (hlarge h)
    · have hsame : Nat.pow 2 53 * 2 ^ k = Nat.pow 2 52 * 2 ^ (k + 1) := by
        rw [Nat.pow_succ, Nat.mul_comm (2 ^ k) 2, ← Nat.mul_assoc]
      rw [hcarry, hsame]
      exact represents_finite (Nat.pow 2 52) (k + 1)
  · rw [if_neg hcarry]
    dsimp only
    split
    · next h => exact .infinite (hlarge (by omega))
    · exact represents_finite significand k

/-! ## Conversion -/

theorem log2_mul_two_pow (ha : a ≠ 0) (shift : Nat) : (a * 2 ^ shift).log2 = a.log2 + shift := by
  have hpos := Nat.two_pow_pos shift
  rw [Nat.log2_eq_iff (Nat.mul_ne_zero ha (Nat.ne_of_gt hpos)), Nat.pow_add, Nat.add_right_comm,
    Nat.pow_add]
  exact ⟨Nat.mul_le_mul_right _ (Nat.log2_self_le ha),
    Nat.mul_lt_mul_of_pos_right Nat.lt_log2_self hpos⟩

/-- The exponent is that of the leading bit, for whatever power of two the number is
divided by, and the significand is the ratio in units of that exponent, rounded. -/
theorem ofRatio_of_inUnits (ha : a ≠ 0) {exponent : Int} {num den : Nat}
    (hexponent : (a.log2 : Int) - 52 = exponent)
    (hunits : inUnits (a * 2 ^ shift) (2 ^ shift) exponent = (num * 2 ^ shift, den * 2 ^ shift))
    (hfull : den * 2 ^ 52 ≤ num) (negative : Bool) :
    ofRatio negative (a * 2 ^ shift) (2 ^ shift) =
      make negative (roundHalfEven num den) exponent := by
  have hpos := Nat.two_pow_pos shift
  have hguess : ((a * 2 ^ shift).log2 : Int) - (2 ^ shift).log2 - 52 = exponent := by
    rw [log2_mul_two_pow ha, Nat.log2_two_pow]
    omega
  have hscaled : den * 2 ^ shift * Nat.pow 2 52 ≤ num * 2 ^ shift := by
    rw [Nat.mul_right_comm]
    exact Nat.mul_le_mul_right _ hfull
  have hexact : exponentOf (a * 2 ^ shift) (2 ^ shift) = exponent := by
    rw [exponentOf, hguess, hunits]
    dsimp only
    rw [if_pos hscaled, minExponent]
    omega
  rw [ofRatio, if_neg (Nat.mul_ne_zero ha (Nat.ne_of_gt hpos)), hexact]
  dsimp only
  rw [hunits]
  dsimp only
  rw [roundHalfEven_mul_right hpos]

/-- A number of 53 bits or more is rounded to its leading 53 bits. -/
theorem ofRatio_of_log2_eq (h : a.log2 = 52 + k) (negative : Bool) (shift : Nat) :
    ofRatio negative (a * 2 ^ shift) (2 ^ shift) = make negative (roundHalfEven a (2 ^ k)) k := by
  have ha : a ≠ 0 := by
    rintro rfl
    rw [Nat.log2_zero] at h
    omega
  have hunits : inUnits (a * 2 ^ shift) (2 ^ shift) k = (a * 2 ^ shift, 2 ^ k * 2 ^ shift) := by
    rw [inUnits, if_pos (Int.natCast_nonneg k), Int.toNat_natCast, Nat.mul_comm (2 ^ shift)]
    rfl
  have hfull : 2 ^ k * 2 ^ 52 ≤ a := by
    have hle := Nat.log2_self_le ha
    rwa [h, Nat.pow_add, Nat.mul_comm] at hle
  exact ofRatio_of_inUnits ha (by omega) hunits hfull negative

/-- A number of fewer bits is shifted. -/
theorem ofRatio_of_log2_add (ha : a ≠ 0) (h : a.log2 + k = 52) (negative : Bool) (shift : Nat) :
    ofRatio negative (a * 2 ^ shift) (2 ^ shift) = make negative (a * 2 ^ k) (-k) := by
  have hunits : inUnits (a * 2 ^ shift) (2 ^ shift) (-k) =
      (a * 2 ^ k * 2 ^ shift, 1 * 2 ^ shift) := by
    rw [inUnits, Nat.one_mul]
    split
    · next hk =>
      obtain rfl : k = 0 := by omega
      exact Prod.ext (by rw [Nat.pow_zero, Nat.mul_one]) (Nat.mul_one _)
    · rw [Int.neg_neg, Int.toNat_natCast, Nat.mul_right_comm]
      rfl
  have hfull : 1 * 2 ^ 52 ≤ a * 2 ^ k := by
    rw [Nat.one_mul, ← h, Nat.pow_add]
    exact Nat.mul_le_mul_right _ (Nat.log2_self_le ha)
  have hwhole := roundHalfEven_mul_cancel Nat.one_pos (Nat.one_dvd (a * 2 ^ k))
  rw [ofRatio_of_inUnits ha (by omega) hunits hfull, ← Nat.mul_one (roundHalfEven _ 1), hwhole]

/-- **A natural number, written as a ratio to a power of two, becomes the nearest one.** -/
theorem represents_ofRatio (a shift : Nat) :
    Represents (ofRatio false (a * 2 ^ shift) (2 ^ shift)) (nearest a) := by
  rcases Nat.eq_zero_or_pos a with rfl | hpos
  · rw [Nat.zero_mul]
    exact represents_zero
  have ha : a ≠ 0 := Nat.ne_of_gt hpos
  rcases Nat.le_total 52 a.log2 with h | h
  · obtain ⟨k, hk⟩ := Nat.exists_eq_add_of_le h
    have hspacing := spacing_of_log2_eq hk
    have hge : 2 ^ 52 ≤ a / 2 ^ k := by
      rw [Nat.le_div_iff_mul_le (Nat.two_pow_pos k), ← Nat.pow_add, ← hk]
      exact Nat.log2_self_le ha
    rw [ofRatio_of_log2_eq hk, nearest, hspacing]
    exact represents_make (Nat.le_trans hge (div_le_roundHalfEven a (2 ^ k))) k
  · obtain ⟨k, hk⟩ := Nat.exists_eq_add_of_le h
    have hlt : a * 2 ^ k < Nat.pow 2 53 := by
      have hbits := Nat.mul_lt_mul_of_pos_right (Nat.lt_log2_self (n := a)) (Nat.two_pow_pos k)
      rwa [← Nat.pow_add, Nat.add_right_comm, ← hk] at hbits
    have hexact : IsExact a :=
      isExact_of_lt (Nat.lt_of_le_of_lt (Nat.le_mul_of_pos_right a (Nat.two_pow_pos k)) hlt)
    rw [ofRatio_of_log2_add ha hk.symm, nearest_eq_self_iff.mpr hexact, make,
      if_neg (Nat.ne_of_lt hlt)]
    dsimp only
    rw [if_neg (by rw [maxExponent]; omega)]
    exact represents_finite_neg a k

/-- A number that is read from its digits becomes the nearest one. -/
theorem represents_toBinary64 (n : Nat) :
    Represents (Decimal.toBinary64 ⟨false, n, 0⟩) (nearest n) := by
  unfold Decimal.toBinary64
  dsimp only
  split
  · next h =>
    rw [h]
    exact represents_zero
  · split
    · next h =>
      -- numbers of more than 400 digits are infinite without a closer look
      have hlong : ¬ n < 10 ^ 400 := by
        rw [← Nat.length_toDigits_le_iff (by decide) (by decide)]
        omega
      have hlarge : 2 ^ 63 ≤ n := Nat.le_trans (Nat.le_trans (Nat.pow_le_pow_left (by decide) 63)
        (Nat.pow_le_pow_right (by decide) (by decide))) (Nat.le_of_not_lt hlong)
      exact .infinite ((isExact_two_pow 63).le_nearest hlarge)
    · rw [if_neg (by omega), if_pos (Int.le_refl 0)]
      exact represents_ofRatio n 0

/-! ## Multiplication -/

/-- **A product is rounded like its value.** -/
theorem Represents.mulNat (h : Represents x n) (hb : 0 < b) :
    Represents (x.mulNat b) (nearest (n * b)) := by
  cases h with
  | finite shift hratio =>
    rw [Binary64.mulNat, hratio]
    dsimp only
    rw [Nat.mul_right_comm]
    exact represents_ofRatio (n * b) shift
  | infinite hlarge =>
    exact .infinite ((isExact_two_pow 63).le_nearest
      (Nat.le_trans hlarge (Nat.le_mul_of_pos_right n hb)))

/-- The integer part is the number itself, but for infinity. -/
theorem Represents.floorAbs? (h : Represents x n) :
    x.floorAbs? = some n ∨ x.floorAbs? = none ∧ 2 ^ 63 ≤ n := by
  cases h with
  | finite shift hratio =>
    refine .inl ?_
    rw [Binary64.floorAbs?, hratio]
    exact congrArg some (Nat.mul_div_cancel n (Nat.two_pow_pos shift))
  | infinite hlarge => exact .inr ⟨rfl, hlarge⟩

end ScopedConfig.Binary64

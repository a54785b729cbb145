import ScopedConfig.Proofs.Number.Digits
import ScopedConfig.Proofs.Number.Rounding
import ScopedConfig.Proofs.Text.Trim
import ScopedConfig.Quantity.Size

/-! # Byte counts

A byte count is a natural number in digits with a unit behind it (`ByteUnit`).  It is read in
two parts: the digits are the number and the rest is the unit, in whatever letter case
(`read_digits_append`).  What is then multiplied is a binary floating-point number, rounded
when the digits are read and again after each factor (`rounded`).

So a count that fits into 64 bits is read as it stands if and only if it has a significand
of 53 bits; another one becomes its neighbour, or too large.  A count that does not fit is
always found to be too large, since the least of them survives each rounding
(`two_pow_le_rounded`).  This is `read_exact_iff`.
-/
namespace ScopedConfig.Size
open Binary64

/-- **A unit of byte counts**: the place of its letter among the unit letters, whether an
`i` follows the letter, and whether a `b` closes it. -/
structure ByteUnit where
  place : Option (Fin unitLetters.length)
  isBinary : Bool
  isClosed : Bool
  hasLetter : isBinary = true → place.isSome = true

/-- A letter that may be absent. -/
def mark (letter : Char) (present : Bool) : Text := if present then [letter] else []

namespace ByteUnit

/-- The unit letter. -/
def letter (unit : ByteUnit) : Text := (unit.place.map (unitLetters[·])).toList

/-- The unit in lower case. -/
def text (unit : ByteUnit) : Text :=
  unit.letter ++ (mark 'i' unit.isBinary ++ mark 'b' unit.isClosed)

/-- What a unit is a power of. -/
def base (unit : ByteUnit) : Nat := if unit.isBinary then 1024 else 1000

/-- The power of the base; zero without a letter. -/
def power (unit : ByteUnit) : Nat := (unit.place.map (·.val + 1)).getD 0

/-- The number of bytes. -/
def bytes (unit : ByteUnit) : Nat := unit.base ^ unit.power

theorem base_eq_or (unit : ByteUnit) : unit.base = 1000 ∨ unit.base = 1024 := by
  unfold base
  split
  exacts [.inr rfl, .inl rfl]

theorem base_pos (unit : ByteUnit) : 0 < unit.base := by
  rcases unit.base_eq_or with h | h <;> omega

theorem bytes_pos (unit : ByteUnit) : 0 < unit.bytes := Nat.pow_pos unit.base_pos

theorem power_lt (unit : ByteUnit) : unit.power < 7 := by
  unfold power
  cases unit.place with
  | none => exact Nat.succ_pos 6
  | some place => exact Nat.succ_lt_succ place.isLt

theorem power_ne_zero (unit : ByteUnit) (h : unit.isBinary = true) : unit.power ≠ 0 := by
  obtain ⟨place, hplace⟩ := Option.isSome_iff_exists.mp (unit.hasLetter h)
  rw [power, hplace]
  exact Nat.succ_ne_zero place.val

end ByteUnit

variable {unit : ByteUnit} {digits suffix text rest : Text} {letter c : Char} {present : Bool}
  {n t base power : Nat}

/-! ## Reading a unit -/

theorem mem_mark (h : c ∈ mark letter present) : c = letter := by
  cases present
  exacts [absurd h List.not_mem_nil, List.mem_singleton.mp h]

/-- Every letter of a unit is one of ASCII. -/
theorem isLetter_of_toLower_mem (h : c.toLower ∈ unit.text) : 65 ≤ c.toNat ∧ c.toNat ≤ 122 := by
  have hletters : ∀ place : Fin unitLetters.length,
      65 ≤ unitLetters[place].toNat ∧ unitLetters[place].toNat ≤ 122 := by decide
  have hlower : 65 ≤ c.toLower.toNat ∧ c.toLower.toNat ≤ 122 := by
    rcases List.mem_append.mp h with h | h
    · obtain ⟨place, -, hplace⟩ := Option.map_eq_some_iff.mp (Option.mem_toList.mp h)
      exact hplace ▸ hletters place
    · rcases List.mem_append.mp h with h | h
      all_goals
        rw [mem_mark h]
        decide
  rcases Text.toLower_eq_or c with hsame | hupper
  · rwa [hsame] at hlower
  · omega

/-- A letter that may be absent is told from what follows it. -/
theorem skipLetter_eq (h : text.map Char.toLower = mark letter present ++ rest)
    (hrest : rest.head? ≠ some letter) :
    ∃ tail, skipLetter letter text = (present, tail) ∧ tail.map Char.toLower = rest := by
  cases present with
  | true =>
    obtain ⟨c, tail, rfl, hc, htail⟩ := List.map_eq_cons_iff.mp h
    exact ⟨tail, if_pos hc, htail⟩
  | false =>
    refine ⟨text, ?_, h⟩
    cases text with
    | nil => rfl
    | cons c tail =>
      have hhead : rest.head? = some c.toLower := congrArg List.head? h.symm
      exact if_neg fun hc : c.toLower = letter => hrest (hc ▸ hhead)

/-- What follows the letter of a unit. -/
theorem skipLetter_skipLetter {isBinary isClosed : Bool}
    (h : text.map Char.toLower = mark 'i' isBinary ++ mark 'b' isClosed) :
    ∃ tail, skipLetter 'i' text = (isBinary, tail) ∧ skipLetter 'b' tail = (isClosed, []) := by
  have hclosed : (mark 'b' isClosed).head? ≠ some 'i' := by cases isClosed <;> decide
  obtain ⟨tail, hbinary, htail⟩ := skipLetter_eq h hclosed
  rw [← List.append_nil (mark 'b' isClosed)] at htail
  obtain ⟨last, hlast, hnil⟩ := skipLetter_eq htail (by decide)
  rw [List.map_eq_nil_iff.mp hnil] at hlast
  exact ⟨tail, hbinary, hlast⟩

/-- A text without a unit letter in front. -/
theorem readSuffix_of_head? {isBinary isClosed : Bool}
    (hhead : ∀ c ∈ text.head?, isUnitLetter c = false)
    (h : text.map Char.toLower = mark 'i' isBinary ++ mark 'b' isClosed) :
    readSuffix text = some ⟨none, isBinary⟩ := by
  obtain ⟨tail, hbinary, hclosed⟩ := skipLetter_skipLetter h
  cases text with
  | nil =>
    simp only [readSuffix, hbinary, hclosed, if_true]
  | cons c rest =>
    have hc : isUnitLetter c = false := hhead c rfl
    simp only [readSuffix, hc, hbinary, hclosed, if_true, Bool.false_eq_true, if_false]

/-- **A unit is read in any letter case.** -/
theorem readSuffix_eq (h : suffix.map Char.toLower = unit.text) :
    ∃ letter, readSuffix suffix = some ⟨letter, unit.isBinary⟩ ∧
      (letter.map Size.power).getD 0 = unit.power := by
  obtain ⟨place, isBinary, isClosed, hasLetter⟩ := unit
  cases place with
  | none =>
    refine ⟨none, readSuffix_of_head? (fun c hc => ?_) h, rfl⟩
    have hmem : c.toLower ∈ mark 'i' isBinary ++ mark 'b' isClosed := by
      have hmap : c.toLower ∈ suffix.map Char.toLower :=
        List.mem_map_of_mem (List.mem_of_mem_head? hc)
      rwa [h] at hmap
    have hmark : c.toLower = 'i' ∨ c.toLower = 'b' :=
      (List.mem_append.mp hmem).imp mem_mark mem_mark
    rw [isUnitLetter, Bool.or_eq_false_iff, decide_eq_false_iff_not]
    constructor
    · rintro rfl
      exact absurd hmark (by decide)
    · rcases hmark with hi | hb
      · rw [hi]
        decide
      · rw [hb]
        decide
  | some place =>
    obtain ⟨c, rest, rfl, hc, hrest⟩ := List.map_eq_cons_iff.mp h
    obtain ⟨tail, hbinary, hclosed⟩ := skipLetter_skipLetter hrest
    have hletters (place : Fin unitLetters.length) :
        unitLetters.contains unitLetters[place] = true ∧
          unitLetters.idxOf? unitLetters[place] = some place.val := by
      revert place
      decide
    have hletter : isUnitLetter c = true := by
      rw [isUnitLetter, hc, (hletters place).1, Bool.or_true]
    refine ⟨some c, ?_, ?_⟩
    · simp only [readSuffix, hletter, hbinary, hclosed, if_true]
    · rw [Option.map_some, Option.getD_some, Size.power, hc, (hletters place).2]
      rfl

/-! ## Answers -/

/-- The answer for a number of bytes. -/
def byteCount (text : Text) (bytes : Nat) : Except SizeError Nat :=
  if bytes ≤ Integer.int64Max then .ok bytes else .error (.overflow text)

theorem int64Max_lt_iff {bytes : Nat} : Integer.int64Max < bytes ↔ 2 ^ 63 ≤ bytes := by
  rw [Integer.int64Max, ← Nat.succ_le_iff]
  exact Iff.rfl

theorem byteCount_of_fits {bytes : Nat} (h : bytes ≤ Integer.int64Max) (text : Text) :
    byteCount text bytes = .ok bytes := if_pos h

theorem byteCount_of_exceeds {bytes : Nat} (h : 2 ^ 63 ≤ bytes) (text : Text) :
    byteCount text bytes = .error (.overflow text) :=
  if_neg (Nat.not_le_of_lt (int64Max_lt_iff.mpr h))

theorem eq_of_byteCount_eq_ok {bytes : Nat} (h : byteCount text bytes = .ok n) : bytes = n := by
  unfold byteCount at h
  split at h
  · exact Except.ok.inj h
  · cases h

/-! ## Reading digits with a unit behind them -/

section Reading
variable (hne : digits ≠ []) (hdigits : ∀ c ∈ digits, Text.isDigit c = true)
  (hsuffix : suffix.map Char.toLower = unit.text)

include hsuffix in
theorem isLetter_of_mem_suffix (hc : c ∈ suffix) : 65 ≤ c.toNat ∧ c.toNat ≤ 122 :=
  isLetter_of_toLower_mem (hsuffix ▸ List.mem_map_of_mem hc)

include hdigits hsuffix

/-- No blank stands anywhere in such a text. -/
theorem isBlank_of_mem_append (hc : c ∈ digits ++ suffix) : Text.isBlank c = false := by
  rcases List.mem_append.mp hc with hc | hc
  · have := Text.isDigit_iff.mp (hdigits c hc)
    exact Text.isBlank_eq_false (by omega)
  · have := isLetter_of_mem_suffix hsuffix hc
    exact Text.isBlank_eq_false (by omega)

theorem trim_append : Text.trim (digits ++ suffix) = digits ++ suffix :=
  Text.trim_of_solid
    (fun _ hc => isBlank_of_mem_append hdigits hsuffix (List.mem_of_mem_head? hc))
    (fun _ hc => isBlank_of_mem_append hdigits hsuffix (List.mem_of_mem_getLast? hc))

/-- The number goes as far as the digits do. -/
theorem takeNumber_append : takeNumber (digits ++ suffix) = (digits, suffix) := by
  have hall : ∀ c ∈ digits, Text.isDecimalDigit c = true :=
    fun c hc => Text.isDecimalDigit_of_isDigit (hdigits c hc)
  unfold takeNumber
  rw [List.takeWhile_append_of_pos hall, List.dropWhile_append_of_pos hall]
  cases suffix with
  | nil => rw [List.takeWhile_nil, List.dropWhile_nil, List.append_nil]
  | cons c rest =>
    have hletter := isLetter_of_mem_suffix hsuffix List.mem_cons_self
    have hdigit := Text.isDecimalDigit_eq_false hletter
    have hpoint : c ≠ '.' := by
      rintro rfl
      exact absurd hletter (by decide)
    rw [List.takeWhile_cons_of_neg (by rw [hdigit]; decide),
      List.dropWhile_cons_of_neg (by rw [hdigit]; decide), List.append_nil]
    dsimp only
    split
    · next heq => exact absurd (List.cons.inj heq).1 hpoint
    · rfl

include hne

/-- **Digits with a unit behind them are read as the number, multiplied as often as the
unit says.** -/
theorem read_digits_append :
    read (digits ++ suffix) =
      match (scale unit.base unit.power
        (Decimal.toBinary64 ⟨false, Nat.ofDigitChars 10 digits 0, 0⟩)).floorAbs? with
      | some bytes => byteCount (digits ++ suffix) bytes
      | none => .error (.overflow (digits ++ suffix)) := by
  obtain ⟨letter, hletter, hpower⟩ := readSuffix_eq hsuffix
  have hstart : (digits ++ suffix).head? ≠ some '-' := by
    obtain ⟨c, rest, rfl⟩ := List.exists_cons_of_ne_nil hne
    intro h
    obtain rfl := Option.some.inj h
    exact absurd (hdigits '-' List.mem_cons_self) (by decide)
  have hblank : Text.trimStart suffix = suffix := Text.trimStart_eq_self_iff.mpr fun _ hc =>
    isBlank_of_mem_append hdigits hsuffix (List.mem_append_right _ (List.mem_of_mem_head? hc))
  have hempty : digits.isEmpty = false := List.isEmpty_eq_false_iff.mpr hne
  have hunit : ¬ (unit.isBinary && unit.power == 0) = true := by
    rw [Bool.and_eq_true, beq_iff_eq]
    exact fun h => unit.power_ne_zero h.1 h.2
  unfold read
  rw [trim_append hdigits hsuffix]
  dsimp only
  rw [if_neg hstart, takeNumber_append hdigits hsuffix]
  dsimp only
  rw [hblank, hempty, hletter, Decimal.read_digits hne hdigits]
  dsimp only
  rw [hpower, if_neg hunit]
  rfl

end Reading

/-! ## Rounding at each step -/

/-- The product that is rounded before each factor and in the end. -/
def rounded (base : Nat) : Nat → Nat → Nat
  | 0, n => nearest n
  | power + 1, n => rounded base power (nearest n * base)

theorem represents_scale {x : Binary64} (hbase : 0 < base) (h : Represents x (nearest n)) :
    Represents (scale base power x) (rounded base power n) := by
  induction power generalizing x n with
  | zero => exact h
  | succ power ih => exact ih (h.mulNat hbase)

theorem isExact_rounded (base power n : Nat) : IsExact (rounded base power n) := by
  induction power generalizing n with
  | zero => exact isExact_nearest n
  | succ power ih => exact ih _

/-- A product that rounding keeps is not rounded on the way either. -/
theorem rounded_of_isExact (hbase : 0 < base) (h : IsExact (n * base ^ power)) :
    rounded base power n = n * base ^ power := by
  induction power generalizing n with
  | zero =>
    rw [Nat.pow_zero, Nat.mul_one] at h ⊢
    exact nearest_eq_self_iff.mpr h
  | succ power ih =>
    have hn : IsExact n := by
      rcases Nat.eq_zero_or_pos n with rfl | hpos
      · exact isExact_of_lt (by decide)
      · have hne : n * base ^ (power + 1) ≠ 0 :=
          Nat.ne_of_gt (Nat.mul_pos hpos (Nat.pow_pos hbase))
        exact h.of_dvd hne (Nat.dvd_mul_right _ _)
    rw [Nat.pow_succ', ← Nat.mul_assoc] at h ⊢
    rw [rounded, nearest_eq_self_iff.mpr hn]
    exact ih h

/-- A bound that rounding keeps at each step stays a bound. -/
theorem le_rounded {bound : Nat} (hkept : ∀ i < power, IsExact (t * base ^ i)) (hle : t ≤ n)
    (hbound : IsExact bound) (h : bound ≤ t * base ^ power) : bound ≤ rounded base power n := by
  induction power generalizing t n with
  | zero =>
    rw [Nat.pow_zero, Nat.mul_one] at h
    exact hbound.le_nearest (Nat.le_trans h hle)
  | succ power ih =>
    have ht : IsExact t := by
      have hzero := hkept 0 (Nat.succ_pos power)
      rwa [Nat.pow_zero, Nat.mul_one] at hzero
    refine ih (t := t * base) (fun i hi => ?_) (Nat.mul_le_mul_right base (ht.le_nearest hle)) ?_
    · rw [Nat.mul_assoc, ← Nat.pow_succ']
      exact hkept (i + 1) (Nat.succ_lt_succ hi)
    · rwa [Nat.mul_assoc, ← Nat.pow_succ']

/-- The least number whose product with `bytes` does not fit into 64 bits. -/
def leastExcess (bytes : Nat) : Nat := (2 ^ 63 + bytes - 1) / bytes

theorem leastExcess_le {bytes : Nat} (hbytes : 0 < bytes) (h : 2 ^ 63 ≤ n * bytes) :
    leastExcess bytes ≤ n := by
  rw [leastExcess, ← Nat.lt_succ_iff, Nat.div_lt_iff_lt_mul hbytes, Nat.succ_mul]
  omega

/-- No product on the way to the least count that does not fit is rounded. -/
theorem isExact_leastExcess : ∀ base, base = 1000 ∨ base = 1024 → ∀ power < 7,
    (∀ i < power, IsExact (leastExcess (base ^ power) * base ^ i)) ∧
      2 ^ 63 ≤ leastExcess (base ^ power) * base ^ power := by
  rintro _ (rfl | rfl) <;> decide +kernel

/-- **A count that does not fit is found to be too large.** -/
theorem two_pow_le_rounded (h : 2 ^ 63 ≤ n * unit.bytes) :
    2 ^ 63 ≤ rounded unit.base unit.power n := by
  obtain ⟨hkept, hbound⟩ := isExact_leastExcess unit.base unit.base_eq_or unit.power unit.power_lt
  exact le_rounded hkept (leastExcess_le unit.bytes_pos h) (isExact_two_pow 63) hbound

/-! ## Exact counts -/

/-- **What is read is the rounded product.** -/
theorem read_eq_byteCount_rounded (hne : digits ≠ [])
    (hdigits : ∀ c ∈ digits, Text.isDigit c = true) (h : suffix.map Char.toLower = unit.text) :
    read (digits ++ suffix) = byteCount (digits ++ suffix)
      (rounded unit.base unit.power (Nat.ofDigitChars 10 digits 0)) := by
  have hnumber := represents_toBinary64 (Nat.ofDigitChars 10 digits 0)
  have hproduct : Represents _ (rounded unit.base unit.power _) :=
    represents_scale unit.base_pos hnumber
  rw [read_digits_append hne hdigits h]
  rcases hproduct.floorAbs? with hfinite | ⟨hinfinite, hlarge⟩
  · rw [hfinite]
  · rw [hinfinite, byteCount_of_exceeds hlarge]

/-- **Which byte counts are exact.**  A natural number of units is read as the number of bytes
that they are, or as an overflow where these do not fit into a signed number of 64 bits, if and
only if they do not fit or their number has a significand of 53 bits. -/
theorem read_exact_iff (h : suffix.map Char.toLower = unit.text) (n : Nat) :
    read (Text.ofNat n ++ suffix) = byteCount (Text.ofNat n ++ suffix) (n * unit.bytes) ↔
      Integer.int64Max < n * unit.bytes ∨ IsExact (n * unit.bytes) := by
  have hread := read_eq_byteCount_rounded (Text.ofNat_ne_nil n)
    (fun _ => Text.isDigit_of_mem_ofNat) h
  rw [show Nat.ofDigitChars 10 (Text.ofNat n) 0 = n from Nat.ofDigitChars_ten_toDigits] at hread
  rw [hread]
  rcases Nat.lt_or_ge Integer.int64Max (n * unit.bytes) with hexceeds | hfits
  · have hlarge := int64Max_lt_iff.mp hexceeds
    rw [byteCount_of_exceeds hlarge, byteCount_of_exceeds (two_pow_le_rounded hlarge)]
    exact iff_of_true rfl (.inl hexceeds)
  · rw [byteCount_of_fits hfits, or_iff_right (Nat.not_lt_of_ge hfits)]
    constructor
    · intro hok
      rw [← eq_of_byteCount_eq_ok hok]
      exact isExact_rounded _ _ n
    · intro hexact
      have hproduct : rounded unit.base unit.power n = n * unit.bytes :=
        rounded_of_isExact unit.base_pos hexact
      rw [hproduct, byteCount_of_fits hfits]

/-- The unit `kib`. -/
def kibibyte : ByteUnit := ⟨some ⟨0, by decide⟩, true, true, fun _ => rfl⟩

/-- No letters behind the number. -/
def singleByte : ByteUnit := ⟨none, false, false, fun h => absurd h Bool.false_ne_true⟩

/-- The largest number of kibibytes that fits, and one more. -/
theorem read_exact_iff_kibibyte :
    read "9007199254740991KiB" = .ok 9223372036854774784 ∧
      read "9007199254740992KiB" = .error (.overflow "9007199254740992KiB") := by
  have hunit : List.map Char.toLower "KiB".toList = kibibyte.text := by decide
  have hlast := (read_exact_iff hunit 9007199254740991).mpr (.inr (by decide +kernel))
  have hnext := (read_exact_iff hunit 9007199254740992).mpr (.inl (by decide +kernel))
  rw [show Text.ofNat 9007199254740991 ++ "KiB" = "9007199254740991KiB".toList by decide +kernel]
    at hlast
  rw [show Text.ofNat 9007199254740992 ++ "KiB" = "9007199254740992KiB".toList by decide +kernel]
    at hnext
  exact ⟨hlast.trans (by decide +kernel), hnext.trans (by decide +kernel)⟩

/-- The first number of bytes that is not read as itself, and the last one that fits, which
is found to be too large. -/
theorem not_read_exact_odd :
    read "9007199254740993" = .ok 9007199254740992 ∧
      read "9223372036854775807" = .error (.overflow "9223372036854775807") ∧
      ¬ ∀ (unit : ByteUnit) (suffix : Text) (n : Nat), suffix.map Char.toLower = unit.text →
        read (Text.ofNat n ++ suffix) = byteCount (Text.ofNat n ++ suffix) (n * unit.bytes) := by
  refine ⟨by decide +kernel, by decide +kernel, fun h => ?_⟩
  have hodd := h singleByte [] 9007199254740993 (by decide)
  exact absurd hodd (by decide +kernel)

end ScopedConfig.Size

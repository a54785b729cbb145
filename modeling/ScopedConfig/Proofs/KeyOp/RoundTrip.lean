import ScopedConfig.Proofs.Key
import ScopedConfig.Proofs.KeyOp.Grammar
import ScopedConfig.RawConfig.Mutation

/-! # The text of a mutation

The text of a mutation is read where the mutation was read from: what stood before the
key is left out, so nothing stands at an earlier place (`StandsFirstAt.of_append`), and an
index is written in other digits, which nothing within the key can reach into
(`StandsFirstAt.reindex`).  The operation and the value come back as they were.  The key
comes back too unless its text, which leaves the default section out, means another one
(`text_denotes_iff`).
-/
namespace ScopedConfig

namespace KeyOp

variable {text key rest : Text} {op : KeyOp} {a b : Assignment} {i n : Nat}

/-! ## The assignment that is written -/

/-- The assignment in the text of a mutation. -/
def assignment (op : KeyOp) : Assignment :=
  match op.operator with
  | .insert => ⟨some (Text.ofNat op.index), .set, op.value⟩
  | operator => ⟨none, operator, op.value⟩

theorem text_eq (op : KeyOp) : op.text = op.key.text ++ op.assignment.text := by
  obtain ⟨key, operator, value, index⟩ := op
  cases operator
  case insert => simp [KeyOp.text, assignment, Assignment.text, Assignment.mark, Operator.symbol]
  all_goals exact List.append_assoc ..

theorem isIndex_ofNat (n : Nat) : Assignment.IsIndex (Text.ofNat n) :=
  ⟨Text.ofNat_ne_nil n, List.all_eq_true.mpr fun _ hc =>
    Text.isDecimalDigit_of_isDigit (Text.isDigit_of_mem_ofNat hc)⟩

/-- An index is read back from the digits in which it is written. -/
theorem operation?_ofNat (h : n ≤ Integer.nat64Max) :
    Assignment.operation? ⟨some (Text.ofNat n), .set, rest⟩ = some (.insert, n) := by
  have hall : (Text.ofNat n).all Text.isDigit = true :=
    List.all_eq_true.mpr fun _ hc => Text.isDigit_of_mem_ofNat hc
  have hvalue : Nat.ofDigitChars 10 (Text.ofNat n) 0 = n := Nat.ofDigitChars_ten_toDigits
  unfold Assignment.operation?
  dsimp only
  rw [hvalue]
  exact if_pos ⟨rfl, hall, h⟩

/-- **A mutation that an assignment yields is written as that assignment**, or as an
insertion that gives its index in other digits. -/
theorem assignment_of_operation? (hformed : a.WellFormed)
    (hoperation : a.operation? = some (op.operator, op.index)) (hvalue : a.value = op.value) :
    op.assignment.WellFormed ∧ op.assignment.operation? = some (op.operator, op.index) ∧
      (op.assignment = a ∨ ∃ digits digits', a = ⟨some digits, .set, op.value⟩ ∧
        op.assignment = ⟨some digits', .set, op.value⟩) := by
  obtain ⟨key, operator, value, index⟩ := op
  obtain ⟨index?, symbol, rest⟩ := a
  obtain rfl : rest = value := hvalue
  cases index? with
  | none =>
    obtain ⟨rfl, rfl⟩ : symbol = operator ∧ 0 = index := by
      simpa [Assignment.operation?] using hoperation
    have hsame : assignment ⟨key, symbol, rest, 0⟩ = ⟨none, symbol, rest⟩ := by
      cases symbol
      case insert => exact absurd rfl hformed.operator
      all_goals rfl
    rw [hsame]
    exact ⟨hformed, rfl, .inl rfl⟩
  | some digits =>
    unfold Assignment.operation? at hoperation
    dsimp only at hoperation
    split at hoperation
    · next hfits =>
      obtain ⟨rfl, -, hle⟩ := hfits
      cases hoperation
      have hformed' : (Assignment.mk (some (Text.ofNat (Nat.ofDigitChars 10 digits 0))) .set
          rest).WellFormed := by
        refine ⟨fun other hother => ?_, by simp⟩
        obtain rfl := Option.some.inj hother
        exact isIndex_ofNat _
      exact ⟨hformed', operation?_ofNat hle, .inr ⟨digits, _, rfl, rfl⟩⟩
    · cases hoperation

/-! ## Where the assignment stands -/

/-- What stands behind the beginning of a text stands in the whole text. -/
theorem StandsAt.append (start : Text) (h : StandsAt rest i a) :
    StandsAt (start ++ rest) (start.length + i) a := by
  refine ⟨Nat.le_add_left_of_le h.1, h.2.1, ?_⟩
  rw [List.drop_append, List.drop_eq_nil_of_le (Nat.le_add_right ..), List.nil_append,
    Nat.add_sub_cancel_left]
  exact h.2.2

/-- Without its beginning a text has the same first place, unless the key goes with it. -/
theorem StandsFirstAt.of_append {start : Text}
    (h : StandsFirstAt (start ++ rest) (start.length + i) a) (hi : 1 ≤ i) :
    StandsFirstAt rest i a := by
  obtain ⟨⟨-, hformed, htext⟩, hfirst⟩ := h
  rw [List.drop_append, List.drop_eq_nil_of_le (Nat.le_add_right ..), List.nil_append,
    Nat.add_sub_cancel_left] at htext
  exact ⟨⟨hi, hformed, htext⟩, fun j hj b hb =>
    hfirst (start.length + j) (Nat.add_lt_add_left hj _) b (hb.append start)⟩

/-- Behind the bracket that opens an index, what stands between key and value are digits,
the bracket that closes the index, and the characters of operators. -/
theorem exists_mark_eq (h : a.WellFormed) : ∃ start rest, a.mark = start ++ rest ∧
    (start = [] ∨ start = ['[']) ∧
      ∀ c ∈ rest, Text.isDecimalDigit c = true ∨ c ∈ "]=+-|^".toList := by
  have hsymbol : ∀ c ∈ a.operator.symbol, c ∈ "]=+-|^".toList := by
    have hall : a.operator.symbol.all ("]=+-|^".toList.contains ·) = true := by
      cases a.operator <;> decide
    exact fun c hc => List.contains_iff_mem.mp (List.all_eq_true.mp hall c hc)
  unfold Assignment.mark
  split
  · next digits hindex =>
    refine ⟨['['], digits ++ ']' :: a.operator.symbol, rfl, .inr rfl, fun c hc => ?_⟩
    rcases List.mem_append.mp hc with hdigit | hc
    · exact .inl (List.all_eq_true.mp (h.index digits hindex).2 c hdigit)
    · rcases List.mem_cons.mp hc with rfl | hc
      · exact .inr (by decide)
      · exact .inr (hsymbol c hc)
  · exact ⟨[], a.operator.symbol, rfl, .inl rfl, fun c hc => .inr (hsymbol c hc)⟩

theorem bracket_not_mem_tail_mark (h : a.WellFormed) : '[' ∉ a.mark.tail := by
  obtain ⟨start, rest, hmark, hstart, hrest⟩ := exists_mark_eq h
  have hnone : '[' ∉ rest := fun hmem =>
    (hrest _ hmem).elim (fun hdigit => absurd hdigit (by decide)) (absurd · (by decide))
  rw [hmark]
  obtain rfl | rfl := hstart
  · exact fun hmem => hnone (List.mem_of_mem_tail hmem)
  · exact hnone

theorem lineFeed_not_mem_mark (h : a.WellFormed) : '\n' ∉ a.mark := by
  obtain ⟨start, rest, hmark, hstart, hrest⟩ := exists_mark_eq h
  rw [hmark]
  intro hmem
  rcases List.mem_append.mp hmem with hmem | hmem
  · obtain rfl | rfl := hstart <;> exact absurd hmem (by decide)
  · exact (hrest _ hmem).elim (fun hdigit => absurd hdigit (by decide)) (absurd · (by decide))

/-- An assignment that begins before a bracket has its operator before it. -/
theorem exists_append_of_bracket (h : a.WellFormed) (hkey : key ≠ [])
    (htext : a.text = key ++ '[' :: rest) : ∃ start, key = a.mark ++ start := by
  rcases List.append_eq_append_iff.mp htext with ⟨start, hkey, -⟩ | ⟨reached, hmark, hrest⟩
  · exact ⟨start, hkey⟩
  · cases reached with
    | nil => exact ⟨[], by rw [hmark, List.append_nil, List.append_nil]⟩
    | cons c reached =>
      obtain ⟨rfl, -⟩ := List.cons.inj hrest
      obtain ⟨first, key, rfl⟩ := List.exists_cons_of_ne_nil hkey
      refine absurd ?_ (bracket_not_mem_tail_mark h)
      rw [hmark]
      exact List.mem_append_right key List.mem_cons_self

/-- **What stands within a key does not depend on the index behind it.** -/
theorem StandsAt.of_bracket {rest' : Text} (hi : i < key.length)
    (h : StandsAt (key ++ '[' :: rest) i a) : ∃ b, StandsAt (key ++ '[' :: rest') i b := by
  obtain ⟨hone, hformed, htext⟩ := h
  rw [List.drop_append_of_le_length (Nat.le_of_lt hi)] at htext
  obtain ⟨start, hstart⟩ := exists_append_of_bracket hformed
    (List.ne_nil_of_length_pos (by rw [List.length_drop]; omega)) htext.symm
  refine ⟨{ a with value := start ++ '[' :: rest' }, hone, ⟨hformed.index, hformed.operator⟩, ?_⟩
  rw [List.drop_append_of_le_length (Nat.le_of_lt hi), hstart, List.append_assoc]
  rfl

/-- The first place stays if the index there is given in other digits. -/
theorem StandsFirstAt.reindex {digits digits' value : Text}
    (h : StandsFirstAt (key ++ Assignment.text ⟨some digits, .set, value⟩) key.length
      ⟨some digits, .set, value⟩)
    (hformed : (Assignment.mk (some digits') .set value).WellFormed) :
    StandsFirstAt (key ++ Assignment.text ⟨some digits', .set, value⟩) key.length
      ⟨some digits', .set, value⟩ := by
  refine ⟨⟨h.1.1, hformed, List.drop_left⟩, fun j hj b hb => ?_⟩
  obtain ⟨c, hc⟩ := hb.of_bracket hj
  exact h.2 j hj c hc

/-! ## Reading the text of a mutation -/

/-- A mutation is read from one line: the text of a key, and behind it an assignment that
stands at the first place. -/
theorem exists_standsFirstAt_of_read (h : read text = .ok op) :
    '\n' ∉ text ∧ ∃ keyText a, text = keyText ++ a.text ∧
      StandsFirstAt text keyText.length a ∧ Key.read keyText = .ok op.key ∧
      a.operation? = some (op.operator, op.index) ∧ a.value = op.value := by
  have hline : '\n' ∉ text := by
    intro hmem
    rw [read_of_lineFeed hmem] at h
    cases h
  refine ⟨hline, ?_⟩
  cases hsplit : splitKey text with
  | none =>
    rw [read_of_not_standsAt (not_standsAt_of_splitKey hsplit)] at h
    cases h
  | some found =>
    obtain ⟨keyText, a⟩ := found
    obtain ⟨hfirst, htake⟩ := standsFirstAt_of_splitKey hsplit
    have htext : text = keyText ++ a.text := by
      rw [← hfirst.1.2.2]
      conv_lhs => rw [← List.take_append_drop keyText.length text, htake]
    rw [read_of_standsFirstAt hline hfirst, htake] at h
    cases hkey : Key.read keyText with
    | error error =>
      rw [hkey] at h
      cases h
    | ok key =>
      rw [hkey] at h
      obtain ⟨operator, index, hoperation, rfl⟩ := Assignment.reading_eq_ok_iff.mp h
      exact ⟨keyText, a, htext, hfirst, hkey, hoperation, rfl⟩

/-- **The text of a mutation that has been read is read in the same parts**: the text of
its key, its operation and its value. -/
theorem read_text (h : read text = .ok op) :
    read op.text = (Key.read op.key.text).mapError .key >>= fun key =>
      .ok ⟨key, op.operator, op.value, op.index⟩ := by
  obtain ⟨hline, keyText, a, rfl, hfirst, hkey, hoperation, hvalue⟩ :=
    exists_standsFirstAt_of_read h
  obtain ⟨hformed, hoperation', hsame⟩ :=
    assignment_of_operation? hfirst.1.2.1 hoperation hvalue
  obtain ⟨start, rfl⟩ := Key.exists_append_text hkey
  have hvalue' : op.assignment.value = op.value := by
    obtain hsame | ⟨digits, digits', -, hsame⟩ := hsame
    · rw [hsame, hvalue]
    · rw [hsame]
  have hkeyFirst : StandsFirstAt (op.key.text ++ a.text) op.key.text.length a := by
    rw [List.append_assoc, List.length_append] at hfirst
    exact hfirst.of_append (List.length_pos_of_ne_nil (Key.text_ne_nil hkey))
  have hfirst' : StandsFirstAt op.text op.key.text.length op.assignment := by
    rw [text_eq]
    obtain hsame | ⟨digits, digits', rfl, hsame⟩ := hsame
    · rw [hsame]
      exact hkeyFirst
    · rw [hsame] at hformed ⊢
      exact hkeyFirst.reindex hformed
  have hline' : '\n' ∉ op.text := by
    rw [text_eq, Assignment.text, hvalue', ← hvalue]
    intro hmem
    rcases List.mem_append.mp hmem with hkeyText | hrest
    · exact hline (List.mem_append_left _ (List.mem_append_right _ hkeyText))
    · rcases List.mem_append.mp hrest with hmark | hrest
      · exact lineFeed_not_mem_mark hformed hmark
      · exact hline (List.mem_append_right _ (List.mem_append_right _ hrest))
  have htake : op.text.take op.key.text.length = op.key.text := by
    rw [text_eq, List.take_left]
  rw [read_of_standsFirstAt hline' hfirst', htake]
  refine bind_congr fun key => ?_
  exact Assignment.reading_eq_ok_iff.mpr ⟨_, _, hoperation', by rw [hvalue']⟩

/-- **Two mutations are the same** up to the name of the default section, which may be
left out. -/
structure SameMutation (a b : KeyOp) : Prop where
  sectionName : a.key.sectionOrDefault = b.key.sectionOrDefault
  option : a.key.option = b.key.option
  operator : a.operator = b.operator
  value : a.value = b.value
  index : a.index = b.index

end KeyOp

theorem RawConfig.plans_inSection (raw : RawConfig) (op : KeyOp) (name : Text)
    (names : List Text) : raw.plans (op.inSection name) names = raw.plans op names := by
  induction names with
  | nil => rfl
  | cons target rest ih =>
    rw [plans, plans, ih]
    rfl

/-- The same mutation does the same to every configuration. -/
theorem KeyOp.SameMutation.apply_eq {a b : KeyOp} (h : a.SameMutation b) (raw : RawConfig) :
    raw.apply a = raw.apply b := by
  obtain ⟨hsection, hoption, hoperator, hvalue, hindex⟩ := h
  have hmoved : a = b.inSection a.key.sectionName := by
    obtain ⟨⟨sectionName, option⟩, operator, value, index⟩ := a
    obtain ⟨⟨sectionName', option'⟩, operator', value', index'⟩ := b
    obtain rfl : option = option' := hoption
    obtain rfl : operator = operator' := hoperator
    obtain rfl : value = value' := hvalue
    obtain rfl : index = index' := hindex
    rfl
  have htargets : raw.targets a = raw.targets b := by
    rw [RawConfig.targets, RawConfig.targets, hsection]
  have hplans : raw.plans a (raw.targets b) = raw.plans b (raw.targets b) := by
    rw [hmoved, RawConfig.plans_inSection]
  rw [RawConfig.apply, RawConfig.apply, htargets, hplans, hoption]

namespace KeyOp

/-- **The text of a mutation denotes that mutation**, exactly unless it leaves the default
section out before an option with a dot. -/
theorem text_denotes_iff {text : Text} {op : KeyOp} (h : read text = .ok op) :
    (∃ again, read op.text = .ok again ∧ op.SameMutation again ∧
      ∀ raw : RawConfig, raw.apply again = raw.apply op) ↔
      (op.key.sectionOrDefault = defaultSection → '.' ∉ op.key.option) := by
  obtain ⟨-, keyText, -, -, -, hkey, -⟩ := exists_standsFirstAt_of_read h
  rw [read_text h, ← Key.exists_read_text_iff hkey]
  constructor
  · rintro ⟨again, hread, hsame, -⟩
    cases hagain : Key.read op.key.text with
    | error error =>
      rw [hagain] at hread
      cases hread
    | ok key =>
      rw [hagain] at hread
      cases hread
      exact ⟨key, rfl, hsame.sectionName.symm, hsame.option.symm⟩
  · rintro ⟨key, hread, hsection, hoption⟩
    have hsame : op.SameMutation ⟨key, op.operator, op.value, op.index⟩ :=
      ⟨hsection.symm, hoption.symm, rfl, rfl, rfl⟩
    rw [hread]
    exact ⟨_, rfl, hsame, fun raw => (hsame.apply_eq raw).symm⟩

theorem text_denotes_iff_numbered :
    read "DEFAULT.nodes[+][007]=n9 [1]=x" = .ok ⟨⟨"DEFAULT", "nodes[+]"⟩, .insert, "n9 [1]=x", 7⟩ ∧
      KeyOp.text ⟨⟨"DEFAULT", "nodes[+]"⟩, .insert, "n9 [1]=x", 7⟩ = "nodes[+][7]=n9 [1]=x".toList ∧
      ∃ again, read "nodes[+][7]=n9 [1]=x" = .ok again ∧
        SameMutation ⟨⟨"DEFAULT", "nodes[+]"⟩, .insert, "n9 [1]=x", 7⟩ again := by
  have hread : read "DEFAULT.nodes[+][007]=n9 [1]=x" =
      .ok ⟨⟨"DEFAULT", "nodes[+]"⟩, .insert, "n9 [1]=x", 7⟩ := by decide
  have htext : KeyOp.text ⟨⟨"DEFAULT", "nodes[+]"⟩, .insert, "n9 [1]=x", 7⟩ =
      "nodes[+][7]=n9 [1]=x".toList := by decide
  obtain ⟨again, hagain, hsame, -⟩ := (text_denotes_iff hread).mpr fun _ => by decide
  rw [htext] at hagain
  exact ⟨hread, htext, again, hagain, hsame⟩

/-- An option with a dot is taken for an option of another section. -/
theorem not_read_text_dotted :
    read "DEFAULT.db.host=x" = .ok ⟨⟨"DEFAULT", "db.host"⟩, .set, "x", 0⟩ ∧
      KeyOp.text ⟨⟨"DEFAULT", "db.host"⟩, .set, "x", 0⟩ = "db.host=x".toList ∧
      read "db.host=x" = .ok ⟨⟨"db", "host"⟩, .set, "x", 0⟩ ∧
      ¬ SameMutation ⟨⟨"DEFAULT", "db.host"⟩, .set, "x", 0⟩ ⟨⟨"db", "host"⟩, .set, "x", 0⟩ := by
  refine ⟨by decide, by decide, by decide, fun h => ?_⟩
  exact absurd h.option (by decide)

end KeyOp
end ScopedConfig

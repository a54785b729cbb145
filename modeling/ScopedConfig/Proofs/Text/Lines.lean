import Mathlib.Data.List.Infix
import ScopedConfig.Proofs.Text.Trim

/-! # Lines and carriage returns

`Text.lines` takes one carriage return along with every line feed.  Lines that
hold no line feed and are each ended by one are therefore read back without their
last carriage return (`lines_flatMap_lineFeed`).

What that does to a text of several lines is `dropReturns`: every carriage return
right before a line feed is gone, and nothing else is
(`flatten_dropReturn_splitOn`).
-/
namespace ScopedConfig.Text

/-- The text without the carriage returns that stand right before a line feed. -/
def dropReturns : Text → Text
  | [] => []
  | '\r' :: '\n' :: rest => '\n' :: dropReturns rest
  | c :: rest => c :: dropReturns rest

/-! ## Fields -/

theorem splitWhere_ne_nil (p : Char → Bool) (text : Text) : splitWhere p text ≠ [] := by
  cases text with
  | nil => simp [splitWhere]
  | cons c rest =>
    rw [splitWhere]
    split
    · simp
    · split <;> simp

theorem splitOn_nil (s : Char) : splitOn s [] = [[]] := rfl

theorem splitOn_cons_self (s : Char) (rest : Text) :
    splitOn s (s :: rest) = [] :: splitOn s rest := by
  simp [splitOn, splitWhere]

theorem splitOn_cons_of_ne {s c : Char} {rest first : Text} {others : List Text} (h : c ≠ s)
    (hr : splitOn s rest = first :: others) :
    splitOn s (c :: rest) = (c :: first) :: others := by
  simp only [splitOn] at hr
  simp [splitOn, splitWhere, h, hr]

theorem exists_splitOn_eq_cons (s : Char) (text : Text) :
    ∃ first others, splitOn s text = first :: others :=
  List.exists_cons_of_ne_nil (splitWhere_ne_nil _ text)

theorem splitOn_append_self {s : Char} {line : Text} (h : s ∉ line) (rest : Text) :
    splitOn s (line ++ s :: rest) = line :: splitOn s rest := by
  induction line with
  | nil => exact splitOn_cons_self s rest
  | cons c line ih =>
    have hc : s ≠ c := List.ne_of_not_mem_cons h
    exact splitOn_cons_of_ne hc.symm (ih (List.not_mem_of_not_mem_cons h))

/-- No field has a character that parts the fields. -/
theorem any_eq_false_of_mem_splitWhere {p : Char → Bool} {text field : Text}
    (h : field ∈ splitWhere p text) : field.any p = false := by
  induction text generalizing field with
  | nil =>
    obtain rfl := List.mem_singleton.mp h
    rfl
  | cons c rest ih =>
    obtain ⟨first, others, hr⟩ := List.exists_cons_of_ne_nil (splitWhere_ne_nil p rest)
    rw [splitWhere, hr] at h
    rw [hr] at ih
    by_cases hc : p c = true
    · rw [if_pos hc] at h
      rcases List.mem_cons.mp h with rfl | hmem
      · rfl
      · exact ih hmem
    · rw [if_neg hc] at h
      rcases List.mem_cons.mp h with rfl | hmem
      · rw [List.any_cons, ih List.mem_cons_self, Bool.or_false]
        exact Bool.eq_false_iff.mpr hc
      · exact ih (List.mem_cons_of_mem _ hmem)

/-- No field holds the separator. -/
theorem not_mem_of_mem_splitOn {s : Char} {text field : Text} (h : field ∈ splitOn s text) :
    s ∉ field := by
  intro hs
  have hparts := List.any_eq_false.mp (any_eq_false_of_mem_splitWhere h) s hs
  exact hparts (beq_self_eq_true s)

/-- What is no separator is in some field. -/
theorem exists_mem_splitOn {s c : Char} {text : Text} (h : c ∈ text) (hs : c ≠ s) :
    ∃ field ∈ splitOn s text, c ∈ field := by
  induction text with
  | nil => cases h
  | cons d rest ih =>
    obtain ⟨first, others, hr⟩ := exists_splitOn_eq_cons s rest
    by_cases hd : d = s
    · subst hd
      obtain ⟨field, hf, hc⟩ := ih ((List.mem_cons.mp h).resolve_left hs)
      exact ⟨field, splitOn_cons_self d rest ▸ List.mem_cons_of_mem _ hf, hc⟩
    · rw [splitOn_cons_of_ne hd hr]
      rcases List.mem_cons.mp h with rfl | h
      · exact ⟨_, List.mem_cons_self, List.mem_cons_self⟩
      · obtain ⟨field, hf, hc⟩ := ih h
        rcases List.mem_cons.mp (hr ▸ hf) with rfl | hf
        · exact ⟨_, List.mem_cons_self, List.mem_cons_of_mem _ hc⟩
        · exact ⟨field, List.mem_cons_of_mem _ hf, hc⟩

/-- The first field is what precedes the first separator. -/
theorem head_splitOn {s : Char} {text first : Text} {others : List Text}
    (h : splitOn s text = first :: others) : first = text.takeWhile (· ≠ s) := by
  induction text generalizing first others with
  | nil => simp_all [splitOn, splitWhere]
  | cons c rest ih =>
    by_cases hc : c = s
    · subst hc
      rw [splitOn_cons_self, List.cons.injEq] at h
      simp [← h.1]
    · obtain ⟨first', others', hr⟩ := exists_splitOn_eq_cons s rest
      rw [splitOn_cons_of_ne hc hr, List.cons.injEq] at h
      rw [← h.1, ih hr, List.takeWhile_cons_of_pos (by simpa using hc)]

/-! ## Lines -/

theorem dropReturn_nil : dropReturn [] = [] := rfl

theorem dropReturn_concat_of_ne (line : Text) {c : Char} (h : c ≠ '\r') :
    dropReturn (line ++ [c]) = line ++ [c] := by
  simp [dropReturn, before?, h]

theorem dropReturn_append (start : Text) {line : Text} (h : line ≠ []) :
    dropReturn (start ++ line) = start ++ dropReturn line := by
  obtain ⟨front, c, rfl⟩ := (List.eq_nil_or_concat' line).resolve_left h
  by_cases hc : c = '\r' <;> simp [dropReturn, before?, hc, ← List.append_assoc]

theorem dropReturn_of_endsSolid {line : Text} (h : EndsSolid line) : dropReturn line = line := by
  rcases List.eq_nil_or_concat' line with rfl | ⟨front, c, rfl⟩
  · rfl
  · refine dropReturn_concat_of_ne front ?_
    rintro rfl
    exact absurd (h '\r' List.getLast?_concat) (by decide)

theorem dropReturn_cons_of_ne {c : Char} (rest : Text) (h : c ≠ '\r') :
    dropReturn (c :: rest) = c :: dropReturn rest := by
  cases rest with
  | nil => exact dropReturn_concat_of_ne [] h
  | cons d rest => exact dropReturn_append [c] (List.cons_ne_nil d rest)

theorem dropReturn_subset (line : Text) : dropReturn line ⊆ line := by
  rcases List.eq_nil_or_concat' line with rfl | ⟨front, c, rfl⟩
  · exact fun _ h => h
  · by_cases hc : c = '\r' <;> simp [dropReturn, before?, hc]

theorem splitOn_flatMap_lineFeed {ls : List Text} (h : ∀ line ∈ ls, '\n' ∉ line) :
    splitOn '\n' (ls.flatMap (· ++ ['\n'])) = ls ++ [[]] := by
  induction ls with
  | nil => rfl
  | cons line ls ih =>
    rw [List.flatMap_cons, List.append_assoc, List.singleton_append,
      splitOn_append_self (h line List.mem_cons_self),
      ih (fun l hl => h l (List.mem_cons_of_mem _ hl))]
    rfl

/-- **Lines read back**: a text of lines that are each ended by a line feed is
read as these lines, each without the carriage return that ends it. -/
theorem lines_flatMap_lineFeed {ls : List Text} (h : ∀ line ∈ ls, '\n' ∉ line) :
    lines (ls.flatMap (· ++ ['\n'])) = ls.map dropReturn := by
  simp [lines, splitOn_flatMap_lineFeed h]

theorem not_mem_of_mem_lines {text line : Text} (h : line ∈ lines text) : '\n' ∉ line := by
  unfold lines at h
  rcases List.mem_append.mp h with h | h
  · obtain ⟨field, hf, rfl⟩ := List.mem_map.mp h
    exact fun hn => not_mem_of_mem_splitOn (List.dropLast_subset _ hf) (dropReturn_subset field hn)
  · split at h
    · cases h
    · obtain rfl := List.mem_singleton.mp h
      obtain ⟨first, others, hs⟩ := exists_splitOn_eq_cons '\n' text
      have hlast : (splitOn '\n' text).getLast?.getD [] ∈ splitOn '\n' text := by
        rw [hs, List.getLast?_cons, Option.getD_some, ← List.getLastD_eq_getLast?]
        exact List.getLastD_mem_cons
      exact not_mem_of_mem_splitOn hlast

/-! ## Carriage returns before line feeds -/

theorem dropReturns_cons_of_ne {c : Char} (rest : Text) (h : c ≠ '\r') :
    dropReturns (c :: rest) = c :: dropReturns rest := by
  rw [dropReturns]
  intro _ e
  exact absurd e h

theorem dropReturns_concat_of_ne {c : Char} (text : Text) (h : c ≠ '\n') :
    dropReturns (text ++ [c]) = dropReturns text ++ [c] := by
  induction text using dropReturns.induct with
  | case1 => rw [List.nil_append, dropReturns.eq_3 c [] (by simp)]; rfl
  | case2 rest ih => simp [dropReturns, ih]
  | case3 d rest hpair ih =>
    have hpair' : ∀ r, d = '\r' → rest ++ [c] = '\n' :: r → False := by
      intro r hd hr
      cases rest with
      | nil => exact h (List.cons.inj hr).1
      | cons e rest => exact hpair rest hd (by rw [(List.cons.inj hr).1])
    rw [List.cons_append, dropReturns.eq_3 d _ hpair', ih, dropReturns.eq_3 d rest hpair]
    rfl

/-- The texts that lose nothing are those in which no carriage return stands right
before a line feed. -/
theorem dropReturns_eq_self_iff {text : Text} :
    dropReturns text = text ↔ ¬ ['\r', '\n'] <:+: text := by
  induction text using dropReturns.induct with
  | case1 => simp [dropReturns]
  | case2 rest ih =>
    have hinfix : ['\r', '\n'] <:+: '\r' :: '\n' :: rest := ⟨[], rest, rfl⟩
    simp [dropReturns, hinfix]
  | case3 c rest hpair ih =>
    have hstart : ¬ ['\r', '\n'] <+: c :: rest := by
      rintro ⟨tail, htail⟩
      obtain ⟨hc, hr⟩ := List.cons.inj htail
      exact hpair tail hc.symm hr.symm
    rw [dropReturns.eq_3 c rest hpair, List.cons.injEq, ih, List.infix_cons_iff]
    simp [hstart]

/-- A field keeps its first character, which is no carriage return with a line feed
or nothing behind it. -/
theorem dropReturn_cons_field {c : Char} {rest first : Text} {others : List Text}
    (hs : splitOn '\n' rest = first :: others)
    (hpair : ∀ rest', c = '\r' → rest = '\n' :: rest' → False)
    (hlast : (c :: rest).getLast? ≠ some '\r') :
    dropReturn (c :: first) = c :: dropReturn first := by
  rcases eq_or_ne first [] with rfl | hne
  · refine dropReturn_cons_of_ne [] ?_
    rintro rfl
    -- the field is empty where the text ends, or where a line feed follows
    cases rest with
    | nil => exact hlast rfl
    | cons d rest' =>
      rcases eq_or_ne d '\n' with rfl | hd
      · exact hpair rest' rfl rfl
      · obtain ⟨first, others, hs'⟩ := exists_splitOn_eq_cons '\n' rest'
        rw [splitOn_cons_of_ne hd hs'] at hs
        cases hs
  · exact dropReturn_append [c] hne

/-- Reading a text line by line and putting the lines together again drops the
carriage returns before line feeds, if the text does not end in one. -/
theorem flatten_dropReturn_splitOn {text first : Text} {others : List Text}
    (hlast : text.getLast? ≠ some '\r') (h : splitOn '\n' text = first :: others) :
    dropReturn first ++ others.flatMap (fun line => '\n' :: dropReturn line) =
      dropReturns text := by
  induction text using dropReturns.induct generalizing first others with
  | case1 =>
    rw [splitOn_nil, List.cons.injEq] at h
    rw [← h.1, ← h.2]
    rfl
  | case2 rest ih =>
    obtain ⟨first', others', hr⟩ := exists_splitOn_eq_cons '\n' rest
    have hrest : rest.getLast? ≠ some '\r' := by
      intro e
      refine hlast ?_
      rw [List.getLast?_cons_cons, List.getLast?_cons, e]
      rfl
    rw [splitOn_cons_of_ne (by decide) (splitOn_cons_self '\n' rest), List.cons.injEq] at h
    rw [← h.1, ← h.2, hr, List.flatMap_cons, dropReturns, List.cons_append, ← ih hrest hr]
    rfl
  | case3 c rest hpair ih =>
    obtain ⟨first', others', hr⟩ := exists_splitOn_eq_cons '\n' rest
    have hrest : rest.getLast? ≠ some '\r' := by
      intro e
      rcases eq_or_ne rest [] with rfl | hne
      · cases e
      · exact hlast (by rw [List.getLast?_cons_of_ne_nil hne, e])
    rw [dropReturns.eq_3 c rest hpair]
    by_cases hc : c = '\n'
    · subst hc
      rw [splitOn_cons_self, List.cons.injEq] at h
      rw [← h.1, ← h.2, hr, List.flatMap_cons, dropReturn_nil, List.nil_append, List.cons_append,
        ih hrest hr]
    · rw [splitOn_cons_of_ne hc hr, List.cons.injEq] at h
      rw [← h.1, ← h.2, dropReturn_cons_field hr hpair hlast, List.cons_append, ih hrest hr]

end ScopedConfig.Text

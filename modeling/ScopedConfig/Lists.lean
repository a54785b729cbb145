/-! Facts on lists that are not about configurations: on searches, on insertions, on
functions that may fail, and on lists without repetitions, where an element stays where
it first came. -/
namespace ScopedConfig.Lists

variable {α β ε : Type}

theorem findSome?_congr {f g : α → Option β} {xs : List α} (h : ∀ x ∈ xs, f x = g x) :
    xs.findSome? f = xs.findSome? g := by
  induction xs with
  | nil => rfl
  | cons x xs ih =>
    rw [List.findSome?_cons, List.findSome?_cons, h x List.mem_cons_self,
      ih fun y hy => h y (List.mem_cons_of_mem x hy)]

/-- Where the value of one element changes to some value, a search stops at it if nothing
before has a value, and else where it did. -/
theorem findSome?_of_written [DecidableEq α] {get get' : α → Option β} {written : α} {value : β}
    (hself : get' written = some value) (hothers : ∀ other, other ≠ written → get' other = get other)
    (xs : List α) :
    xs.findSome? get' =
      if written ∈ xs ∧ ∀ earlier ∈ xs.takeWhile (· ≠ written), get earlier = none
      then some value else xs.findSome? get := by
  induction xs with
  | nil => simp
  | cons x xs ih =>
    by_cases hx : x = written
    -- the search stops at the element that is written, which nothing goes before
    · subst hx
      simp [hself]
    · have hne : written ≠ x := fun h => hx h.symm
      rw [List.findSome?_cons, List.findSome?_cons, hothers x hx, ih,
        List.takeWhile_cons_of_pos (by simpa using hx)]
      cases hget : get x with
      | none => simp [hne, hget]
      | some found => simp [hget]

/-- A list is parted where something is inserted. -/
theorem insertIdx_eq_append {xs : List α} {index : Nat} (h : index ≤ xs.length) (a : α) :
    xs.insertIdx index a = xs.take index ++ a :: xs.drop index := by
  induction xs generalizing index with
  | nil =>
    obtain rfl : index = 0 := Nat.le_zero.mp h
    rfl
  | cons first rest ih =>
    cases index with
    | zero => rfl
    | succ index =>
      rw [List.insertIdx_succ_cons, ih (Nat.le_of_succ_le_succ h), List.take_succ_cons,
        List.drop_succ_cons, List.cons_append]

theorem mapM_eq_ok {f : α → Except ε β} {g : α → β} {xs : List α}
    (h : ∀ x ∈ xs, f x = .ok (g x)) : xs.mapM f = .ok (xs.map g) := by
  induction xs with
  | nil => rfl
  | cons x xs ih =>
    rw [List.mapM_cons, h x List.mem_cons_self, ih fun y hy => h y (List.mem_cons_of_mem x hy)]
    rfl

theorem flatten_mapM_cons {m : Type → Type} [Monad m] [LawfulMonad m] (f : α → m (List β))
    (x : α) (xs : List α) :
    List.flatten <$> (x :: xs).mapM f =
      f x >>= fun value => (value ++ ·) <$> List.flatten <$> xs.mapM f := by
  simp only [List.mapM_cons, List.flatten_cons, map_eq_pure_bind, bind_assoc, pure_bind]

theorem nodup_concat {xs : List α} {x : α} (h : xs.Nodup) (absent : x ∉ xs) :
    (xs ++ [x]).Nodup := by
  rw [List.nodup_append]
  refine ⟨h, by simp, ?_⟩
  intro a ha b hb e
  simp only [List.mem_cons, List.not_mem_nil, or_false] at hb
  exact absent (hb ▸ e ▸ ha)

section EraseDups

variable [BEq α] [LawfulBEq α]

theorem eraseDups_concat_of_mem {xs : List α} {x : α} (h : x ∈ xs) :
    (xs ++ [x]).eraseDups = xs.eraseDups := by
  simp [List.eraseDups_append, List.removeAll, h]

theorem eraseDups_concat_of_not_mem {xs : List α} {x : α} (h : x ∉ xs) :
    (xs ++ [x]).eraseDups = xs.eraseDups ++ [x] := by
  simp [List.eraseDups_append, List.removeAll, h, List.eraseDups_cons]

/-- What comes once more is not taken anew. -/
theorem eraseDups_concat (xs : List α) (x : α) [Decidable (x ∈ xs.eraseDups)] :
    (xs ++ [x]).eraseDups = if x ∈ xs.eraseDups then xs.eraseDups else xs.eraseDups ++ [x] := by
  by_cases h : x ∈ xs
  · rw [if_pos (List.mem_eraseDups.mpr h), eraseDups_concat_of_mem h]
  · rw [if_neg (mt List.mem_eraseDups.mp h), eraseDups_concat_of_not_mem h]

theorem eraseDups_of_nodup {xs : List α} (h : xs.Nodup) : xs.eraseDups = xs := by
  induction xs with
  | nil => rfl
  | cons x rest ih =>
    obtain ⟨absent, hrest⟩ := List.nodup_cons.mp h
    have hfilter : rest.filter (fun other => !other == x) = rest := by
      refine List.filter_eq_self.mpr fun other hother => ?_
      have hne : other ≠ x := fun e => absent (e ▸ hother)
      simp [hne]
    rw [List.eraseDups_cons, hfilter, ih hrest]

/-- What is left of a list without repetitions is the list of what is left, without
repetitions. -/
theorem eraseDups_filter (p : α → Bool) (xs : List α) :
    (xs.filter p).eraseDups = xs.eraseDups.filter p := by
  -- what stands behind an element, without its repetitions, is a shorter list
  induction h : xs.length using Nat.strongRecOn generalizing xs with
  | ind n ih =>
    cases xs with
    | nil => rfl
    | cons x rest =>
      subst h
      have hshorter : (rest.filter fun other => !other == x).length < (x :: rest).length :=
        Nat.lt_succ_of_le (List.length_filter_le ..)
      have hothers := ih _ hshorter _ rfl
      rw [List.filter_filter] at hothers
      rw [List.eraseDups_cons]
      cases hp : p x with
      | true =>
        rw [List.filter_cons_of_pos hp, List.filter_cons_of_pos hp, List.eraseDups_cons,
          List.filter_filter, ← hothers]
        simp only [Bool.and_comm]
      | false =>
        have hdrop : ¬ p x = true := by simp [hp]
        rw [List.filter_cons_of_neg hdrop, List.filter_cons_of_neg hdrop, ← hothers]
        refine congrArg List.eraseDups (List.filter_congr fun other _ => ?_)
        by_cases hother : other = x
        · simp [hother, hp]
        · simp [hother]

end EraseDups

end ScopedConfig.Lists

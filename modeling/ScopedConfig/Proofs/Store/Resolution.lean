import Mathlib.Data.List.Basic
import ScopedConfig.Store.Expansion

/-! # Which error the names of a text come to

Names are resolved one after another, and a name with a value is not resolved
again.  What is left in the end is described by the errors of the names, each name
taken once, in the order in which the names first appear: the *leading* error is
the first that is postponed, else the first of all (`leading?`).  Expanding a text
gives the leading error of its names if there is one, and otherwise the text with
its references replaced (`expandWith_result`).
-/
namespace ScopedConfig

namespace EvalError

/-- **The error that is reported of several**: the first that has to wait for a
resource, else the first. -/
def leading? (errors : List EvalError) : Option EvalError :=
  (errors.find? isPostponed).or errors.head?

@[simp] theorem leading?_nil : leading? [] = none := rfl

theorem leading?_eq_none_iff {errors : List EvalError} : leading? errors = none ↔ errors = [] := by
  cases errors <;> simp [leading?]

/-- Without a postponed error, the first of the others leads. -/
theorem leading?_eq (errors : List EvalError) :
    leading? errors = (errors.find? isPostponed).or (errors.find? fun e => !e.isPostponed) := by
  cases errors with
  | nil => rfl
  | cons e rest =>
    cases h : e.isPostponed with
    | true => simp [leading?, h]
    | false => simp [leading?, h]

/-- A leading error that is not postponed is the first, and none is postponed. -/
theorem find?_of_leading? {errors : List EvalError} {e : EvalError} (h : leading? errors = some e) :
    if e.isPostponed then errors.find? isPostponed = some e
    else errors.find? isPostponed = none ∧ errors.head? = some e := by
  unfold leading? at h
  cases hf : errors.find? isPostponed with
  | some first =>
    rw [hf, Option.some_or, Option.some.injEq] at h
    subst h
    rw [if_pos (List.find?_some hf)]
  | none =>
    rw [hf, Option.none_or] at h
    have hmem : e ∈ errors := List.mem_of_mem_head? h
    have hp : e.isPostponed = false := by simpa using List.find?_eq_none.mp hf e hmem
    simp [hp, h]

theorem mem_of_leading? {errors : List EvalError} {e : EvalError} (h : leading? errors = some e) :
    e ∈ errors := by
  have hfind := find?_of_leading? h
  split at hfind
  · exact List.mem_of_find?_eq_some hfind
  · exact List.mem_of_mem_head? hfind.2

/-- A postponed error is outranked by postponed errors only. -/
theorem isPostponed_of_leading? {errors : List EvalError} {e first : EvalError} (h : e ∈ errors)
    (he : e.isPostponed = true) (hfirst : leading? errors = some first) :
    first.isPostponed = true := by
  have hfind := find?_of_leading? hfirst
  split at hfind
  · assumption
  · exact absurd he (List.find?_eq_none.mp hfind.1 e h)

/-- **Leading errors of parts lead as the errors of the whole do**: it makes no
difference whether one error is picked of each part first. -/
theorem leading?_filterMap (parts : List (List EvalError)) :
    leading? (parts.filterMap leading?) = leading? parts.flatten := by
  -- the first error only has to be the same where no postponed one outranks it
  have key : (parts.filterMap leading?).find? isPostponed = parts.flatten.find? isPostponed ∧
      (parts.flatten.find? isPostponed = none →
        (parts.filterMap leading?).head? = parts.flatten.head?) := by
    induction parts with
    | nil => exact ⟨rfl, fun _ => rfl⟩
    | cons part parts ih =>
      obtain ⟨hfind, hhead⟩ := ih
      rw [List.flatten_cons, List.find?_append, List.head?_append]
      cases hl : leading? part with
      | none =>
        rw [List.filterMap_cons_none hl, leading?_eq_none_iff.mp hl]
        exact ⟨hfind, hhead⟩
      | some e =>
        have hpart := find?_of_leading? hl
        rw [List.filterMap_cons_some hl, List.find?_cons]
        by_cases he : e.isPostponed
        · rw [if_pos he] at hpart
          simp [he, hpart]
        · rw [if_neg he] at hpart
          simp [he, hpart, hfind]
  rw [leading?, leading?, key.1]
  cases h : parts.flatten.find? isPostponed with
  | some e => rfl
  | none => rw [key.2 h]

end EvalError

namespace Outcome

variable {α : Type}

/-- The error of an outcome. -/
def error? (outcome : Outcome α) : Option EvalError :=
  match outcome.result with
  | .ok _ => none
  | .error e => some e

theorem bind_eq_ok_iff {β : Type} {first : Except EvalError α} {next : α → Except EvalError β}
    {value : β} :
    first >>= next = .ok value ↔ ∃ found, first = .ok found ∧ next found = .ok value := by
  cases first with
  | ok found => simp [bind, Except.bind]
  | error e => simp [bind, Except.bind]

theorem bind_eq_error_iff {β : Type} {first : Except EvalError α}
    {next : α → Except EvalError β} {e : EvalError} :
    first >>= next = .error e ↔
      first = .error e ∨ ∃ found, first = .ok found ∧ next found = .error e := by
  cases first with
  | ok found => simp [bind, Except.bind]
  | error e => simp [bind, Except.bind]

theorem map_eq_ok_iff {β : Type} {first : Except EvalError α} {f : α → β} {value : β} :
    first.map f = .ok value ↔ ∃ found, first = .ok found ∧ f found = value := by
  cases first <;> simp [Except.map]

theorem map_eq_error_iff {β : Type} {first : Except EvalError α} {f : α → β} {e : EvalError} :
    first.map f = .error e ↔ first = .error e := by
  cases first <;> simp [Except.map]

theorem result_bind {β : Type} (first : Outcome α) (next : α → Outcome β) :
    (first >>= next).result = first.result >>= fun value => (next value).result := by
  show (first.andThen next).result = _
  unfold andThen
  cases first.result <;> rfl

theorem error?_eq_none_iff {outcome : Outcome α} :
    outcome.error? = none ↔ ∃ value, outcome.result = .ok value := by
  unfold error?
  cases outcome.result <;> simp

theorem error?_eq_some_iff {outcome : Outcome α} {e : EvalError} :
    outcome.error? = some e ↔ outcome.result = .error e := by
  unfold error?
  cases outcome.result <;> simp

end Outcome

/-- The text that a piece stands for, given the values of names. -/
def Piece.fill (value : Text → Text) : Piece → Text
  | char c => [c]
  | reference r => r.modify (value r.name)

namespace Reference

/-- The names that a text refers to, each where it first appears. -/
def distinctNames (text : Text) : List Text := (names text).eraseDups

/-- The text with every reference replaced, given the values of names. -/
def replaceAll (value : Text → Text) (text : Text) : Text :=
  (Piece.scan text).flatMap (Piece.fill value)

theorem mem_distinctNames {text name : Text} : name ∈ distinctNames text ↔ name ∈ names text :=
  List.mem_eraseDups

theorem name_mem_names {text : Text} {r : Reference} (h : .reference r ∈ Piece.scan text) :
    r.name ∈ names text :=
  List.mem_map_of_mem (List.mem_filterMap.mpr ⟨.reference r, h, rfl⟩)

theorem replaceAll_congr {value other : Text → Text} {text : Text}
    (h : ∀ name ∈ names text, value name = other name) :
    replaceAll value text = replaceAll other text := by
  refine List.flatMap_congr fun piece hp => ?_
  cases piece with
  | char c => rfl
  | reference r => rw [Piece.fill, Piece.fill, h r.name (name_mem_names hp)]

/-- A text whose references all have a text is replaced without an error. -/
theorem substitute_eq_ok {resolve : Reference → Except EvalError Text} {value : Text → Text}
    {text : Text}
    (h : ∀ r, .reference r ∈ Piece.scan text → resolve r = .ok (r.modify (value r.name))) :
    substitute resolve text = .ok (replaceAll value text) := by
  have hparts : ∀ piece ∈ Piece.scan text,
      (match piece with
        | .char c => pure [c]
        | .reference r => resolve r : Except EvalError Text) = .ok (piece.fill value) := by
    intro piece hp
    cases piece with
    | char c => rfl
    | reference r => exact h r hp
  exact congrArg (fun parts : Except EvalError (List Text) => parts.map List.flatten)
    (Lists.mapM_eq_ok hparts)

end Reference

namespace LinkedStore

variable (resolve : Text → Outcome Text)

/-- The errors of names, each name taken once. -/
def errorsOf (names : List Text) : List EvalError :=
  names.eraseDups.filterMap fun name => (resolve name).error?

theorem mem_errorsOf_iff {names : List Text} {e : EvalError} :
    e ∈ errorsOf resolve names ↔ ∃ name ∈ names, (resolve name).result = .error e := by
  simp only [errorsOf, List.mem_filterMap, List.mem_eraseDups, Outcome.error?_eq_some_iff]

theorem errorsOf_eq_nil_iff {names : List Text} :
    errorsOf resolve names = [] ↔ ∀ name ∈ names, ∃ value, (resolve name).result = .ok value := by
  simp only [errorsOf, List.filterMap_eq_nil_iff, List.mem_eraseDups, Outcome.error?_eq_none_iff]

/-- The error of one more name only counts if there is none of its sort yet.  That
the name may have been there does not matter, since its error then was too. -/
theorem find?_errorsOf_concat (p : EvalError → Bool) (names : List Text) (name : Text) :
    (errorsOf resolve (names ++ [name])).find? p =
      ((errorsOf resolve names).find? p).or ((resolve name).error?.filter p) := by
  by_cases h : name ∈ names
  -- a name that was there already adds no error
  · have hsame : errorsOf resolve (names ++ [name]) = errorsOf resolve names := by
      rw [errorsOf, Lists.eraseDups_concat_of_mem h, errorsOf]
    rw [hsame]
    cases hf : (resolve name).error?.filter p with
    | none => rw [Option.or_none]
    | some e =>
      obtain ⟨he, hp⟩ := Option.filter_eq_some_iff.mp hf
      have hmem : e ∈ errorsOf resolve names :=
        (mem_errorsOf_iff resolve).mpr ⟨name, h, Outcome.error?_eq_some_iff.mp he⟩
      exact (Option.or_of_isSome (List.find?_isSome.mpr ⟨e, hmem, hp⟩)).symm
  · rw [errorsOf, Lists.eraseDups_concat_of_not_mem h, List.filterMap_append,
      List.find?_append, ← errorsOf]
    congr 1
    cases herror : (resolve name).error? with
    | none => simp [herror]
    | some e => by_cases hp : p e <;> simp [herror, Option.filter_some, hp]

namespace Resolution

theorem postponed_record (r : Resolution) (name : Text) (outcome : Outcome Text) :
    (r.record name outcome).postponed =
      r.postponed.or (outcome.error?.filter EvalError.isPostponed) := by
  unfold record Outcome.error?
  cases outcome.result with
  | ok value => simp
  | error e => by_cases h : e.isPostponed <;> simp [h, Option.filter_some]

theorem failed_record (r : Resolution) (name : Text) (outcome : Outcome Text) :
    (r.record name outcome).failed =
      r.failed.or (outcome.error?.filter fun e => !e.isPostponed) := by
  unfold record Outcome.error?
  cases outcome.result with
  | ok value => simp
  | error e => by_cases h : e.isPostponed <;> simp [h, Option.filter_some]

theorem asked_record (r : Resolution) (name : Text) (outcome : Outcome Text) :
    (r.record name outcome).asked = r.asked ++ outcome.asked := by
  unfold record
  cases outcome.result with
  | ok value => rfl
  | error e =>
    dsimp only
    split <;> rfl

theorem values_record (r : Resolution) (name : Text) (outcome : Outcome Text) :
    (r.record name outcome).values =
      match outcome.result with
      | .ok value => (name, value) :: r.values
      | .error _ => r.values := by
  unfold record
  cases outcome.result with
  | ok value => rfl
  | error e =>
    dsimp only
    split <;> rfl

theorem lookup_record {r : Resolution} {name : Text} (h : r.values.lookup name = none)
    (other : Text) (outcome : Outcome Text) :
    (r.record name outcome).values.lookup other =
      if other = name then outcome.result.toOption else r.values.lookup other := by
  rw [values_record]
  by_cases e : other = name
  · subst e
    cases outcome.result with
    | ok value => simp [Except.toOption]
    | error err => simpa [Except.toOption] using h
  · have hne : (other == name) = false := by simpa using e
    cases outcome.result with
    | ok value => simp [List.lookup_cons, hne, e]
    | error err => simp [e]

/-- **What is known when names have been resolved**: the first error of either sort,
and the value of every name that has one. -/
structure Describes (r : Resolution) (names : List Text) : Prop where
  postponed : r.postponed = (errorsOf resolve names).find? EvalError.isPostponed
  failed : r.failed = (errorsOf resolve names).find? fun e => !e.isPostponed
  values : ∀ name, r.values.lookup name =
    if name ∈ names then (resolve name).result.toOption else none

theorem describes_empty : empty.Describes resolve [] :=
  ⟨rfl, rfl, fun _ => rfl⟩

variable {resolve}

theorem Describes.step {r : Resolution} {names : List Text} (h : r.Describes resolve names)
    (name : Text) : (r.step resolve name).Describes resolve (names ++ [name]) := by
  unfold Resolution.step
  split
  · next value hvalue =>
    -- a name with a value has been resolved before, and had no error then
    have hname := h.values name
    rw [hvalue] at hname
    have hmem : name ∈ names := by
      by_contra absent
      rw [if_neg absent] at hname
      cases hname
    have herror : (resolve name).error? = none := by
      rw [if_pos hmem] at hname
      unfold Outcome.error?
      cases hr : (resolve name).result with
      | ok v => rfl
      | error e =>
        rw [hr] at hname
        cases hname
    refine ⟨?_, ?_, fun other => ?_⟩
    · rw [find?_errorsOf_concat, herror, h.postponed, Option.filter_none, Option.or_none]
    · rw [find?_errorsOf_concat, herror, h.failed, Option.filter_none, Option.or_none]
    · rw [h.values]
      by_cases e : other = name <;> simp [e, hmem]
  · next hvalue =>
    refine ⟨?_, ?_, fun other => ?_⟩
    · rw [postponed_record, find?_errorsOf_concat, h.postponed]
    · rw [failed_record, find?_errorsOf_concat, h.failed]
    · rw [lookup_record hvalue, h.values]
      by_cases e : other = name <;> simp [e]

theorem Describes.foldl_step {r : Resolution} {names : List Text} (h : r.Describes resolve names)
    (more : List Text) : (more.foldl (Resolution.step resolve) r).Describes resolve (names ++ more) := by
  induction more generalizing r names with
  | nil => simpa using h
  | cons name more ih =>
    have hnext := ih (h.step name)
    rwa [List.append_assoc] at hnext

/-- The error of a text is the leading error of its names. -/
theorem Describes.error? {r : Resolution} {names : List Text} (h : r.Describes resolve names) :
    r.error? = EvalError.leading? (errorsOf resolve names) := by
  rw [EvalError.leading?_eq, Resolution.error?, h.postponed, h.failed]

end Resolution

/-! ## The whole text -/

variable {resolve}

/-- **A text with a name that has an error comes to the leading error.** -/
theorem expandWith_of_leading {raw : Text} {e : EvalError}
    (h : EvalError.leading? (errorsOf resolve (Reference.names raw)) = some e) :
    (expandWith resolve raw).result = .error e := by
  have hall := (Resolution.describes_empty resolve).foldl_step (Reference.names raw)
  have herror := hall.error?
  rw [List.nil_append, h] at herror
  simp only [expandWith, herror]

/-- **A text whose names all have values comes to the text with its references
replaced.** -/
theorem expandWith_of_values {raw : Text} {value : Text → Text}
    (h : ∀ name ∈ Reference.names raw, (resolve name).result = .ok (value name)) :
    (expandWith resolve raw).result = .ok (Reference.replaceAll value raw) := by
  have hall := (Resolution.describes_empty resolve).foldl_step (Reference.names raw)
  have herrors : errorsOf resolve (Reference.names raw) = [] :=
    (errorsOf_eq_nil_iff resolve).mpr fun name hn => ⟨value name, h name hn⟩
  have herror := hall.error?
  rw [List.nil_append, herrors, EvalError.leading?_nil] at herror
  simp only [expandWith, herror]
  refine Reference.substitute_eq_ok fun r hr => ?_
  have hname := Reference.name_mem_names hr
  have hvalue := hall.values r.name
  rw [List.nil_append, if_pos hname, h _ hname] at hvalue
  simp only [Resolution.replace, hvalue, Except.toOption]

theorem expandWith_of_no_error {raw : Text}
    (h : errorsOf resolve (Reference.names raw) = []) :
    ∃ text, (expandWith resolve raw).result = .ok text := by
  have hvalues := (errorsOf_eq_nil_iff resolve).mp h
  have hvalue : ∀ name ∈ Reference.names raw,
      (resolve name).result = .ok ((resolve name).result.toOption.getD []) := by
    intro name hn
    obtain ⟨value, hv⟩ := hvalues name hn
    simp [hv, Except.toOption]
  exact ⟨_, expandWith_of_values hvalue⟩

/-- An error of a text is an error of one of its names. -/
theorem exists_of_expandWith_error {raw : Text} {e : EvalError}
    (h : (expandWith resolve raw).result = .error e) :
    ∃ name ∈ Reference.names raw, (resolve name).result = .error e := by
  cases hl : EvalError.leading? (errorsOf resolve (Reference.names raw)) with
  | some first =>
    rw [expandWith_of_leading hl] at h
    obtain rfl := Except.error.inj h
    exact (mem_errorsOf_iff resolve).mp (EvalError.mem_of_leading? hl)
  | none =>
    obtain ⟨text, ht⟩ := expandWith_of_no_error (EvalError.leading?_eq_none_iff.mp hl)
    rw [ht] at h
    cases h

/-- A text only has a value if all of its names have one. -/
theorem forall_of_expandWith_ok {raw text : Text} (h : (expandWith resolve raw).result = .ok text) :
    ∀ name ∈ Reference.names raw, ∃ value, (resolve name).result = .ok value := by
  refine (errorsOf_eq_nil_iff resolve).mp (EvalError.leading?_eq_none_iff.mp ?_)
  cases hl : EvalError.leading? (errorsOf resolve (Reference.names raw)) with
  | none => rfl
  | some e =>
    rw [expandWith_of_leading hl] at h
    cases h

end LinkedStore
end ScopedConfig

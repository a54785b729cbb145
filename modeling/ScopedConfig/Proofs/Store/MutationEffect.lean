import ScopedConfig.Proofs.Text.Cut
import ScopedConfig.RawConfig.Lemmas
import ScopedConfig.Session

/-! # Mutations are atomic, framed and counted

A mutation is planned for every target before the first value is written, so an error
of one target leaves all of them as they were.  A value that is written depends on the
old value of its own target alone, and no section is a target twice, so the order in
which the targets are written does not matter: what becomes of an option is told by a
function of its section (`writeAll`), whose effect on values, sections and options is
found by one induction each.

What a mutation does is then read off its plans (`Mutated`, `apply_effect`).
-/
namespace ScopedConfig

namespace DriverGroup

theorem isGroup_iff {sectionName : Text} : isGroup sectionName = true ↔ sectionName ∈ names :=
  List.contains_iff_mem

/-- A resource of a group has a section `group#index`, with an index. -/
theorem isMember_iff {group sectionName : Text} :
    isMember group sectionName = true ↔
      ∃ index, index ≠ [] ∧ sectionName = group ++ resourceSeparator :: index := by
  have happend : ∀ index, group ++ [resourceSeparator] ++ index =
      group ++ resourceSeparator :: index := fun index => by simp
  unfold isMember
  constructor
  · intro h
    split at h
    · next index hindex =>
      refine ⟨index, ?_, (Text.after?_eq_some_iff.mp hindex).trans (happend index)⟩
      rintro rfl
      cases h
    · cases h
  · rintro ⟨index, hne, rfl⟩
    rw [← happend index, Text.after?_append]
    cases index with
    | nil => exact absurd rfl hne
    | cons => rfl

end DriverGroup

namespace KeyOp

/-- What becomes of an option, given its value if it has one: an option that is not set
counts as empty, but nothing is removed from it. -/
def outcome (op : KeyOp) (value? : Option Text) : Except KeyOpError (Option Text) :=
  if value? = none ∧ op.operator = .remove then .ok none
  else (op.apply (value?.getD [])).map some

end KeyOp

namespace RawConfig

variable {raw : RawConfig} {op : KeyOp} {option : Text} {value? : Text → Option Text}

/-! ## Targets -/

/-- Whether a section is one that a mutation is for: for a driver group each of its
resources that is there, else the section of the key. -/
def IsTarget (raw : RawConfig) (op : KeyOp) (name : Text) : Prop :=
  if op.key.sectionOrDefault ∈ DriverGroup.names then
    name ∈ raw.sectionNames ∧
      ∃ index, index ≠ [] ∧ name = op.key.sectionOrDefault ++ resourceSeparator :: index
  else name = op.key.sectionOrDefault

theorem mem_targets_iff {name : Text} : name ∈ raw.targets op ↔ raw.IsTarget op name := by
  unfold targets IsTarget
  by_cases h : op.key.sectionOrDefault ∈ DriverGroup.names
  · rw [if_pos (DriverGroup.isGroup_iff.mpr h), if_pos h, DriverGroup.members, List.mem_filter,
      DriverGroup.isMember_iff]
  · rw [if_neg (mt DriverGroup.isGroup_iff.mp h), if_neg h, List.mem_singleton]

theorem nodup_targets (raw : RawConfig) (op : KeyOp) : (raw.targets op).Nodup := by
  unfold targets
  dsimp only
  split
  · exact raw.sections.nodup_keys.filter _
  · exact List.nodup_cons.mpr ⟨List.not_mem_nil, List.nodup_nil⟩

theorem mem_sectionNames_of_mem_targets {name : Text}
    (hgroup : op.key.sectionOrDefault ∈ DriverGroup.names) (h : name ∈ raw.targets op) :
    name ∈ raw.sectionNames := by
  rw [mem_targets_iff, IsTarget, if_pos hgroup] at h
  exact h.1

/-- A target that is not there is the section of the key, and that is no driver
group. -/
theorem filter_absent_targets (raw : RawConfig) (op : KeyOp) (p : Text → Bool) :
    ((raw.targets op).filter fun name => decide (name ∉ raw.sectionNames) && p name) =
      if op.key.sectionOrDefault ∉ raw.sectionNames ∧
          op.key.sectionOrDefault ∉ DriverGroup.names ∧ p op.key.sectionOrDefault = true
      then [op.key.sectionOrDefault] else [] := by
  by_cases hgroup : op.key.sectionOrDefault ∈ DriverGroup.names
  · rw [if_neg fun h => h.2.1 hgroup, List.filter_eq_nil_iff]
    intro name hname
    simp [mem_sectionNames_of_mem_targets hgroup hname]
  · have htargets : raw.targets op = [op.key.sectionOrDefault] :=
      if_neg (mt DriverGroup.isGroup_iff.mp hgroup)
    rw [htargets, List.filter_singleton, cond_eq_ite]
    simp only [hgroup, not_false_eq_true, true_and, Bool.and_eq_true, decide_eq_true_eq]

/-! ## Plans -/

/-- The value that is planned for a section, if it is to change. -/
def planned? (raw : RawConfig) (op : KeyOp) (name : Text) : Option Text :=
  match raw.plan op name with
  | .ok planned => planned
  | .error _ => none

theorem planned?_of_plan {name : Text} {planned : Option Text}
    (h : raw.plan op name = .ok planned) : raw.planned? op name = planned := by
  rw [planned?, h]

/-- A plan is made exactly of what becomes of the option, and left out if that is what
it is. -/
theorem plan_eq (raw : RawConfig) (op : KeyOp) (name : Text) :
    raw.plan op name = (op.outcome (raw.get? name op.key.option)).map fun value? =>
      if raw.get? name op.key.option = value? then none else value? := by
  unfold plan KeyOp.outcome
  by_cases h : raw.get? name op.key.option = none ∧ op.operator = .remove
  · simp [h, Except.map]
  · simp only [h, if_false]
    cases op.apply ((raw.get? name op.key.option).getD []) <;> rfl

theorem plan_eq_error_iff {name : Text} {error : KeyOpError} :
    raw.plan op name = .error error ↔
      op.outcome (raw.get? name op.key.option) = .error error := by
  rw [plan_eq]
  cases op.outcome (raw.get? name op.key.option) <;> simp [Except.map]

/-- With a plan, the option becomes what is planned, or stays. -/
theorem outcome_of_plan {name : Text} {planned : Option Text} (h : raw.plan op name = .ok planned) :
    op.outcome (raw.get? name op.key.option) =
      .ok (planned.or (raw.get? name op.key.option)) := by
  have hcases := plan_eq raw op name
  rw [h] at hcases
  cases houtcome : op.outcome (raw.get? name op.key.option) with
  | error error =>
    rw [houtcome] at hcases
    cases hcases
  | ok value? =>
    rw [houtcome] at hcases
    obtain rfl : planned = if raw.get? name op.key.option = value? then none else value? :=
      Except.ok.inj hcases
    split
    · next hsame => rw [hsame, Option.none_or]
    · next hchanged =>
      -- an option that changes has a value
      cases value? with
      | some value => rfl
      | none =>
        rw [Option.none_or]
        unfold KeyOp.outcome at houtcome
        split at houtcome
        · next hunset => exact congrArg Except.ok hunset.1.symm
        · cases happly : op.apply ((raw.get? name op.key.option).getD []) <;>
            simp [happly, Except.map] at houtcome

/-- What is planned is a change. -/
theorem ne_of_planned? {name value : Text} (h : raw.planned? op name = some value) :
    raw.get? name op.key.option ≠ some value := by
  unfold planned? at h
  rw [plan_eq] at h
  cases houtcome : op.outcome (raw.get? name op.key.option) with
  | error error => simp [houtcome, Except.map] at h
  | ok value? =>
    simp only [houtcome, Except.map] at h
    split at h
    · cases h
    · next hchanged =>
      subst h
      exact hchanged

/-- The error of a plan that cannot be made. -/
def planError? (raw : RawConfig) (op : KeyOp) (name : Text) : Option KeyOpError :=
  match raw.plan op name with
  | .ok _ => none
  | .error error => some error

theorem planError?_eq_none_iff {name : Text} :
    raw.planError? op name = none ↔ ∃ planned, raw.plan op name = .ok planned := by
  unfold planError?
  cases raw.plan op name <;> simp

theorem planError?_eq_some_iff {name : Text} {error : KeyOpError} :
    raw.planError? op name = some error ↔ raw.plan op name = .error error := by
  unfold planError?
  cases raw.plan op name <;> simp

/-- **The plans are those of the targets that change, or nothing is planned at all**: for
the first target that does not allow it. -/
theorem plans_eq (raw : RawConfig) (op : KeyOp) (names : List Text) :
    raw.plans op names =
      match names.findSome? (raw.planError? op) with
      | some error => .error error
      | none => .ok (names.filterMap fun name =>
          (raw.planned? op name).map fun value => (name, value)) := by
  induction names with
  | nil => rfl
  | cons name rest ih =>
    rw [plans, ih, List.findSome?_cons, List.filterMap_cons, planError?, planned?]
    cases raw.plan op name with
    | error error => rfl
    | ok planned =>
      dsimp only
      cases rest.findSome? (raw.planError? op) with
      | some error => rfl
      | none => cases planned <;> rfl

/-! ## Writing values into several sections -/

/-- The configuration with a value for the option in each of the sections for which
there is one. -/
def writeAll (raw : RawConfig) (option : Text) (value? : Text → Option Text) :
    List Text → RawConfig
  | [] => raw
  | name :: rest =>
    match value? name with
    | some value => (raw.set name option value).writeAll option value? rest
    | none => raw.writeAll option value? rest

theorem writeAll_of_none {names : List Text} (h : ∀ name ∈ names, value? name = none) :
    raw.writeAll option value? names = raw := by
  induction names with
  | nil => rfl
  | cons name rest ih =>
    rw [writeAll, h name List.mem_cons_self]
    exact ih fun other hother => h other (List.mem_cons_of_mem _ hother)

/-- The changes of a plan written one after another. -/
theorem foldl_set_eq_writeAll (raw : RawConfig) (option : Text) (value? : Text → Option Text)
    (names : List Text) :
    (names.filterMap fun name => (value? name).map fun value => (name, value)).foldl
        (fun r (name, value) => r.set name option value) raw =
      raw.writeAll option value? names := by
  induction names generalizing raw with
  | nil => rfl
  | cons name rest ih =>
    rw [List.filterMap_cons, writeAll]
    cases value? name with
    | none => exact ih raw
    | some value => exact ih (raw.set name option value)

/-- **The option has the values written, and every other one the value that it had.** -/
theorem get?_writeAll (raw : RawConfig) (option : Text) (value? : Text → Option Text)
    (names : List Text) (name other : Text) :
    (raw.writeAll option value? names).get? name other =
      if name ∈ names ∧ other = option then (value? name).or (raw.get? name other)
      else raw.get? name other := by
  induction names generalizing raw with
  | nil => simp [writeAll]
  | cons first rest ih =>
    rw [writeAll]
    cases hvalue : value? first with
    | none =>
      dsimp only
      rw [ih]
      by_cases h : name = first
      · subst h
        simp [hvalue]
      · simp [h]
    | some value =>
      dsimp only
      rw [ih, get?_set]
      by_cases h : name = first
      · subst h
        by_cases ho : other = option <;> simp [hvalue, ho]
      · simp [h]

/-- **The sections keep their order, and those that are made go last.** -/
theorem sectionNames_writeAll (raw : RawConfig) (option : Text) (value? : Text → Option Text)
    {names : List Text} (hnodup : names.Nodup) :
    (raw.writeAll option value? names).sectionNames = raw.sectionNames ++
      names.filter fun name => decide (name ∉ raw.sectionNames) && (value? name).isSome := by
  induction names generalizing raw with
  | nil => simp [writeAll]
  | cons first rest ih =>
    obtain ⟨habsent, hrest⟩ := List.nodup_cons.mp hnodup
    rw [writeAll, List.filter_cons]
    cases hvalue : value? first with
    | none =>
      dsimp only
      rw [ih raw hrest]
      simp
    | some value =>
      dsimp only
      rw [ih _ hrest, sectionNames_set]
      by_cases hmem : first ∈ raw.sectionNames
      · simp [hmem]
      · -- the section that is made is none of the others
        have hothers : ∀ name ∈ rest, (name ∉ raw.sectionNames ++ [first]) =
            (name ∉ raw.sectionNames) := by
          intro name hname
          have hne : name ≠ first := by
            rintro rfl
            exact habsent hname
          simp [hne]
        simp only [hmem, if_false, not_false_eq_true, decide_true, Option.isSome_some,
          Bool.and_self, if_true, List.append_assoc, List.singleton_append]
        congr 2
        refine List.filter_congr fun name hname => ?_
        simp only [hothers name hname]

/-- **The options keep their order, and one that is set for the first time goes
last.** -/
theorem optionNames_writeAll (raw : RawConfig) (option : Text) (value? : Text → Option Text)
    (names : List Text) (name : Text) :
    (raw.writeAll option value? names).optionNames name = raw.optionNames name ++
      if name ∈ names ∧ raw.get? name option = none ∧ value? name ≠ none then [option] else [] := by
  induction names generalizing raw with
  | nil => simp [writeAll]
  | cons first rest ih =>
    rw [writeAll]
    cases hvalue : value? first with
    | none =>
      dsimp only
      rw [ih]
      by_cases h : name = first
      · subst h
        simp [hvalue]
      · simp [h]
    | some value =>
      dsimp only
      rw [ih, optionNames_set, get?_set]
      by_cases h : name = first
      · subst h
        by_cases hunset : raw.get? name option = none <;> simp [hvalue, hunset]
      · simp [h]

/-! ## What a mutation does -/

/-- **What a mutation that succeeds has done.** -/
structure Mutated (op : KeyOp) (raw changed : RawConfig) (count : Nat) : Prop where
  /-- Every target has what the operator makes of its old value. -/
  outcome : ∀ name, raw.IsTarget op name →
    op.outcome (raw.get? name op.key.option) = .ok (changed.get? name op.key.option)
  /-- Every other entry is as it was. -/
  frame : ∀ name option, ¬ (raw.IsTarget op name ∧ option = op.key.option) →
    changed.get? name option = raw.get? name option
  /-- The sections are in their order.  Behind them is the section of the key, if the
  option came into being in a section that was not there. -/
  sections : changed.sectionNames = raw.sectionNames ++
    if op.key.sectionOrDefault ∉ raw.sectionNames ∧
        op.key.sectionOrDefault ∉ DriverGroup.names ∧
        changed.get? op.key.sectionOrDefault op.key.option ≠ none
    then [op.key.sectionOrDefault] else []
  /-- The options of every section are in their order.  Behind them is the option, if
  it came into being there. -/
  options : ∀ name, changed.optionNames name = raw.optionNames name ++
    if raw.get? name op.key.option = none ∧ changed.get? name op.key.option ≠ none
    then [op.key.option] else []
  /-- What is counted are the targets whose option is not what it was. -/
  counted : ∃ targets : List Text,
    targets.Nodup ∧ (∀ name, name ∈ targets ↔ raw.IsTarget op name) ∧
      count = (targets.filter fun name =>
        decide (changed.get? name op.key.option ≠ raw.get? name op.key.option)).length
  /-- Nothing is counted exactly if nothing is changed. -/
  count_eq_zero_iff : count = 0 ↔ changed = raw

/-- The configuration with what is planned for the targets. -/
def performed (raw : RawConfig) (op : KeyOp) : RawConfig :=
  raw.writeAll op.key.option (raw.planned? op) (raw.targets op)

theorem get?_performed_of_mem {name : Text} (h : name ∈ raw.targets op) :
    (raw.performed op).get? name op.key.option =
      (raw.planned? op name).or (raw.get? name op.key.option) := by
  rw [performed, get?_writeAll, if_pos ⟨h, rfl⟩]

theorem get?_performed_of_not {name other : Text}
    (h : ¬ (name ∈ raw.targets op ∧ other = op.key.option)) :
    (raw.performed op).get? name other = raw.get? name other := by
  rw [performed, get?_writeAll, if_neg h]

/-- A target changes exactly if something is planned for it. -/
theorem isSome_planned?_eq {name : Text} (h : name ∈ raw.targets op) :
    (raw.planned? op name).isSome =
      decide ((raw.performed op).get? name op.key.option ≠ raw.get? name op.key.option) := by
  rw [get?_performed_of_mem h]
  cases hvalue : raw.planned? op name with
  | none => simp
  | some value =>
    rw [Option.some_or]
    simpa using (ne_of_planned? hvalue).symm

theorem sectionNames_performed (raw : RawConfig) (op : KeyOp) :
    (raw.performed op).sectionNames = raw.sectionNames ++
      if op.key.sectionOrDefault ∉ raw.sectionNames ∧
          op.key.sectionOrDefault ∉ DriverGroup.names ∧
          (raw.performed op).get? op.key.sectionOrDefault op.key.option ≠ none
      then [op.key.sectionOrDefault] else [] := by
  have hwritten := sectionNames_writeAll raw op.key.option (raw.planned? op) (raw.nodup_targets op)
  rw [filter_absent_targets] at hwritten
  refine hwritten.trans (congrArg _ (if_congr ?_ rfl rfl))
  refine and_congr_right fun habsent => and_congr_right fun hgroup => ?_
  have htarget : op.key.sectionOrDefault ∈ raw.targets op :=
    mem_targets_iff.mpr (by rw [IsTarget, if_neg hgroup])
  rw [isSome_planned?_eq htarget, get?_eq_none_of_not_mem habsent, decide_eq_true_eq]

theorem optionNames_performed (raw : RawConfig) (op : KeyOp) (name : Text) :
    (raw.performed op).optionNames name = raw.optionNames name ++
      if raw.get? name op.key.option = none ∧
          (raw.performed op).get? name op.key.option ≠ none
      then [op.key.option] else [] := by
  have hwritten := optionNames_writeAll raw op.key.option (raw.planned? op) (raw.targets op) name
  refine hwritten.trans (congrArg _ (if_congr ?_ rfl rfl))
  by_cases hname : name ∈ raw.targets op
  · rw [get?_performed_of_mem hname, and_iff_right hname]
    refine and_congr_right fun hunset => ?_
    rw [hunset, Option.or_none]
  · rw [get?_performed_of_not fun h => hname h.1]
    constructor
    · rintro ⟨hmem, -, -⟩
      exact absurd hmem hname
    · rintro ⟨hunset, hset⟩
      exact absurd hunset hset

/-- **A mutation writes what is planned and counts it, or fails as the first target that
does not allow it.** -/
theorem apply_eq (raw : RawConfig) (op : KeyOp) :
    raw.apply op =
      match (raw.targets op).findSome? (raw.planError? op) with
      | some error => .error error
      | none => .ok (raw.performed op,
          ((raw.targets op).filter fun name => (raw.planned? op name).isSome).length) := by
  rw [apply, plans_eq]
  cases (raw.targets op).findSome? (raw.planError? op) with
  | some error => rfl
  | none =>
    refine congrArg Except.ok (Prod.ext (foldl_set_eq_writeAll ..) ?_)
    dsimp only
    rw [List.length_filterMap_eq_countP, List.countP_eq_length_filter]
    simp only [Option.isSome_map]

/-- A mutation that every target allows writes what is planned. -/
theorem apply_eq_performed (h : ∀ name ∈ raw.targets op, ∃ planned, raw.plan op name = .ok planned) :
    raw.apply op = .ok (raw.performed op,
      ((raw.targets op).filter fun name => (raw.planned? op name).isSome).length) := by
  have hnone : (raw.targets op).findSome? (raw.planError? op) = none :=
    List.findSome?_eq_none_iff.mpr fun name hname => planError?_eq_none_iff.mpr (h name hname)
  rw [apply_eq, hnone]

/-- **A mutation fails only if a target does not allow it.** -/
theorem exists_of_apply_error {error : KeyOpError} (h : raw.apply op = .error error) :
    ∃ name ∈ raw.targets op, op.outcome (raw.get? name op.key.option) = .error error := by
  rw [apply_eq] at h
  cases hfirst : (raw.targets op).findSome? (raw.planError? op) with
  | some first =>
    rw [hfirst] at h
    obtain rfl := Except.error.inj h
    obtain ⟨name, hname, herror⟩ := List.exists_of_findSome?_eq_some hfirst
    exact ⟨name, hname, plan_eq_error_iff.mp (planError?_eq_some_iff.mp herror)⟩
  | none =>
    rw [hfirst] at h
    cases h

/-- A mutation that succeeds has written what was planned, and counted it. -/
theorem eq_performed_of_apply_ok {changed : RawConfig} {count : Nat}
    (h : raw.apply op = .ok (changed, count)) :
    (∀ name ∈ raw.targets op, raw.plan op name = .ok (raw.planned? op name)) ∧
      changed = raw.performed op ∧
      count = ((raw.targets op).filter fun name => (raw.planned? op name).isSome).length := by
  rw [apply_eq] at h
  cases hfirst : (raw.targets op).findSome? (raw.planError? op) with
  | some first =>
    rw [hfirst] at h
    cases h
  | none =>
    rw [hfirst] at h
    obtain ⟨rfl, rfl⟩ := Prod.mk.inj (Except.ok.inj h)
    refine ⟨fun name hname => ?_, rfl, rfl⟩
    obtain ⟨planned, hplan⟩ :=
      planError?_eq_none_iff.mp (List.findSome?_eq_none_iff.mp hfirst name hname)
    rw [planned?_of_plan hplan, hplan]

/-- **A mutation that succeeds does to its targets what the operator says, and nothing
else.** -/
theorem mutated_of_apply_ok {changed : RawConfig} {count : Nat}
    (h : raw.apply op = .ok (changed, count)) : Mutated op raw changed count := by
  obtain ⟨hplan, rfl, hcount⟩ := eq_performed_of_apply_ok h
  have hcounted := hcount.trans
    (congrArg List.length (List.filter_congr fun _ hname => isSome_planned?_eq hname))
  refine ⟨?_, ?_, raw.sectionNames_performed op, raw.optionNames_performed op,
    ⟨raw.targets op, raw.nodup_targets op, fun _ => mem_targets_iff, hcounted⟩, ?_⟩
  · intro name hname
    have hmem := mem_targets_iff.mpr hname
    rw [get?_performed_of_mem hmem]
    exact outcome_of_plan (hplan name hmem)
  · intro name option hother
    rw [← mem_targets_iff] at hother
    exact get?_performed_of_not hother
  · constructor
    · intro hzero
      rw [hcount, List.length_eq_zero_iff, List.filter_eq_nil_iff] at hzero
      exact writeAll_of_none fun name hname =>
        Option.not_isSome_iff_eq_none.mp (hzero name hname)
    · intro hsame
      simp [hcounted, hsame]

end RawConfig

namespace Session

theorem store_member_withData (session : Session) (target : Target) (data : RawConfig) :
    ((session.withData target data).member target).store =
      (session.member target).store.withData data := by
  obtain ⟨own, node?, files, ids⟩ := session
  cases target <;> cases node? <;> rfl

theorem apply_of_ok {session : Session} {target : Target} {op : KeyOp} {changed : RawConfig}
    {count : Nat}
    (h : (session.member target).store.data.apply op = .ok (changed, count)) :
    session.apply target op = (session.withData target changed, .ok count) := by
  rw [apply, h]

theorem apply_of_error {session : Session} {target : Target} {op : KeyOp} {error : KeyOpError}
    (h : (session.member target).store.data.apply op = .error error) :
    session.apply target op = (session, .error error) := by
  rw [apply, h]

/-- **Mutations are atomic, framed and exactly counted.**  If a mutation of a store
fails, because the operator does not allow the value of a target, nothing is changed.
If it succeeds, nothing is changed but the data of the store, and in them every target
as the operator says, and no other entry and no order. -/
theorem apply_effect (session : Session) (target : Target) (op : KeyOp) :
    match session.apply target op with
    | (after, .ok count) =>
      after = session.withData target (after.member target).store.data ∧
        RawConfig.Mutated op (session.member target).store.data (after.member target).store.data
          count
    | (after, .error error) =>
      after = session ∧ ∃ name, (session.member target).store.data.IsTarget op name ∧
        op.outcome ((session.member target).store.data.get? name op.key.option) = .error error := by
  unfold apply
  cases happly : (session.member target).store.data.apply op with
  | ok result =>
    obtain ⟨changed, count⟩ := result
    have hdata : ((session.withData target changed).member target).store.data = changed := by
      rw [store_member_withData]
      rfl
    dsimp only
    rw [hdata]
    exact ⟨rfl, RawConfig.mutated_of_apply_ok happly⟩
  | error error =>
    obtain ⟨name, hname, houtcome⟩ := RawConfig.exists_of_apply_error happly
    exact ⟨rfl, name, RawConfig.mem_targets_iff.mp hname, houtcome⟩

end Session
end ScopedConfig

import ScopedConfig.Proofs.Store.MutationEffect

/-! # A mutation of a group is one of each member

What is planned for a target depends on the old value of that target alone
(`plan_congr`), so a plan stays what it is while other targets are written.  Mutations
of the members one after another therefore write what was planned for each at the
beginning (`applyAll_inSection`), and since all members are there already, what comes
of it does not depend on their order (`writeAll_perm`).

Where a member does not allow the mutation, nothing of it is done, and the error is
that of the first such member (`apply_eq_error_of_first`, `apply_group`).
-/
namespace ScopedConfig

namespace DriverGroup

theorem resourceSeparator_not_mem_of_mem_names {group : Text} (h : group ∈ names) :
    resourceSeparator ∉ group := by
  have hall : names.all (fun group => !Text.contains resourceSeparator group) = true := by decide
  have hgroup := List.all_eq_true.mp hall group h
  intro hmem
  have hcontains : Text.contains resourceSeparator group = true :=
    List.any_eq_true.mpr ⟨_, hmem, beq_self_eq_true _⟩
  rw [hcontains] at hgroup
  cases hgroup

/-- A resource of a group is no group. -/
theorem not_mem_names_of_isMember {group sectionName : Text}
    (h : isMember group sectionName = true) : sectionName ∉ names := by
  obtain ⟨index, -, rfl⟩ := isMember_iff.mp h
  intro hmem
  exact resourceSeparator_not_mem_of_mem_names hmem
    (List.mem_append_right _ List.mem_cons_self)

end DriverGroup

namespace RawConfig

variable {raw a b : RawConfig} {op : KeyOp} {option : Text} {value? : Text → Option Text}

/-! ## The order of the sections that are written -/

theorem writeAll_congr {other? : Text → Option Text} {names : List Text}
    (h : ∀ name ∈ names, value? name = other? name) :
    raw.writeAll option value? names = raw.writeAll option other? names := by
  induction names generalizing raw with
  | nil => rfl
  | cons name rest ih =>
    obtain ⟨hname, hrest⟩ := List.forall_mem_cons.mp h
    rw [writeAll, writeAll, hname]
    cases other? name with
    | none => exact ih hrest
    | some value => exact ih hrest

/-- **Sections that are there can be written in any order.** -/
theorem writeAll_perm (raw : RawConfig) (option : Text) (value? : Text → Option Text)
    {order names : List Text} (h : order.Perm names) (hnodup : names.Nodup)
    (hnames : ∀ name ∈ names, name ∈ raw.sectionNames) :
    raw.writeAll option value? order = raw.writeAll option value? names := by
  -- no section is made, in either order
  have hsections : ∀ list : List Text, list.Nodup → (∀ name ∈ list, name ∈ raw.sectionNames) →
      (raw.writeAll option value? list).sectionNames = raw.sectionNames := by
    intro list hlist hmem
    rw [sectionNames_writeAll raw option value? hlist]
    have hnone : (list.filter fun name =>
        decide (name ∉ raw.sectionNames) && (value? name).isSome) = [] := by
      refine List.filter_eq_nil_iff.mpr fun name hname => ?_
      simp [hmem name hname]
    rw [hnone, List.append_nil]
  refine ext_of_views ?_ ?_ ?_
  · rw [hsections names hnodup hnames, hsections order (h.nodup_iff.mpr hnodup)]
    intro name hname
    exact hnames name (h.mem_iff.mp hname)
  · intro name
    simp only [optionNames_writeAll, h.mem_iff]
  · intro name other
    simp only [get?_writeAll, h.mem_iff]

/-! ## Mutations one after another -/

/-- A plan depends on the old value of its target alone. -/
theorem plan_congr {name : Text}
    (h : a.get? name op.key.option = b.get? name op.key.option) :
    a.plan op name = b.plan op name := by
  rw [plan_eq, plan_eq, h]

/-- The mutation in one section that is no driver group writes what is planned for it. -/
theorem apply_inSection {name : Text} (hne : name ≠ []) (hgroup : name ∉ DriverGroup.names) :
    raw.apply (op.inSection name) = (raw.plan op name).map fun planned =>
      match planned with
      | some value => (raw.set name op.key.option value, 1)
      | none => (raw, 0) := by
  have hsection : (op.inSection name).key.sectionOrDefault = name := if_neg hne
  have htargets : raw.targets (op.inSection name) = [name] := by
    rw [targets, hsection, if_neg (mt DriverGroup.isGroup_iff.mp hgroup)]
  have hplan : raw.plan (op.inSection name) name = raw.plan op name := rfl
  rw [apply, htargets, plans, hplan]
  cases raw.plan op name with
  | error e => rfl
  | ok planned => cases planned <;> rfl

/-- **Mutations of sections one after another write what was planned for each at the
beginning**, if all of them allow it. -/
theorem applyAll_inSection {order : List Text} (hnodup : order.Nodup)
    (hsingle : ∀ name ∈ order, name ≠ [] ∧ name ∉ DriverGroup.names)
    (hplan : ∀ name ∈ order, ∃ planned, raw.plan op name = .ok planned) (count : Nat) :
    raw.applyAll count (order.map op.inSection) =
      (raw.writeAll op.key.option (raw.planned? op) order,
        .ok (count + (order.filter fun name => (raw.planned? op name).isSome).length)) := by
  induction order generalizing raw count with
  | nil => rfl
  | cons name rest ih =>
    obtain ⟨habsent, hrest⟩ := List.nodup_cons.mp hnodup
    obtain ⟨⟨hne, hgroup⟩, hsingle⟩ := List.forall_mem_cons.mp hsingle
    obtain ⟨⟨planned, hname⟩, hplan⟩ := List.forall_mem_cons.mp hplan
    have hplanned := planned?_of_plan hname
    rw [List.map_cons, applyAll, apply_inSection hne hgroup, hname, writeAll, List.filter_cons,
      hplanned]
    cases planned with
    | none => exact ih hrest hsingle hplan count
    | some value =>
      -- the plans for the others are what they were
      have hothers : ∀ other ∈ rest,
          (raw.set name op.key.option value).plan op other = raw.plan op other := by
        intro other hother
        refine plan_congr ((get?_set ..).trans (if_neg ?_))
        rintro ⟨rfl, -⟩
        exact habsent hother
      have hothers? : ∀ other ∈ rest,
          (raw.set name op.key.option value).planned? op other = raw.planned? op other := by
        intro other hother
        rw [planned?, planned?, hothers other hother]
      have hplan' : ∀ other ∈ rest, ∃ planned,
          (raw.set name op.key.option value).plan op other = .ok planned := by
        intro other hother
        rw [hothers other hother]
        exact hplan other hother
      refine (ih hrest hsingle hplan' (count + 1)).trans
        (Prod.ext (writeAll_congr hothers?) (congrArg Except.ok ?_))
      rw [List.filter_congr fun other hother => congrArg Option.isSome (hothers? other hother)]
      simp only [Option.isSome_some, if_true, List.length_cons]
      omega

/-! ## The mutation of a group -/

/-- **The first target that does not allow a mutation says why it is not done.** -/
theorem apply_eq_error_of_first {before behind : List Text} {name : Text} {error : KeyOpError}
    (htargets : raw.targets op = before ++ name :: behind)
    (hbefore : ∀ other ∈ before, ∃ planned, raw.plan op other = .ok planned)
    (hname : raw.plan op name = .error error) : raw.apply op = .error error := by
  have hfirst : (raw.targets op).findSome? (raw.planError? op) = some error := by
    refine List.findSome?_eq_some_iff.mpr ⟨before, name, behind, htargets, ?_, ?_⟩
    · exact planError?_eq_some_iff.mpr hname
    · intro other hother
      exact planError?_eq_none_iff.mpr (hbefore other hother)
  rw [apply_eq, hfirst]

end RawConfig

namespace Session

variable {session : Session} {target : Target} {op : KeyOp}

/-- A mutation of a store is allowed: it can be done. -/
def Allows (session : Session) (target : Target) (op : KeyOp) : Prop :=
  ∃ after count, session.apply target op = (after, .ok count)

/-- The resources of the driver group of a mutation that are in a store, in their order. -/
def members (session : Session) (target : Target) (op : KeyOp) : List Text :=
  DriverGroup.members op.key.sectionOrDefault (session.member target).store.data.sectionNames

/-- A member of a group stands for itself, and is there. -/
theorem single_of_mem_members {name : Text} (h : name ∈ session.members target op) :
    (name ≠ [] ∧ name ∉ DriverGroup.names) ∧
      name ∈ (session.member target).store.data.sectionNames := by
  obtain ⟨hsection, hmember⟩ := List.mem_filter.mp h
  refine ⟨⟨?_, DriverGroup.not_mem_names_of_isMember hmember⟩, hsection⟩
  obtain ⟨index, -, rfl⟩ := DriverGroup.isMember_iff.mp hmember
  simp

/-- A member allows a mutation exactly if it can be planned for it. -/
theorem result_apply_inSection {name : Text} (h : name ∈ session.members target op) :
    (session.apply target (op.inSection name)).2 =
      ((session.member target).store.data.plan op name).map fun planned =>
        if planned.isSome then 1 else 0 := by
  obtain ⟨⟨hne, hgroup⟩, -⟩ := single_of_mem_members h
  rw [apply, RawConfig.apply_inSection hne hgroup]
  cases (session.member target).store.data.plan op name with
  | error e => rfl
  | ok planned => cases planned <;> rfl

theorem exists_plan_of_allows {name : Text} (h : name ∈ session.members target op)
    (hallows : session.Allows target (op.inSection name)) :
    ∃ planned, (session.member target).store.data.plan op name = .ok planned := by
  obtain ⟨after, count, happly⟩ := hallows
  have hresult := result_apply_inSection h
  rw [happly] at hresult
  cases hplan : (session.member target).store.data.plan op name with
  | ok planned => exact ⟨planned, rfl⟩
  | error e =>
    rw [hplan] at hresult
    cases hresult

/-- **A mutation of a driver group is the mutations of its members one after another.**
If each member allows the mutation for itself, it is done, and the session and the count
are those of the mutations of the members in any order.  If some do not, nothing is done,
and the error is that of the first of them. -/
theorem apply_group (session : Session) (target : Target) (op : KeyOp)
    (hgroup : op.key.sectionOrDefault ∈ DriverGroup.names) :
    ((∀ name ∈ session.members target op, session.Allows target (op.inSection name)) →
      ∃ after count, session.apply target op = (after, .ok count) ∧
        ∀ order : List Text, order.Perm (session.members target op) →
          session.applyAll target (order.map op.inSection) = (after, .ok count)) ∧
    ∀ before name behind error, session.members target op = before ++ name :: behind →
      (∀ other ∈ before, session.Allows target (op.inSection other)) →
      (session.apply target (op.inSection name)).2 = .error error →
      session.apply target op = (session, .error error) := by
  have htargets : (session.member target).store.data.targets op = session.members target op :=
    if_pos (DriverGroup.isGroup_iff.mpr hgroup)
  constructor
  · intro hallows
    have hplan : ∀ name ∈ session.members target op,
        ∃ planned, (session.member target).store.data.plan op name = .ok planned :=
      fun name hname => exists_plan_of_allows hname (hallows name hname)
    have hperformed := RawConfig.apply_eq_performed (htargets.symm ▸ hplan)
    refine ⟨_, _, apply_of_ok hperformed, fun order horder => ?_⟩
    have hnodup : (session.members target op).Nodup := htargets ▸ RawConfig.nodup_targets _ op
    have hmem : ∀ name ∈ order, name ∈ session.members target op :=
      fun name hname => horder.mem_iff.mp hname
    have hsequence := RawConfig.applyAll_inSection (horder.nodup_iff.mpr hnodup)
      (fun name hname => (single_of_mem_members (hmem name hname)).1)
      (fun name hname => hplan name (hmem name hname)) 0
    have hwritten := RawConfig.writeAll_perm (session.member target).store.data op.key.option
      ((session.member target).store.data.planned? op) horder hnodup
      fun name hname => (single_of_mem_members hname).2
    rw [applyAll, hsequence, hwritten, RawConfig.performed, htargets, Nat.zero_add,
      (horder.filter _).length_eq]
  · intro before name behind error hmembers hbefore hname
    have hmem : ∀ other ∈ before, other ∈ session.members target op := by
      intro other hother
      rw [hmembers]
      exact List.mem_append_left _ hother
    have hself : name ∈ session.members target op := by
      rw [hmembers]
      exact List.mem_append_right _ List.mem_cons_self
    refine apply_of_error (RawConfig.apply_eq_error_of_first (htargets.trans hmembers) ?_ ?_)
    · intro other hother
      exact exists_plan_of_allows (hmem other hother) (hbefore other hother)
    · have hresult := result_apply_inSection hself
      rw [hname] at hresult
      cases hplan : (session.member target).store.data.plan op name with
      | ok planned =>
        rw [hplan] at hresult
        cases hresult
      | error e =>
        rw [hplan] at hresult
        exact congrArg Except.error (Except.error.inj hresult).symm

/-- A session of a service with three addresses: one on three devices, one on a single
device, and one on none yet. -/
def addressed : Session where
  own :=
    { store :=
        { path := "/etc/web.conf"
          data := .ofLists [("ip#1", [("ipdev", "a b c")]), ("fs#0", [("mnt", "/srv")]),
            ("ip#0", [("ipdev", "a")]), ("ip#vip", [("ipname", "10.0.0.1")])]
          owner := ⟨.object ⟨rootNamespace, .svc, "web"⟩, ⟨[]⟩, ["n1"], [], [], [], false⟩
          agent := .default }
      asked := []
      commits := 0 }
  node? := none
  files := .empty
  ids := ⟨fun _ => [], 0⟩

theorem apply_group_addressed :
    (∃ after, addressed.apply .own ⟨⟨"ip", "ipdev"⟩, .merge, "b", 0⟩ = (after, .ok 2) ∧
      addressed.applyAll .own
        [⟨⟨"ip#vip", "ipdev"⟩, .merge, "b", 0⟩, ⟨⟨"ip#1", "ipdev"⟩, .merge, "b", 0⟩,
          ⟨⟨"ip#0", "ipdev"⟩, .merge, "b", 0⟩] = (after, .ok 2)) ∧
    addressed.apply .own ⟨⟨"ip", "ipdev"⟩, .insert, "x", 2⟩ =
      (addressed, .error (.indexOutOfRange 2 1)) := by
  have hmembers : ∀ op : KeyOp, op.key = ⟨"ip", "ipdev"⟩ →
      addressed.members .own op = ["ip#1".toList, "ip#0".toList, "ip#vip".toList] := by
    intro op hkey
    rw [members, hkey]
    decide +kernel
  constructor
  · obtain ⟨hdone, -⟩ := apply_group addressed .own ⟨⟨"ip", "ipdev"⟩, .merge, "b", 0⟩ (by decide)
    obtain ⟨after, count, happly, horders⟩ := hdone (by
      rw [hmembers _ rfl]
      intro name hname
      rw [List.mem_cons, List.mem_cons, List.mem_singleton] at hname
      rcases hname with rfl | rfl | rfl
      · exact ⟨_, _, rfl⟩
      · exact ⟨_, _, rfl⟩
      · exact ⟨_, _, rfl⟩)
    have hcount : (addressed.apply .own ⟨⟨"ip", "ipdev"⟩, .merge, "b", 0⟩).2 = .ok 2 := by
      decide +kernel
    rw [happly] at hcount
    obtain rfl := Except.ok.inj hcount
    refine ⟨after, happly, ?_⟩
    refine horders ["ip#vip".toList, "ip#1".toList, "ip#0".toList] ?_
    rw [hmembers _ rfl]
    decide
  · obtain ⟨-, hrefused⟩ :=
      apply_group addressed .own ⟨⟨"ip", "ipdev"⟩, .insert, "x", 2⟩ (by decide)
    refine hrefused ["ip#1".toList] "ip#0" ["ip#vip".toList] _ (hmembers _ rfl) ?_ ?_
    · intro other hother
      obtain rfl := List.mem_singleton.mp hother
      exact ⟨_, _, rfl⟩
    · decide +kernel

end Session
end ScopedConfig

import ScopedConfig.Proofs.Store.MutationEffect
import ScopedConfig.Proofs.TokenList

/-! # Merging twice

A mutation has nothing to change exactly if its operator leaves the value of every
target as it is (`apply_eq_self_iff`), and the targets of a mutation that has been done
are those that it had (`targets_performed`).  So the question whether a merge that is
repeated changes anything is one about the merged values.

The operand of a merge is looked for as a token.  Where it is one, a merge that is
repeated finds it (`merge_again`).  Text that is no token, because it has blanks or is
empty, is the token of no value, and is appended again (`merge_again_clustered`).
-/
namespace ScopedConfig

/-- Merging succeeds, and leaves a value. -/
theorem KeyOp.outcome_merge {op : KeyOp} (h : op.operator = .merge) (value? : Option Text) :
    op.outcome value? = .ok (some (TokenList.merge (value?.getD []) op.value)) := by
  have hkeeps : ¬ (value? = none ∧ op.operator = .remove) := by
    rintro ⟨-, hremove⟩
    rw [h] at hremove
    cases hremove
  rw [outcome, if_neg hkeeps, apply, h]
  rfl

namespace RawConfig

variable {raw : RawConfig} {op : KeyOp}

/-- A mutation that has been done has the targets that it had. -/
theorem targets_performed (raw : RawConfig) (op : KeyOp) :
    (raw.performed op).targets op = raw.targets op := by
  by_cases hgroup : op.key.sectionOrDefault ∈ DriverGroup.names
  · have hsections : (raw.performed op).sectionNames = raw.sectionNames := by
      rw [sectionNames_performed, if_neg fun h => h.2.1 hgroup, List.append_nil]
    rw [targets, targets, hsections]
  · have hsingle : ∀ raw : RawConfig, raw.targets op = [op.key.sectionOrDefault] :=
      fun _ => if_neg (mt DriverGroup.isGroup_iff.mp hgroup)
    rw [hsingle, hsingle]

/-- **A mutation has nothing to change exactly if the operator leaves every target as it
is.** -/
theorem apply_eq_self_iff :
    raw.apply op = .ok (raw, 0) ↔
      ∀ name ∈ raw.targets op,
        op.outcome (raw.get? name op.key.option) = .ok (raw.get? name op.key.option) := by
  constructor
  · intro h name hname
    exact (mutated_of_apply_ok h).outcome name (mem_targets_iff.mp hname)
  · intro h
    have hplan : ∀ name ∈ raw.targets op, raw.plan op name = .ok none := by
      intro name hname
      rw [plan_eq, h name hname]
      exact congrArg Except.ok (if_pos rfl)
    have hplanned : ∀ name ∈ raw.targets op, raw.planned? op name = none := by
      intro name hname
      rw [planned?, hplan name hname]
    have hcount : ((raw.targets op).filter fun name => (raw.planned? op name).isSome) = [] := by
      refine List.filter_eq_nil_iff.mpr fun name hname => ?_
      rw [hplanned name hname]
      exact Bool.false_ne_true
    rw [apply_eq_performed fun name hname => ⟨none, hplan name hname⟩, hcount, performed,
      writeAll_of_none hplanned]
    rfl

/-- A merge succeeds. -/
theorem exists_apply_merge (raw : RawConfig) (op : KeyOp) (h : op.operator = .merge) :
    ∃ count, raw.apply op = .ok (raw.performed op, count) := by
  refine ⟨_, apply_eq_performed fun name _ => ?_⟩
  rw [plan_eq, KeyOp.outcome_merge h]
  exact ⟨_, rfl⟩

/-- **A merge that is repeated changes nothing exactly if a token is merged**, or if no
target had or was given any text. -/
theorem apply_merge_performed_iff (h : op.operator = .merge) :
    (raw.performed op).apply op = .ok (raw.performed op, 0) ↔
      op.value.IsWord ∨ ∀ name, raw.IsTarget op name →
        op.value = [] ∧ (raw.get? name op.key.option).getD [] = [] := by
  obtain ⟨count, happly⟩ := raw.exists_apply_merge op h
  have hmerged : ∀ name ∈ raw.targets op, (raw.performed op).get? name op.key.option =
      some (TokenList.merge ((raw.get? name op.key.option).getD []) op.value) := by
    intro name hname
    have houtcome := (mutated_of_apply_ok happly).outcome name (mem_targets_iff.mp hname)
    rw [KeyOp.outcome_merge h] at houtcome
    exact (Except.ok.inj houtcome).symm
  calc (raw.performed op).apply op = .ok (raw.performed op, 0)
      ↔ ∀ name ∈ raw.targets op,
          op.outcome ((raw.performed op).get? name op.key.option) =
            .ok ((raw.performed op).get? name op.key.option) := by
        rw [apply_eq_self_iff, targets_performed]
    _ ↔ ∀ name ∈ raw.targets op, op.value.IsWord ∨
          (op.value = [] ∧ (raw.get? name op.key.option).getD [] = []) := by
        refine forall₂_congr fun name hname => ?_
        rw [hmerged name hname, KeyOp.outcome_merge h, Option.getD_some, Except.ok.injEq,
          Option.some.injEq]
        exact TokenList.merge_merge_eq_iff
    _ ↔ op.value.IsWord ∨ ∀ name, raw.IsTarget op name →
          op.value = [] ∧ (raw.get? name op.key.option).getD [] = [] := by
        simp only [mem_targets_iff, forall_or_left]

end RawConfig

namespace Session

theorem withData_self (session : Session) (target : Target) :
    session.withData target (session.member target).store.data = session := by
  obtain ⟨own, node?, files, ids⟩ := session
  cases target <;> cases node? <;> rfl

/-- A mutation of a store counts nothing and leaves the session as it is exactly if there
is nothing to change in the data. -/
theorem apply_eq_self_iff {session : Session} {target : Target} {op : KeyOp} :
    session.apply target op = (session, .ok 0) ↔
      (session.member target).store.data.apply op =
        .ok ((session.member target).store.data, 0) := by
  constructor
  · intro h
    cases happly : (session.member target).store.data.apply op with
    | error e =>
      rw [apply_of_error happly] at h
      cases (Prod.mk.inj h).2
    | ok result =>
      obtain ⟨changed, count⟩ := result
      rw [apply_of_ok happly] at h
      obtain rfl : count = 0 := Except.ok.inj (Prod.mk.inj h).2
      rw [(RawConfig.mutated_of_apply_ok happly).count_eq_zero_iff.mp rfl]
  · intro h
    rw [apply_of_ok h, withData_self]

/-- **Merging a token is idempotent.**  A merge succeeds, for one section or for all
members of a driver group.  Repeating it changes nothing and counts nothing exactly if the
text merged is a token, or if it is empty and so were the values of all targets: text with
blanks, and empty text that is merged into something, is appended again. -/
theorem merge_again (session : Session) (target : Target) (key : Key) (value : Text) :
    ∃ merged count,
      session.apply target ⟨key, .merge, value, 0⟩ = (merged, .ok count) ∧
      (merged.apply target ⟨key, .merge, value, 0⟩ = (merged, .ok 0) ↔
        value.IsWord ∨
          ∀ name, (session.member target).store.data.IsTarget ⟨key, .merge, value, 0⟩ name →
            value = [] ∧
              ((session.member target).store.data.get? name key.option).getD [] = []) := by
  let op : KeyOp := ⟨key, .merge, value, 0⟩
  let merged := session.withData target ((session.member target).store.data.performed op)
  have hdata : (merged.member target).store.data =
      (session.member target).store.data.performed op := by
    rw [store_member_withData]
    rfl
  obtain ⟨count, happly⟩ := (session.member target).store.data.exists_apply_merge op rfl
  refine ⟨merged, count, apply_of_ok happly, ?_⟩
  rw [apply_eq_self_iff, hdata]
  exact RawConfig.apply_merge_performed_iff rfl

/-- A session of a service on one node. -/
def clustered : Session where
  own :=
    { store :=
        { path := "/etc/web.conf"
          data := .ofLists [("DEFAULT", [("nodes", "n1")])]
          owner := ⟨.object ⟨rootNamespace, .svc, "web"⟩, ⟨[]⟩, ["n1"], [], [], [], false⟩
          agent := .default }
      asked := []
      commits := 0 }
  node? := none
  files := .empty
  ids := ⟨fun _ => [], 0⟩

/-- **Text of two tokens is merged again.** -/
theorem merge_again_clustered :
    let op : KeyOp := ⟨⟨"DEFAULT", "nodes"⟩, .merge, "n1 n2", 0⟩
    let once := clustered.apply .own op
    let twice := once.1.apply .own op
    once.2 = .ok 1 ∧
      (once.1.member .own).store.data = .ofLists [("DEFAULT", [("nodes", "n1 n1 n2")])] ∧
      twice.2 = .ok 1 ∧
      (twice.1.member .own).store.data =
        .ofLists [("DEFAULT", [("nodes", "n1 n1 n2 n1 n2")])] := by
  decide +kernel

end Session
end ScopedConfig

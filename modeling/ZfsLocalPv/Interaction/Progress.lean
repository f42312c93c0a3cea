import ZfsLocalPv.Interaction.System

/-!
# Programs that come to an end

A program with a bound on its calls returns after that many steps of its own, whatever the
answers are. A run is accounted for with a budget: the steps that are charged for lower it and no
other step raises it, so there are at most as many of them.
-/

namespace ZfsLocalPv.Interaction

namespace Prog

variable {S : Signature} {α β : Type} {program : Prog S α} {calls more : Nat}

/-- The program makes at most so many calls, whatever the answers. -/
def Within : Nat → Prog S α → Prop
  | _, ret _ => True
  | 0, call _ _ => False
  | calls + 1, call _ next => ∀ answer, (next answer).Within calls

@[simp]
theorem within_ret (calls : Nat) (value : α) : (ret value : Prog S α).Within calls := by
  cases calls <;> trivial

@[simp]
theorem within_call (op : S.Op) (next : S.Res op → Prog S α) :
    (call op next).Within (calls + 1) ↔ ∀ answer, (next answer).Within calls :=
  Iff.rfl

theorem within_lift_bind {op : S.Op} {next : S.Res op → Prog S α}
    (rest : ∀ answer, (next answer).Within calls) : (lift op >>= next).Within (calls + 1) :=
  rest

theorem Within.mono (within : program.Within calls) (le : calls ≤ more) : program.Within more := by
  induction program generalizing calls more with
  | ret value => exact within_ret more value
  | call op next ih =>
      cases calls with
      | zero => exact within.elim
      | succ calls =>
          cases more with
          | zero => exact absurd le (Nat.not_succ_le_zero calls)
          | succ more => exact fun answer => ih answer (within answer) (Nat.le_of_succ_le_succ le)

theorem Within.bind {next : α → Prog S β} (first : program.Within calls)
    (rest : ∀ value, (next value).Within more) : (program >>= next).Within (calls + more) := by
  induction program generalizing calls with
  | ret value => exact (rest value).mono (Nat.le_add_left more calls)
  | call op continued ih =>
      cases calls with
      | zero => exact first.elim
      | succ calls =>
          rw [Nat.succ_add]
          exact fun answer => ih answer (first answer)

end Prog

namespace System

variable {S : Signature} {σ T C R E A : Type} [DecidableEq T] {sys : System S σ T C R E A}
  {Meets : Action T C E A → Config S σ T R → Prop}
  [∀ action config, Decidable (Meets action config)]

/-- Where a charged step lowers the budget and no step raises it, a run has at most as many
charged steps as the budget allows. -/
theorem countP_le_of_budget {Charged : Action T C E A → Bool} {Budget : Nat → Config S σ T R → Prop}
    (charged : ∀ {budget action config next}, Charged action = true → Budget budget config →
      sys.step action config = some next → ∃ less, less < budget ∧ Budget less next)
    (others : ∀ {budget action config next}, Charged action = false → Budget budget config →
      sys.step action config = some next → Budget budget next)
    {budget : Nat} {actions : List (Action T C E A)} {config last : Config S σ T R}
    (holds : Budget budget config) (ran : sys.run Meets actions config = some last) :
    actions.countP Charged ≤ budget := by
  induction actions generalizing budget config with
  | nil => exact Nat.zero_le _
  | cons action actions ih =>
      simp only [run, Option.ite_none_right_eq_some] at ran
      obtain ⟨next, stepped, rest⟩ := Option.bind_eq_some_iff.mp ran.2
      rw [List.countP_cons]
      cases isCharged : Charged action with
      | true =>
          obtain ⟨less, isLess, holds⟩ := charged isCharged holds stepped
          have bound := ih holds rest
          simp only [if_true]
          omega
      | false => exact ih (others isCharged holds stepped) rest

end System

end ZfsLocalPv.Interaction

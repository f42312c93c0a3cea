import ZfsLocalPv.Interaction.Prog

/-!
# Postconditions of programs that run alone

`Ensures` says what holds whenever a program returns. Its rules follow the shape of the program,
so a function is proved once, against the calls it makes, and is used by its callers through its
postcondition.
-/

namespace ZfsLocalPv.Interaction.Prog

variable {S : Signature} {α β σ C : Type}
variable {exec : (op : S.Op) → C → σ → Option (S.Res op × σ)}

/-- Whenever the program, started in a state, returns, the result and the state
it leaves satisfy `Post`. -/
structure Ensures (exec : (op : S.Op) → C → σ → Option (S.Res op × σ)) (program : Prog S α)
    (state : σ) (Post : α → σ → Prop) : Prop where
  of_returns : ∀ {result final}, Returns exec program state result final → Post result final

variable {state : σ}

theorem ensures_ret {value : α} {Post : α → σ → Prop} (holds : Post value state) :
    Ensures exec (ret value) state Post where
  of_returns := by
    intro result final returned
    rw [returns_ret_iff] at returned
    obtain ⟨rfl, rfl⟩ := returned
    exact holds

/-- A call is proved for every answer it can have. -/
theorem ensures_lift_bind {op : S.Op} {next : S.Res op → Prog S α} {Post : α → σ → Prop}
    (rest : ∀ choice answer middle, exec op choice state = some (answer, middle) →
      Ensures exec (next answer) middle Post) :
    Ensures exec (lift op >>= next) state Post where
  of_returns := by
    intro result final returned
    rw [returns_lift_bind_iff] at returned
    obtain ⟨choice, answer, middle, answered, returned⟩ := returned
    exact (rest choice answer middle answered).of_returns returned

theorem ensures_lift {op : S.Op} {Post : S.Res op → σ → Prop}
    (holds : ∀ choice answer after, exec op choice state = some (answer, after) →
      Post answer after) :
    Ensures exec (lift op) state Post := by
  rw [← bind_ret_eq (lift op)]
  apply ensures_lift_bind
  intro choice answer middle answered
  exact ensures_ret (holds choice answer middle answered)

/-- Nothing is asked. -/
theorem ensures_true (program : Prog S α) : Ensures exec program state fun _ _ => True where
  of_returns _ := trivial

/-- A sequence is proved from any postcondition of its first part. -/
theorem Ensures.bind {program : Prog S α} {next : α → Prog S β} {Middle : α → σ → Prop}
    {Post : β → σ → Prop} (first : Ensures exec program state Middle)
    (rest : ∀ value middle, Middle value middle → Ensures exec (next value) middle Post) :
    Ensures exec (program >>= next) state Post where
  of_returns := by
    intro result final returned
    rw [returns_bind_iff] at returned
    obtain ⟨value, middle, firstReturned, returned⟩ := returned
    exact (rest value middle (first.of_returns firstReturned)).of_returns returned

theorem Ensures.mono {program : Prog S α} {Strong Weak : α → σ → Prop}
    (strong : Ensures exec program state Strong)
    (weaker : ∀ result final, Strong result final → Weak result final) :
    Ensures exec program state Weak where
  of_returns returned := weaker _ _ (strong.of_returns returned)

end ZfsLocalPv.Interaction.Prog

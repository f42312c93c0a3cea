import Mathlib.Logic.Function.Basic

/-!
# Programs as trees of calls

A program over a signature either returns a value or makes one call and continues with the
answer. The tree keeps the order of the calls and nothing else: what a call does is left to the
interpretation, so the same program can be run alone against an oracle or step by step between
other programs.

Loops are finite trees. A program that may wait for ever is written with a bound on its rounds
and is quantified over that bound by its users.
-/

namespace ZfsLocalPv.Interaction

/-- The calls a program may make and the type of the answer to each. -/
structure Signature where
  Op : Type
  Res : Op → Type

/-- A program returning a value of type `α`. -/
inductive Prog (S : Signature) (α : Type) : Type
  | ret (value : α)
  | call (op : S.Op) (next : S.Res op → Prog S α)

namespace Prog

variable {S : Signature} {α β γ : Type}

/-- Sequencing: every return of `program` continues with `next`. -/
def bind : Prog S α → (α → Prog S β) → Prog S β
  | ret value, next => next value
  | call op rest, next => call op fun answer => (rest answer).bind next

instance : Monad (Prog S) where
  pure := ret
  bind := bind

/-- The program that makes one call and returns its answer. -/
def lift (op : S.Op) : Prog S (S.Res op) :=
  call op ret

@[simp]
theorem pure_eq_ret (value : α) : (pure value : Prog S α) = ret value :=
  rfl

@[simp]
theorem ret_bind (value : α) (next : α → Prog S β) :
    (ret value : Prog S α) >>= next = next value :=
  rfl

@[simp]
theorem call_bind (op : S.Op) (rest : S.Res op → Prog S α) (next : α → Prog S β) :
    call op rest >>= next = call op fun answer => rest answer >>= next :=
  rfl

@[simp]
theorem lift_bind (op : S.Op) (next : S.Res op → Prog S β) :
    lift op >>= next = call op next :=
  rfl

@[simp]
theorem bind_ret_eq (program : Prog S α) : program >>= ret = program := by
  induction program with
  | ret value => rfl
  | call op rest ih =>
      rw [call_bind]
      exact congrArg (call op) (funext ih)

theorem bind_assoc (program : Prog S α) (first : α → Prog S β)
    (second : β → Prog S γ) :
    (program >>= first) >>= second = program >>= fun value => first value >>= second := by
  induction program with
  | ret value => rfl
  | call op rest ih =>
      simp only [call_bind]
      exact congrArg (call op) (funext ih)

/-! ## The calls of a program -/

/-- Every call the program may ever make satisfies `P`, whatever the answers. -/
def Calls (P : S.Op → Prop) : Prog S α → Prop
  | ret _ => True
  | call op next => P op ∧ ∀ answer, (next answer).Calls P

@[simp]
theorem calls_ret (P : S.Op → Prop) (value : α) : (ret value : Prog S α).Calls P :=
  trivial

theorem calls_lift {P : S.Op → Prop} {op : S.Op} (holds : P op) : (lift op).Calls P :=
  ⟨holds, fun _ => trivial⟩

theorem Calls.mono {P Q : S.Op → Prop} {program : Prog S α} (calls : program.Calls P)
    (weaker : ∀ op, P op → Q op) : program.Calls Q := by
  induction program with
  | ret value => trivial
  | call op next ih => exact ⟨weaker op calls.1, fun answer => ih answer (calls.2 answer)⟩

theorem Calls.bind {P : S.Op → Prop} {program : Prog S α} {next : α → Prog S β}
    (first : program.Calls P) (rest : ∀ value, (next value).Calls P) :
    (program >>= next).Calls P := by
  induction program with
  | ret value => exact rest value
  | call op more ih =>
      rw [call_bind]
      exact ⟨first.1, fun answer => ih answer (first.2 answer)⟩

/-- Every value the program may ever return satisfies `Q`, whatever the answers. -/
def Yields (Q : α → Prop) : Prog S α → Prop
  | ret value => Q value
  | call _ next => ∀ answer, (next answer).Yields Q

theorem yields_true (program : Prog S α) : program.Yields fun _ => True := by
  induction program with
  | ret value => trivial
  | call op next ih => exact ih

theorem Yields.bind {Q : α → Prop} {Q' : β → Prop} {program : Prog S α} {next : α → Prog S β}
    (first : program.Yields Q) (rest : ∀ value, Q value → (next value).Yields Q') :
    (program >>= next).Yields Q' := by
  induction program with
  | ret value => exact rest value first
  | call op more ih =>
      rw [call_bind]
      exact fun answer => ih answer (first answer)

/-- Every value the program may return satisfies `Q`, if only the given answers occur. -/
def YieldsFrom (Answers : (op : S.Op) → S.Res op → Prop) (Q : α → Prop) : Prog S α → Prop
  | ret value => Q value
  | call op next => ∀ answer, Answers op answer → (next answer).YieldsFrom Answers Q

theorem yieldsFrom_true (Answers : (op : S.Op) → S.Res op → Prop) (program : Prog S α) :
    program.YieldsFrom Answers fun _ => True := by
  induction program with
  | ret value => trivial
  | call op next ih => exact fun answer _ => ih answer

theorem YieldsFrom.mono {Answers : (op : S.Op) → S.Res op → Prop} {Q Q' : α → Prop}
    {program : Prog S α} (yields : program.YieldsFrom Answers Q)
    (weaker : ∀ value, Q value → Q' value) : program.YieldsFrom Answers Q' := by
  induction program with
  | ret value => exact weaker value yields
  | call op next ih => exact fun answer told => ih answer (yields answer told)

theorem YieldsFrom.bind {Answers : (op : S.Op) → S.Res op → Prop} {Q : α → Prop} {Q' : β → Prop}
    {program : Prog S α} {next : α → Prog S β} (first : program.YieldsFrom Answers Q)
    (rest : ∀ value, Q value → (next value).YieldsFrom Answers Q') :
    (program >>= next).YieldsFrom Answers Q' := by
  induction program with
  | ret value => exact rest value first
  | call op more ih =>
      rw [call_bind]
      exact fun answer told => ih answer (first answer told)

/-- The rest of a program has to be looked at for the values that can be returned only. -/
theorem Calls.bind_yields {P : S.Op → Prop} {Q : α → Prop} {program : Prog S α}
    {next : α → Prog S β} (first : program.Calls P) (values : program.Yields Q)
    (rest : ∀ value, Q value → (next value).Calls P) : (program >>= next).Calls P := by
  induction program with
  | ret value => exact rest value values
  | call op more ih =>
      rw [call_bind]
      exact ⟨first.1, fun answer => ih answer (first.2 answer) (values answer)⟩

/-! ## Running a program alone -/

variable {σ : Type} {C : Type}

/-- Run a program alone. `exec op choice state` answers one call and the list
holds one choice for each call, so the list is the whole nondeterminism of the
run. The run is undefined when a call is not enabled or the choices run out. -/
def eval (exec : (op : S.Op) → C → σ → Option (S.Res op × σ)) :
    List C → Prog S α → σ → Option (α × σ)
  | [], ret value, state => some (value, state)
  | _ :: _, ret _, _ => none
  | [], call _ _, _ => none
  | choice :: choices, call op next, state =>
      (exec op choice state).bind fun answered =>
        eval exec choices (next answered.1) answered.2

variable {exec : (op : S.Op) → C → σ → Option (S.Res op × σ)}

/-- Returning uses no choice. -/
theorem eval_ret_iff {choices : List C} {value result : α} {state final : σ} :
    eval exec choices (ret value) state = some (result, final) ↔
      choices = [] ∧ result = value ∧ final = state := by
  cases choices with
  | nil =>
      simp only [eval, Option.some.injEq, Prod.mk.injEq, true_and]
      constructor
      · rintro ⟨rfl, rfl⟩
        exact ⟨rfl, rfl⟩
      · rintro ⟨rfl, rfl⟩
        exact ⟨rfl, rfl⟩
  | cons choice choices => simp [eval]

/-- A run of a call is one answered call and a run of the rest. -/
theorem eval_call_iff {choices : List C} {op : S.Op} {next : S.Res op → Prog S α}
    {result : α} {state final : σ} :
    eval exec choices (call op next) state = some (result, final) ↔
      ∃ choice rest answer middle, choices = choice :: rest ∧
        exec op choice state = some (answer, middle) ∧
        eval exec rest (next answer) middle = some (result, final) := by
  cases choices with
  | nil => simp [eval]
  | cons choice choices =>
      simp only [eval, Option.bind_eq_some_iff, Prod.exists, List.cons.injEq]
      constructor
      · rintro ⟨answer, middle, answered, rest⟩
        exact ⟨choice, choices, answer, middle, ⟨rfl, rfl⟩, answered, rest⟩
      · rintro ⟨_, _, answer, middle, ⟨rfl, rfl⟩, answered, rest⟩
        exact ⟨answer, middle, answered, rest⟩

/-- A run of a sequence splits into a run of its first part and a run of the
continuation, each with its own share of the choices. -/
theorem eval_bind_iff {choices : List C} {program : Prog S α} {next : α → Prog S β}
    {result : β} {state final : σ} :
    eval exec choices (program >>= next) state = some (result, final) ↔
      ∃ first second value middle, choices = first ++ second ∧
        eval exec first program state = some (value, middle) ∧
        eval exec second (next value) middle = some (result, final) := by
  induction program generalizing choices state with
  | ret value =>
      rw [ret_bind]
      constructor
      · intro run
        exact ⟨[], choices, value, state, rfl, eval_ret_iff.mpr ⟨rfl, rfl, rfl⟩, run⟩
      · rintro ⟨first, second, value', middle, rfl, firstRun, secondRun⟩
        rw [eval_ret_iff] at firstRun
        obtain ⟨rfl, rfl, rfl⟩ := firstRun
        exact secondRun
  | call op rest ih =>
      rw [call_bind, eval_call_iff]
      constructor
      · rintro ⟨choice, choices, answer, middle, rfl, answered, run⟩
        obtain ⟨first, second, value, last, rfl, firstRun, secondRun⟩ := (ih answer).mp run
        exact ⟨choice :: first, second, value, last, rfl,
          eval_call_iff.mpr ⟨choice, first, answer, middle, rfl, answered, firstRun⟩,
          secondRun⟩
      · rintro ⟨first, second, value, last, rfl, firstRun, secondRun⟩
        rw [eval_call_iff] at firstRun
        obtain ⟨choice, rest', answer, middle, rfl, answered, run⟩ := firstRun
        exact ⟨choice, rest' ++ second, answer, middle, rfl, answered,
          (ih answer).mpr ⟨rest', second, value, last, rfl, run, secondRun⟩⟩

/-- Under some choices the program, run alone, returns a value and leaves a state. -/
def Returns (exec : (op : S.Op) → C → σ → Option (S.Res op × σ)) (program : Prog S α)
    (state : σ) (result : α) (final : σ) : Prop :=
  ∃ choices, eval exec choices program state = some (result, final)

theorem returns_ret_iff {value result : α} {state final : σ} :
    Returns exec (ret value) state result final ↔ result = value ∧ final = state := by
  constructor
  · rintro ⟨choices, ran⟩
    exact (eval_ret_iff.mp ran).2
  · rintro ⟨rfl, rfl⟩
    exact ⟨[], rfl⟩

theorem returns_call_iff {op : S.Op} {next : S.Res op → Prog S α} {result : α}
    {state final : σ} :
    Returns exec (call op next) state result final ↔
      ∃ choice answer middle, exec op choice state = some (answer, middle) ∧
        Returns exec (next answer) middle result final := by
  constructor
  · rintro ⟨choices, ran⟩
    rw [eval_call_iff] at ran
    obtain ⟨choice, rest, answer, middle, _, answered, ran⟩ := ran
    exact ⟨choice, answer, middle, answered, rest, ran⟩
  · rintro ⟨choice, answer, middle, answered, rest, ran⟩
    exact ⟨choice :: rest, eval_call_iff.mpr
      ⟨choice, rest, answer, middle, rfl, answered, ran⟩⟩

theorem returns_lift_bind_iff {op : S.Op} {next : S.Res op → Prog S α} {result : α}
    {state final : σ} :
    Returns exec (lift op >>= next) state result final ↔
      ∃ choice answer middle, exec op choice state = some (answer, middle) ∧
        Returns exec (next answer) middle result final :=
  returns_call_iff

theorem returns_bind_iff {program : Prog S α} {next : α → Prog S β} {result : β}
    {state final : σ} :
    Returns exec (program >>= next) state result final ↔
      ∃ value middle, Returns exec program state value middle ∧
        Returns exec (next value) middle result final := by
  constructor
  · rintro ⟨choices, ran⟩
    rw [eval_bind_iff] at ran
    obtain ⟨first, second, value, middle, _, firstRan, secondRan⟩ := ran
    exact ⟨value, middle, ⟨first, firstRan⟩, second, secondRan⟩
  · rintro ⟨value, middle, ⟨first, firstRan⟩, second, secondRan⟩
    exact ⟨first ++ second, eval_bind_iff.mpr
      ⟨first, second, value, middle, rfl, firstRan, secondRan⟩⟩

/-- What every call of a program keeps, the program keeps. -/
theorem Calls.returns {P : S.Op → Prop} {Fact : σ → Prop} {program : Prog S α}
    (calls : program.Calls P)
    (kept : ∀ {op choice state answer after}, P op → Fact state →
      exec op choice state = some (answer, after) → Fact after)
    {result : α} {state final : σ} (returned : Returns exec program state result final)
    (holds : Fact state) : Fact final := by
  induction program generalizing state with
  | ret value =>
      rw [returns_ret_iff] at returned
      obtain ⟨_, rfl⟩ := returned
      exact holds
  | call op next ih =>
      rw [returns_call_iff] at returned
      obtain ⟨choice, answer, middle, answered, rest⟩ := returned
      exact ih answer (calls.2 answer) rest (kept calls.1 holds answered)

/-- What every value of a program satisfies, its result does. -/
theorem Yields.returns {Q : α → Prop} {program : Prog S α} (yields : program.Yields Q)
    {result : α} {state final : σ} (returned : Returns exec program state result final) :
    Q result := by
  induction program generalizing state with
  | ret value =>
      rw [returns_ret_iff] at returned
      obtain ⟨rfl, _⟩ := returned
      exact yields
  | call op next ih =>
      rw [returns_call_iff] at returned
      obtain ⟨choice, answer, middle, _, rest⟩ := returned
      exact ih answer (yields answer) rest

/-- The same when the answers are those that an invariant allows. -/
theorem YieldsFrom.returns {Answers : (op : S.Op) → S.Res op → Prop} {Q : α → Prop}
    {P : S.Op → Prop} {Fact : σ → Prop} {program : Prog S α} (calls : program.Calls P)
    (yields : program.YieldsFrom Answers Q)
    (told : ∀ {op choice state answer after}, P op → Fact state →
      exec op choice state = some (answer, after) → Answers op answer ∧ Fact after)
    {result : α} {state final : σ} (returned : Returns exec program state result final)
    (holds : Fact state) : Q result := by
  induction program generalizing state with
  | ret value =>
      rw [returns_ret_iff] at returned
      obtain ⟨rfl, _⟩ := returned
      exact yields
  | call op next ih =>
      rw [returns_call_iff] at returned
      obtain ⟨choice, answer, middle, answered, rest⟩ := returned
      obtain ⟨allowed, kept⟩ := told calls.1 holds answered
      exact ih answer (calls.2 answer) (yields answer allowed) rest kept

/-- The program returns this value and leaves the state as it is, whatever the choices. -/
structure Gives (exec : (op : S.Op) → C → σ → Option (S.Res op × σ)) (program : Prog S α)
    (state : σ) (value : α) : Prop where
  returns_iff : ∀ {result final}, Returns exec program state result final ↔
    result = value ∧ final = state

theorem gives_ret (value : α) (state : σ) : Gives exec (ret value) state value where
  returns_iff := returns_ret_iff

theorem gives_lift [Nonempty C] {op : S.Op} {state : σ} {value : S.Res op}
    (answers : ∀ choice, exec op choice state = some (value, state)) :
    Gives exec (lift op) state value where
  returns_iff := by
    intro result final
    constructor
    · intro returned
      have called := returns_call_iff.mp returned
      obtain ⟨choice, answer, middle, answered, rest⟩ := called
      rw [answers] at answered
      cases answered
      exact returns_ret_iff.mp rest
    · rintro ⟨rfl, rfl⟩
      obtain ⟨choice⟩ := ‹Nonempty C›
      exact returns_call_iff.mpr ⟨choice, result, final, answers choice,
        returns_ret_iff.mpr ⟨rfl, rfl⟩⟩

/-- What follows a value that is given is run from it. -/
theorem Gives.bind_iff {program : Prog S α} {next : α → Prog S β} {state : σ} {value : α}
    (gives : Gives exec program state value) {result : β} {final : σ} :
    Returns exec (program >>= next) state result final ↔
      Returns exec (next value) state result final := by
  rw [returns_bind_iff]
  constructor
  · rintro ⟨given, middle, first, rest⟩
    rw [gives.returns_iff] at first
    obtain ⟨rfl, rfl⟩ := first
    exact rest
  · intro rest
    exact ⟨value, state, gives.returns_iff.mpr ⟨rfl, rfl⟩, rest⟩

theorem Gives.bind {program : Prog S α} {next : α → Prog S β} {state : σ} {value : α}
    {result : β} (first : Gives exec program state value)
    (rest : Gives exec (next value) state result) : Gives exec (program >>= next) state result where
  returns_iff := first.bind_iff.trans rest.returns_iff

/-- A program whose calls are always enabled comes to its end. -/
theorem Calls.exists_eval {P : S.Op → Prop} {program : Prog S α} (calls : program.Calls P)
    (choice : C) (enabled : ∀ {op}, P op → ∀ state, (exec op choice state).isSome = true)
    (state : σ) :
    ∃ count result final, eval exec (List.replicate count choice) program state =
      some (result, final) := by
  induction program generalizing state with
  | ret value => exact ⟨0, value, state, rfl⟩
  | call op next ih =>
      obtain ⟨⟨answer, middle⟩, answered⟩ := Option.isSome_iff_exists.mp (enabled calls.1 state)
      obtain ⟨count, result, final, ran⟩ := ih answer (calls.2 answer) middle
      refine ⟨count + 1, result, final, ?_⟩
      rw [List.replicate_succ, eval, answered]
      exact ran

end Prog

end ZfsLocalPv.Interaction

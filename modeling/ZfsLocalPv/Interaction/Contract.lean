import ZfsLocalPv.Interaction.System

/-!
# Contracts between interleaved programs

A contract says what a thread may count on while others move (`Rely`), what it owes at each of
its own calls (`Ok`) and what holds when it is done (`Post`), on top of an invariant of the
shared state. `Guard` is a condition on single calls that the runs under consideration are known
to meet.

`Keeps` is the proof obligation of one thread. It is defined by recursion on the program, so it
composes along sequencing, and it is insensitive to the moves of others by construction. `Sound`
lists what has to be shown about the shared state; together they give the invariant and the
obligation of every running thread in every configuration reached.
-/

namespace ZfsLocalPv.Interaction

variable {S : Signature} {σ T C R E A : Type}

/-- Rely, obligation and postcondition of each thread over a shared invariant. -/
structure Contract (sys : System S σ T C R E A) where
  Inv : σ → Prop
  Rely : T → σ → σ → Prop
  Guard : T → S.Op → C → σ → Prop
  Ok : T → S.Op → σ → Prop
  Post : T → R → σ → Prop
  rely_refl : ∀ thread state, Rely thread state state
  rely_trans : ∀ {thread first second third}, Rely thread first second →
    Rely thread second third → Rely thread first third

namespace Contract

variable {sys : System S σ T C R E A} {α β : Type}

/-- From `state` on, whatever the others do within the rely, `program` meets
its obligation at each call and ends in `post`. -/
def Keeps (contract : Contract sys) (thread : T) :
    Prog S α → (α → σ → Prop) → σ → Prop
  | .ret value, post, state => ∀ now, contract.Rely thread state now →
      contract.Inv now → post value now
  | .call op next, post, state => ∀ now, contract.Rely thread state now →
      contract.Inv now → contract.Ok thread op now ∧
        ∀ choice answer after, contract.Guard thread op choice now →
          sys.exec thread op choice now = some (answer, after) →
          contract.Keeps thread (next answer) post after

variable {contract : Contract sys} {thread : T} {state now : σ}

/-- An obligation survives the moves of others. -/
theorem Keeps.rely {program : Prog S α} {post : α → σ → Prop}
    (keeps : contract.Keeps thread program post state)
    (moved : contract.Rely thread state now) :
    contract.Keeps thread program post now := by
  cases program with
  | ret value =>
      intro later moved' inv
      exact keeps later (contract.rely_trans moved moved') inv
  | call op next =>
      intro later moved' inv
      exact keeps later (contract.rely_trans moved moved') inv

/-- It is enough to meet the obligation from the states others may lead to. -/
theorem keeps_of_forall_rely {program : Prog S α} {post : α → σ → Prop}
    (keeps : ∀ now, contract.Rely thread state now → contract.Inv now →
      contract.Keeps thread program post now) :
    contract.Keeps thread program post state := by
  cases program with
  | ret value =>
      intro now moved inv
      exact keeps now moved inv now (contract.rely_refl thread now) inv
  | call op next =>
      intro now moved inv
      exact keeps now moved inv now (contract.rely_refl thread now) inv

/-- Sequencing: the postcondition of the first part is the obligation of the
second. -/
theorem Keeps.bind {program : Prog S α} {next : α → Prog S β} {post : β → σ → Prop}
    (keeps : contract.Keeps thread program
      (fun value now => contract.Keeps thread (next value) post now) state) :
    contract.Keeps thread (program >>= next) post state := by
  induction program generalizing state with
  | ret value =>
      rw [Prog.ret_bind]
      exact keeps_of_forall_rely keeps
  | call op rest ih =>
      rw [Prog.call_bind]
      intro now moved inv
      obtain ⟨ok, continues⟩ := keeps now moved inv
      exact ⟨ok, fun choice answer after guard executed =>
        ih answer (continues choice answer after guard executed)⟩

/-- A weaker postcondition, to be shown where the invariant holds. -/
theorem Keeps.mono {program : Prog S α} {post post' : α → σ → Prop}
    (keeps : contract.Keeps thread program post state)
    (weaker : ∀ value now, contract.Inv now → post value now → post' value now) :
    contract.Keeps thread program post' state := by
  induction program generalizing state with
  | ret value =>
      intro now moved inv
      exact weaker value now inv (keeps now moved inv)
  | call op rest ih =>
      intro now moved inv
      obtain ⟨ok, continues⟩ := keeps now moved inv
      exact ⟨ok, fun choice answer after guard executed =>
        ih answer (continues choice answer after guard executed)⟩

/-- Returning meets every postcondition that the others cannot break. -/
theorem keeps_ret {value : α} {post : α → σ → Prop}
    (holds : ∀ now, contract.Rely thread state now → contract.Inv now → post value now) :
    contract.Keeps thread (.ret value) post state :=
  holds

/-- The rule for one call. -/
theorem keeps_lift_bind {op : S.Op} {next : S.Res op → Prog S α} {post : α → σ → Prop}
    (step : ∀ now, contract.Rely thread state now → contract.Inv now →
      contract.Ok thread op now ∧ ∀ choice answer after, contract.Guard thread op choice now →
        sys.exec thread op choice now = some (answer, after) →
        contract.Keeps thread (next answer) post after) :
    contract.Keeps thread (Prog.lift op >>= next) post state :=
  step

/-- A fact that neither the others nor the program's own calls break, and that
covers what the calls owe, holds at the end. -/
theorem keeps_of_stable {P : S.Op → Prop} {Fact : σ → Prop} {program : Prog S α}
    (calls : program.Calls P)
    (others : ∀ {before after}, contract.Rely thread before after → Fact before → Fact after)
    (owes : ∀ {op now}, P op → contract.Inv now → Fact now → contract.Ok thread op now)
    (own : ∀ {op choice now answer after}, P op → contract.Inv now →
      contract.Guard thread op choice now → Fact now →
      sys.exec thread op choice now = some (answer, after) → Fact after)
    (holds : Fact state) : contract.Keeps thread program (fun _ now => Fact now) state := by
  induction program generalizing state with
  | ret value => exact fun now moved _ => others moved holds
  | call op next ih =>
      intro now moved inv
      have holds := others moved holds
      constructor
      · exact owes calls.1 inv holds
      · intro choice answer after guard executed
        exact ih answer (calls.2 answer) (own calls.1 inv guard holds executed)

/-- A program owes nothing when no call carries an obligation. -/
theorem keeps_of_no_obligation (program : Prog S α)
    (free : ∀ op now, contract.Inv now → contract.Ok thread op now) (state : σ) :
    contract.Keeps thread program (fun _ _ => True) state := by
  induction program generalizing state with
  | ret value =>
      intro now _ _
      trivial
  | call op rest ih =>
      intro now _ inv
      exact ⟨free op now inv, fun _ answer after _ _ => ih answer after⟩

/-! ## From obligations to runs -/

variable [DecidableEq T] {Meets : Action T C E A → Config S σ T R → Prop}

/-- What each kind of admitted step has to respect. -/
structure Sound (contract : Contract sys)
    (Meets : Action T C E A → Config S σ T R → Prop) : Prop where
  guard : ∀ {config thread choice op next}, Meets (.call thread choice) config →
    config.threads thread = some (.call op next) →
    contract.Guard thread op choice config.shared
  call : ∀ {thread op choice before answer after}, contract.Inv before →
    contract.Ok thread op before → contract.Guard thread op choice before →
    sys.exec thread op choice before = some (answer, after) →
    contract.Inv after ∧ ∀ other, other ≠ thread → contract.Rely other before after
  env : ∀ {config move after}, Meets (.env move) config → contract.Inv config.shared →
    sys.env move config.shared = some after →
    contract.Inv after ∧ ∀ other, contract.Rely other config.shared after
  arrive : ∀ {config arrival thread program after}, Meets (.arrive arrival) config →
    contract.Inv config.shared →
    sys.arrive arrival config.shared = some (thread, program, after) →
    config.threads thread = none →
    contract.Inv after ∧ (∀ other, other ≠ thread → contract.Rely other config.shared after) ∧
      contract.Keeps thread program (contract.Post thread) after
  leave : ∀ {config thread answer}, Meets (.leave thread) config →
    contract.Inv config.shared → contract.Post thread answer config.shared →
    config.threads thread = some (.ret answer) →
    contract.Inv (sys.leave thread answer config.shared) ∧
      ∀ other, other ≠ thread →
        contract.Rely other config.shared (sys.leave thread answer config.shared)

/-- The invariant, and the obligation of every running thread. -/
def Holds (contract : Contract sys) (config : Config S σ T R) : Prop :=
  contract.Inv config.shared ∧ ∀ thread program, config.threads thread = some program →
    contract.Keeps thread program (contract.Post thread) config.shared

theorem Sound.step (sound : contract.Sound Meets)
    {config next : Config S σ T R} {action : Action T C E A}
    (holds : contract.Holds config) (meets : Meets action config)
    (stepped : sys.step action config = some next) : contract.Holds next := by
  obtain ⟨inv, running⟩ := holds
  rcases System.step_cases stepped with
    ⟨thread, choice, op, rest, answer, rfl, atCall, executed, threadsEq⟩ |
    ⟨move, rfl, moved, threadsEq⟩ |
    ⟨arrival, thread, program, rfl, arrived, idle, threadsEq⟩ |
    ⟨thread, answer, rfl, finished, sharedEq, threadsEq⟩
  · have guard := sound.guard meets atCall
    obtain ⟨ok, continues⟩ := running thread _ atCall config.shared
      (contract.rely_refl thread config.shared) inv
    obtain ⟨invAfter, others⟩ := sound.call inv ok guard executed
    refine ⟨invAfter, fun other program atOther => ?_⟩
    rw [threadsEq] at atOther
    by_cases same : other = thread
    · subst same
      rw [Function.update_self] at atOther
      cases atOther
      exact continues choice answer next.shared guard executed
    · rw [Function.update_of_ne same] at atOther
      exact (running other program atOther).rely (others other same)
  · obtain ⟨invAfter, others⟩ := sound.env meets inv moved
    refine ⟨invAfter, fun other program atOther => ?_⟩
    rw [threadsEq] at atOther
    exact (running other program atOther).rely (others other)
  · obtain ⟨invAfter, others, keeps⟩ := sound.arrive meets inv arrived idle
    refine ⟨invAfter, fun other program' atOther => ?_⟩
    rw [threadsEq] at atOther
    by_cases same : other = thread
    · subst same
      rw [Function.update_self] at atOther
      cases atOther
      exact keeps
    · rw [Function.update_of_ne same] at atOther
      exact (running other program' atOther).rely (others other same)
  · have post := running thread _ finished config.shared
      (contract.rely_refl thread config.shared) inv
    obtain ⟨invAfter, others⟩ := sound.leave meets inv post finished
    rw [← sharedEq] at invAfter others
    refine ⟨invAfter, fun other program atOther => ?_⟩
    rw [threadsEq] at atOther
    by_cases same : other = thread
    · subst same
      rw [Function.update_self] at atOther
      contradiction
    · rw [Function.update_of_ne same] at atOther
      exact (running other program atOther).rely (others other same)

/-- Along every admitted run the invariant holds and every running thread
still keeps its contract. -/
theorem Sound.reaches (sound : contract.Sound Meets) {start config : Config S σ T R}
    (inv : contract.Inv start.shared) (idle : ∀ thread, start.threads thread = none)
    (reached : sys.Reaches Meets start config) : contract.Holds config := by
  refine reached.invariant contract.Holds ⟨inv, fun thread program atStart => ?_⟩ ?_
  · rw [idle thread] at atStart
    contradiction
  · intro middle last action _ holds meets stepped
    exact sound.step holds meets stepped

/-- What a thread leaves behind and the others cannot break holds until it arrives again. -/
theorem Sound.leaves (sound : contract.Sound Meets) {Left : T → σ → Prop}
    (others : ∀ {thread before after}, contract.Rely thread before after → Left thread before →
      Left thread after)
    (left : ∀ {thread answer state}, contract.Inv state → contract.Post thread answer state →
      Left thread (sys.leave thread answer state))
    {start config : Config S σ T R} (inv : contract.Inv start.shared)
    (idle : ∀ thread, start.threads thread = none)
    (initially : ∀ thread, Left thread start.shared)
    (reached : sys.Reaches Meets start config) :
    ∀ thread, config.threads thread = none → Left thread config.shared := by
  apply reached.invariant fun config =>
    ∀ thread, config.threads thread = none → Left thread config.shared
  · exact fun thread _ => initially thread
  · intro middle last action run before meets stepped thread isIdle
    obtain ⟨invMiddle, running⟩ := sound.reaches inv idle run
    rcases System.step_cases stepped with
      ⟨caller, choice, op, rest, answer, rfl, atCall, executed, threadsEq⟩ |
      ⟨move, rfl, moved, threadsEq⟩ |
      ⟨arrival, caller, program, rfl, arrived, callerIdle, threadsEq⟩ |
      ⟨caller, answer, rfl, finished, sharedEq, threadsEq⟩
    · rw [threadsEq] at isIdle
      by_cases same : thread = caller
      · subst same
        rw [Function.update_self] at isIdle
        contradiction
      · rw [Function.update_of_ne same] at isIdle
        have ok := (running caller _ atCall _ (contract.rely_refl _ _) invMiddle).1
        have guard := sound.guard meets atCall
        exact others ((sound.call invMiddle ok guard executed).2 thread same) (before thread isIdle)
    · rw [threadsEq] at isIdle
      exact others ((sound.env meets invMiddle moved).2 thread) (before thread isIdle)
    · rw [threadsEq] at isIdle
      by_cases same : thread = caller
      · subst same
        rw [Function.update_self] at isIdle
        contradiction
      · rw [Function.update_of_ne same] at isIdle
        have rely := (sound.arrive meets invMiddle arrived callerIdle).2.1 thread same
        exact others rely (before thread isIdle)
    · have post := running caller _ finished _ (contract.rely_refl _ _) invMiddle
      rw [sharedEq]
      by_cases same : thread = caller
      · subst same
        exact left invMiddle post
      · rw [threadsEq, Function.update_of_ne same] at isIdle
        have rely := (sound.leave meets invMiddle post finished).2 thread same
        exact others rely (before thread isIdle)

omit [DecidableEq T] in
/-- The obligation of a thread that is about to make a call. -/
theorem Holds.ok_of_call {config : Config S σ T R} (holds : contract.Holds config)
    {op : S.Op} {next : S.Res op → Prog S R}
    (atCall : config.threads thread = some (.call op next)) :
    contract.Ok thread op config.shared :=
  (holds.2 thread _ atCall config.shared (contract.rely_refl thread _) holds.1).1

omit [DecidableEq T] in
/-- The postcondition of a thread that is about to answer. -/
theorem Holds.post_of_ret {config : Config S σ T R} (holds : contract.Holds config)
    {answer : R} (finished : config.threads thread = some (.ret answer)) :
    contract.Post thread answer config.shared :=
  holds.2 thread _ finished config.shared (contract.rely_refl thread _) holds.1

end Contract

end ZfsLocalPv.Interaction

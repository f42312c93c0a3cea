import ZfsLocalPv.Interaction.Prog

/-!
# Interleaved programs over a shared state

A system runs any number of programs, each named by its thread identifier, against one shared
state. Every call is atomic. Between two calls of a thread all other threads and the environment
may move, so a run is an arbitrary interleaving. Reachability is relative to a condition on the
single steps; the condition that always holds gives plain reachability.
-/

namespace ZfsLocalPv.Interaction

/-- How calls, the environment, arrivals and departures act on the shared
state: `T` names threads, `C` holds the choice left open by a call, `R` is the
type of final answers, `E` the environment's moves and `A` the arrivals. -/
structure System (S : Signature) (σ T C R E A : Type) where
  exec : T → (op : S.Op) → C → σ → Option (S.Res op × σ)
  env : E → σ → Option σ
  arrive : A → σ → Option (T × Prog S R × σ)
  leave : T → R → σ → σ

/-- A shared state and the rest of the program of each running thread. -/
structure Config (S : Signature) (σ T R : Type) where
  shared : σ
  threads : T → Option (Prog S R)

/-- One step of a run. -/
inductive Action (T C E A : Type)
  | call (thread : T) (choice : C)
  | env (move : E)
  | arrive (arrival : A)
  | leave (thread : T)

namespace System

variable {S : Signature} {σ T C R E A : Type} [DecidableEq T]

/-- The configuration after one step, if the step is enabled. -/
def step (sys : System S σ T C R E A) :
    Action T C E A → Config S σ T R → Option (Config S σ T R)
  | .call thread choice, config =>
      match config.threads thread with
      | some (.call op next) =>
          (sys.exec thread op choice config.shared).map fun answered =>
            ⟨answered.2, Function.update config.threads thread (some (next answered.1))⟩
      | _ => none
  | .env move, config =>
      (sys.env move config.shared).map fun shared => ⟨shared, config.threads⟩
  | .arrive arrival, config =>
      match sys.arrive arrival config.shared with
      | some (thread, program, shared) =>
          match config.threads thread with
          | none => some ⟨shared, Function.update config.threads thread (some program)⟩
          | some _ => none
      | none => none
  | .leave thread, config =>
      match config.threads thread with
      | some (.ret answer) =>
          some ⟨sys.leave thread answer config.shared,
            Function.update config.threads thread none⟩
      | _ => none

/-- The configurations reached from `start` by steps that all meet `Meets`. -/
inductive Reaches (sys : System S σ T C R E A)
    (Meets : Action T C E A → Config S σ T R → Prop) (start : Config S σ T R) :
    Config S σ T R → Prop
  | refl : Reaches sys Meets start start
  | tail {middle last : Config S σ T R} {action : Action T C E A}
      (run : Reaches sys Meets start middle) (meets : Meets action middle)
      (step : sys.step action middle = some last) : Reaches sys Meets start last

/-- The condition that `P` holds at every call. -/
def AtCalls (P : T → S.Op → C → σ → Prop) : Action T C E A → Config S σ T R → Prop
  | .call thread choice, config => ∀ op next, config.threads thread = some (.call op next) →
      P thread op choice config.shared
  | _, _ => True

instance (P : T → S.Op → C → σ → Prop)
    [decide : ∀ thread op choice state, Decidable (P thread op choice state)]
    (action : Action T C E A) (config : Config S σ T R) : Decidable (AtCalls P action config) :=
  match action with
  | .call thread choice =>
      match running : config.threads thread with
      | some (.call op next) =>
          match decide thread op choice config.shared with
          | isTrue holds => isTrue fun op' next' running' => by
              cases running.symm.trans running'
              exact holds
          | isFalse fails => isFalse fun atCalls => fails (atCalls op next running)
      | some (.ret answer) => isTrue fun op next running' => by
          cases running.symm.trans running'
      | none => isTrue fun op next running' => by
          cases running.symm.trans running'
  | .env _ | .arrive _ | .leave _ => isTrue trivial

/-- Run a list of steps, failing at the first one that is not enabled or not
admitted. -/
def run (sys : System S σ T C R E A) (Meets : Action T C E A → Config S σ T R → Prop)
    [∀ action config, Decidable (Meets action config)] :
    List (Action T C E A) → Config S σ T R → Option (Config S σ T R)
  | [], config => some config
  | action :: actions, config =>
      if Meets action config then (sys.step action config).bind (run sys Meets actions) else none

variable {sys : System S σ T C R E A}
  {Meets : Action T C E A → Config S σ T R → Prop} {start : Config S σ T R}

/-- A property of the start that every admitted step keeps holds in every
configuration reached. -/
theorem Reaches.invariant (Inv : Config S σ T R → Prop) (initial : Inv start)
    (kept : ∀ {middle last action}, Reaches sys Meets start middle → Inv middle →
      Meets action middle → sys.step action middle = some last → Inv last)
    {config : Config S σ T R} (reached : Reaches sys Meets start config) : Inv config := by
  induction reached with
  | refl => exact initial
  | tail run meets step ih => exact kept run ih meets step

/-- What holds in every configuration reached may be used as a further
condition on the steps. -/
theorem Reaches.strengthen {Known : Action T C E A → Config S σ T R → Prop}
    (known : ∀ {config action next}, Reaches sys Meets start config → Meets action config →
      sys.step action config = some next → Known action config)
    {config : Config S σ T R} (reached : Reaches sys Meets start config) :
    Reaches sys (fun action config => Meets action config ∧ Known action config)
      start config := by
  induction reached with
  | refl => exact .refl
  | tail run meets step ih => exact .tail ih ⟨meets, known run meets step⟩ step

theorem Reaches.mono {Meets' : Action T C E A → Config S σ T R → Prop}
    (weaker : ∀ {action config}, Meets action config → Meets' action config)
    {config : Config S σ T R} (reached : Reaches sys Meets start config) :
    Reaches sys Meets' start config := by
  induction reached with
  | refl => exact .refl
  | tail _ meets step ih => exact .tail ih (weaker meets) step

theorem Reaches.trans {middle last : Config S σ T R}
    (first : Reaches sys Meets start middle) (second : Reaches sys Meets middle last) :
    Reaches sys Meets start last := by
  induction second with
  | refl => exact first
  | tail _ meets step ih => exact .tail ih meets step

/-- An executed list of steps reaches its last configuration by steps of the list. -/
theorem reaches_of_run [∀ action config, Decidable (Meets action config)]
    {actions : List (Action T C E A)} {last : Config S σ T R}
    (ran : sys.run Meets actions start = some last) :
    Reaches sys (fun action config => Meets action config ∧ action ∈ actions) start last := by
  induction actions generalizing start with
  | nil =>
      obtain rfl : start = last := Option.some.inj ran
      exact .refl
  | cons action actions ih =>
      simp only [run, Option.ite_none_right_eq_some] at ran
      obtain ⟨meets, ran⟩ := ran
      obtain ⟨next, stepped, rest⟩ := Option.bind_eq_some_iff.mp ran
      have first : Reaches sys (fun other config => Meets other config ∧ other ∈ action :: actions)
          start next := .tail .refl ⟨meets, .head _⟩ stepped
      exact first.trans ((ih rest).mono fun step => ⟨step.1, .tail _ step.2⟩)

/-- A check of the last configuration of a run is a fact about some configuration
reached. -/
theorem exists_reaches_of_run [∀ action config, Decidable (Meets action config)]
    {actions : List (Action T C E A)} {check : Config S σ T R → Bool}
    (ran : (sys.run Meets actions start).any check = true) :
    ∃ config, Reaches sys Meets start config ∧ check config = true := by
  obtain ⟨config, reached, checked⟩ := (Option.any_eq_true check _).mp ran
  exact ⟨config, (reaches_of_run reached).mono fun step => step.1, checked⟩

/-! ## What one step can be -/

/-- The four kinds of step, each with the facts that enable it. -/
theorem step_cases {action : Action T C E A} {config next : Config S σ T R}
    (stepped : sys.step action config = some next) :
    (∃ thread choice op rest answer, action = .call thread choice ∧
      config.threads thread = some (.call op rest) ∧
      sys.exec thread op choice config.shared = some (answer, next.shared) ∧
      next.threads = Function.update config.threads thread (some (rest answer))) ∨
    (∃ move, action = .env move ∧ sys.env move config.shared = some next.shared ∧
      next.threads = config.threads) ∨
    (∃ arrival thread program, action = .arrive arrival ∧
      sys.arrive arrival config.shared = some (thread, program, next.shared) ∧
      config.threads thread = none ∧
      next.threads = Function.update config.threads thread (some program)) ∨
    (∃ thread answer, action = .leave thread ∧
      config.threads thread = some (.ret answer) ∧
      next.shared = sys.leave thread answer config.shared ∧
      next.threads = Function.update config.threads thread none) := by
  cases action with
  | call thread choice =>
      refine .inl ?_
      simp only [step] at stepped
      split at stepped
      · rename_i op rest running
        obtain ⟨answered, executed, rfl⟩ := Option.map_eq_some_iff.mp stepped
        exact ⟨thread, choice, op, rest, answered.1, rfl, running, executed, rfl⟩
      · contradiction
  | env move =>
      refine .inr (.inl ?_)
      obtain ⟨shared, moved, rfl⟩ := Option.map_eq_some_iff.mp stepped
      exact ⟨move, rfl, moved, rfl⟩
  | arrive arrival =>
      refine .inr (.inr (.inl ?_))
      simp only [step] at stepped
      split at stepped
      · rename_i thread program shared arrived
        split at stepped
        · rename_i idle
          cases stepped
          exact ⟨arrival, thread, program, rfl, arrived, idle, rfl⟩
        · contradiction
      · contradiction
  | leave thread =>
      refine .inr (.inr (.inr ?_))
      simp only [step] at stepped
      split at stepped
      · rename_i answer finished
        cases stepped
        exact ⟨thread, answer, rfl, finished, rfl, rfl⟩
      · contradiction

/-- A thread that never arrives does not run. -/
theorem Reaches.idle_of_never {thread : T} (idle : start.threads thread = none)
    (never : ∀ {config : Config S σ T R} {arrival program after}, Meets (.arrive arrival) config →
      sys.arrive arrival config.shared ≠ some (thread, program, after))
    {config : Config S σ T R} (reached : Reaches sys Meets start config) :
    config.threads thread = none := by
  apply reached.invariant (fun config => config.threads thread = none) idle
  intro middle last action _ idle meets stepped
  rcases step_cases stepped with
    ⟨other, choice, op, rest, answer, rfl, atCall, _, threadsEq⟩ | ⟨move, rfl, _, threadsEq⟩ |
    ⟨arrival, other, program, rfl, arrived, _, threadsEq⟩ |
    ⟨other, answer, rfl, finished, _, threadsEq⟩
  · rw [threadsEq, Function.update_of_ne]
    · exact idle
    · rintro rfl
      exact Option.some_ne_none _ (atCall.symm.trans idle)
  · rw [threadsEq]
    exact idle
  · rw [threadsEq, Function.update_of_ne]
    · exact idle
    · rintro rfl
      exact never meets arrived
  · rw [threadsEq, Function.update_of_ne]
    · exact idle
    · rintro rfl
      exact Option.some_ne_none _ (finished.symm.trans idle)

/-- A property of the shared state that every kind of admitted step keeps. -/
theorem Reaches.shared_invariant (Inv : σ → Prop) (initial : Inv start.shared)
    (call : ∀ {config thread choice op next answer after}, Meets (.call thread choice) config →
      config.threads thread = some (.call op next) → Inv config.shared →
      sys.exec thread op choice config.shared = some (answer, after) → Inv after)
    (env : ∀ {config move after}, Meets (.env move) config → Inv config.shared →
      sys.env move config.shared = some after → Inv after)
    (arrive : ∀ {config : Config S σ T R} {arrival thread program after},
      Meets (.arrive arrival) config → Inv config.shared →
      sys.arrive arrival config.shared = some (thread, program, after) → Inv after)
    (leave : ∀ {config : Config S σ T R} {thread answer}, Meets (.leave thread) config →
      Inv config.shared → Inv (sys.leave thread answer config.shared))
    {config : Config S σ T R} (reached : Reaches sys Meets start config) :
    Inv config.shared := by
  apply reached.invariant (fun config => Inv config.shared) initial
  intro middle last action _ inv meets stepped
  rcases step_cases stepped with
    ⟨thread, choice, op, rest, answer, rfl, atCall, executed, _⟩ | ⟨move, rfl, moved, _⟩ |
    ⟨arrival, thread, program, rfl, arrived, _, _⟩ | ⟨thread, answer, rfl, _, sharedEq, _⟩
  · exact call meets atCall inv executed
  · exact env meets inv moved
  · exact arrive meets inv arrived
  · rw [sharedEq]
    exact leave meets inv

end System

end ZfsLocalPv.Interaction

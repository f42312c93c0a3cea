import ZfsLocalPv.Interaction.Progress
import ZfsLocalPv.Properties.RunPipe

/-!
# `runPipe` comes back

`runPipe` never waits for a process that waits for it, and after a process has failed it returns
within a number of steps that does not depend on the other process.
-/

namespace ZfsLocalPv.RunPipe

open Interaction

variable {capacity : Nat} {state after : State} {side other : Side} {exit : Exit} {op : Op}

section Runs

variable {config : Config signature State Unit Result}
  {Meets : Action Unit Choice Move Unit → Config signature State Unit Result → Prop}

/-! ## Progress -/

/-- The steps of `runPipe`, of its goroutines, and of the kernel that ends killed processes. -/
def ownStep : Action Unit Choice Move Unit → Bool
  | .call _ _ | .env (.die _) | .env (.reap _) | .env (.send _) => true
  | _ => false

/-- A call returns, or a goroutine or the kernel can make a step. -/
def CanMove (capacity : Nat) (op : Op) (state : State) : Prop :=
  (exec () op {} state).isSome = true ∨
    ∃ move, ownStep (.env move) = true ∧ (env capacity move state).isSome = true

theorem canMove_of_zombie (waiting : state.waiters side = .waiting)
    (ended : state.processes side = .zombie exit) : CanMove capacity op state := by
  refine .inr ⟨.reap side, rfl, ?_⟩
  simp [env, waiting, ended]

theorem canMove_of_killed (killed : state.processes side = .running true) :
    CanMove capacity op state := by
  refine .inr ⟨.die side, rfl, ?_⟩
  simp [env, killed]

theorem canMove_of_sending (sending : state.waiters side = .sending exit)
    (room : state.exits.length < 2) : CanMove capacity op state := by
  refine .inr ⟨.send side, rfl, ?_⟩
  simp [env, sending, room]

/-- Where the parent can only wait, it waits for processes that are running and not killed. -/
theorem running_of_not_canMove (sane : Sane state) (waits : Waits state)
    (stuck : ¬ CanMove capacity .receive state) (unseen : ∀ exit, (side, exit) ∉ state.observed) :
    state.waiters side = .waiting ∧ state.processes side = .running false := by
  have empty : state.exits = [] := by
    cases exits : state.exits with
    | nil => rfl
    | cons first rest => exact absurd (.inl (by simp [exec, exits])) stuck
  have tended := sane.tended side
  cases waiter : state.waiters side with
  | absent => exact absurd waiter (waits.waited side)
  | sending exit => exact absurd (canMove_of_sending waiter (by simp [empty])) stuck
  | done =>
      rw [waiter] at tended
      obtain ⟨exit, reaped⟩ := tended
      have mem := (sane.entries side exit).mpr ⟨waiter, reaped⟩
      rw [empty, List.append_nil] at mem
      exact absurd mem (unseen exit)
  | waiting =>
      rw [waiter] at tended
      refine ⟨rfl, ?_⟩
      cases process : state.processes side with
      | absent | reaped => simp [process, Tended, Process.Alive] at tended
      | zombie exit => exact absurd (canMove_of_zombie waiter process) stuck
      | running isKilled =>
          cases isKilled with
          | false => rfl
          | true => exact absurd (canMove_of_killed process) stuck

/-- A process is yet to be heard of. -/
theorem exists_unseen {observed : List (Side × Exit)} (few : observed.length < 2) :
    ∃ side, ∀ exit, (side, exit) ∉ observed := by
  cases observed with
  | nil => exact ⟨.source, fun _ => List.not_mem_nil⟩
  | cons first rest =>
      obtain rfl : rest = [] := by
        rw [← List.length_eq_zero_iff]
        rw [List.length_cons] at few
        omega
      refine ⟨first.1.peer, fun exit mem => ?_⟩
      have same : first.1.peer = first.1 := congrArg Prod.fst (List.mem_singleton.mp mem)
      cases known : first.1 with
      | source | destination => simp [known, Side.peer] at same

/-- Every call but a wait returns, and the wait for a killed process does. -/
theorem canMove_of_owes (owes : Owes state op) (calls : op ≠ .receive) :
    CanMove capacity op state := by
  cases op with
  | pipe | close | start | go | output => exact .inl rfl
  | kill side =>
      left
      simp only [exec]
      split <;> rfl
  | wait side =>
      cases side with
      | destination => exact owes.elim
      | source =>
          obtain ⟨half, doomed⟩ := owes
          cases process : state.processes .source with
          | zombie exit => exact .inl (by simp [exec, process])
          | running isKilled =>
              cases isKilled with
              | true => exact canMove_of_killed process
              | false => simp [process, Process.Doomed] at doomed
          | absent | reaped =>
              have alive := half.source
              simp [process, Process.Alive] at alive
  | receive => exact absurd rfl calls

/-- The parent's ends are closed, so a process cannot wait for the other for ever. -/
theorem exists_unblocked (positive : 0 < capacity) (shut : Shut state)
    (running : state.Running side) :
    ∃ other, state.Running other ∧ ¬ state.Blocked capacity other := by
  by_cases source : state.Running .source
  · by_cases blocked : state.Blocked capacity .source
    · -- the pipe is full, so somebody may read and there is something to read
      obtain ⟨full, readable⟩ := blocked
      refine ⟨.destination, ?_, fun blocked => ?_⟩
      · rcases readable with isOpen | destination
        · rw [shut.reader] at isOpen
          contradiction
        · exact destination
      · rw [blocked.1] at full
        exact absurd full (Nat.not_le.mpr positive)
    · exact ⟨.source, source, blocked⟩
  · cases side with
    | source => exact absurd running source
    | destination =>
        refine ⟨.destination, running, fun blocked => ?_⟩
        rcases blocked.2 with isOpen | writes
        · rw [shut.writer] at isOpen
          contradiction
        · exact source writes

/-- A process has failed. -/
def Failed (state : State) : Prop :=
  ∃ side exit, (state.processes side).Ended exit ∧ ¬ exit.Succeeds

/-- Once a process has failed, the parent does not wait for the other one. -/
theorem canMove_of_failed (sane : Sane state) (owes : Owes state op) (failed : Failed state) :
    CanMove capacity op state := by
  by_cases calls : op = .receive
  · subst calls
    obtain ⟨waits, few⟩ := owes
    by_contra stuck
    obtain ⟨side, exit, ended, fails⟩ := failed
    by_cases seen : (side, exit) ∈ state.observed
    · -- its failure was received, so the peer was killed
      obtain ⟨other, unseen⟩ := exists_unseen few
      have running := (running_of_not_canMove sane waits stuck unseen).2
      have isPeer : other = side.peer := by
        apply eq_peer_of_ne
        rintro rfl
        exact unseen exit seen
      have doomed := waits.doomed side exit seen fails
      rw [← isPeer, running] at doomed
      exact doomed
    · have unseen (last : Exit) : (side, last) ∉ state.observed := by
        intro mem
        have reaped := sane.reaped_of_observed mem
        rw [reaped] at ended
        rcases ended with ended | ended
        · contradiction
        · exact seen (Process.reaped.inj ended ▸ mem)
      have running := (running_of_not_canMove sane waits stuck unseen).2
      simp [running, Process.Ended] at ended
  · exact canMove_of_owes owes calls

theorem step_of_canMove {op : Op} {next : op.Res → Routine Result}
    (atCall : config.threads () = some (.call op next))
    (moves : CanMove capacity op config.shared) :
    ∃ action last, ownStep action = true ∧ (pipeline capacity).step action config = some last := by
  rcases moves with enabled | ⟨move, own, enabled⟩
  · obtain ⟨answered, executed⟩ := Option.isSome_iff_exists.mp enabled
    refine ⟨.call () {}, ⟨answered.2, Function.update config.threads ()
      (some (next answered.1))⟩, rfl, ?_⟩
    simp only [System.step, atCall]
    exact Option.map_eq_some_iff.mpr ⟨answered, executed, rfl⟩
  · obtain ⟨after, moved⟩ := Option.isSome_iff_exists.mp enabled
    exact ⟨.env move, _, own, Option.map_eq_some_iff.mpr ⟨after, moved, rfl⟩⟩

/-- Whatever the processes do, `runPipe` is not part of a deadlock: until it returns it can go
on, or it waits for a process that can use its end of the pipe, if only to learn that the other
end is closed. -/
theorem runPipe_never_stuck {op : Op} {next : op.Res → Routine Result} (positive : 0 < capacity)
    (reached : (pipeline capacity).Reaches Meets start config)
    (running : config.threads () = some (.call op next)) :
    (∃ action last, ownStep action = true ∧ (pipeline capacity).step action config = some last) ∨
      ∃ side, config.shared.Running side ∧ ¬ config.shared.Blocked capacity side := by
  have holds := holds_of_reaches reached
  have sane : Sane config.shared := holds.1
  have owes : Owes config.shared op := holds.ok_of_call running
  by_cases moves : CanMove capacity op config.shared
  · exact .inl (step_of_canMove running moves)
  · by_cases calls : op = .receive
    · subst calls
      obtain ⟨side, unseen⟩ := exists_unseen owes.2
      have waited := (running_of_not_canMove sane owes.1 moves unseen).2
      exact .inr (exists_unblocked positive owes.1.toShut ⟨false, waited⟩)
    · exact absurd (canMove_of_owes owes calls) moves

/-- `runPipe` has yet to return. -/
def pending (config : Config signature State Unit Result) : Bool :=
  match config.threads () with
  | some (.call _ _) => true
  | _ => false

theorem threads_of_pending (isPending : pending config = true) :
    ∃ op next, config.threads () = some (.call op next) := by
  unfold pending at isPending
  split at isPending
  · rename_i op next found
    exact ⟨op, next, found⟩
  · contradiction

/-- The source is blocked at a full pipe, and the destination has yet to read. -/
theorem runPipe_never_stuck_full :
    ∃ config, (pipeline 1).Reaches (fun _ _ => True) start config ∧
      config.shared.Blocked 1 .source ∧
      ((∃ action last, ownStep action = true ∧ (pipeline 1).step action config = some last) ∨
        ∃ side, config.shared.Running side ∧ ¬ config.shared.Blocked 1 side) := by
  have ran : ((pipeline 1).run (fun _ _ => True) (startSteps ++ [.env (.write [1])]) start).any
      (fun config => pending config && decide (1 ≤ config.shared.buffer.length ∧
        config.shared.Readable)) = true := by
    decide +kernel
  obtain ⟨config, reached, checked⟩ := System.exists_reaches_of_run ran
  obtain ⟨isPending, blocked⟩ := (Bool.and_eq_true _ _).mp checked
  obtain ⟨op, next, running⟩ := threads_of_pending isPending
  have isBlocked := of_decide_eq_true blocked
  exact ⟨config, reached, isBlocked, runPipe_never_stuck Nat.one_pos reached running⟩

/-! ## How long it takes -/

theorem within_collect (rounds : Nat) (waitErrors : List Failure) :
    (collect rounds waitErrors).Within (2 * rounds) := by
  induction rounds generalizing waitErrors with
  | zero => exact Prog.within_ret 0 waitErrors
  | succ rounds ih =>
      rw [collect_succ]
      apply Prog.within_lift_bind
      intro seen
      split
      · exact (ih waitErrors).mono (Nat.le_succ _)
      · exact Prog.within_lift_bind fun _ => ih _

theorem within_runConnected : runConnected.Within 12 := by
  unfold runConnected
  apply Prog.within_lift_bind
  intro source
  cases source with
  | error reason => trivial
  | ok started =>
      apply Prog.within_lift_bind
      intro _
      apply Prog.within_lift_bind
      intro destination
      cases destination with
      | error reason => exact fun _ _ _ _ => trivial
      | ok started =>
          apply Prog.within_lift_bind
          intro _
          apply Prog.within_lift_bind
          intro _
          apply Prog.within_lift_bind
          intro _
          have outputs (waitErrors : List Failure) : Prog.Within 2 (do
              let srcErr ← call (.output .source)
              let dstOut ← call (.output .destination)
              return (⟨srcErr ++ dstOut, waitErrors⟩ : Result)) := fun _ _ => trivial
          exact (within_collect 2 []).bind outputs

/-- `runPipe` makes at most 15 calls. -/
theorem within_runPipe : runPipe.Within 15 := by
  unfold runPipe
  apply Prog.within_lift_bind
  intro opened
  cases opened with
  | error reason => trivial
  | ok opened =>
      have closes (result : Result) : Prog.Within 2 (do
          call (.close .writer)
          call (.close .reader)
          return result) := fun _ _ => trivial
      exact within_runConnected.bind closes

def Waiter.weight : Waiter → Nat
  | absent | waiting => 2
  | sending _ => 1
  | done => 0

def Process.weight : Process → Nat
  | absent | running _ => 1
  | zombie _ | reaped _ => 0

/-- The steps that the goroutines and the kernel have yet to make. -/
def State.weight (state : State) : Nat :=
  (state.waiters .source).weight + (state.processes .source).weight +
    ((state.waiters .destination).weight + (state.processes .destination).weight)

theorem weight_change (state : State) (side : Side) (process : Process) (waiter : Waiter) :
    (state.change side process waiter).weight + (state.waiters side).weight +
        (state.processes side).weight =
      state.weight + waiter.weight + process.weight := by
  cases side with
  | source | destination =>
      simp [State.weight, State.change, State.setProcess, State.setWaiter]
      omega

theorem State.weight_le (state : State) : state.weight ≤ 6 := by
  have waiters (waiter : Waiter) : waiter.weight ≤ 2 := by cases waiter <;> simp [Waiter.weight]
  have processes (process : Process) : process.weight ≤ 1 := by
    cases process <;> simp [Process.weight]
  have bounds (side : Side) :=
    And.intro (waiters (state.waiters side)) (processes (state.processes side))
  have source := bounds .source
  have destination := bounds .destination
  unfold State.weight
  omega

theorem weight_setProcess (state : State) (side : Side) (process : Process) :
    (state.setProcess side process).weight + (state.processes side).weight =
      state.weight + process.weight := by
  have change := weight_change state side process (state.waiters side)
  rw [← setProcess_eq_change] at change
  omega

theorem weight_setWaiter (state : State) (side : Side) (waiter : Waiter) :
    (state.setWaiter side waiter).weight + (state.waiters side).weight =
      state.weight + waiter.weight := by
  have change := weight_change state side (state.processes side) waiter
  rw [← setWaiter_eq_change] at change
  omega

/-- The goroutines and the kernel have one step less to make with each they make, and nobody
gives them more to do. -/
theorem weight_env {move : Move} (moved : env capacity move state = some after) :
    after.weight + (if ownStep (.env move) then 1 else 0) ≤ state.weight := by
  cases move with
  | write bytes | read count | eof | print other printed =>
      simp only [env, Option.ite_none_right_eq_some, Option.some.injEq] at moved
      obtain ⟨_, rfl⟩ := moved
      exact Nat.le_refl _
  | exit side exit =>
      simp only [env, Option.ite_none_right_eq_some, Option.some.injEq] at moved
      obtain ⟨_, rfl⟩ := moved
      have change := weight_setProcess state side (.zombie exit)
      rw [show (Process.zombie exit).weight = 0 from rfl] at change
      simp only [ownStep, Bool.false_eq_true, if_false]
      omega
  | die side =>
      simp only [env, Option.ite_none_right_eq_some, Option.some.injEq] at moved
      obtain ⟨killed, rfl⟩ := moved
      have change := weight_setProcess state side (.zombie (.signal "killed"))
      simp only [killed, Process.weight] at change
      simp only [ownStep, if_true]
      omega
  | reap side =>
      simp only [env] at moved
      split at moved
      · rename_i exit waiting ended
        obtain rfl := Option.some.inj moved
        have change := weight_change state side (.reaped exit) (.sending exit)
        simp only [waiting, ended, Process.weight, Waiter.weight, State.change] at change
        simp only [ownStep, if_true]
        omega
      · contradiction
  | send side =>
      simp only [env] at moved
      split at moved
      · rename_i exit sending
        simp only [Option.ite_none_right_eq_some, Option.some.injEq] at moved
        obtain ⟨_, rfl⟩ := moved
        have change :=
          weight_setWaiter { state with exits := state.exits ++ [(side, exit)] } side .done
        simp only [sending, Waiter.weight] at change
        have same : ({ state with exits := state.exits ++ [(side, exit)] } : State).weight =
          state.weight := rfl
        simp only [ownStep, if_true]
        omega
      · contradiction

theorem Effect.weight (effect : Effect state op after) (owes : Owes state op) :
    after.weight ≤ state.weight := by
  cases effect with
  | same | opened | received => exact Nat.le_refl _
  | closed one => cases one <;> exact Nat.le_refl _
  | started side =>
      have change := weight_setProcess state side (.running false)
      simp only [absent_of_owes owes, Process.weight] at change
      omega
  | killed side isKilled running =>
      have change := weight_setProcess state side (.running true)
      simp only [running, Process.weight] at change
      omega
  | waited side exit ended =>
      have change := weight_setProcess state side (.reaped exit)
      simp only [ended, Process.weight] at change
      omega
  | went side =>
      have change := weight_setWaiter state side .waiting
      simp only [owes.1, Waiter.weight] at change
      omega

/-- What is not undone. -/
structure Lasting (state after : State) : Prop where
  begun : after.begun = state.begun
  ended : ∀ side exit, (state.processes side).Ended exit → (after.processes side).Ended exit

theorem lasting_setProcess {process : Process} (ended : ∀ exit, (state.processes side).Ended exit →
    process.Ended exit) : Lasting state (state.setProcess side process) where
  begun := rfl
  ended := by
    intro other exit isEnded
    by_cases same : other = side
    · subst same
      simpa [State.setProcess] using ended exit isEnded
    · simpa [State.setProcess, same] using isEnded

theorem Effect.lasting (effect : Effect state op after) (owes : Owes state op) :
    Lasting state after := by
  cases effect with
  | same | opened | received | went => exact ⟨rfl, fun _ _ ended => ended⟩
  | closed one => cases one <;> exact ⟨rfl, fun _ _ ended => ended⟩
  | started side => exact lasting_setProcess (by simp [absent_of_owes owes, Process.Ended])
  | killed side isKilled running => exact lasting_setProcess (by simp [running, Process.Ended])
  | waited side exit ended => exact lasting_setProcess (by simp [ended, Process.Ended])

/-- What `runPipe` has left to do takes so many steps. -/
structure Budget (capacity budget : Nat) (config : Config signature State Unit Result) : Prop where
  holds : (supervising capacity).Holds config
  begun : config.shared.begun = true
  enough : ∃ calls, (∀ program, config.threads () = some program → program.Within calls) ∧
    calls + config.shared.weight ≤ budget

theorem Budget.step {budget : Nat} {action : Action Unit Choice Move Unit}
    {next : Config signature State Unit Result} (within : Budget capacity budget config)
    (stepped : (pipeline capacity).step action config = some next) :
    (supervising capacity).Holds next :=
  (supervising_sound : (supervising capacity).Sound fun _ _ => True).step within.holds trivial
    stepped

theorem Budget.charged {budget : Nat} {action : Action Unit Choice Move Unit}
    {next : Config signature State Unit Result} (own : ownStep action = true)
    (within : Budget capacity budget config)
    (stepped : (pipeline capacity).step action config = some next) :
    ∃ less, less < budget ∧ Budget capacity less next := by
  have holds := within.step stepped
  obtain ⟨calls, programs, enough⟩ := within.enough
  rcases System.step_cases stepped with
    ⟨⟨⟩, choice, op, rest, answer, rfl, atCall, executed, threadsEq⟩ |
    ⟨move, rfl, moved, threadsEq⟩ | ⟨_, _, _, rfl, _⟩ | ⟨_, _, rfl, _⟩
  · have owes : Owes config.shared op := within.holds.ok_of_call atCall
    have effect := exec_effect executed
    have program := programs _ atCall
    cases calls with
    | zero => exact program.elim
    | succ calls =>
        have lighter := effect.weight owes
        refine ⟨calls + next.shared.weight, by omega, holds,
          (effect.lasting owes).begun.trans within.begun, calls, fun later atLater => ?_,
          Nat.le_refl _⟩
        rw [threadsEq, Function.update_self] at atLater
        cases atLater
        exact program answer
  · have lighter := weight_env moved
    rw [if_pos own] at lighter
    refine ⟨calls + next.shared.weight, by omega, holds,
      (env_sane within.holds.1 moved).2.begun.trans within.begun, calls, ?_, Nat.le_refl _⟩
    rw [threadsEq]
    exact programs
  · contradiction
  · contradiction

theorem Budget.uncharged {budget : Nat} {action : Action Unit Choice Move Unit}
    {next : Config signature State Unit Result} (own : ownStep action = false)
    (within : Budget capacity budget config)
    (stepped : (pipeline capacity).step action config = some next) :
    Budget capacity budget next := by
  have holds := within.step stepped
  obtain ⟨calls, programs, enough⟩ := within.enough
  rcases System.step_cases stepped with
    ⟨_, _, _, _, _, rfl, _⟩ | ⟨move, rfl, moved, threadsEq⟩ |
    ⟨arrival, _, _, rfl, arrived, _⟩ | ⟨⟨⟩, answer, rfl, _, sharedEq, threadsEq⟩
  · contradiction
  · have lighter := weight_env moved
    refine ⟨holds, (env_sane within.holds.1 moved).2.begun.trans within.begun, calls, ?_, by omega⟩
    rw [threadsEq]
    exact programs
  · simp [pipeline, arrive, within.begun] at arrived
  · have same : next.shared = config.shared := sharedEq
    refine ⟨holds, by rw [same, within.begun], calls, ?_, by rwa [same]⟩
    intro program running
    rw [threadsEq, Function.update_self] at running
    contradiction

/-- A process that has failed has failed for good. -/
theorem failed_step {action : Action Unit Choice Move Unit}
    {next : Config signature State Unit Result} (holds : (supervising capacity).Holds config)
    (failed : Failed config.shared) (stepped : (pipeline capacity).step action config = some next) :
    Failed next.shared := by
  obtain ⟨side, exit, ended, fails⟩ := failed
  refine ⟨side, exit, ?_, fails⟩
  rcases System.step_cases stepped with
    ⟨⟨⟩, choice, op, rest, answer, rfl, atCall, executed, _⟩ | ⟨move, rfl, moved, _⟩ |
    ⟨arrival, _, _, rfl, arrived, _⟩ | ⟨_, _, rfl, _, sharedEq, _⟩
  · have owes : Owes config.shared op := holds.ok_of_call atCall
    exact ((exec_effect executed).lasting owes).ended side exit ended
  · exact ((env_sane holds.1 moved).2.kept side).ended exit ended
  · simp only [pipeline, arrive] at arrived
    split at arrived
    · contradiction
    · simp only [Option.some.injEq, Prod.mk.injEq] at arrived
      rw [← arrived.2.2]
      exact ended
  · rw [sharedEq]
    exact ended

/-- At no time is there more to do than at the start. -/
theorem within_of_reaches (reached : (pipeline capacity).Reaches Meets start config) :
    ∀ program, config.threads () = some program → program.Within 15 := by
  apply reached.invariant fun config =>
    ∀ program, config.threads () = some program → program.Within 15
  · exact nofun
  · intro middle last action _ within _ stepped program atLast
    rcases System.step_cases stepped with
      ⟨⟨⟩, _, _, _, answer, _, atCall, _, threadsEq⟩ | ⟨_, _, _, threadsEq⟩ |
      ⟨arrival, ⟨⟩, _, _, arrived, _, threadsEq⟩ | ⟨⟨⟩, _, _, _, _, threadsEq⟩
    · rw [threadsEq, Function.update_self] at atLast
      cases atLast
      have before := within _ atCall
      exact (before answer).mono (Nat.le_succ 14)
    · rw [threadsEq] at atLast
      exact within program atLast
    · rw [threadsEq, Function.update_self] at atLast
      simp only [pipeline, arrive] at arrived
      split at arrived
      · contradiction
      · simp only [Option.some.injEq, Prod.mk.injEq] at arrived
        cases atLast
        rw [← arrived.2.1]
        exact within_runPipe
    · rw [threadsEq, Function.update_self] at atLast
      contradiction

theorem budget_of_failed (reached : (pipeline capacity).Reaches Meets start config)
    (failed : Failed config.shared) : Budget capacity 21 config := by
  have holds := holds_of_reaches reached
  have sane : Sane config.shared := holds.1
  obtain ⟨side, exit, ended, _⟩ := failed
  refine ⟨holds, sane.begun side ?_, 15, within_of_reaches reached, ?_⟩
  · intro absent
    simp [absent, Process.Ended] at ended
  · have bound := config.shared.weight_le
    omega

/-- From a state in which a process has failed, however the run goes on and whatever the other
process does, `runPipe` makes at most 21 more steps of its own, and it is never held up before
it returns. -/
theorem runPipe_returns_after_failure {actions : List (Action Unit Choice Move Unit)}
    {last : Config signature State Unit Result}
    (reached : (pipeline capacity).Reaches Meets start config) (failed : Failed config.shared)
    (ran : (pipeline capacity).run (fun _ _ => True) actions config = some last) :
    actions.countP ownStep ≤ 21 ∧ ∀ op next, last.threads () = some (.call op next) →
      ∃ action later, ownStep action = true ∧
        (pipeline capacity).step action last = some later := by
  have budget := budget_of_failed reached failed
  constructor
  · exact System.countP_le_of_budget Budget.charged Budget.uncharged budget ran
  · intro op next atCall
    have lasts : (supervising capacity).Holds last ∧ Failed last.shared := by
      apply (System.reaches_of_run ran).invariant fun config =>
        (supervising capacity).Holds config ∧ Failed config.shared
      · exact ⟨budget.holds, failed⟩
      · intro middle next action _ kept _ stepped
        have sound : (supervising capacity).Sound fun _ _ => True := supervising_sound
        exact ⟨sound.step kept.1 trivial stepped, failed_step kept.1 kept.2 stepped⟩
    have owes : Owes last.shared op := lasts.1.ok_of_call atCall
    exact step_of_canMove atCall (canMove_of_failed lasts.1.1 owes lasts.2)

theorem runPipe_returns_after_failure_idle :
    ∃ config last, (pipeline 1).Reaches (fun _ _ => True) start config ∧ Failed config.shared ∧
      config.shared.processes .source = .running false ∧
      (pipeline 1).run (fun _ _ => True) killSteps config = some last ∧ pending last = true ∧
      (killSteps.countP ownStep ≤ 21 ∧ ∀ op next, last.threads () = some (.call op next) →
        ∃ action later, ownStep action = true ∧
          (pipeline 1).step action last = some later) := by
  have ran : ((pipeline 1).run (fun _ _ => True) failSteps start).any (fun config =>
      decide (config.shared.processes .source = .running false ∧
        config.shared.processes .destination = .zombie (.code 23)) &&
      ((pipeline 1).run (fun _ _ => True) killSteps config).any pending) = true := by
    decide +kernel
  obtain ⟨config, reached, checked⟩ := System.exists_reaches_of_run ran
  obtain ⟨exits, continued⟩ := (Bool.and_eq_true _ _).mp checked
  obtain ⟨idle, failed⟩ := of_decide_eq_true exits
  obtain ⟨last, lastRan, isPending⟩ := (Option.any_eq_true _ _).mp continued
  have failed : Failed config.shared := ⟨.destination, .code 23, .inl failed, by simp⟩
  exact ⟨config, last, reached, failed, idle, lastRan, isPending,
    runPipe_returns_after_failure reached failed lastRan⟩

end Runs

end ZfsLocalPv.RunPipe

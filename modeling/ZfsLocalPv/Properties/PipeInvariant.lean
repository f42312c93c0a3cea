import Mathlib.Data.List.Nodup
import ZfsLocalPv.Interaction.Contract
import ZfsLocalPv.Zfs.RunPipe

/-!
# The state that `runPipe` supervises

The processes, the goroutines that wait for them, the pipe between them and the channel fit
together after every step, whoever makes it. What the parent needs for that at each of its calls
is what it owes; what the others leave alone is what it may count on.
-/

namespace ZfsLocalPv.RunPipe

open Interaction

variable {capacity : Nat} {state after : State} {side other : Side} {exit : Exit} {op : Op}

/-! ## Processes -/

namespace Process

variable {process : Process}

/-- Started and not yet waited for. -/
def Alive : Process → Prop
  | running _ | zombie _ => True
  | absent | reaped _ => False

def Ended (exit : Exit) (process : Process) : Prop :=
  process = .zombie exit ∨ process = .reaped exit

/-- Nothing more is needed for the process to end. -/
def Doomed : Process → Prop
  | running true | zombie _ | reaped _ => True
  | absent | running false => False

end Process

@[simp]
theorem peer_peer (side : Side) : side.peer.peer = side := by
  cases side <;> rfl

theorem eq_peer_of_ne (differs : other ≠ side) : other = side.peer := by
  cases side <;> cases other <;> first | rfl | exact absurd rfl differs

/-! ## What others may do to the parent -/

/-- What the goroutine of a process has done of its work. -/
def Tended : Waiter → Process → Prop
  | .absent, _ => True
  | .waiting, process => process.Alive
  | .sending exit, process => process = .reaped exit
  | .done, process => ∃ exit, process = .reaped exit

/-- What becomes of one side. -/
structure Kept (state after : State) (side : Side) : Prop where
  absent : state.processes side = .absent → after.processes side = .absent
  alive : state.waiters side = .absent → (state.processes side).Alive →
    (after.processes side).Alive
  doomed : (state.processes side).Doomed → (after.processes side).Doomed
  ended : ∀ exit, (state.processes side).Ended exit → (after.processes side).Ended exit
  killed : after.processes side = .running true → state.processes side = .running true
  reaped : ∀ exit, state.processes side = .reaped exit →
    after.processes side = .reaped exit ∧ after.output side = state.output side
  waited : after.waiters side = .absent ↔ state.waiters side = .absent

/-- What the parent may count on while it does nothing. -/
structure Evolves (state after : State) : Prop where
  reader : after.reader = state.reader
  writer : after.writer = state.writer
  observed : after.observed = state.observed
  begun : after.begun = state.begun
  kept : ∀ side, Kept state after side

theorem kept_of_eq (processes : after.processes side = state.processes side)
    (waiters : after.waiters side = state.waiters side)
    (output : after.output side = state.output side) : Kept state after side where
  absent := fun absent => processes.trans absent
  alive := fun _ alive => processes.symm ▸ alive
  doomed := fun doomed => processes.symm ▸ doomed
  ended := fun _ ended => processes.symm ▸ ended
  killed := fun killed => processes.symm.trans killed
  reaped := fun _ reaped => ⟨processes.trans reaped, output⟩
  waited := by rw [waiters]

theorem Evolves.refl (state : State) : Evolves state state :=
  ⟨rfl, rfl, rfl, rfl, fun _ => kept_of_eq rfl rfl rfl⟩

theorem Evolves.trans {last : State} (first : Evolves state after) (second : Evolves after last) :
    Evolves state last where
  reader := second.reader.trans first.reader
  writer := second.writer.trans first.writer
  observed := second.observed.trans first.observed
  begun := second.begun.trans first.begun
  kept := fun side => {
    absent := fun absent => (second.kept side).absent ((first.kept side).absent absent)
    alive := fun unwaited alive => (second.kept side).alive
      ((first.kept side).waited.mpr unwaited) ((first.kept side).alive unwaited alive)
    doomed := fun doomed => (second.kept side).doomed ((first.kept side).doomed doomed)
    ended := fun exit ended => (second.kept side).ended exit ((first.kept side).ended exit ended)
    killed := fun killed => (first.kept side).killed ((second.kept side).killed killed)
    reaped := fun exit reaped => by
      have middle := (first.kept side).reaped exit reaped
      have last := (second.kept side).reaped exit middle.1
      exact ⟨last.1, last.2.trans middle.2⟩
    waited := (second.kept side).waited.trans (first.kept side).waited }

/-- Only one side has changed, from a process that was not reaped. -/
theorem kept_of_running (running : state.Running side)
    (alive : (after.processes side).Alive)
    (killed : after.processes side = .running true → state.processes side = .running true)
    (doomed : (state.processes side).Doomed → (after.processes side).Doomed)
    (waiters : after.waiters side = state.waiters side) : Kept state after side where
  absent := by
    obtain ⟨isKilled, running⟩ := running
    simp [running]
  alive := fun _ _ => alive
  doomed := doomed
  ended := by
    obtain ⟨isKilled, running⟩ := running
    simp [running, Process.Ended]
  killed := killed
  reaped := by
    obtain ⟨isKilled, running⟩ := running
    simp [running]
  waited := by rw [waiters]

/-! ## The invariant -/

/-- The books of the pipe. The end of the stream is seen only after all that was written. -/
structure Streams (state : State) : Prop where
  fifo : state.written = state.read ++ state.buffer
  eof : state.ended = true → state.buffer = [] ∧ state.writer = false ∧
    ∃ exit, (state.processes .source).Ended exit

/-- A process gives reason to kill its peer: it has failed, or it could not be started. -/
def Faulty (state : State) (side : Side) : Prop :=
  (∃ exit, (side, exit) ∈ state.observed ∧ ¬ exit.Succeeds) ∨
    side = .destination ∧ state.processes .destination = .absent

/-- The parent has closed its ends of the pipe. -/
structure Shut (state : State) : Prop where
  reader : state.reader = false
  writer : state.writer = false

/-- Nothing happens before `runPipe` is called. -/
structure Unbegun (state : State) : Prop extends Shut state where
  absent : ∀ side, state.processes side = .absent
  unwaited : ∀ side, state.waiters side = .absent
  observed : state.observed = []

structure Sane (state : State) : Prop where
  streams : Streams state
  order : state.processes .destination ≠ .absent → state.processes .source ≠ .absent
  unbegun : state.begun = false → Unbegun state
  tended : ∀ side, Tended (state.waiters side) (state.processes side)
  entries : ∀ side exit, (side, exit) ∈ state.observed ++ state.exits ↔
    state.waiters side = .done ∧ state.processes side = .reaped exit
  once : ((state.observed ++ state.exits).map Prod.fst).Nodup
  killed : ∀ side, state.processes side = .running true → Faulty state side.peer

theorem Unbegun.congr (unbegun : Unbegun state) (shut : Shut after)
    (processes : after.processes = state.processes) (waiters : after.waiters = state.waiters)
    (observed : after.observed = state.observed) : Unbegun after where
  toShut := shut
  absent := fun side => (congrFun processes side).trans (unbegun.absent side)
  unwaited := fun side => (congrFun waiters side).trans (unbegun.unwaited side)
  observed := observed.trans unbegun.observed

theorem Sane.begun (sane : Sane state) (side : Side) (present : state.processes side ≠ .absent) :
    state.begun = true := by
  cases isBegun : state.begun with
  | true => rfl
  | false => exact absurd ((sane.unbegun isBegun).absent side) present

theorem unbegun_of_begun (begun : state.begun = true) (waiting : state.begun = false) :
    Unbegun after := by
  rw [begun] at waiting
  contradiction

/-- One process and its goroutine change. -/
def State.change (state : State) (side : Side) (process : Process) (waiter : Waiter) : State :=
  (state.setProcess side process).setWaiter side waiter

section Change

variable {process : Process} {waiter : Waiter}

@[simp]
theorem processes_change_self :
    (state.change side process waiter).processes side = process :=
  Function.update_self ..

@[simp]
theorem waiters_change_self : (state.change side process waiter).waiters side = waiter :=
  Function.update_self ..

theorem processes_change_of_ne (differs : other ≠ side) :
    (state.change side process waiter).processes other = state.processes other :=
  Function.update_of_ne differs ..

theorem waiters_change_of_ne (differs : other ≠ side) :
    (state.change side process waiter).waiters other = state.waiters other :=
  Function.update_of_ne differs ..

theorem setProcess_eq_change (state : State) (side : Side) (process : Process) :
    state.setProcess side process = state.change side process (state.waiters side) := by
  simp [State.change, State.setWaiter, State.setProcess]

theorem setWaiter_eq_change (state : State) (side : Side) (waiter : Waiter) :
    state.setWaiter side waiter = state.change side (state.processes side) waiter := by
  simp [State.change, State.setWaiter, State.setProcess]

/-- A process and its goroutine change, but nothing is sent over the channel. -/
theorem Sane.change (sane : Sane state) (undone : state.waiters side ≠ .done)
    (unsent : waiter ≠ .done) (present : process ≠ .absent) (begun : state.begun = true)
    (tended : Tended waiter process)
    (eof : side = .source → state.ended = true → ∃ exit, process.Ended exit)
    (order : side = .destination → state.processes .source ≠ .absent)
    (killed : process = .running true → Faulty state side.peer)
    (spared : state.processes side = .absent → state.processes side.peer ≠ .running true) :
    Sane (state.change side process waiter) where
  streams := by
    refine ⟨sane.streams.fifo, fun isEnded => ?_⟩
    obtain ⟨empty, closed, exit, ended⟩ := sane.streams.eof isEnded
    refine ⟨empty, closed, ?_⟩
    by_cases same : Side.source = side
    · subst same
      simpa using eof rfl isEnded
    · rw [processes_change_of_ne same]
      exact ⟨exit, ended⟩
  order := by
    intro _
    cases side with
    | source => simpa using present
    | destination =>
        rw [processes_change_of_ne (by simp)]
        exact order rfl
  unbegun := unbegun_of_begun begun
  tended := by
    intro other
    by_cases same : other = side
    · subst same
      simpa using tended
    · rw [processes_change_of_ne same, waiters_change_of_ne same]
      exact sane.tended other
  entries := by
    intro other exit
    refine (sane.entries other exit).trans ?_
    by_cases same : other = side
    · subst same
      simp [undone, unsent]
    · rw [processes_change_of_ne same, waiters_change_of_ne same]
  once := sane.once
  killed := by
    intro other isKilled
    by_cases same : other = side
    · subst same
      rw [processes_change_self] at isKilled
      rcases killed isKilled with failed | ⟨isDestination, absent⟩
      · exact .inl failed
      · refine .inr ⟨isDestination, ?_⟩
        rw [processes_change_of_ne _]
        · exact absent
        · rintro rfl
          contradiction
    · rw [processes_change_of_ne same] at isKilled
      obtain rfl := eq_peer_of_ne same
      rcases sane.killed side.peer isKilled with failed | ⟨isDestination, absent⟩
      · exact .inl failed
      · rw [peer_peer] at isDestination
        subst isDestination
        exact absurd isKilled (spared absent)

end Change

theorem Sane.waiter_of_unreaped (sane : Sane state)
    (unreaped : ∀ exit, state.processes side ≠ .reaped exit) : state.waiters side ≠ .done := by
  intro done
  have tended := sane.tended side
  rw [done] at tended
  obtain ⟨exit, reaped⟩ := tended
  exact unreaped exit reaped

/-- A running process is killed or ends. -/
theorem Sane.setProcess {process : Process} (sane : Sane state) (running : state.Running side)
    (alive : process.Alive)
    (ended : side = .source → state.ended = true → ∃ exit, process.Ended exit)
    (killed : process = .running true → Faulty state side.peer) :
    Sane (state.setProcess side process) := by
  obtain ⟨isKilled, running⟩ := running
  have undone : state.waiters side ≠ .done := sane.waiter_of_unreaped (by simp [running])
  rw [setProcess_eq_change]
  apply sane.change undone undone _ (sane.begun side (by simp [running])) _ ended _ killed
  · simp [running]
  · rintro rfl
    contradiction
  · have tended := sane.tended side
    rw [running] at tended
    cases waiter : state.waiters side with
    | absent => trivial
    | waiting => exact alive
    | sending | done => simp [waiter, Tended] at tended
  · rintro rfl
    exact sane.order (by simp [running])

/-- A goroutine has waited for its process. -/
theorem Sane.reap (sane : Sane state) (waiting : state.waiters side = .waiting)
    (ended : state.processes side = .zombie exit) :
    Sane (state.change side (.reaped exit) (.sending exit)) := by
  apply sane.change
  · simp [waiting]
  · simp
  · simp
  · exact sane.begun side (by simp [ended])
  · rfl
  · exact fun _ _ => ⟨exit, .inr rfl⟩
  · rintro rfl
    exact sane.order (by simp [ended])
  · simp
  · simp [ended]

/-- A goroutine sends the exit that its process has ended with. -/
theorem Sane.send (sane : Sane state) (sending : state.waiters side = .sending exit) :
    Sane ({ state with exits := state.exits ++ [(side, exit)] }.setWaiter side .done) := by
  have reaped : state.processes side = .reaped exit := by
    have tended := sane.tended side
    rwa [sending] at tended
  have unsent (other : Exit) : (side, other) ∉ state.observed ++ state.exits := by
    rw [sane.entries]
    simp [sending]
  constructor
  · exact ⟨sane.streams.fifo, sane.streams.eof⟩
  · exact sane.order
  · exact unbegun_of_begun (sane.begun side (by simp [reaped]))
  · intro other
    by_cases same : other = side
    · subst same
      simp only [State.setWaiter, Function.update_self]
      exact ⟨exit, reaped⟩
    · simp only [State.setWaiter, Function.update_of_ne same]
      exact sane.tended other
  · intro other last
    simp only [State.setWaiter]
    rw [← List.append_assoc, List.mem_append, List.mem_singleton, Prod.mk.injEq]
    by_cases same : other = side
    · subst same
      simp [unsent, reaped, eq_comm]
    · simp [sane.entries, same]
  · simp only [State.setWaiter]
    rw [← List.append_assoc, List.map_append]
    refine List.nodup_append.mpr ⟨sane.once, List.nodup_singleton _, ?_⟩
    rintro _ mem _ (_ | _) rfl
    · obtain ⟨⟨_, last⟩, among, rfl⟩ := List.mem_map.mp mem
      exact unsent last among
    · contradiction
  · exact sane.killed

/-! ## Steps of the others -/

theorem kept_change {process : Process} {waiter : Waiter} (differs : other ≠ side) :
    Kept state (state.change side process waiter) other :=
  kept_of_eq (processes_change_of_ne differs) (waiters_change_of_ne differs) rfl

theorem evolves_change {process : Process} {waiter : Waiter}
    (kept : Kept state (state.change side process waiter) side) :
    Evolves state (state.change side process waiter) where
  reader := rfl
  writer := rfl
  observed := rfl
  begun := rfl
  kept := fun other => by
    by_cases same : other = side
    · subst same
      exact kept
    · exact kept_change same

theorem evolves_exit (running : state.Running side) (exit : Exit) :
    Evolves state (state.setProcess side (.zombie exit)) := by
  rw [setProcess_eq_change]
  apply evolves_change
  apply kept_of_running running
  · rw [processes_change_self]
    trivial
  · simp
  · rw [processes_change_self]
    exact fun _ => trivial
  · exact waiters_change_self

theorem evolves_print (running : state.Running side) (bytes : List UInt8) :
    Evolves state { state with output := Function.update state.output side bytes } where
  reader := rfl
  writer := rfl
  observed := rfl
  begun := rfl
  kept := by
    intro other
    by_cases same : other = side
    · subst same
      obtain ⟨isKilled, isRunning⟩ := running
      refine kept_of_running ⟨isKilled, isRunning⟩ ?_ (fun killed => killed)
        (fun doomed => doomed) rfl
      rw [isRunning]
      trivial
    · exact kept_of_eq rfl rfl (Function.update_of_ne same ..)

theorem evolves_reap (waiting : state.waiters side = .waiting)
    (ended : state.processes side = .zombie exit) :
    Evolves state (state.change side (.reaped exit) (.sending exit)) := by
  apply evolves_change
  constructor
  · simp [ended]
  · simp [waiting]
  · simp [Process.Doomed]
  · simp [ended, Process.Ended]
  · simp
  · simp [ended]
  · simp [waiting]

theorem evolves_send (sending : state.waiters side = .sending exit) :
    Evolves state ({ state with exits := state.exits ++ [(side, exit)] }.setWaiter side .done) where
  reader := rfl
  writer := rfl
  observed := rfl
  begun := rfl
  kept := by
    intro other
    by_cases same : other = side
    · subst same
      refine ⟨fun absent => absent, fun _ alive => alive, fun doomed => doomed,
        fun _ ended => ended, fun killed => killed, fun _ reaped => ⟨reaped, rfl⟩, ?_⟩
      simp [State.setWaiter, sending]
    · exact kept_of_eq rfl (Function.update_of_ne same ..) rfl

/-- What only moves bytes leaves the processes and the channel alone. -/
theorem Sane.bytes (sane : Sane state) (streams : Streams after)
    (same : after = { state with
      buffer := after.buffer
      written := after.written
      read := after.read
      ended := after.ended }) : Sane after ∧ Evolves state after := by
  rw [same] at streams ⊢
  exact ⟨⟨streams, sane.order, fun waiting => (sane.unbegun waiting).congr
      ⟨(sane.unbegun waiting).reader, (sane.unbegun waiting).writer⟩ rfl rfl rfl,
    sane.tended, sane.entries, sane.once, sane.killed⟩,
    rfl, rfl, rfl, rfl, fun _ => kept_of_eq rfl rfl rfl⟩

/-- The invariant is kept by every move of others, and the parent may count on the rest. -/
theorem env_sane {move : Move} (sane : Sane state) (moved : env capacity move state = some after) :
    Sane after ∧ Evolves state after := by
  cases move with
  | write written =>
      simp only [env, Option.ite_none_right_eq_some, Option.some.injEq] at moved
      obtain ⟨⟨running, _, _⟩, rfl⟩ := moved
      refine sane.bytes ⟨?_, fun isEnded => ?_⟩ rfl
      · simp [sane.streams.fifo]
      · obtain ⟨_, _, exit, ended⟩ := sane.streams.eof isEnded
        obtain ⟨isKilled, running⟩ := running
        simp [running, Process.Ended] at ended
  | read count =>
      simp only [env, Option.ite_none_right_eq_some, Option.some.injEq] at moved
      obtain ⟨_, rfl⟩ := moved
      refine sane.bytes ⟨?_, fun isEnded => ?_⟩ rfl
      · simp [sane.streams.fifo]
      · obtain ⟨empty, rest⟩ := sane.streams.eof isEnded
        exact ⟨by simp [empty], rest⟩
  | eof =>
      simp only [env, Option.ite_none_right_eq_some, Option.some.injEq] at moved
      obtain ⟨⟨⟨isKilled, running⟩, empty, closed⟩, rfl⟩ := moved
      refine sane.bytes ⟨sane.streams.fifo, fun _ => ⟨empty, ?_, ?_⟩⟩ rfl
      · exact eq_false_of_ne_true fun isOpen => closed (.inl isOpen)
      · -- the source was started before the destination and does not run any more
        have started := sane.order (by simp [running])
        cases source : state.processes .source with
        | absent => exact absurd source started
        | running isKilled => exact absurd ⟨isKilled, source⟩ fun runs => closed (.inr runs)
        | zombie exit => exact ⟨exit, .inl rfl⟩
        | reaped exit => exact ⟨exit, .inr rfl⟩
  | print other printed =>
      simp only [env, Option.ite_none_right_eq_some, Option.some.injEq] at moved
      obtain ⟨running, rfl⟩ := moved
      have begun : state.begun = true := by
        obtain ⟨isKilled, isRunning⟩ := running
        exact sane.begun other (by simp [isRunning])
      exact ⟨⟨⟨sane.streams.fifo, sane.streams.eof⟩, sane.order, unbegun_of_begun begun,
        sane.tended, sane.entries, sane.once, sane.killed⟩, evolves_print running _⟩
  | exit other exit =>
      simp only [env, Option.ite_none_right_eq_some, Option.some.injEq] at moved
      obtain ⟨running, rfl⟩ := moved
      exact ⟨sane.setProcess running trivial (fun _ _ => ⟨exit, .inl rfl⟩) nofun,
        evolves_exit running exit⟩
  | die other =>
      simp only [env, Option.ite_none_right_eq_some, Option.some.injEq] at moved
      obtain ⟨running, rfl⟩ := moved
      have running : state.Running other := ⟨true, running⟩
      exact ⟨sane.setProcess running trivial (fun _ _ => ⟨_, .inl rfl⟩) nofun,
        evolves_exit running _⟩
  | reap other =>
      simp only [env] at moved
      split at moved
      · rename_i exit waiting ended
        obtain rfl := Option.some.inj moved
        exact ⟨sane.reap waiting ended, evolves_reap waiting ended⟩
      · contradiction
  | send other =>
      simp only [env] at moved
      split at moved
      · rename_i exit sending
        simp only [Option.ite_none_right_eq_some, Option.some.injEq] at moved
        obtain ⟨_, rfl⟩ := moved
        exact ⟨sane.send sending, evolves_send sending⟩
      · contradiction

/-! ## The contract of the parent -/

/-- Nothing was started. -/
structure Idle (state : State) : Prop where
  begun : state.begun = true
  absent : ∀ side, state.processes side = .absent
  unwaited : ∀ side, state.waiters side = .absent
  observed : state.observed = []

/-- The source was started, and not killed. -/
structure Half (state : State) : Prop where
  source : (state.processes .source).Alive
  destination : state.processes .destination = .absent
  unwaited : ∀ side, state.waiters side = .absent
  observed : state.observed = []

/-- Both processes are waited for. The peer of a process that has failed was killed. -/
structure Waits (state : State) : Prop extends Shut state where
  waited : ∀ side, state.waiters side ≠ .absent
  doomed : ∀ side exit, (side, exit) ∈ state.observed → ¬ exit.Succeeds →
    (state.processes side.peer).Doomed

/-- What the parent owes at each call. -/
def Owes (state : State) : Op → Prop
  | .pipe | .start .source => Idle state
  | .start .destination => Half state ∧ state.processes .source ≠ .running true
  | .kill side => Faulty state side.peer
  | .wait .source => Half state ∧ (state.processes .source).Doomed
  | .wait .destination => False
  | .go side => state.waiters side = .absent ∧ (state.processes side).Alive
  | .receive => Waits state ∧ state.observed.length < 2
  | .close _ | .output _ => True

/-- The failures among what the parent has received. -/
def failuresOf (observed : List (Side × Exit)) : List Failure :=
  observed.filterMap fun seen =>
    if seen.2.Succeeds then none else some (.wait seen.1 seen.2)

/-- The results that fit what has become of the processes. -/
inductive Outcome (state : State) : Result → Prop
  | unopened (reason : String) (absent : ∀ side, state.processes side = .absent) :
      Outcome state ⟨[], [.pipe reason]⟩
  | unstarted (reason : String) (absent : ∀ side, state.processes side = .absent) :
      Outcome state ⟨[], [.start .source reason]⟩
  | alone (reason : String) (exit : Exit) (source : state.processes .source = .reaped exit)
      (destination : state.processes .destination = .absent) :
      Outcome state ⟨state.output .source, [.start .destination reason]⟩
  | ran (seen : ∀ side, ∃ exit, (side, exit) ∈ state.observed ∧
        state.processes side = .reaped exit) :
      Outcome state ⟨state.output .source ++ state.output .destination,
        failuresOf state.observed⟩

/-- Nothing that the result depends on changes any more. -/
theorem Outcome.evolve {result : Result} (outcome : Outcome state result)
    (evolves : Evolves state after) : Outcome after result := by
  have reaped {side : Side} {exit : Exit} (isReaped : state.processes side = .reaped exit) :=
    (evolves.kept side).reaped exit isReaped
  cases outcome with
  | unopened reason absent =>
      exact .unopened reason fun side => (evolves.kept side).absent (absent side)
  | unstarted reason absent =>
      exact .unstarted reason fun side => (evolves.kept side).absent (absent side)
  | alone reason exit source destination =>
      rw [← (reaped source).2]
      exact .alone reason exit (reaped source).1 ((evolves.kept _).absent destination)
  | ran seen =>
      have outputs (side : Side) : after.output side = state.output side := by
        obtain ⟨exit, _, isReaped⟩ := seen side
        exact (reaped isReaped).2
      rw [← outputs, ← outputs, ← evolves.observed]
      apply Outcome.ran
      intro side
      obtain ⟨exit, mem, isReaped⟩ := seen side
      rw [evolves.observed]
      exact ⟨exit, mem, (reaped isReaped).1⟩

def supervising (capacity : Nat) : Contract (pipeline capacity) where
  Inv := Sane
  Rely := fun _ => Evolves
  Guard := fun _ _ _ _ => True
  Ok := fun _ op state => Owes state op
  Post := fun _ result state => Shut state ∧ Outcome state result
  rely_refl := fun _ => .refl
  rely_trans := .trans

theorem Idle.evolve (idle : Idle state) (evolves : Evolves state after) : Idle after where
  begun := evolves.begun.trans idle.begun
  absent := fun side => (evolves.kept side).absent (idle.absent side)
  unwaited := fun side => (evolves.kept side).waited.mpr (idle.unwaited side)
  observed := evolves.observed.trans idle.observed

theorem Half.evolve (half : Half state) (evolves : Evolves state after) : Half after where
  source := (evolves.kept _).alive (half.unwaited _) half.source
  destination := (evolves.kept _).absent half.destination
  unwaited := fun side => (evolves.kept side).waited.mpr (half.unwaited side)
  observed := evolves.observed.trans half.observed

theorem Shut.evolve (shut : Shut state) (evolves : Evolves state after) : Shut after where
  reader := evolves.reader.trans shut.reader
  writer := evolves.writer.trans shut.writer

theorem Waits.evolve (waits : Waits state) (evolves : Evolves state after) : Waits after where
  toShut := waits.toShut.evolve evolves
  waited := fun side absent => waits.waited side ((evolves.kept side).waited.mp absent)
  doomed := by
    intro side exit mem fails
    rw [evolves.observed] at mem
    exact (evolves.kept _).doomed (waits.doomed side exit mem fails)

/-! ## The calls of the parent -/

theorem Sane.close (sane : Sane state) (one : End) : Sane (state.close one) := by
  cases one with
  | reader =>
      exact ⟨⟨sane.streams.fifo, sane.streams.eof⟩, sane.order, fun waiting =>
        (sane.unbegun waiting).congr ⟨rfl, (sane.unbegun waiting).writer⟩ rfl rfl rfl, sane.tended,
        sane.entries, sane.once, sane.killed⟩
  | writer =>
      refine ⟨⟨sane.streams.fifo, fun isEnded => ?_⟩, sane.order, fun waiting =>
        (sane.unbegun waiting).congr ⟨(sane.unbegun waiting).reader, rfl⟩ rfl rfl rfl, sane.tended,
        sane.entries, sane.once, sane.killed⟩
      obtain ⟨empty, _, ended⟩ := sane.streams.eof isEnded
      exact ⟨empty, rfl, ended⟩

/-- The stream has not ended before it was begun. -/
theorem Sane.not_ended (sane : Sane state) (absent : state.processes .source = .absent) :
    state.ended ≠ true := by
  intro isEnded
  obtain ⟨_, _, exit, ended⟩ := sane.streams.eof isEnded
  simp [absent, Process.Ended] at ended

theorem Sane.startSource (sane : Sane state) (idle : Idle state) :
    Sane (state.setProcess .source (.running false)) := by
  rw [setProcess_eq_change, idle.unwaited]
  apply sane.change
  · simp [idle.unwaited]
  · simp
  · simp
  · exact idle.begun
  · trivial
  · exact fun _ isEnded => absurd isEnded (sane.not_ended (idle.absent _))
  · simp
  · simp
  · simp [idle.absent]

theorem Sane.startDestination (sane : Sane state) (half : Half state)
    (spared : state.processes .source ≠ .running true) :
    Sane (state.setProcess .destination (.running false)) := by
  have started : state.processes .source ≠ .absent := by
    intro absent
    have alive := half.source
    rw [absent] at alive
    exact alive
  rw [setProcess_eq_change, half.unwaited]
  apply sane.change
  · simp [half.unwaited]
  · simp
  · simp
  · exact sane.begun _ started
  · trivial
  · simp
  · exact fun _ => started
  · simp
  · exact fun _ => spared

theorem Sane.waitSource (sane : Sane state) (half : Half state)
    (ended : state.processes .source = .zombie exit) :
    Sane (state.setProcess .source (.reaped exit)) := by
  rw [setProcess_eq_change, half.unwaited]
  apply sane.change
  · simp [half.unwaited]
  · simp
  · simp
  · exact sane.begun .source (by simp [ended])
  · trivial
  · exact fun _ _ => ⟨exit, .inr rfl⟩
  · simp
  · simp
  · simp [ended]

theorem Sane.go (sane : Sane state) (unwaited : state.waiters side = .absent)
    (alive : (state.processes side).Alive) : Sane (state.setWaiter side .waiting) := by
  have present : state.processes side ≠ .absent := by
    intro absent
    rw [absent] at alive
    exact alive
  rw [setWaiter_eq_change]
  apply sane.change
  · simp [unwaited]
  · simp
  · exact present
  · exact sane.begun side present
  · exact alive
  · rintro rfl isEnded
    exact (sane.streams.eof isEnded).2.2
  · rintro rfl
    exact sane.order present
  · exact sane.killed side
  · exact fun absent => absurd absent present

/-- A process that is waited for was started. -/
theorem Sane.present (sane : Sane state) (waited : state.waiters side ≠ .absent) :
    state.processes side ≠ .absent := by
  intro absent
  have tended := sane.tended side
  rw [absent] at tended
  cases waiter : state.waiters side with
  | absent => exact waited waiter
  | waiting | sending | done => simp [waiter, Tended, Process.Alive] at tended

theorem Sane.receive {first : Side × Exit} {rest : List (Side × Exit)} (sane : Sane state)
    (begun : state.begun = true) (exits : state.exits = first :: rest) :
    Sane { state with exits := rest, observed := state.observed ++ [first] } := by
  have same : state.observed ++ [first] ++ rest = state.observed ++ state.exits := by
    rw [exits, List.append_assoc, List.singleton_append]
  constructor
  · exact ⟨sane.streams.fifo, sane.streams.eof⟩
  · exact sane.order
  · exact unbegun_of_begun begun
  · exact sane.tended
  · intro side exit
    rw [← sane.entries, ← same]
  · simpa only [same] using sane.once
  · intro side killed
    rcases sane.killed side killed with ⟨exit, mem, fails⟩ | absent
    · exact .inl ⟨exit, List.mem_append_left _ mem, fails⟩
    · exact .inr absent

/-- The state after a call. -/
inductive Effect (state : State) : Op → State → Prop
  | same (op : Op) : Effect state op state
  | opened : Effect state .pipe { state with reader := true, writer := true }
  | closed (one : End) : Effect state (.close one) (state.close one)
  | started (side : Side) : Effect state (.start side) (state.setProcess side (.running false))
  | killed (side : Side) (isKilled : Bool) (running : state.processes side = .running isKilled) :
      Effect state (.kill side) (state.setProcess side (.running true))
  | waited (side : Side) (exit : Exit) (ended : state.processes side = .zombie exit) :
      Effect state (.wait side) (state.setProcess side (.reaped exit))
  | went (side : Side) : Effect state (.go side) (state.setWaiter side .waiting)
  | received (first : Side × Exit) (rest : List (Side × Exit))
      (exits : state.exits = first :: rest) :
      Effect state .receive { state with exits := rest, observed := state.observed ++ [first] }

/-- The one inversion of `exec`. -/
theorem exec_effect {choice : Choice} {answer : op.Res}
    (executed : exec () op choice state = some (answer, after)) : Effect state op after := by
  cases op with
  | pipe =>
      simp only [exec] at executed
      split at executed <;> obtain ⟨_, rfl⟩ := Prod.mk.inj (Option.some.inj executed)
      · exact .same _
      · exact .opened
  | close one =>
      obtain ⟨_, rfl⟩ := Prod.mk.inj (Option.some.inj executed)
      exact .closed one
  | start side =>
      simp only [exec] at executed
      split at executed <;> obtain ⟨_, rfl⟩ := Prod.mk.inj (Option.some.inj executed)
      · exact .same _
      · exact .started side
  | kill side =>
      simp only [exec] at executed
      split at executed
      · rename_i isKilled running
        obtain ⟨_, rfl⟩ := Prod.mk.inj (Option.some.inj executed)
        exact .killed side isKilled running
      · obtain ⟨_, rfl⟩ := Prod.mk.inj (Option.some.inj executed)
        exact .same _
  | wait side =>
      simp only [exec] at executed
      split at executed
      · rename_i exit ended
        obtain ⟨_, rfl⟩ := Prod.mk.inj (Option.some.inj executed)
        exact .waited side exit ended
      · contradiction
  | go side =>
      obtain ⟨_, rfl⟩ := Prod.mk.inj (Option.some.inj executed)
      exact .went side
  | receive =>
      simp only [exec] at executed
      split at executed
      · contradiction
      · rename_i first rest exits
        obtain ⟨_, rfl⟩ := Prod.mk.inj (Option.some.inj executed)
        exact .received first rest exits
  | output side =>
      obtain ⟨_, rfl⟩ := Prod.mk.inj (Option.some.inj executed)
      exact .same _

/-- A process is not started twice. -/
theorem absent_of_owes (owes : Owes state (.start side)) : state.processes side = .absent := by
  cases side with
  | source => exact owes.absent _
  | destination => exact owes.1.destination

/-- The invariant is kept by every call. -/
theorem Effect.sane (effect : Effect state op after) (sane : Sane state) (owes : Owes state op) :
    Sane after := by
  cases effect with
  | same => exact sane
  | opened =>
      have unended := sane.not_ended (owes.absent _)
      exact ⟨⟨sane.streams.fifo, fun isEnded => absurd isEnded unended⟩, sane.order,
        unbegun_of_begun owes.begun, sane.tended, sane.entries, sane.once, sane.killed⟩
  | closed one => exact sane.close one
  | started side =>
      cases side with
      | source => exact sane.startSource owes
      | destination => exact sane.startDestination owes.1 owes.2
  | killed side isKilled running =>
      refine sane.setProcess ⟨isKilled, running⟩ trivial ?_ fun _ => owes
      rintro rfl isEnded
      obtain ⟨_, _, exit, ended⟩ := sane.streams.eof isEnded
      simp [running, Process.Ended] at ended
  | waited side exit ended =>
      cases side with
      | source => exact sane.waitSource owes.1 ended
      | destination => exact owes.elim
  | went side => exact sane.go owes.1 owes.2
  | received first rest exits =>
      exact sane.receive (sane.begun .source (sane.present (owes.1.waited _))) exits

/-- What is left of a process that is killed ends. -/
structure Killed (side : Side) (state after : State) : Prop where
  reader : after.reader = state.reader
  writer : after.writer = state.writer
  waiters : after.waiters = state.waiters
  observed : after.observed = state.observed
  others : ∀ other, other ≠ side → after.processes other = state.processes other
  alive : (state.processes side).Alive → (after.processes side).Alive
  doomed : state.processes side ≠ .absent → (after.processes side).Doomed

theorem exec_kill (choice : Choice) {answer : Unit}
    (executed : exec () (.kill side) choice state = some (answer, after)) :
    Killed side state after := by
  simp only [exec] at executed
  split at executed
  · obtain ⟨_, rfl⟩ := Prod.mk.inj (Option.some.inj executed)
    refine ⟨rfl, rfl, rfl, rfl, fun _ differs => Function.update_of_ne differs .., ?_, ?_⟩
    · simp [State.setProcess, Process.Alive]
    · simp [State.setProcess, Process.Doomed]
  · rename_i stopped
    obtain ⟨_, rfl⟩ := Prod.mk.inj (Option.some.inj executed)
    refine ⟨rfl, rfl, rfl, rfl, fun _ _ => rfl, fun alive => alive, fun present => ?_⟩
    cases process : state.processes side with
    | absent => exact absurd process present
    | running isKilled => exact absurd process (stopped isKilled)
    | zombie | reaped => trivial

end ZfsLocalPv.RunPipe

import ZfsLocalPv.Properties.PipeInvariant

/-!
# What `runPipe` guarantees

Whatever the two processes do, `runPipe` reports success only if both have succeeded, leaves no
process behind, and kills a process only because of the other. The destination sees the end of
the stream only after the whole stream.
-/

namespace ZfsLocalPv.RunPipe

open Interaction

variable {capacity : Nat} {state after : State} {side other : Side} {exit : Exit} {op : Op}

section Programs

variable {rounds : Nat} {waitErrors : List Failure}

/-- The loop has so many rounds to go. -/
structure Collecting (rounds : Nat) (waitErrors : List Failure) (state : State) : Prop
    extends Waits state where
  count : state.observed.length + rounds = 2
  failures : waitErrors = failuresOf state.observed

theorem Collecting.evolve (collecting : Collecting rounds waitErrors state)
    (evolves : Evolves state after) : Collecting rounds waitErrors after where
  toWaits := collecting.toWaits.evolve evolves
  count := by rw [evolves.observed, collecting.count]
  failures := by rw [evolves.observed, collecting.failures]

theorem collect_succ (rounds : Nat) (waitErrors : List Failure) :
    collect (rounds + 1) waitErrors = call .receive >>= fun seen =>
      if seen.2.Succeeds then collect rounds waitErrors
      else call (.kill seen.1.peer) >>= fun _ =>
        collect rounds (waitErrors ++ [.wait seen.1 seen.2]) :=
  rfl

theorem exec_receive (choice : Choice) {seen : Side × Exit}
    (executed : exec () .receive choice state = some (seen, after)) :
    ∃ rest, state.exits = seen :: rest ∧
      after = { state with exits := rest, observed := state.observed ++ [seen] } := by
  simp only [exec] at executed
  split at executed
  · contradiction
  · rename_i first rest exits
    obtain ⟨rfl, rfl⟩ := Prod.mk.inj (Option.some.inj executed)
    exact ⟨rest, exits, rfl⟩

/-- A round of the loop, once an exit was received and the peer killed if that is due. -/
theorem Collecting.next {more : List Failure}
    (collecting : Collecting (rounds + 1) waitErrors state)
    (shut : Shut after) (waited : ∀ side, after.waiters side ≠ .absent)
    (observed : after.observed = state.observed ++ [(side, exit)])
    (failures : more = waitErrors ++ failuresOf [(side, exit)])
    (kept : ∀ other, (state.processes other).Doomed → (after.processes other).Doomed)
    (doomed : ¬ exit.Succeeds → (after.processes side.peer).Doomed) :
    Collecting rounds more after where
  toShut := shut
  waited := waited
  doomed := by
    intro known last mem fails
    rw [observed] at mem
    rcases List.mem_append.mp mem with old | new
    · exact kept _ (collecting.doomed known last old fails)
    · cases List.mem_singleton.mp new
      exact doomed fails
  count := by
    have count := collecting.count
    simp only [observed, List.length_append, List.length_singleton]
    omega
  failures := by
    rw [observed, failures, collecting.failures]
    simp [failuresOf]

theorem Killed.doomed_of_doomed (killed : Killed side state after)
    (doomed : (state.processes other).Doomed) : (after.processes other).Doomed := by
  by_cases same : other = side
  · subst same
    apply killed.doomed
    intro absent
    rw [absent] at doomed
    exact doomed
  · rwa [killed.others other same]

theorem keeps_collect (collecting : Collecting rounds waitErrors state) :
    (supervising capacity).Keeps () (collect rounds waitErrors) (Collecting 0) state := by
  induction rounds generalizing waitErrors state with
  | zero => exact fun now evolves _ => collecting.evolve evolves
  | succ rounds ih =>
      rw [collect_succ]
      apply Contract.keeps_lift_bind
      intro now evolves _
      have collecting := collecting.evolve evolves
      have count := collecting.count
      refine ⟨⟨collecting.toWaits, by omega⟩, ?_⟩
      rintro choice ⟨side, exit⟩ after _ executed
      obtain ⟨rest, exits, rfl⟩ := exec_receive choice executed
      by_cases succeeds : exit.Succeeds
      · rw [if_pos succeeds]
        apply ih
        refine collecting.next ⟨collecting.reader, collecting.writer⟩ collecting.waited rfl ?_
          (fun _ doomed => doomed) (absurd succeeds)
        simp [failuresOf, succeeds]
      · rw [if_neg succeeds]
        apply Contract.keeps_lift_bind
        intro later evolves sane
        have waited (side : Side) : later.waiters side ≠ .absent :=
          fun absent => collecting.waited side ((evolves.kept side).waited.mp absent)
        have mem : (side, exit) ∈ later.observed := by
          rw [evolves.observed]
          exact List.mem_append_right _ (.head _)
        refine ⟨.inl ⟨exit, by rwa [peer_peer], succeeds⟩, ?_⟩
        intro choice answer after _ executed
        have killed := exec_kill choice executed
        apply ih
        apply collecting.next
        · exact ⟨(killed.reader.trans evolves.reader).trans collecting.reader,
            (killed.writer.trans evolves.writer).trans collecting.writer⟩
        · rw [killed.waiters]
          exact waited
        · exact killed.observed.trans evolves.observed
        · simp [failuresOf, succeeds]
        · exact fun other doomed =>
            killed.doomed_of_doomed ((evolves.kept other).doomed doomed)
        · exact fun _ => killed.doomed (sane.present (waited _))

/-- What was received is the exit of a process that was waited for. -/
theorem Sane.reaped_of_observed (sane : Sane state) (mem : (side, exit) ∈ state.observed) :
    state.processes side = .reaped exit :=
  ((sane.entries side exit).mp (List.mem_append_left _ mem)).2

/-- Both exits were received. -/
theorem Collecting.ran (collecting : Collecting 0 waitErrors state) (sane : Sane state)
    (side : Side) :
    ∃ exit, (side, exit) ∈ state.observed ∧ state.processes side = .reaped exit := by
  suffices found : ∃ exit, (side, exit) ∈ state.observed by
    obtain ⟨exit, mem⟩ := found
    exact ⟨exit, mem, sane.reaped_of_observed mem⟩
  obtain ⟨⟨one, first⟩, ⟨two, second⟩, observed⟩ := List.length_eq_two.mp collecting.count
  have once := sane.once
  simp only [observed, List.map_append, List.map_cons, List.map_nil, List.cons_append,
    List.nodup_cons, List.mem_cons, not_or] at once
  rw [observed]
  by_cases same : side = one
  · subst same
    exact ⟨first, .head _⟩
  · rw [eq_peer_of_ne same, ← eq_peer_of_ne (Ne.symm once.1.1)]
    exact ⟨second, .tail _ (.head _)⟩

section Rules

variable {α : Type} {post : α → State → Prop}

/-- The parent reads a buffer. -/
theorem keeps_output {next : List UInt8 → Routine α}
    (rest : ∀ now, Evolves state now → Sane now →
      (supervising capacity).Keeps () (next (now.output side)) post now) :
    (supervising capacity).Keeps () (call (.output side) >>= next) post state := by
  apply Contract.keeps_lift_bind
  intro now evolves sane
  refine ⟨trivial, ?_⟩
  intro choice answer after _ executed
  obtain ⟨rfl, rfl⟩ := Prod.mk.inj (Option.some.inj executed)
  exact rest now evolves sane

theorem keeps_close {one : End} {next : Unit → Routine α}
    (rest : ∀ now, Evolves state now →
      (supervising capacity).Keeps () (next ()) post (now.close one)) :
    (supervising capacity).Keeps () (call (.close one) >>= next) post state := by
  apply Contract.keeps_lift_bind
  intro now evolves _
  refine ⟨trivial, ?_⟩
  intro choice answer after _ executed
  obtain ⟨_, rfl⟩ := Prod.mk.inj (Option.some.inj executed)
  exact rest now evolves

theorem keeps_go {next : Unit → Routine α} (unwaited : state.waiters side = .absent)
    (alive : (state.processes side).Alive)
    (rest : ∀ now, Evolves state now →
      (supervising capacity).Keeps () (next ()) post (now.setWaiter side .waiting)) :
    (supervising capacity).Keeps () (call (.go side) >>= next) post state := by
  apply Contract.keeps_lift_bind
  intro now evolves _
  refine ⟨⟨(evolves.kept side).waited.mpr unwaited, (evolves.kept side).alive unwaited alive⟩, ?_⟩
  intro choice answer after _ executed
  obtain ⟨_, rfl⟩ := Prod.mk.inj (Option.some.inj executed)
  exact rest now evolves

theorem keeps_start {next : Except String Unit → Routine α}
    (owes : ∀ now, Evolves state now → Owes now (.start side))
    (refused : ∀ reason now, Evolves state now →
      (supervising capacity).Keeps () (next (.error reason)) post now)
    (started : ∀ now, Evolves state now →
      (supervising capacity).Keeps () (next (.ok ())) post
        (now.setProcess side (.running false))) :
    (supervising capacity).Keeps () (call (.start side) >>= next) post state := by
  apply Contract.keeps_lift_bind
  intro now evolves _
  refine ⟨owes now evolves, ?_⟩
  intro choice answer after _ executed
  simp only [pipeline, exec] at executed
  split at executed
  · obtain ⟨rfl, rfl⟩ := Prod.mk.inj (Option.some.inj executed)
    exact refused _ now evolves
  · obtain ⟨rfl, rfl⟩ := Prod.mk.inj (Option.some.inj executed)
    exact started now evolves

end Rules

/-- The goroutines are running. -/
theorem keeps_gather (collecting : Collecting 2 [] state) :
    (supervising capacity).Keeps () (do
      let waitErrors ← collect 2 []
      let srcErr ← call (.output .source)
      let dstOut ← call (.output .destination)
      return ⟨srcErr ++ dstOut, waitErrors⟩) (fun result now => Outcome now result) state := by
  apply Contract.Keeps.bind
  apply (keeps_collect collecting).mono
  intro waitErrors now sane collecting
  apply keeps_output
  intro first evolves sane
  have collecting := collecting.evolve evolves
  -- the source was waited for, so its buffer does not change any more
  obtain ⟨exit, _, reaped⟩ := collecting.ran sane .source
  apply keeps_output
  intro second evolves sane later evolves' _
  have collecting := collecting.evolve evolves
  have outcome := Outcome.ran (collecting.ran sane)
  rw [((evolves.kept .source).reaped exit reaped).2, ← collecting.failures] at outcome
  exact outcome.evolve evolves'

/-- Both processes were started. -/
structure Both (state : State) : Prop where
  alive : ∀ side, (state.processes side).Alive
  unwaited : ∀ side, state.waiters side = .absent
  observed : state.observed = []
  writer : state.writer = false

theorem Both.evolve (both : Both state) (evolves : Evolves state after) : Both after where
  alive := fun side => (evolves.kept side).alive (both.unwaited side) (both.alive side)
  unwaited := fun side => (evolves.kept side).waited.mpr (both.unwaited side)
  observed := evolves.observed.trans both.observed
  writer := evolves.writer.trans both.writer

theorem keeps_both (both : Both state) :
    (supervising capacity).Keeps () (do
      call (.close .reader)
      call (.go .source)
      call (.go .destination)
      let waitErrors ← collect 2 []
      let srcErr ← call (.output .source)
      let dstOut ← call (.output .destination)
      return ⟨srcErr ++ dstOut, waitErrors⟩) (fun result now => Outcome now result) state := by
  apply keeps_close
  intro now evolves
  have both : Both (now.close .reader) := by
    have both := both.evolve evolves
    exact ⟨both.alive, both.unwaited, both.observed, both.writer⟩
  apply keeps_go (both.unwaited _) (both.alive _)
  intro first evolves
  have shut : Shut first := ⟨evolves.reader, evolves.writer.trans both.writer⟩
  have both := both.evolve evolves
  apply keeps_go
  · simp [State.setWaiter, both.unwaited]
  · exact both.alive _
  intro second evolves
  have observed : second.observed = [] := evolves.observed.trans both.observed
  apply keeps_gather
  refine ⟨⟨⟨evolves.reader.trans shut.reader, evolves.writer.trans shut.writer⟩, ?_, ?_⟩, ?_, ?_⟩
  · intro side
    cases side with
    | source =>
        simp [State.setWaiter, (evolves.kept .source).waited]
    | destination => simp [State.setWaiter]
  · simp [State.setWaiter, observed]
  · simp [State.setWaiter, observed]
  · simp [State.setWaiter, observed, failuresOf]

/-- The source is killed when the destination could not be started. -/
theorem keeps_killSource {α : Type} {post : α → State → Prop} {next : Unit → Routine α}
    (half : Half state)
    (rest : ∀ now, Half now → (now.processes .source).Doomed →
      (supervising capacity).Keeps () (next ()) post now) :
    (supervising capacity).Keeps () (call (.kill .source) >>= next) post state := by
  apply Contract.keeps_lift_bind
  intro now evolves _
  have half := half.evolve evolves
  refine ⟨.inr ⟨rfl, half.destination⟩, ?_⟩
  intro choice answer after _ executed
  have killed := exec_kill choice executed
  apply rest
  · refine ⟨killed.alive half.source, ?_, ?_, killed.observed.trans half.observed⟩
    · rw [killed.others .destination (by simp)]
      exact half.destination
    · rw [killed.waiters]
      exact half.unwaited
  · apply killed.doomed
    intro absent
    have alive := half.source
    rw [absent] at alive
    exact alive

theorem exec_wait (choice : Choice) (executed : exec () (.wait side) choice state =
    some (exit, after)) : after = state.setProcess side (.reaped exit) := by
  simp only [exec] at executed
  split at executed
  · obtain ⟨rfl, rfl⟩ := Prod.mk.inj (Option.some.inj executed)
    rfl
  · contradiction

/-- The destination could not be started. -/
theorem keeps_abandon {reason : String} (half : Half state) :
    (supervising capacity).Keeps () (do
      call (.close .reader)
      call (.kill .source)
      let _ ← call (.wait .source)
      let srcErr ← call (.output .source)
      return ⟨srcErr, [.start .destination reason]⟩)
      (fun result now => Outcome now result) state := by
  apply keeps_close
  intro now evolves
  have half : Half (now.close .reader) := by
    have half := half.evolve evolves
    exact ⟨half.source, half.destination, half.unwaited, half.observed⟩
  apply keeps_killSource half
  intro now half doomed
  apply Contract.keeps_lift_bind
  intro now evolves _
  have half := half.evolve evolves
  refine ⟨⟨half, (evolves.kept _).doomed doomed⟩, ?_⟩
  intro choice exit after _ executed
  have reaped := exec_wait choice executed
  subst reaped
  apply keeps_output
  intro now evolves _ later evolves' _
  have source : now.processes .source = .reaped exit :=
    ((evolves.kept .source).reaped exit (by simp [State.setProcess])).1
  have destination : now.processes .destination = .absent := by
    apply (evolves.kept _).absent
    simpa [State.setProcess] using half.destination
  exact (Outcome.alone reason exit source destination).evolve evolves'

theorem half_of_start (idle : Idle state) : Half (state.setProcess .source (.running false)) where
  source := by simp [State.setProcess, Process.Alive]
  destination := by simp [State.setProcess, idle.absent]
  unwaited := idle.unwaited
  observed := idle.observed

theorem both_of_start (half : Half state) (closed : state.writer = false) :
    Both (state.setProcess .destination (.running false)) where
  alive := by
    intro side
    cases side with
    | source => simpa [State.setProcess] using half.source
    | destination => simp [State.setProcess, Process.Alive]
  unwaited := half.unwaited
  observed := half.observed
  writer := closed

theorem keeps_runConnected (idle : Idle state) :
    (supervising capacity).Keeps () runConnected (fun result now => Outcome now result) state := by
  unfold runConnected
  apply keeps_start
  · exact fun now evolves => idle.evolve evolves
  · intro reason now evolves later evolves' _
    exact .unstarted reason ((idle.evolve evolves).evolve evolves').absent
  intro now evolves
  have half := half_of_start (idle.evolve evolves)
  apply keeps_close
  intro first evolves
  have spared : first.processes .source ≠ .running true := by
    intro killed
    have before := (evolves.kept .source).killed killed
    simp [State.setProcess] at before
  have half : Half (first.close .writer) := by
    have half := half.evolve evolves
    exact ⟨half.source, half.destination, half.unwaited, half.observed⟩
  apply keeps_start
  · intro now evolves
    exact ⟨half.evolve evolves, fun killed => spared ((evolves.kept .source).killed killed)⟩
  · exact fun reason now evolves => keeps_abandon (half.evolve evolves)
  · exact fun now evolves => keeps_both (both_of_start (half.evolve evolves) evolves.writer)

theorem Outcome.close {result : Result} (outcome : Outcome state result) (one : End) :
    Outcome (state.close one) result := by
  cases one <;> cases outcome with
  | unopened reason absent => exact .unopened reason absent
  | unstarted reason absent => exact .unstarted reason absent
  | alone reason exit source destination => exact .alone reason exit source destination
  | ran seen => exact .ran seen

theorem keeps_runPipe (idle : Idle state) (shut : Shut state) :
    (supervising capacity).Keeps () runPipe
      (fun result now => Shut now ∧ Outcome now result) state := by
  unfold runPipe
  apply Contract.keeps_lift_bind
  intro now evolves _
  have idle := idle.evolve evolves
  refine ⟨idle, ?_⟩
  intro choice answer after _ executed
  simp only [pipeline, exec] at executed
  split at executed
  · obtain ⟨rfl, rfl⟩ := Prod.mk.inj (Option.some.inj executed)
    intro later evolves' _
    exact ⟨(shut.evolve evolves).evolve evolves', .unopened _ (idle.evolve evolves').absent⟩
  · obtain ⟨rfl, rfl⟩ := Prod.mk.inj (Option.some.inj executed)
    have idle : Idle { now with reader := true, writer := true } :=
      ⟨idle.begun, idle.absent, idle.unwaited, idle.observed⟩
    apply Contract.Keeps.bind
    apply (keeps_runConnected idle).mono
    intro result now _ outcome
    apply keeps_close
    intro now evolves
    have outcome := (outcome.evolve evolves).close .writer
    apply keeps_close
    intro last evolves
    have outcome := (outcome.evolve evolves).close .reader
    intro later evolves' _
    exact ⟨⟨evolves'.reader, evolves'.writer.trans evolves.writer⟩, outcome.evolve evolves'⟩

end Programs

/-! ## Runs -/

section Runs

variable {config : Config signature State Unit Result}
  {Meets : Action Unit Choice Move Unit → Config signature State Unit Result → Prop}

theorem sane_start : Sane start.shared where
  streams := ⟨rfl, nofun⟩
  order := fun started => absurd rfl started
  unbegun := fun _ => ⟨⟨rfl, rfl⟩, fun _ => rfl, fun _ => rfl, rfl⟩
  tended := fun _ => trivial
  entries := by
    intro side exit
    simp [start]
  once := List.nodup_nil
  killed := nofun

theorem supervising_sound : (supervising capacity).Sound Meets where
  guard := fun _ _ => trivial
  call := by
    rintro ⟨⟩ op choice before answer after sane owes _ executed
    exact ⟨(exec_effect executed).sane sane owes, fun other differs => absurd rfl differs⟩
  env := by
    intro config move after _ sane moved
    obtain ⟨sane, evolves⟩ := env_sane sane moved
    exact ⟨sane, fun _ => evolves⟩
  arrive := by
    intro config arrival thread program after _ sane arrived _
    simp only [pipeline, arrive] at arrived
    split at arrived
    · contradiction
    · rename_i waiting
      cases arrived
      have unbegun := sane.unbegun (eq_false_of_ne_true waiting)
      have idle : Idle { config.shared with begun := true } :=
        ⟨rfl, unbegun.absent, unbegun.unwaited, unbegun.observed⟩
      refine ⟨⟨⟨sane.streams.fifo, sane.streams.eof⟩, sane.order, unbegun_of_begun rfl, sane.tended,
        sane.entries, sane.once, sane.killed⟩, fun other differs => absurd rfl differs, ?_⟩
      exact keeps_runPipe idle ⟨unbegun.reader, unbegun.writer⟩
  leave := by
    intro config thread answer _ sane _ _
    exact ⟨sane, fun _ _ => .refl _⟩

theorem holds_of_reaches (reached : (pipeline capacity).Reaches Meets start config) :
    (supervising capacity).Holds config :=
  supervising_sound.reaches sane_start (fun _ => rfl) reached

theorem mem_failuresOf {observed : List (Side × Exit)} {failure : Failure} :
    failure ∈ failuresOf observed ↔
      ∃ side exit, failure = .wait side exit ∧ (side, exit) ∈ observed ∧ ¬ exit.Succeeds := by
  simp only [failuresOf, List.mem_filterMap]
  constructor
  · rintro ⟨⟨side, exit⟩, mem, reported⟩
    split at reported
    · contradiction
    · rename_i fails
      exact ⟨side, exit, (Option.some.inj reported).symm, mem, fails⟩
  · rintro ⟨side, exit, rfl, mem, fails⟩
    exact ⟨(side, exit), mem, if_neg fails⟩

theorem failuresOf_eq_nil {observed : List (Side × Exit)} :
    failuresOf observed = [] ↔ ∀ seen ∈ observed, seen.2.Succeeds := by
  simp only [failuresOf, List.filterMap_eq_nil_iff]
  simp

/-- When `runPipe` returns, no process is left and the pipe is closed. There is no error if and
only if both processes have exited with status 0. Where both were started, the output is all
they have printed, and the errors are exactly those of the processes that have failed. -/
theorem runPipe_result {result : Result}
    (reached : (pipeline capacity).Reaches Meets start config)
    (returns : config.threads () = some (.ret result)) :
    config.shared.reader = false ∧ config.shared.writer = false ∧
      (∀ side, config.shared.processes side = .absent ∨
        ∃ exit, config.shared.processes side = .reaped exit) ∧
      (result.failures = [] ↔ ∀ side, config.shared.processes side = .reaped (.code 0)) ∧
      ((∀ side, config.shared.processes side ≠ .absent) →
        result.out = config.shared.output .source ++ config.shared.output .destination ∧
          ∀ failure, failure ∈ result.failures ↔ ∃ side exit, failure = .wait side exit ∧
            config.shared.processes side = .reaped exit ∧ ¬ exit.Succeeds) := by
  have holds := holds_of_reaches reached
  have sane : Sane config.shared := holds.1
  obtain ⟨shut, outcome⟩ := holds.post_of_ret returns
  refine ⟨shut.reader, shut.writer, ?_⟩
  cases outcome with
  | unopened reason absent | unstarted reason absent =>
      refine ⟨fun side => .inl (absent side), ?_,
        fun started => absurd (absent .source) (started _)⟩
      simpa [absent] using ⟨Side.source⟩
  | alone reason exit source destination =>
      refine ⟨?_, ?_, fun started => absurd destination (started _)⟩
      · intro side
        cases side with
        | source => exact .inr ⟨exit, source⟩
        | destination => exact .inl destination
      · simp only [List.cons_ne_nil, false_iff]
        intro all
        rw [all] at destination
        contradiction
  | ran seen =>
      refine ⟨fun side => ?_, ?_, fun _ => ⟨rfl, fun failure => ?_⟩⟩
      · obtain ⟨exit, _, reaped⟩ := seen side
        exact .inr ⟨exit, reaped⟩
      · rw [failuresOf_eq_nil]
        constructor
        · intro all side
          obtain ⟨exit, mem, reaped⟩ := seen side
          rw [reaped, show exit = .code 0 from all _ mem]
        · rintro all ⟨side, exit⟩ mem
          have reaped := sane.reaped_of_observed mem
          rw [all] at reaped
          exact (Process.reaped.inj reaped).symm
      · rw [mem_failuresOf]
        constructor
        · rintro ⟨side, exit, isWait, mem, fails⟩
          exact ⟨side, exit, isWait, sane.reaped_of_observed mem, fails⟩
        · rintro ⟨side, exit, isWait, reaped, fails⟩
          obtain ⟨last, mem, isReaped⟩ := seen side
          cases reaped.symm.trans isReaped
          exact ⟨side, exit, isWait, mem, fails⟩

/-- The result that `runPipe` is about to return. -/
def returned (config : Config signature State Unit Result) : Option Result :=
  match config.threads () with
  | some (.ret result) => some result
  | _ => none

theorem threads_of_returned {result : Result} (isReturned : returned config = some result) :
    config.threads () = some (.ret result) := by
  unfold returned at isReturned
  split at isReturned
  · rename_i found
    rw [found, Option.some.inj isReturned]
  · contradiction

/-- Both processes are started and waited for. -/
def startSteps : List (Action Unit Choice Move Unit) :=
  .arrive () :: List.replicate 7 (.call () {})

/-- A stream of two bytes over a pipe that holds one. -/
def streamSteps : List (Action Unit Choice Move Unit) :=
  startSteps ++ [.env (.write [1]), .env (.read 1), .env (.write [2]),
    .env (.exit .source (.code 0)), .env (.reap .source), .env (.send .source), .env (.read 1),
    .env .eof, .call () {}, .env (.print .destination [7]), .env (.exit .destination (.code 0)),
    .env (.reap .destination), .env (.send .destination)] ++ List.replicate 5 (.call () {})

theorem runPipe_result_stream :
    ∃ config, (pipeline 1).Reaches (fun _ _ => True) start config ∧
      config.threads () = some (.ret ⟨[7], []⟩) ∧ config.shared.read = [1, 2] ∧
      ∀ side, config.shared.processes side = .reaped (.code 0) := by
  have ran : ((pipeline 1).run (fun _ _ => True) streamSteps start).any (fun config =>
      decide (returned config = some ⟨[7], []⟩ ∧ config.shared.read = [1, 2])) = true := by
    decide +kernel
  obtain ⟨config, reached, checked⟩ := System.exists_reaches_of_run ran
  obtain ⟨isReturned, read⟩ := of_decide_eq_true checked
  have returns := threads_of_returned isReturned
  obtain ⟨_, _, _, success, _⟩ := runPipe_result reached returns
  exact ⟨config, reached, returns, read, success.mp rfl⟩

/-- The destination sees the end of the stream only after it has read all that the source has
written, and then the source has ended and the parent has closed its write end. What it reads
before is read in order. -/
theorem eof_after_stream (reached : (pipeline capacity).Reaches Meets start config) :
    config.shared.written = config.shared.read ++ config.shared.buffer ∧
      (config.shared.ended = true → config.shared.read = config.shared.written ∧
        config.shared.writer = false ∧
        ∃ exit, (config.shared.processes .source).Ended exit) := by
  have sane : Sane config.shared := (holds_of_reaches reached).1
  refine ⟨sane.streams.fifo, fun isEnded => ?_⟩
  obtain ⟨empty, closed, ended⟩ := sane.streams.eof isEnded
  have fifo := sane.streams.fifo
  rw [empty, List.append_nil] at fifo
  exact ⟨fifo.symm, closed, ended⟩

theorem eof_after_stream_read :
    ∃ config, (pipeline 1).Reaches (fun _ _ => True) start config ∧
      config.shared.ended = true ∧ config.shared.written = [1, 2] ∧
      config.shared.read = config.shared.written := by
  have ran : ((pipeline 1).run (fun _ _ => True) streamSteps start).any (fun config =>
      decide (config.shared.ended = true ∧ config.shared.written = [1, 2])) = true := by
    decide +kernel
  obtain ⟨config, reached, checked⟩ := System.exists_reaches_of_run ran
  obtain ⟨isEnded, written⟩ := of_decide_eq_true checked
  exact ⟨config, reached, isEnded, written, ((eof_after_stream reached).2 isEnded).1⟩

/-- `runPipe` kills a process only if the other has failed, which it was told over the channel,
or could not be started. In particular the destination of a source that has succeeded is left to
finish. -/
theorem killed_after_failure (reached : (pipeline capacity).Reaches Meets start config)
    (killed : config.shared.processes side = .running true) :
    (∃ exit, (side.peer, exit) ∈ config.shared.observed ∧
        config.shared.processes side.peer = .reaped exit ∧ ¬ exit.Succeeds) ∨
      side = .source ∧ config.shared.processes .destination = .absent := by
  have sane : Sane config.shared := (holds_of_reaches reached).1
  rcases sane.killed side killed with ⟨exit, mem, fails⟩ | ⟨isDestination, absent⟩
  · exact .inl ⟨exit, mem, sane.reaped_of_observed mem, fails⟩
  · refine .inr ⟨?_, absent⟩
    rw [← peer_peer side, isDestination]
    rfl

/-- The destination fails while the source is idle. -/
def failSteps : List (Action Unit Choice Move Unit) :=
  startSteps ++ [.env (.exit .destination (.code 23))]

/-- The failure is received and the source is killed. -/
def killSteps : List (Action Unit Choice Move Unit) :=
  [.env (.reap .destination), .env (.send .destination), .call () {}, .call () {}]

theorem killed_after_failure_source :
    ∃ config, (pipeline 1).Reaches (fun _ _ => True) start config ∧
      config.shared.processes .source = .running true ∧
      ((∃ exit, (.destination, exit) ∈ config.shared.observed ∧
          config.shared.processes .destination = .reaped exit ∧ ¬ exit.Succeeds) ∨
        Side.source = .source ∧ config.shared.processes .destination = .absent) := by
  have ran : ((pipeline 1).run (fun _ _ => True) (failSteps ++ killSteps) start).any (fun config =>
      decide (config.shared.processes .source = .running true)) = true := by
    decide +kernel
  obtain ⟨config, reached, checked⟩ := System.exists_reaches_of_run ran
  have killed := of_decide_eq_true checked
  exact ⟨config, reached, killed, killed_after_failure reached killed⟩

end Runs

end ZfsLocalPv.RunPipe

import ZfsLocalPv.ApiServer.Attention
import ZfsLocalPv.Interaction.Contract
import ZfsLocalPv.Mgmt.Restores

/-!
# What the restore agents do for a restore

A restore that has yet to be received is not forgotten, and one that is Done was received: the
volume specification it carries is the one that `zfs recv` was run with, also where the agent had
to look it up. Agents do not restart and informers do not list anew in these runs.
-/

namespace ZfsLocalPv.RestoreAgent

open Api ApiServer Go Interaction Zfs

variable {worker other : Worker} {shared after : Shared} {op : Op} {rstr base : Restore}

/-! ## Steps -/

/-- The state after a call. -/
inductive Effect (worker : Worker) (shared : Shared) : Op → Shared → Prop
  | same (op : Op) : Effect worker shared op shared
  | receive (node : String) (ncArgs : List String) (args : List Arg) (volume : Dataset)
      (succeeded : Bool) : Effect worker shared (.receive node ncArgs args volume)
        (shared.record (.received worker volume args succeeded))
  | unreported (rstr : Restore) :
      Effect worker shared (.updateRestore rstr) (shared.record (.unreported worker))
  | written (rstr : Restore) {next : Resource RestoreInfo ZFSRestoreStatus}
      (accepted : shared.restores.update rstr = .ok next) :
      Effect worker shared (.updateRestore rstr) (shared.setRestores next)
  | lost (rstr : Restore) {next : Resource RestoreInfo ZFSRestoreStatus}
      (accepted : shared.restores.update rstr = .ok next) :
      Effect worker shared (.updateRestore rstr)
        ((shared.setRestores next).record (.unreported worker))

/-- A report that is confirmed was accepted. -/
theorem reportAnswer_cases {choice : Choice} {answer : Except Err Unit}
    {written : Except ApiErr (Resource RestoreInfo ZFSRestoreStatus)}
    (answered : reportAnswer worker choice shared written = (answer, after)) :
    (answer ≠ .ok () ∧ after = shared.record (.unreported worker)) ∨
      (answer = .ok () ∧ ∃ next, written = .ok next ∧ after = shared.setRestores next) ∨
      (answer ≠ .ok () ∧ ∃ next, written = .ok next ∧
        after = (shared.setRestores next).record (.unreported worker)) := by
  unfold reportAnswer at answered
  split at answered <;> rename_i told <;> obtain ⟨rfl, rfl⟩ := Prod.mk.inj answered <;>
    rcases writeAnswer_cases told with ⟨rfl, failed⟩ | ⟨next, accepted, rfl⟩
  · contradiction
  · exact .inr (.inl ⟨rfl, next, accepted, rfl⟩)
  · exact .inl ⟨failed, rfl⟩
  · exact .inr (.inr ⟨by simp, next, accepted, rfl⟩)

/-- The one inversion of `exec`. -/
theorem exec_effect {choice : Choice} {answer : op.Res}
    (executed : exec worker op choice shared = some (answer, after)) :
    Effect worker shared op after := by
  cases op with
  | receive node ncArgs args volume =>
      obtain ⟨_, rfl⟩ := Prod.mk.inj (Option.some.inj executed)
      exact .receive node ncArgs args volume _
  | updateRestore rstr =>
      rcases reportAnswer_cases (Option.some.inj executed) with
        ⟨_, rfl⟩ | ⟨_, next, accepted, rfl⟩ | ⟨_, next, accepted, rfl⟩
      · exact .unreported rstr
      · exact .written rstr accepted
      · exact .lost rstr accepted
  | cachedRestore | getVolume | timer | stat | generateUUID =>
      obtain ⟨_, rfl⟩ := Prod.mk.inj (Option.some.inj executed)
      exact .same _

/-- The calls that neither receive nor report. -/
def Silent : Op → Prop
  | .receive _ _ _ _ | .updateRestore _ => False
  | _ => True

theorem exec_silent {choice : Choice} {answer : op.Res} (silent : Silent op)
    (executed : exec worker op choice shared = some (answer, after)) : after = shared := by
  cases exec_effect executed with
  | same => rfl
  | receive | unreported | written | lost => exact silent.elim

theorem Effect.advances (effect : Effect worker shared op after) :
    shared.restores.Advances after.restores := by
  cases effect with
  | written rstr accepted | lost rstr accepted => exact Resource.advances_of_update accepted
  | same | receive | unreported => exact .refl _

theorem Effect.log (effect : Effect worker shared op after) : shared.log ⊆ after.log := by
  cases effect with
  | same | written => exact fun _ mem => mem
  | receive | unreported | lost => exact List.subset_append_left _ _

/-- Only the report of a status changes the store. -/
theorem Effect.restores (effect : Effect worker shared op after) :
    after.restores = shared.restores ∨
      ∃ rstr, op = .updateRestore rstr ∧ shared.restores.update rstr = .ok after.restores := by
  cases effect with
  | written rstr accepted | lost rstr accepted => exact .inr ⟨rstr, rfl, accepted⟩
  | same | receive | unreported => exact .inl rfl

/-! ## What an agent has to do -/

/-- A restore of the node that is to be received. -/
def Asks (node : String) (rstr : Restore) : Prop :=
  rstr.spec.ownerNodeID = node ∧ Live rstr ∧ rstr.status = .init

/-- A restore that is written again is deleted or has been tried. -/
def Becomes (_ new : Restore) : Prop :=
  new.deletionTimestamp = true ∨ new.status ≠ .init

theorem heeds_wantsRestore (node : String) : Heeds (wantsRestore node) (Asks node) Becomes where
  add := by
    rintro rstr ⟨owner, _⟩
    simp [wantsRestore, addRestore, owner]
  update := by
    rintro old new (deleted | tried) ⟨_, live, isInit⟩
    · rw [live] at deleted
      contradiction
    · exact absurd isInit tried

/-- The restore of a worker is not forgotten. -/
def Remembered (worker : Worker) (shared : Shared) : Prop :=
  shared.restores.Attends (wantsRestore worker.node) (Asks worker.node) worker.node worker.name

theorem Remembered.call (remembered : Remembered other shared)
    (effect : Effect worker shared op after) : Remembered other after := by
  rcases effect.restores with same | ⟨rstr, _, accepted⟩
  · simpa only [Remembered, same] using remembered
  · exact remembered.write accepted

/-! ## What a restore that is Done says -/

/-- `zfs recv` has succeeded with what the restore asks for. -/
def Received (log : List Entry) (rstr : Restore) : Prop :=
  ∃ node, Entry.received ⟨node, rstr.name⟩ (volumeOf rstr.spec.toZFSRestore)
    (restoreOptions rstr.spec.volSpec) true ∈ log

/-- The restore that the backup tool has created. -/
def Entry.creation : Entry → Option Restore
  | .created rstr => some rstr
  | _ => none

/-- No restore of the name was created Done. -/
def CreatedUndone (name : String) (log : List Entry) : Prop :=
  ∀ entry ∈ log, ∀ first ∈ entry.creation, first.name = name → first.status ≠ .done

instance (name : String) (log : List Entry) : Decidable (CreatedUndone name log) :=
  inferInstanceAs (Decidable (∀ entry ∈ log, _))

/-- A restore that is Done was received, if it was not created Done. -/
def Justified (log : List Entry) (rstr : Restore) : Prop :=
  rstr.status = .done → Received log rstr ∨
    ∃ first, .created first ∈ log ∧ first.name = rstr.name ∧ first.status = .done

theorem Justified.mono {log more : List Entry} (justified : Justified log rstr)
    (grows : log ⊆ more) : Justified more rstr := by
  intro isDone
  rcases justified isDone with ⟨node, mem⟩ | ⟨first, mem, created⟩
  · exact .inl ⟨node, grows mem⟩
  · exact .inr ⟨first, grows mem, created⟩

/-- The server sets nothing that a restore is judged by. -/
theorem justified_ofClients (log : List Entry) : Resource.OfClients (Justified log) :=
  fun _ _ _ _ _ justified => justified

/-- The restores are written only to report on them. -/
structure Reports (shared : Shared) : Prop where
  lines : ∀ node, shared.restores.Lineage Becomes node
  justified : shared.restores.Everywhere (Justified shared.log)

/-- A step of the restores under a log. -/
def RestoreStep (log : List Entry) (restores next : Resource RestoreInfo ZFSRestoreStatus) :
    Prop :=
  ∃ client : Option Unit, restores.Change (fun _ rstr => Justified log rstr)
    (fun _ _ rstr => rstr.status ≠ .init ∧ Justified log rstr) (fun _ _ => True) client next

theorem Reports.step (reports : Reports shared) (grows : shared.log ⊆ after.log)
    (step : RestoreStep after.log shared.restores after.restores) : Reports after := by
  obtain ⟨client, change⟩ := step
  constructor
  · intro node
    apply change.lineage (reports.lines node)
    · exact fun _ _ _ _ written => .inr written.1
    · exact fun _ _ deleted => .inl deleted
  · apply change.everywhere _ (justified_ofClients after.log)
    · exact fun _ rstr _ fresh => fresh
    · exact fun _ _ _ written _ => written.2
    · exact fun rstr mem => (reports.justified rstr mem).mono grows

theorem restoreStep_refl (log : List Entry) (restores : Resource RestoreInfo ZFSRestoreStatus) :
    RestoreStep log restores restores :=
  ⟨none, .quiet _ (.refl _)⟩

/-! ## The contract -/

/-- What a worker reports is about a copy it holds, and Done only what it has received. -/
def Owes (worker : Worker) (op : Op) (shared : Shared) : Prop :=
  ∀ rstr, op = .updateRestore rstr →
    ∃ base, shared.restores.Held worker.node worker.name base ∧ Rewrites base rstr ∧
      rstr.status ≠ .init ∧ Justified shared.log rstr

/-- A worker may count on the others not to take anything back. -/
structure Grows (worker : Worker) (shared after : Shared) : Prop where
  restores : shared.restores.Advances after.restores
  log : shared.log ⊆ after.log
  remembered : Remembered worker shared → Remembered worker after

def reporting : Contract agents where
  Inv := Reports
  Rely := Grows
  Guard := fun _ _ _ _ => True
  Ok := Owes
  Post := fun worker result shared => result = .ok () → Remembered worker shared
  rely_refl := fun _ _ => ⟨.refl _, fun _ mem => mem, fun remembered => remembered⟩
  rely_trans := fun first second =>
    ⟨first.restores.trans second.restores, fun _ mem => second.log (first.log mem),
      fun remembered => second.remembered (first.remembered remembered)⟩

section Programs

variable {α : Type} {polls : Nat} {node name : String}

/-- What others cannot take back lasts while a worker neither receives nor reports. -/
theorem reporting_stable {Fact : Shared → Prop} {program : Routine α}
    (calls : program.Calls Silent)
    (lasts : ∀ {before after}, before.restores.Advances after.restores →
      before.log ⊆ after.log → Fact before → Fact after)
    (holds : Fact shared) : reporting.Keeps worker program (fun _ => Fact) shared := by
  apply Contract.keeps_of_stable calls
  · exact fun moved fact => lasts moved.restores moved.log fact
  · rintro op now silent _ _ rstr rfl
    exact silent.elim
  · intro op choice now answer after silent _ _ fact executed
    rw [exec_silent silent executed]
    exact fact
  · exact holds

theorem calls_getZFSVolume (volumeID : String) : (getZFSVolume volumeID).Calls Silent := by
  unfold getZFSVolume getNamed
  split
  · trivial
  · exact ⟨trivial, fun _ => trivial⟩

theorem calls_getDevice (node : String) (volume : Dataset) (polls : Nat) :
    (getDevice node volume polls).Calls Silent := by
  induction polls with
  | zero => trivial
  | succ polls ih =>
      refine ⟨trivial, fun fired => ?_⟩
      cases fired with
      | true => trivial
      | false =>
          refine ⟨trivial, fun found => ?_⟩
          cases found with
          | ok present => trivial
          | error out => exact ih

theorem calls_renewUUID (polls : Nat) (node : String) (rstr : ZFSRestore) :
    (renewUUID polls node rstr).Calls Silent := by
  unfold renewUUID
  split
  · apply (calls_getDevice node _ polls).bind
    intro device
    cases device with
    | error err => trivial
    | ok device =>
        refine ⟨trivial, fun answer => ?_⟩
        cases answer with
        | error message => trivial
        | ok renewed => trivial
  · trivial

/-- What `CreateRestore` has made of the restore. -/
structure Filled (worker : Worker) (base filled : Restore) (shared : Shared) : Prop where
  held : shared.restores.Held worker.node worker.name base
  rewrites : Rewrites base filled
  status : filled.status = base.status

theorem Filled.lasts {filled : Restore} (isFilled : Filled worker base filled shared)
    (advances : shared.restores.Advances after.restores) : Filled worker base filled after :=
  ⟨isFilled.held.advance advances, isFilled.rewrites, isFilled.status⟩

theorem reporting_fillVolSpec (held : shared.restores.Held worker.node worker.name base) :
    reporting.Keeps worker (fillVolSpec base) (fun result now =>
      Filled worker base base now ∧ ∀ filled, result = .ok filled →
        Filled worker base filled now) shared := by
  have filled : Filled worker base base shared := ⟨held, ⟨rfl, rfl, rfl⟩, rfl⟩
  unfold fillVolSpec
  split
  · apply Contract.Keeps.bind
    apply (reporting_stable (calls_getZFSVolume _) (fun advances _ => (·.lasts advances))
      filled).mono
    intro found now _ filled
    cases found with
    | error err => exact fun later moved _ => ⟨filled.lasts moved.restores, nofun⟩
    | ok vol =>
        intro later moved _
        refine ⟨filled.lasts moved.restores, ?_⟩
        rintro _ ⟨⟩
        exact ⟨(filled.lasts moved.restores).held, ⟨rfl, rfl, rfl⟩, rfl⟩
  · intro later moved _
    refine ⟨filled.lasts moved.restores, ?_⟩
    rintro _ ⟨⟩
    exact filled.lasts moved.restores

theorem Received.mono {log more : List Entry} (received : Received log rstr)
    (grows : log ⊆ more) : Received more rstr := by
  obtain ⟨node, mem⟩ := received
  exact ⟨node, grows mem⟩

/-- The restore is filled in, and received where this succeeds. -/
def Tries (worker : Worker) (base filled : Restore) (result : Except Err Unit) (shared : Shared) :
    Prop :=
  Filled worker base filled shared ∧ (result = .ok () → Received shared.log filled)

theorem Tries.lasts {filled : Restore} {result : Except Err Unit}
    (tries : Tries worker base filled result shared)
    (advances : shared.restores.Advances after.restores) (grows : shared.log ⊆ after.log) :
    Tries worker base filled result after :=
  ⟨tries.1.lasts advances, fun succeeded => (tries.2 succeeded).mono grows⟩

theorem reporting_tries {filled : Restore} {result : Except Err Unit}
    (tries : Tries worker base filled result shared) :
    reporting.Keeps worker (pure result : Routine (Except Err Unit)) (Tries worker base filled)
      shared :=
  fun _ moved _ => tries.lasts moved.restores moved.log

/-- `zfs recv` has succeeded where it says so. -/
theorem received_of_exec {node : String} {ncArgs : List String} {args : List Arg}
    {volume : Dataset} {choice : Choice} (executed : exec worker
      (.receive node ncArgs args volume) choice shared = some (.ok (), after)) :
    after = shared.record (.received worker volume args true) := by
  obtain ⟨answered, sharedEq⟩ := Prod.mk.inj (Option.some.inj executed)
  rw [← sharedEq]
  unfold commandAnswer at answered
  split at answered
  · rename_i ok
    simp [ok]
  · contradiction

theorem reporting_receiveVolume {filled : Restore} (isFilled : Filled worker base filled shared) :
    reporting.Keeps worker (receiveVolume polls worker.node filled.spec.toZFSRestore)
      (Tries worker base filled) shared := by
  unfold receiveVolume
  split
  · exact reporting_tries ⟨isFilled, nofun⟩
  · rename_i ncArgs recvArgs built
    have argsEq := buildVolumeRestoreArgs_eq_ok built
    intro now moved _
    have isFilled := isFilled.lasts moved.restores
    constructor
    · intro _ isReport
      contradiction
    · intro choice answer after _ executed
      cases answer with
      | error out =>
          have effect : Effect worker now (.receive worker.node ncArgs recvArgs
              (volumeOf filled.spec.toZFSRestore)) after := exec_effect executed
          exact reporting_tries ⟨isFilled.lasts effect.advances, nofun⟩
      | ok done =>
          obtain rfl := received_of_exec executed
          have named : filled.name = worker.name :=
            isFilled.rewrites.name.trans isFilled.held.nameEq
          have tries : Tries worker base filled (.ok ()) (now.record (.received worker
              (volumeOf filled.spec.toZFSRestore) recvArgs true)) := by
            refine ⟨isFilled.lasts (.refl _), fun _ => ⟨worker.node, ?_⟩⟩
            rw [named, argsEq]
            exact List.mem_append_right _ (.head _)
          apply (reporting_stable (calls_renewUUID polls worker.node _)
            (fun advances grows tries => Tries.lasts tries advances grows) tries).mono
          exact fun _ _ _ tries => ⟨tries.1, fun _ => tries.2 rfl⟩

theorem reporting_createRestore (held : shared.restores.Held worker.node worker.name base) :
    reporting.Keeps worker (createRestore polls worker.node base)
      (fun made now => Tries worker base made.1 made.2 now) shared := by
  apply Contract.Keeps.bind
  apply (reporting_fillVolSpec held).mono
  intro result now _ filled
  cases result with
  | error err =>
      intro later moved _
      exact ⟨filled.1.lasts moved.restores, nofun⟩
  | ok rstr =>
      apply Contract.Keeps.bind
      apply (reporting_receiveVolume (filled.2 rstr rfl)).mono
      intro result now _ tries later moved _
      exact tries.lasts moved.restores moved.log

/-- A report that is confirmed is a change that has yet to be replayed. -/
theorem reporting_updateRestoreInfo {filled : Restore} {result : Except Err Unit}
    {status : ZFSRestoreStatus} (isInit : base.status = .init)
    (tries : Tries worker base filled result shared) (tried : status ≠ .init)
    (honest : status = .done → result = .ok ()) :
    reporting.Keeps worker (updateRestoreInfo filled status)
      (fun result now => result = .ok () → Remembered worker now) shared := by
  intro now moved _
  have tries := tries.lasts moved.restores moved.log
  have rewrites : Rewrites base { filled with status := status } :=
    ⟨tries.1.rewrites.name, tries.1.rewrites.version,
      congrArg (fun rstr => { rstr with status := status }) tries.1.rewrites.merged⟩
  constructor
  · rintro rstr ⟨⟩
    exact ⟨base, tries.1.held, rewrites, tried, fun isDone => .inl (tries.2 (honest isDone))⟩
  · intro choice answer after _ executed later moved' _ succeeded
    subst succeeded
    rcases reportAnswer_cases (Option.some.inj executed) with
      ⟨refused, _⟩ | ⟨_, next, accepted, rfl⟩ | ⟨refused, _⟩
    · exact absurd rfl refused
    · apply moved'.remembered
      apply Resource.attends_of_update tries.1.held rewrites _ accepted
      intro _ same
      have statusEq : status = base.status := congrArg (fun rstr => rstr.status) same
      exact tried (statusEq.trans isInit)
    · exact absurd rfl refused

theorem reporting_syncRestore (held : shared.restores.Held worker.node worker.name base)
    (settled : ¬ Asks worker.node base → Remembered worker shared) :
    reporting.Keeps worker (syncRestore polls worker.node base)
      (fun result now => result = .ok () → Remembered worker now) shared := by
  have done (remembered : Remembered worker shared) : reporting.Keeps worker
      (pure (.ok ()) : Routine (Except Err Unit))
      (fun result now => result = .ok () → Remembered worker now) shared :=
    fun later moved _ _ => moved.remembered remembered
  unfold syncRestore
  by_cases deleted : base.deletionTimestamp = true
  · rw [if_pos deleted]
    apply done
    apply settled
    rintro ⟨_, live, _⟩
    rw [live] at deleted
    contradiction
  · rw [if_neg deleted]
    split
    · rename_i isInit
      apply Contract.Keeps.bind
      apply (reporting_createRestore held).mono
      rintro ⟨filled, result⟩ now _ tries
      cases result with
      | ok received => exact reporting_updateRestoreInfo isInit tries nofun fun _ => rfl
      | error err => exact reporting_updateRestoreInfo isInit tries nofun nofun
    · rename_i tried
      exact done (settled fun asks => tried asks.2.2)

theorem reporting_syncHandler :
    reporting.Keeps worker (syncHandler polls worker.node worker.name)
      (fun result now => result = .ok () → Remembered worker now) shared := by
  intro now _ _
  constructor
  · intro _ isReport
    contradiction
  · intro choice answer after _ executed
    obtain ⟨cached, rfl⟩ := Prod.mk.inj (Option.some.inj executed)
    cases answer with
    | none =>
        have remembered : Remembered worker now := Informer.attends_of_absent cached
        exact fun later moved _ _ => moved.remembered remembered
    | some base =>
        apply reporting_syncRestore (Resource.held_of_cached cached)
        intro settled rstr shown asks
        cases cached.symm.trans shown
        exact absurd asks settled

end Programs

/-! ## Runs -/

theorem restoreStep_of_call (effect : Effect worker shared op after)
    (owes : Owes worker op shared) : RestoreStep after.log shared.restores after.restores := by
  have grows := effect.log
  rcases effect.restores with same | ⟨rstr, rfl, accepted⟩
  · rw [same]
    exact restoreStep_refl ..
  · obtain ⟨base, held, rewrites, tried, justified⟩ := owes rstr rfl
    have written : rstr.status ≠ .init ∧ Justified after.log rstr := ⟨tried, justified.mono grows⟩
    exact ⟨some (), Resource.change_of_update written rewrites held.known accepted⟩

theorem reporting_env {move : Move} (reports : Reports shared)
    (moved : env move shared = some after) :
    Reports after ∧ ∀ worker, Grows worker shared after := by
  have quiet {next : Resource RestoreInfo ZFSRestoreStatus} (isQuiet : shared.restores.Quiet next)
      (kept : ∀ worker, Remembered worker shared → Remembered worker (shared.setRestores next)) :
      Reports (shared.setRestores next) ∧ ∀ worker, Grows worker shared (shared.setRestores next) :=
    ⟨reports.step (fun _ mem => mem) ⟨none, .quiet _ isQuiet⟩, fun worker =>
      ⟨isQuiet.advances, fun _ mem => mem, kept worker⟩⟩
  cases move with
  | deliver node name =>
      obtain ⟨next, stepped, rfl⟩ := Option.map_eq_some_iff.mp moved
      exact quiet (Resource.quiet_deliver stepped) fun worker remembered =>
        remembered.deliver (heeds_wantsRestore _) (reports.lines _) stepped
  | resync node name =>
      obtain ⟨next, stepped, rfl⟩ := Option.map_eq_some_iff.mp moved
      exact quiet (Resource.quiet_resync stepped) fun worker remembered =>
        remembered.resync stepped
  | handle node =>
      obtain ⟨next, stepped, rfl⟩ := Option.map_eq_some_iff.mp moved
      exact quiet (Resource.quiet_handle stepped) fun worker remembered =>
        remembered.handle stepped
  | collect name =>
      obtain ⟨next, stepped, rfl⟩ := Option.map_eq_some_iff.mp moved
      refine ⟨reports.step (fun _ mem => mem) ⟨none, Resource.change_of_collect stepped⟩,
        fun worker => ⟨Resource.advances_of_collect stepped, fun _ mem => mem, ?_⟩⟩
      exact fun remembered => remembered.collect stepped
  | create rstr =>
      obtain ⟨next, stepped, rfl⟩ := Option.map_eq_some_iff.mp moved
      have accepted := eq_ok_of_toOption stepped
      have grows : shared.log ⊆ ((shared.setRestores next).record (.created rstr)).log :=
        List.subset_append_left _ _
      have fresh : Justified ((shared.setRestores next).record (.created rstr)).log rstr :=
        fun isDone => .inr ⟨rstr, List.mem_append_right _ (.head _), rfl, isDone⟩
      exact ⟨reports.step grows ⟨some (), Resource.change_of_create fresh accepted⟩, fun worker =>
        ⟨Resource.advances_of_create accepted, grows, fun remembered => remembered.write accepted⟩⟩
  | delete name =>
      obtain ⟨next, stepped, rfl⟩ := Option.map_eq_some_iff.mp moved
      have accepted := eq_ok_of_toOption stepped
      have grows : shared.log ⊆ ((shared.setRestores next).record (.deleted name)).log :=
        List.subset_append_left _ _
      exact ⟨reports.step grows ⟨some (), Resource.change_of_delete trivial accepted⟩, fun worker =>
        ⟨Resource.advances_of_delete accepted, grows, fun remembered => remembered.write accepted⟩⟩
  | setVolumes volumes =>
      obtain rfl := Option.some.inj moved
      exact ⟨reports.step (fun _ mem => mem) (restoreStep_refl ..), fun worker =>
        ⟨.refl _, fun _ mem => mem, fun remembered => remembered⟩⟩

section Runs

variable {start config : Config signature Shared Worker (Except Err Unit)}
  {Meets : Action Worker Choice Move Arrival → Config signature Shared Worker (Except Err Unit) →
    Prop}

theorem reporting_sound : reporting.Sound Meets where
  guard := fun _ _ => trivial
  call := by
    intro worker op choice before answer after reports owes _ executed
    have effect := exec_effect executed
    exact ⟨reports.step effect.log (restoreStep_of_call effect owes), fun _ _ =>
      ⟨effect.advances, effect.log, fun remembered => remembered.call effect⟩⟩
  env := fun _ reports moved => reporting_env reports moved
  arrive := by
    intro config arrival worker program after _ reports arrived _
    obtain ⟨next, taken, equal⟩ := Option.map_eq_some_iff.mp arrived
    cases equal
    have quiet := Resource.quiet_take taken
    refine ⟨reports.step (fun _ mem => mem) ⟨none, .quiet _ quiet⟩, fun other differs =>
      ⟨quiet.advances, fun _ mem => mem, fun remembered => ?_⟩, reporting_syncHandler⟩
    apply Resource.Attends.take remembered _ taken
    rintro ⟨node, name⟩
    exact differs (Worker.ext node.symm name.symm)
  leave := by
    intro config worker result _ reports _ _
    cases result with
    | ok done =>
        exact ⟨reports, fun _ _ => ⟨.refl _, fun _ mem => mem, fun remembered => remembered⟩⟩
    | error err =>
        have quiet := Resource.quiet_requeue worker.node worker.name config.shared.restores
        exact ⟨reports.step (fun _ mem => mem) ⟨none, .quiet _ quiet⟩, fun _ _ =>
          ⟨quiet.advances, fun _ mem => mem, fun remembered => remembered.requeue _ _⟩⟩

/-- Nobody is running, every agent is about to replay a list of what is stored, and the log
accounts for every restore that is reported done. -/
structure Started (start : Config signature Shared Worker (Except Err Unit)) : Prop where
  idle : ∀ worker, start.threads worker = none
  listed : start.shared.restores.Listed
  justified : start.shared.restores.Everywhere (Justified start.shared.log)

theorem Started.reports (started : Started start) : Reports start.shared :=
  ⟨started.listed.lineage, started.justified⟩

/-- In every state of every run, a restore that has yet to be received is being worked on by
its node, or waits there for a worker. -/
theorem restore_not_forgotten (started : Started start)
    (reached : agents.Reaches Meets start config)
    {name : String} (stored : config.shared.restores.get name = some rstr) (live : Live rstr)
    (isInit : rstr.status = .init) :
    (∃ program, config.threads ⟨rstr.spec.ownerNodeID, name⟩ = some program) ∨
      (config.shared.restores.informers rstr.spec.ownerNodeID).Awaits
        (wantsRestore rstr.spec.ownerNodeID) name := by
  cases running : config.threads ⟨rstr.spec.ownerNodeID, name⟩ with
  | some program => exact .inl ⟨program, rfl⟩
  | none =>
      have remembered : Remembered ⟨rstr.spec.ownerNodeID, name⟩ config.shared := by
        apply reporting_sound.leaves _ _ started.reports started.idle _ reached _ running
        · exact fun moved remembered => moved.remembered remembered
        · intro worker result state _ finished
          cases result with
          | ok done => exact finished rfl
          | error err => exact Resource.attends_requeue _ _ _
        · exact fun worker => started.listed.attends worker.node worker.name
      exact .inr (remembered.awaits stored ⟨rfl, live, isInit⟩)

/-- Nothing is stored and nobody is running. -/
def blank : Config signature Shared Worker (Except Err Unit) where
  shared := {}
  threads := fun _ => none

theorem started_blank : Started blank where
  idle := fun _ => rfl
  listed := Resource.listed_empty
  justified := Resource.everywhere_empty

/-- A restore as an older backup tool writes it, without the specification of the volume. -/
def plainRestore : Restore where
  name := "r"
  spec :=
    { spec := { volumeName := "v", restoreSrc := "10.0.0.1:9000" }
      volSpec := {}
      ownerNodeID := "a" }
  status := .init

/-- The volume that the restore is for. -/
def restoredVolume : ZFSVolume where
  name := "v"
  spec :=
    { ownerNodeID := "a", poolName := "p", capacity := "1048576", volumeType := .dataset
      fsType := "zfs" }
  status := .ready

/-- The restore is created and its agent has seen it. -/
def seenSteps : List (Action Worker Choice Move Arrival) :=
  [.env (.setVolumes fun name => if name = "v" then some restoredVolume else none),
    .env (.create plainRestore), .env (.deliver "a" "r"), .env (.handle "a")]

/-- The volume is received and the first report is refused. -/
def refusedSteps : List (Action Worker Choice Move Arrival) :=
  seenSteps ++ [.arrive ⟨⟨"a", "r"⟩, 1⟩, .call ⟨"a", "r"⟩ {}, .call ⟨"a", "r"⟩ {},
    .call ⟨"a", "r"⟩ {}, .call ⟨"a", "r"⟩ { outcome := .fail }, .leave ⟨"a", "r"⟩]

theorem restore_not_forgotten_refused :
    ∃ config rstr, agents.Reaches (fun _ _ => True) blank config ∧
      config.shared.restores.get "r" = some rstr ∧ Live rstr ∧ rstr.status = .init ∧
      ((∃ program, config.threads ⟨rstr.spec.ownerNodeID, "r"⟩ = some program) ∨
        (config.shared.restores.informers rstr.spec.ownerNodeID).Awaits
          (wantsRestore rstr.spec.ownerNodeID) "r") := by
  have ran : (agents.run (fun _ _ => True) refusedSteps blank).any (fun config =>
      (config.shared.restores.get "r").any fun rstr =>
        decide (Live rstr ∧ rstr.status = .init)) = true := by
    decide +kernel
  obtain ⟨config, reached, checked⟩ := System.exists_reaches_of_run ran
  obtain ⟨rstr, stored, holds⟩ := (Option.any_eq_true _ _).mp checked
  obtain ⟨live, isInit⟩ := of_decide_eq_true holds
  exact ⟨config, rstr, reached, stored, live, isInit,
    restore_not_forgotten started_blank reached stored live isInit⟩

/-- In every state of every run, a restore that is Done and was not created so was received:
`zfs recv` has succeeded on some node, for the dataset and with the properties that the
restore now describes. -/
theorem done_restore_received (started : Started start)
    (reached : agents.Reaches Meets start config) {name : String}
    (stored : config.shared.restores.get name = some rstr) (isDone : rstr.status = .done)
    (created : CreatedUndone name config.shared.log) :
    ∃ node, Entry.received ⟨node, name⟩ (volumeOf rstr.spec.toZFSRestore)
      (restoreOptions rstr.spec.volSpec) true ∈ config.shared.log := by
  have reports := (reporting_sound.reaches started.reports started.idle reached).1
  have named := Resource.name_of_get stored
  subst named
  rcases reports.justified.stored stored isDone with received | ⟨first, mem, named, done⟩
  · exact received
  · exact absurd done (created _ mem first rfl named)

/-- The volume is received, the first report is refused, and all is done once more. -/
def repeatedSteps : List (Action Worker Choice Move Arrival) :=
  refusedSteps ++ [.arrive ⟨⟨"a", "r"⟩, 1⟩, .call ⟨"a", "r"⟩ {}, .call ⟨"a", "r"⟩ {},
    .call ⟨"a", "r"⟩ {}, .call ⟨"a", "r"⟩ {}, .leave ⟨"a", "r"⟩]

theorem done_restore_received_repeated :
    ∃ config rstr, agents.Reaches (fun _ _ => True) blank config ∧
      config.shared.restores.get "r" = some rstr ∧ rstr.status = .done ∧
      rstr.spec.volSpec = restoredVolume.spec ∧
      ∃ node, Entry.received ⟨node, "r"⟩ (volumeOf rstr.spec.toZFSRestore)
        (restoreOptions rstr.spec.volSpec) true ∈ config.shared.log := by
  have ran : (agents.run (fun _ _ => True) repeatedSteps blank).any (fun config =>
      (config.shared.restores.get "r").any fun rstr =>
        decide (rstr.status = .done ∧ rstr.spec.volSpec = restoredVolume.spec ∧
          CreatedUndone "r" config.shared.log)) = true := by
    decide +kernel
  obtain ⟨config, reached, checked⟩ := System.exists_reaches_of_run ran
  obtain ⟨rstr, stored, holds⟩ := (Option.any_eq_true _ _).mp checked
  obtain ⟨isDone, specEq, created⟩ := of_decide_eq_true holds
  exact ⟨config, rstr, reached, stored, isDone, specEq,
    done_restore_received started_blank reached stored isDone created⟩

end Runs

end ZfsLocalPv.RestoreAgent

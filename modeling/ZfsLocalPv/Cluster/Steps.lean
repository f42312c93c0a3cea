import ZfsLocalPv.Cluster.System

/-!
# What a step of the cluster changes

One inversion for the calls of the threads, and the same for the moves of the environment, for
arrivals and for departures. Later proofs split a step along these cases and never look at `exec`
again.
-/

namespace ZfsLocalPv.Cluster

open Api ApiServer Driver Interaction Zfs

variable {thread : Tid} {op : Op} {choice : Choice} {shared after : Shared}

/-! ## Calls -/

/-- The storage after a command with any outcome: it was not run, it ran, or a
`zfs set` made some of its assignments. -/
inductive StorageEffect (storage : Storage) : Command → Storage → Prop
  | none (command : Command) : StorageEffect storage command storage
  | ran {command : Command} {next : Storage} (effect : storage.Effect command next) :
      StorageEffect storage command next
  | partly (assignments made : Go.StringMap) (volume : Dataset) :
      StorageEffect storage (.set assignments volume) (storage.assign made volume)

/-- The state after a call: unchanged, or changed in the one way the call has. -/
inductive Effect (thread : Tid) (shared : Shared) : Op → Shared → Prop
  | same (op : Op) : Effect thread shared op shared
  | lock (key : String) (free : shared.locked key = none) :
      Effect thread shared (.lock key) (shared.setLocked key (some thread))
  | unlock (key : String) : Effect thread shared (.unlock key) (shared.setLocked key none)
  | createVolume (vol : ZFSVolume) {next : Resource VolumeInfo State}
      (accepted : shared.volumes.create vol = .ok next) :
      Effect thread shared (.createVolume vol) (shared.setVolumes next)
  | updateVolume (vol : ZFSVolume) {next : Resource VolumeInfo State}
      (accepted : shared.volumes.update vol = .ok next) :
      Effect thread shared (.updateVolume vol) (shared.setVolumes next)
  | deleteVolume (name : String) {next : Resource VolumeInfo State}
      (accepted : shared.volumes.delete name = .ok next) :
      Effect thread shared (.deleteVolume name) (shared.setVolumes next)
  | createSnapshot (snap : ZFSSnapshot) {next : Resource VolumeInfo State}
      (accepted : shared.snapshots.create snap = .ok next) :
      Effect thread shared (.createSnapshot snap) (shared.setSnapshots next)
  | updateSnapshot (snap : ZFSSnapshot) {next : Resource VolumeInfo State}
      (accepted : shared.snapshots.update snap = .ok next) :
      Effect thread shared (.updateSnapshot snap) (shared.setSnapshots next)
  | deleteSnapshot (name : String) {next : Resource VolumeInfo State}
      (accepted : shared.snapshots.delete name = .ok next) :
      Effect thread shared (.deleteSnapshot name) (shared.setSnapshots next)
  | updateBackup (bkp : ZFSBackup) {next : Resource ZFSBackupSpec ZFSBackupStatus}
      (accepted : shared.backups.update bkp = .ok next) :
      Effect thread shared (.updateBackup bkp) (shared.setBackups next)
  | zfs (node : String) (command : Command) {next : Storage}
      (effect : StorageEffect (shared.storage node) command next) :
      Effect thread shared (.zfs node command) (shared.setStorage node next)

theorem zfsAnswer_effect (choice : Choice) (storage : Storage) (command : Command) :
    StorageEffect storage command (zfsAnswer choice storage command).2 := by
  unfold zfsAnswer
  split
  · cases command with
    | set assignments volume => exact .partly assignments _ volume
    | list | create | clone | destroy | snapshot | destroySnapshot | get => exact .none _
  · exact .none _
  · rename_i ran
    exact .ran (Storage.run_effect ran)
  · exact .none _
  · rename_i ran
    exact .ran (Storage.run_effect ran)

/-- The one inversion of `exec`. -/
theorem exec_effect {answer : op.Res} (executed : exec thread op choice shared =
    some (answer, after)) : Effect thread shared op after := by
  cases op with
  | lock key =>
      simp only [exec, Option.ite_none_right_eq_some, Option.some.injEq] at executed
      obtain ⟨free, _, rfl⟩ := executed
      exact .lock key free
  | unlock key =>
      simp only [exec, Option.some.injEq] at executed
      obtain ⟨_, rfl⟩ := executed
      exact .unlock key
  | createVolume vol =>
      rcases writeAnswer_cases (Option.some.inj executed) with ⟨rfl, _⟩ | ⟨next, accepted, rfl⟩
      · exact .same _
      · exact .createVolume vol accepted
  | updateVolume vol =>
      rcases writeAnswer_cases (Option.some.inj executed) with ⟨rfl, _⟩ | ⟨next, accepted, rfl⟩
      · exact .same _
      · exact .updateVolume vol accepted
  | deleteVolume name =>
      rcases writeAnswer_cases (Option.some.inj executed) with ⟨rfl, _⟩ | ⟨next, accepted, rfl⟩
      · exact .same _
      · exact .deleteVolume name accepted
  | createSnapshot snap =>
      rcases writeAnswer_cases (Option.some.inj executed) with ⟨rfl, _⟩ | ⟨next, accepted, rfl⟩
      · exact .same _
      · exact .createSnapshot snap accepted
  | updateSnapshot snap =>
      rcases writeAnswer_cases (Option.some.inj executed) with ⟨rfl, _⟩ | ⟨next, accepted, rfl⟩
      · exact .same _
      · exact .updateSnapshot snap accepted
  | deleteSnapshot name =>
      rcases writeAnswer_cases (Option.some.inj executed) with ⟨rfl, _⟩ | ⟨next, accepted, rfl⟩
      · exact .same _
      · exact .deleteSnapshot name accepted
  | updateBackup bkp =>
      rcases writeAnswer_cases (Option.some.inj executed) with ⟨rfl, _⟩ | ⟨next, accepted, rfl⟩
      · exact .same _
      · exact .updateBackup bkp accepted
  | zfs node command =>
      simp only [exec, Option.some.injEq] at executed
      obtain ⟨_, rfl⟩ := executed
      exact .zfs node command (zfsAnswer_effect choice _ command)
  | hang => simp [exec] at executed
  | panic => simp [exec] at executed
  | getVolume | listVolumes | getSnapshot | listSnapshots | getNode | getZFSNode
  | listZFSNodes | scheduler | select | cachedVolume | cachedSnapshot | cachedBackup | send
  | generateUUID | stat | evalSymlinks | mounts | resizeXFS | resizeExtn =>
      simp only [exec, Option.some.injEq] at executed
      obtain ⟨_, rfl⟩ := executed
      exact .same _

/-- The calls that leave the state as it is. -/
def Op.Reads : Op → Prop
  | .getVolume _ _ | .listVolumes | .getSnapshot _ | .listSnapshots _ | .getNode _
  | .getZFSNode _ | .listZFSNodes | .scheduler _ | .select | .cachedVolume _ _
  | .cachedSnapshot _ _ | .cachedBackup _ _ | .send _ _ | .generateUUID _ _ | .stat _ _
  | .evalSymlinks _ _ | .mounts _ | .resizeXFS _ _ | .resizeExtn _ _ | .hang | .panic => True
  | _ => False

/-- The questions of the controller to the API server and to its scheduler. -/
def Op.Asks : Op → Prop
  | .getVolume _ _ | .listVolumes | .getSnapshot _ | .listSnapshots _ | .getNode _
  | .getZFSNode _ | .listZFSNodes | .scheduler _ | .select => True
  | _ => False

theorem Op.Asks.reads {op : Op} (asks : op.Asks) : op.Reads := by
  cases op with
  | getVolume | listVolumes | getSnapshot | listSnapshots | getNode | getZFSNode | listZFSNodes
  | scheduler | select => trivial
  | _ => exact asks.elim

theorem exec_reads {answer : op.Res} (reads : op.Reads)
    (executed : exec thread op choice shared = some (answer, after)) : after = shared := by
  cases exec_effect executed with
  | same => rfl
  | lock | unlock | createVolume | updateVolume | deleteVolume | createSnapshot
  | updateSnapshot | deleteSnapshot | updateBackup | zfs => exact reads.elim

/-- A program that only reads returns in the state it started in. -/
theorem returns_same {α : Type} {program : Routine α} (calls : program.Calls Op.Reads) {result : α}
    (returned : Prog.Returns (exec thread) program shared result after) : after = shared :=
  calls.returns (fun reads same executed => (exec_reads reads executed).trans same) returned rfl

/-! ## Answers -/

theorem exec_lock {key : String} {answer : Unit}
    (executed : exec thread (.lock key) choice shared = some (answer, after)) :
    shared.locked key = none ∧ after = shared.setLocked key (some thread) := by
  obtain ⟨free, equal⟩ := Option.ite_none_right_eq_some.mp executed
  cases equal
  exact ⟨free, rfl⟩

theorem exec_getVolume_ok {name : String} {purpose : Purpose} {vol : ZFSVolume}
    (executed : exec thread (.getVolume name purpose) choice shared = some (.ok vol, after)) :
    shared.volumes.get name = some vol ∧ after = shared := by
  obtain ⟨answered, sharedEq⟩ := Prod.mk.inj (Option.some.inj executed)
  exact ⟨readAnswer_ok answered, sharedEq.symm⟩

theorem exec_listSnapshots_ok {volume : String} {snaps : List ZFSSnapshot}
    (executed : exec thread (.listSnapshots volume) choice shared = some (.ok snaps, after)) :
    snaps = shared.snapshots.store.list ZFSVolKey volume ∧ after = shared := by
  obtain ⟨answered, sharedEq⟩ := Prod.mk.inj (Option.some.inj executed)
  exact ⟨(Option.some.inj (readAnswer_ok answered)).symm, sharedEq.symm⟩

theorem exec_createVolume_ok {vol : ZFSVolume}
    (executed : exec thread (.createVolume vol) choice shared = some (.ok (), after)) :
    ∃ next, shared.volumes.create vol = .ok next ∧ after = shared.setVolumes next := by
  rcases writeAnswer_cases (Option.some.inj executed) with ⟨_, refused⟩ | accepted
  · exact absurd rfl refused
  · exact accepted

theorem exec_updateVolume_ok {vol : ZFSVolume}
    (executed : exec thread (.updateVolume vol) choice shared = some (.ok (), after)) :
    ∃ next, shared.volumes.update vol = .ok next ∧ after = shared.setVolumes next := by
  rcases writeAnswer_cases (Option.some.inj executed) with ⟨_, refused⟩ | accepted
  · exact absurd rfl refused
  · exact accepted

theorem exec_cachedVolume {node name : String} {found : Option ZFSVolume}
    (executed : exec thread (.cachedVolume node name) choice shared = some (found, after)) :
    (shared.volumes.informers node).cache name = found ∧ after = shared := by
  obtain ⟨answered, sharedEq⟩ := Prod.mk.inj (Option.some.inj executed)
  exact ⟨answered, sharedEq.symm⟩

theorem exec_cachedSnapshot {node name : String} {found : Option ZFSSnapshot}
    (executed : exec thread (.cachedSnapshot node name) choice shared = some (found, after)) :
    (shared.snapshots.informers node).cache name = found ∧ after = shared := by
  obtain ⟨answered, sharedEq⟩ := Prod.mk.inj (Option.some.inj executed)
  exact ⟨answered, sharedEq.symm⟩

theorem exec_cachedBackup {node name : String} {found : Option ZFSBackup}
    (executed : exec thread (.cachedBackup node name) choice shared = some (found, after)) :
    (shared.backups.informers node).cache name = found ∧ after = shared := by
  obtain ⟨answered, sharedEq⟩ := Prod.mk.inj (Option.some.inj executed)
  exact ⟨answered, sharedEq.symm⟩

theorem zfsAnswer_ok {storage : Storage} {command : Command} {output : String}
    (answered : (zfsAnswer choice storage command).1 = .ok output) :
    storage.run command = some (output, (zfsAnswer choice storage command).2) := by
  unfold zfsAnswer at answered ⊢
  split at answered
  · contradiction
  · contradiction
  · rename_i ran
    rw [ran, Except.ok.inj answered]
  · contradiction
  · contradiction

/-- A command that succeeds has run. -/
theorem exec_zfs_ok {node output : String} {command : Command}
    (executed : exec thread (.zfs node command) choice shared = some (.ok output, after)) :
    ∃ next, (shared.storage node).run command = some (output, next) ∧
      after = shared.setStorage node next := by
  obtain ⟨answered, sharedEq⟩ := Prod.mk.inj (Option.some.inj executed)
  exact ⟨_, zfsAnswer_ok answered, sharedEq.symm⟩

theorem Shared.setStorage_self (shared : Shared) (node : String) :
    shared.setStorage node (shared.storage node) = shared := by
  unfold Shared.setStorage
  rw [Function.update_eq_self]

theorem StorageEffect.list_same {storage next : Storage} {target : Target}
    (effect : StorageEffect storage (.list target) next) : next = storage := by
  cases effect with
  | none => rfl
  | ran effect =>
      cases effect with
      | list target present => rfl

theorem exec_list_same {node : String} {target : Target} {answer : Except String String}
    (executed : exec thread (.zfs node (.list target)) choice shared = some (answer, after)) :
    after = shared := by
  cases exec_effect executed with
  | same => rfl
  | zfs node command effect =>
      rw [effect.list_same, Shared.setStorage_self]

/-- A listing that does not fail finds what is there. -/
theorem exec_list_missing {node out : String} {target : Target} (ran : choice.outcome = .ok)
    (executed : exec thread (.zfs node (.list target)) choice shared = some (.error out, after)) :
    (shared.storage node).has target = false := by
  apply Bool.eq_false_iff.mpr
  intro present
  have answered : (zfsAnswer choice (shared.storage node) (.list target)).1 = .error out :=
    congrArg Prod.fst (Option.some.inj executed)
  simp [zfsAnswer, ran, Storage.run, present] at answered

/-! ## The environment -/

/-- The state after a move: some informers have moved, the garbage collector has
dropped its finalizer, a backup was created or deleted, or nodes have reported. -/
inductive EnvEffect (shared : Shared) : Move → Shared → Prop
  | volumes (move : Move) {next : Resource VolumeInfo State}
      (quiet : shared.volumes.Quiet next) : EnvEffect shared move (shared.setVolumes next)
  | snapshots (move : Move) {next : Resource VolumeInfo State}
      (quiet : shared.snapshots.Quiet next) : EnvEffect shared move (shared.setSnapshots next)
  | backups (move : Move) {next : Resource ZFSBackupSpec ZFSBackupStatus}
      (quiet : shared.backups.Quiet next) : EnvEffect shared move (shared.setBackups next)
  | collectVolume (name : String) {next : Resource VolumeInfo State}
      (collected : shared.volumes.collect name = some next) :
      EnvEffect shared (.collectVolume name) (shared.setVolumes next)
  | collectSnapshot (name : String) {next : Resource VolumeInfo State}
      (collected : shared.snapshots.collect name = some next) :
      EnvEffect shared (.collectSnapshot name) (shared.setSnapshots next)
  | collectBackup (name : String) {next : Resource ZFSBackupSpec ZFSBackupStatus}
      (collected : shared.backups.collect name = some next) :
      EnvEffect shared (.collectBackup name) (shared.setBackups next)
  | createBackup (bkp : ZFSBackup) {next : Resource ZFSBackupSpec ZFSBackupStatus}
      (accepted : shared.backups.create bkp = .ok next) :
      EnvEffect shared (.createBackup bkp) (shared.setBackups next)
  | deleteBackup (name : String) {next : Resource ZFSBackupSpec ZFSBackupStatus}
      (accepted : shared.backups.delete name = .ok next) :
      EnvEffect shared (.deleteBackup name) (shared.setBackups next)
  | report (nodes : List Node) (zfsNodes : List ZFSNode) :
      EnvEffect shared (.report nodes zfsNodes)
        { shared with nodes := nodes, zfsNodes := zfsNodes }

/-- The one inversion of `env`. -/
theorem env_effect {move : Move} (moved : env move shared = some after) :
    EnvEffect shared move after := by
  cases move with
  | deliverVolume node name =>
      obtain ⟨next, stepped, rfl⟩ := Option.map_eq_some_iff.mp moved
      exact .volumes _ (Resource.quiet_deliver stepped)
  | resyncVolume node name =>
      obtain ⟨next, stepped, rfl⟩ := Option.map_eq_some_iff.mp moved
      exact .volumes _ (Resource.quiet_resync stepped)
  | handleVolume node =>
      obtain ⟨next, stepped, rfl⟩ := Option.map_eq_some_iff.mp moved
      exact .volumes _ (Resource.quiet_handle stepped)
  | deliverSnapshot node name =>
      obtain ⟨next, stepped, rfl⟩ := Option.map_eq_some_iff.mp moved
      exact .snapshots _ (Resource.quiet_deliver stepped)
  | resyncSnapshot node name =>
      obtain ⟨next, stepped, rfl⟩ := Option.map_eq_some_iff.mp moved
      exact .snapshots _ (Resource.quiet_resync stepped)
  | handleSnapshot node =>
      obtain ⟨next, stepped, rfl⟩ := Option.map_eq_some_iff.mp moved
      exact .snapshots _ (Resource.quiet_handle stepped)
  | deliverBackup node name =>
      obtain ⟨next, stepped, rfl⟩ := Option.map_eq_some_iff.mp moved
      exact .backups _ (Resource.quiet_deliver stepped)
  | resyncBackup node name =>
      obtain ⟨next, stepped, rfl⟩ := Option.map_eq_some_iff.mp moved
      exact .backups _ (Resource.quiet_resync stepped)
  | handleBackup node =>
      obtain ⟨next, stepped, rfl⟩ := Option.map_eq_some_iff.mp moved
      exact .backups _ (Resource.quiet_handle stepped)
  | collectVolume name =>
      obtain ⟨next, stepped, rfl⟩ := Option.map_eq_some_iff.mp moved
      exact .collectVolume name stepped
  | collectSnapshot name =>
      obtain ⟨next, stepped, rfl⟩ := Option.map_eq_some_iff.mp moved
      exact .collectSnapshot name stepped
  | collectBackup name =>
      obtain ⟨next, stepped, rfl⟩ := Option.map_eq_some_iff.mp moved
      exact .collectBackup name stepped
  | createBackup bkp =>
      obtain ⟨next, stepped, rfl⟩ := Option.map_eq_some_iff.mp moved
      exact .createBackup bkp (eq_ok_of_toOption stepped)
  | deleteBackup name =>
      obtain ⟨next, stepped, rfl⟩ := Option.map_eq_some_iff.mp moved
      exact .deleteBackup name (eq_ok_of_toOption stepped)
  | report nodes zfsNodes =>
      obtain rfl := Option.some.inj moved
      exact .report nodes zfsNodes

/-! ## Arrivals and departures -/

/-- The thread, its program and the state after an arrival. -/
inductive ArriveEffect (compile : Compile) (shared : Shared) :
    Arrival → Tid → Routine Answer → Shared → Prop
  | request (id : Nat) (req : Request) (unused : shared.inFlight id = none) :
      ArriveEffect compile shared (.request id req) (.request id) (serve compile req)
        { shared with inFlight := Function.update shared.inFlight id (some req) }
  | syncVolume (node name : String) {next : Resource VolumeInfo State}
      (quiet : shared.volumes.Quiet next) :
      ArriveEffect compile shared (.syncVolume node name) (.volume node name)
        (work (Mgmt.syncVolume node name)) (shared.setVolumes next)
  | syncSnapshot (node name : String) {next : Resource VolumeInfo State}
      (quiet : shared.snapshots.Quiet next) :
      ArriveEffect compile shared (.syncSnapshot node name) (.snapshot node name)
        (work (Mgmt.syncSnapshot node name)) (shared.setSnapshots next)
  | syncBackup (node name : String) {next : Resource ZFSBackupSpec ZFSBackupStatus}
      (quiet : shared.backups.Quiet next) :
      ArriveEffect compile shared (.syncBackup node name) (.backup node name)
        (work (Mgmt.syncBackup node name)) (shared.setBackups next)

theorem arrive_effect {compile : Compile} {arrival : Arrival} {program : Routine Answer}
    (arrived : arrive compile arrival shared = some (thread, program, after)) :
    ArriveEffect compile shared arrival thread program after := by
  cases arrival with
  | request id req =>
      simp only [arrive, Option.ite_none_right_eq_some, Option.some.injEq, Prod.mk.injEq] at arrived
      obtain ⟨unused, rfl, rfl, rfl⟩ := arrived
      exact .request id req unused
  | syncVolume node name =>
      obtain ⟨next, taken, equal⟩ := Option.map_eq_some_iff.mp arrived
      cases equal
      exact .syncVolume node name (Resource.quiet_take taken)
  | syncSnapshot node name =>
      obtain ⟨next, taken, equal⟩ := Option.map_eq_some_iff.mp arrived
      cases equal
      exact .syncSnapshot node name (Resource.quiet_take taken)
  | syncBackup node name =>
      obtain ⟨next, taken, equal⟩ := Option.map_eq_some_iff.mp arrived
      cases equal
      exact .syncBackup node name (Resource.quiet_take taken)

/-- The state after a thread has left. -/
inductive LeaveEffect (shared : Shared) : Tid → Answer → Shared → Prop
  | same (thread : Tid) (answer : Answer) : LeaveEffect shared thread answer shared
  | request (id : Nat) (req : Request) (answer : Answer)
      (serving : shared.inFlight id = some req) :
      LeaveEffect shared (.request id) answer
        { shared with
          inFlight := Function.update shared.inFlight id none
          answered := shared.answered ++ [(req, answer)] }
  | volumes (node name : String) (answer : Answer) {next : Resource VolumeInfo State}
      (quiet : shared.volumes.Quiet next) :
      LeaveEffect shared (.volume node name) answer (shared.setVolumes next)
  | snapshots (node name : String) (answer : Answer) {next : Resource VolumeInfo State}
      (quiet : shared.snapshots.Quiet next) :
      LeaveEffect shared (.snapshot node name) answer (shared.setSnapshots next)
  | backups (node name : String) (answer : Answer)
      {next : Resource ZFSBackupSpec ZFSBackupStatus} (quiet : shared.backups.Quiet next) :
      LeaveEffect shared (.backup node name) answer (shared.setBackups next)

theorem leave_effect (thread : Tid) (answer : Answer) (shared : Shared) :
    LeaveEffect shared thread answer (leave thread answer shared) := by
  unfold leave
  split
  · split
    · exact .same _ _
    · rename_i req serving
      exact .request _ req _ serving
  · exact .volumes _ _ _ (Resource.quiet_requeue ..)
  · exact .snapshots _ _ _ (Resource.quiet_requeue ..)
  · exact .backups _ _ _ (Resource.quiet_requeue ..)
  · exact .same _ _

/-! ## Moving forward -/

/-- No call changes the nodes. -/
theorem Effect.nodes (effect : Effect thread shared op after) :
    after.nodes = shared.nodes ∧ after.zfsNodes = shared.zfsNodes := by
  cases effect <;> exact ⟨rfl, rfl⟩

/-- No store goes back and no informer does. -/
structure Advances (shared after : Shared) : Prop where
  volumes : shared.volumes.Advances after.volumes
  snapshots : shared.snapshots.Advances after.snapshots
  backups : shared.backups.Advances after.backups

theorem Advances.refl (shared : Shared) : Advances shared shared :=
  ⟨.refl _, .refl _, .refl _⟩

theorem Advances.trans {last : Shared} (first : Advances shared after)
    (second : Advances after last) : Advances shared last :=
  ⟨first.volumes.trans second.volumes, first.snapshots.trans second.snapshots,
    first.backups.trans second.backups⟩

theorem advances_setVolumes {next : Resource VolumeInfo State}
    (advances : shared.volumes.Advances next) : Advances shared (shared.setVolumes next) :=
  ⟨advances, .refl _, .refl _⟩

theorem advances_setSnapshots {next : Resource VolumeInfo State}
    (advances : shared.snapshots.Advances next) : Advances shared (shared.setSnapshots next) :=
  ⟨.refl _, advances, .refl _⟩

theorem advances_setBackups {next : Resource ZFSBackupSpec ZFSBackupStatus}
    (advances : shared.backups.Advances next) : Advances shared (shared.setBackups next) :=
  ⟨.refl _, .refl _, advances⟩

theorem Effect.advances (effect : Effect thread shared op after) : Advances shared after := by
  cases effect with
  | createVolume vol accepted => exact advances_setVolumes (Resource.advances_of_create accepted)
  | updateVolume vol accepted => exact advances_setVolumes (Resource.advances_of_update accepted)
  | deleteVolume name accepted => exact advances_setVolumes (Resource.advances_of_delete accepted)
  | createSnapshot snap accepted =>
      exact advances_setSnapshots (Resource.advances_of_create accepted)
  | updateSnapshot snap accepted =>
      exact advances_setSnapshots (Resource.advances_of_update accepted)
  | deleteSnapshot name accepted =>
      exact advances_setSnapshots (Resource.advances_of_delete accepted)
  | updateBackup bkp accepted => exact advances_setBackups (Resource.advances_of_update accepted)
  | same | lock | unlock | zfs => exact ⟨.refl _, .refl _, .refl _⟩

theorem EnvEffect.advances {move : Move} (effect : EnvEffect shared move after) :
    Advances shared after := by
  cases effect with
  | volumes move quiet => exact advances_setVolumes quiet.advances
  | snapshots move quiet => exact advances_setSnapshots quiet.advances
  | backups move quiet => exact advances_setBackups quiet.advances
  | collectVolume name collected =>
      exact advances_setVolumes (Resource.advances_of_collect collected)
  | collectSnapshot name collected =>
      exact advances_setSnapshots (Resource.advances_of_collect collected)
  | collectBackup name collected =>
      exact advances_setBackups (Resource.advances_of_collect collected)
  | createBackup bkp accepted => exact advances_setBackups (Resource.advances_of_create accepted)
  | deleteBackup name accepted => exact advances_setBackups (Resource.advances_of_delete accepted)
  | report => exact ⟨.refl _, .refl _, .refl _⟩

theorem ArriveEffect.advances {compile : Compile} {arrival : Arrival}
    {program : Routine Answer}
    (effect : ArriveEffect compile shared arrival thread program after) :
    Advances shared after := by
  cases effect with
  | request => exact ⟨.refl _, .refl _, .refl _⟩
  | syncVolume node name quiet => exact advances_setVolumes quiet.advances
  | syncSnapshot node name quiet => exact advances_setSnapshots quiet.advances
  | syncBackup node name quiet => exact advances_setBackups quiet.advances

theorem LeaveEffect.advances {answer : Answer}
    (effect : LeaveEffect shared thread answer after) : Advances shared after := by
  cases effect with
  | same | request => exact ⟨.refl _, .refl _, .refl _⟩
  | volumes node name answer quiet => exact advances_setVolumes quiet.advances
  | snapshots node name answer quiet => exact advances_setSnapshots quiet.advances
  | backups node name answer quiet => exact advances_setBackups quiet.advances

end ZfsLocalPv.Cluster

namespace ZfsLocalPv.Interaction.Prog

open Cluster

theorem Calls.reads {α : Type} {program : Routine α} (calls : program.Calls Op.Asks) :
    program.Calls Op.Reads :=
  calls.mono fun _ asks => asks.reads

end ZfsLocalPv.Interaction.Prog

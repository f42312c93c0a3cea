import ZfsLocalPv.ApiServer.Attention
import ZfsLocalPv.Cluster.Changes
import ZfsLocalPv.Cluster.Requests

/-!
# No work is forgotten

Each agent acts on the names of its queue and on nothing else. Whatever requests, agents,
informers and the garbage collector do, and whatever fails, an object that its node has yet to
act on is queued there, will be queued by what the node has yet to see, or is being worked on. So
an agent that has seen everything and has nothing to do has left nothing undone. Agents do not
restart and informers do not list anew in these runs.

A worker takes a name off its queue before it has done anything for it. What it owes is that it
puts the name back or changes the object: then the change is on its way to the informer and is
looked at again.
-/

namespace ZfsLocalPv.Properties

open Api ApiServer Driver Interaction Zfs Cluster

/-! ## What the agents have to do -/

/-- A volume of the node that is to be destroyed or to be made. -/
def VolumeAsks (node : String) (vol : ZFSVolume) : Prop :=
  vol.spec.ownerNodeID = node ∧ (vol.deletionTimestamp = true ∨ vol.status = .pending)

/-- A snapshot of the node that is to be destroyed or to be taken. -/
def SnapshotAsks (node : String) (snap : ZFSSnapshot) : Prop :=
  snap.spec.ownerNodeID = node ∧ (snap.deletionTimestamp = true ∨ snap.status ≠ .ready)

/-- A backup of the node that is to be destroyed or to be sent. -/
def BackupAsks (node : String) (bkp : ZFSBackup) : Prop :=
  bkp.spec.ownerNodeID = node ∧ (bkp.deletionTimestamp = true ∨ bkp.status = .init)

/-- A snapshot that is written again is deleted or Ready. -/
def SnapshotBecomes (_ new : ZFSSnapshot) : Prop :=
  new.deletionTimestamp = true ∨ new.status = .ready

/-- The backup is deleted or has been tried. -/
def Tried (bkp : ZFSBackup) : Prop :=
  bkp.deletionTimestamp = true ∨ bkp.status ≠ .init

/-- A backup that is written again is deleted or has been tried. -/
def BackupBecomes (_ new : ZFSBackup) : Prop :=
  Tried new

theorem heeds_wantsVolume (node : String) :
    Heeds (Mgmt.wantsVolume node) (VolumeAsks node) fun _ _ => True where
  add := by
    rintro vol ⟨owner, _⟩
    simp [Mgmt.wantsVolume, Mgmt.addZV, owner]
  update := by
    rintro old new _ ⟨owner, deleted | pending⟩
    · simp [Mgmt.wantsVolume, Mgmt.updateZV, owner, deleted]
    · simp [Mgmt.wantsVolume, Mgmt.updateZV, owner, pending]

/-- The handler for updates looks at deletions only, which is enough since nothing makes a
snapshot ask for work again. -/
theorem heeds_wantsSnapshot (node : String) :
    Heeds (Mgmt.wantsSnapshot node) (SnapshotAsks node) SnapshotBecomes where
  add := by
    rintro snap ⟨owner, _⟩
    simp [Mgmt.wantsSnapshot, Mgmt.addSnap, owner]
  update := by
    rintro old new becomes ⟨owner, asks⟩
    have deleted : new.deletionTimestamp = true := by
      rcases becomes with deleted | ready
      · exact deleted
      · exact asks.resolve_right fun unready => unready ready
    simp [Mgmt.wantsSnapshot, Mgmt.updateSnap, owner, deleted]

theorem heeds_wantsBackup (node : String) :
    Heeds (Mgmt.wantsBackup node) (BackupAsks node) BackupBecomes where
  add := by
    rintro bkp ⟨owner, _⟩
    simp [Mgmt.wantsBackup, Mgmt.addBkp, owner]
  update := by
    rintro old new becomes ⟨owner, asks⟩
    have deleted : new.deletionTimestamp = true := by
      rcases becomes with deleted | tried
      · exact deleted
      · exact asks.resolve_right tried
    simp [Mgmt.wantsBackup, Mgmt.updateBkp, owner, deleted]

/-- The name of a worker is not forgotten. -/
def Unforgotten : Tid → Shared → Prop
  | .request _, _ => True
  | .volume node name, shared =>
      shared.volumes.Attends (Mgmt.wantsVolume node) (VolumeAsks node) node name
  | .snapshot node name, shared =>
      shared.snapshots.Attends (Mgmt.wantsSnapshot node) (SnapshotAsks node) node name
  | .backup node name, shared =>
      shared.backups.Attends (Mgmt.wantsBackup node) (BackupAsks node) node name

/-! ## What every step keeps -/

section Steps

variable {shared after : Shared} {thread worker : Tid} {op : Op}

theorem unforgotten_setVolumes {next : Resource VolumeInfo State}
    (unforgotten : Unforgotten worker shared)
    (kept : ∀ node name,
      shared.volumes.Attends (Mgmt.wantsVolume node) (VolumeAsks node) node name →
      next.Attends (Mgmt.wantsVolume node) (VolumeAsks node) node name) :
    Unforgotten worker (shared.setVolumes next) := by
  cases worker with
  | volume node name => exact kept node name unforgotten
  | request | snapshot | backup => exact unforgotten

theorem unforgotten_setSnapshots {next : Resource VolumeInfo State}
    (unforgotten : Unforgotten worker shared)
    (kept : ∀ node name,
      shared.snapshots.Attends (Mgmt.wantsSnapshot node) (SnapshotAsks node) node name →
      next.Attends (Mgmt.wantsSnapshot node) (SnapshotAsks node) node name) :
    Unforgotten worker (shared.setSnapshots next) := by
  cases worker with
  | snapshot node name => exact kept node name unforgotten
  | request | volume | backup => exact unforgotten

theorem unforgotten_setBackups {next : Resource ZFSBackupSpec ZFSBackupStatus}
    (unforgotten : Unforgotten worker shared)
    (kept : ∀ node name,
      shared.backups.Attends (Mgmt.wantsBackup node) (BackupAsks node) node name →
      next.Attends (Mgmt.wantsBackup node) (BackupAsks node) node name) :
    Unforgotten worker (shared.setBackups next) := by
  cases worker with
  | backup node name => exact kept node name unforgotten
  | request | volume | snapshot => exact unforgotten

/-- A state that differs only in what is no resource. -/
theorem Unforgotten.congr (unforgotten : Unforgotten worker shared)
    (volumes : after.volumes = shared.volumes)
    (snapshots : after.snapshots = shared.snapshots) (backups : after.backups = shared.backups) :
    Unforgotten worker after := by
  cases worker with
  | request => trivial
  | volume node name =>
      simpa only [Unforgotten, volumes] using unforgotten
  | snapshot node name =>
      simpa only [Unforgotten, snapshots] using unforgotten
  | backup node name =>
      simpa only [Unforgotten, backups] using unforgotten

/-- A call only adds changes that are yet to be replayed. -/
theorem Unforgotten.call (unforgotten : Unforgotten worker shared)
    (effect : Effect thread shared op after) :
    Unforgotten worker after := by
  cases effect with
  | createVolume vol accepted | updateVolume vol accepted | deleteVolume name accepted =>
      exact unforgotten_setVolumes unforgotten fun _ _ attends => attends.write accepted
  | createSnapshot snap accepted | updateSnapshot snap accepted | deleteSnapshot name accepted =>
      exact unforgotten_setSnapshots unforgotten fun _ _ attends => attends.write accepted
  | updateBackup bkp accepted =>
      exact unforgotten_setBackups unforgotten fun _ _ attends => attends.write accepted
  | same | lock | unlock | zfs => exact unforgotten.congr rfl rfl rfl

/-- What is deleted has a finalizer, and nothing but a deletion makes a snapshot or a backup
ask for work again. -/
structure Heedful (shared : Shared) : Prop where
  volumes : shared.volumes.Finalized
  snapshots : shared.snapshots.Finalized
  backups : shared.backups.Finalized
  snapshotLines : ∀ node, shared.snapshots.Lineage SnapshotBecomes node
  backupLines : ∀ node, shared.backups.Lineage BackupBecomes node

theorem Unforgotten.env (unforgotten : Unforgotten worker shared) (heedful : Heedful shared)
    {move : Move} (moved : env move shared = some after) : Unforgotten worker after := by
  cases move with
  | deliverVolume node name =>
      obtain ⟨next, stepped, rfl⟩ := Option.map_eq_some_iff.mp moved
      apply unforgotten_setVolumes unforgotten
      intro node name attends
      have lineage : shared.volumes.Lineage (fun _ _ => True) node :=
        Resource.lineage_of_forall fun _ _ => trivial
      exact attends.deliver (heeds_wantsVolume node) lineage stepped
  | resyncVolume node name =>
      obtain ⟨next, stepped, rfl⟩ := Option.map_eq_some_iff.mp moved
      exact unforgotten_setVolumes unforgotten fun _ _ attends => attends.resync stepped
  | handleVolume node =>
      obtain ⟨next, stepped, rfl⟩ := Option.map_eq_some_iff.mp moved
      exact unforgotten_setVolumes unforgotten fun _ _ attends => attends.handle stepped
  | deliverSnapshot node name =>
      obtain ⟨next, stepped, rfl⟩ := Option.map_eq_some_iff.mp moved
      apply unforgotten_setSnapshots unforgotten
      intro node name attends
      exact attends.deliver (heeds_wantsSnapshot node) (heedful.snapshotLines node) stepped
  | resyncSnapshot node name =>
      obtain ⟨next, stepped, rfl⟩ := Option.map_eq_some_iff.mp moved
      exact unforgotten_setSnapshots unforgotten fun _ _ attends => attends.resync stepped
  | handleSnapshot node =>
      obtain ⟨next, stepped, rfl⟩ := Option.map_eq_some_iff.mp moved
      exact unforgotten_setSnapshots unforgotten fun _ _ attends => attends.handle stepped
  | deliverBackup node name =>
      obtain ⟨next, stepped, rfl⟩ := Option.map_eq_some_iff.mp moved
      apply unforgotten_setBackups unforgotten
      intro node name attends
      exact attends.deliver (heeds_wantsBackup node) (heedful.backupLines node) stepped
  | resyncBackup node name =>
      obtain ⟨next, stepped, rfl⟩ := Option.map_eq_some_iff.mp moved
      exact unforgotten_setBackups unforgotten fun _ _ attends => attends.resync stepped
  | handleBackup node =>
      obtain ⟨next, stepped, rfl⟩ := Option.map_eq_some_iff.mp moved
      exact unforgotten_setBackups unforgotten fun _ _ attends => attends.handle stepped
  | collectVolume name =>
      obtain ⟨next, stepped, rfl⟩ := Option.map_eq_some_iff.mp moved
      exact unforgotten_setVolumes unforgotten fun _ _ attends => attends.collect stepped
  | collectSnapshot name =>
      obtain ⟨next, stepped, rfl⟩ := Option.map_eq_some_iff.mp moved
      exact unforgotten_setSnapshots unforgotten fun _ _ attends => attends.collect stepped
  | collectBackup name =>
      obtain ⟨next, stepped, rfl⟩ := Option.map_eq_some_iff.mp moved
      exact unforgotten_setBackups unforgotten fun _ _ attends => attends.collect stepped
  | createBackup bkp =>
      obtain ⟨next, stepped, rfl⟩ := Option.map_eq_some_iff.mp moved
      exact unforgotten_setBackups unforgotten fun _ _ attends =>
        attends.write (eq_ok_of_toOption stepped)
  | deleteBackup name =>
      obtain ⟨next, stepped, rfl⟩ := Option.map_eq_some_iff.mp moved
      exact unforgotten_setBackups unforgotten fun _ _ attends =>
        attends.write (eq_ok_of_toOption stepped)
  | report nodes zfsNodes =>
      obtain rfl := Option.some.inj moved
      exact unforgotten.congr rfl rfl rfl

/-- A worker that starts takes its own name only. -/
theorem Unforgotten.arrive {compile : Compile} {arrival : Arrival} {program : Routine Answer}
    (unforgotten : Unforgotten worker shared) (other : worker ≠ thread)
    (arrived : arrive compile arrival shared = some (thread, program, after)) :
    Unforgotten worker after := by
  cases arrival with
  | request id req =>
      simp only [Cluster.arrive, Option.ite_none_right_eq_some, Option.some.injEq,
        Prod.mk.injEq] at arrived
      obtain ⟨_, rfl, rfl, rfl⟩ := arrived
      exact unforgotten.congr rfl rfl rfl
  | syncVolume node name =>
      obtain ⟨next, taken, equal⟩ := Option.map_eq_some_iff.mp arrived
      cases equal
      cases worker with
      | volume node' name' =>
          apply Resource.Attends.take unforgotten _ taken
          rintro ⟨rfl, rfl⟩
          exact other rfl
      | request | snapshot | backup => exact unforgotten
  | syncSnapshot node name =>
      obtain ⟨next, taken, equal⟩ := Option.map_eq_some_iff.mp arrived
      cases equal
      cases worker with
      | snapshot node' name' =>
          apply Resource.Attends.take unforgotten _ taken
          rintro ⟨rfl, rfl⟩
          exact other rfl
      | request | volume | backup => exact unforgotten
  | syncBackup node name =>
      obtain ⟨next, taken, equal⟩ := Option.map_eq_some_iff.mp arrived
      cases equal
      cases worker with
      | backup node' name' =>
          apply Resource.Attends.take unforgotten _ taken
          rintro ⟨rfl, rfl⟩
          exact other rfl
      | request | volume | snapshot => exact unforgotten

theorem Unforgotten.leave (unforgotten : Unforgotten worker shared) (thread : Tid)
    (answer : Answer) :
    Unforgotten worker (leave thread answer shared) := by
  unfold Cluster.leave
  split
  · split
    · exact unforgotten
    · exact unforgotten.congr rfl rfl rfl
  · exact unforgotten_setVolumes unforgotten fun _ _ attends => attends.requeue _ _
  · exact unforgotten_setSnapshots unforgotten fun _ _ attends => attends.requeue _ _
  · exact unforgotten_setBackups unforgotten fun _ _ attends => attends.requeue _ _
  · exact unforgotten

/-- What a worker has to have done when it is finished: a failed sync is repeated. -/
def Finished (worker : Tid) (answer : Answer) (shared : Shared) : Prop :=
  (∃ id, worker = .request id) ∨
    ∃ result, answer = .sync result ∧ (result = .ok () → Unforgotten worker shared)

theorem Finished.unforgotten {answer : Answer} (finished : Finished worker answer shared) :
    Unforgotten worker (leave worker answer shared) := by
  rcases finished with ⟨id, rfl⟩ | ⟨result, rfl, done⟩
  · trivial
  · cases result with
    | ok done' => exact (done rfl).leave _ _
    | error err =>
        cases worker with
        | request id => trivial
        | volume node name => exact Resource.attends_requeue _ _ _
        | snapshot node name => exact Resource.attends_requeue _ _ _
        | backup node name => exact Resource.attends_requeue _ _ _

/-! ## What is stored -/

/-- A step of the backups in which none is written back to be tried again. -/
def BackupStep (backups next : Resource ZFSBackupSpec ZFSBackupStatus) : Prop :=
  ∃ client : Option Unit, backups.Change (fun _ _ => True) (fun _ _ bkp => Tried bkp)
    (fun _ _ => True) client next

theorem BackupStep.lineage {backups next : Resource ZFSBackupSpec ZFSBackupStatus} {node : String}
    (step : BackupStep backups next) (lineage : backups.Lineage BackupBecomes node) :
    next.Lineage BackupBecomes node := by
  obtain ⟨client, change⟩ := step
  apply change.lineage lineage
  · exact fun _ _ _ _ tried => tried
  · exact fun _ _ deleted => .inl deleted

theorem SnapshotWrite.becomes {snapshots : Resource VolumeInfo State} {base snap : ZFSSnapshot}
    (write : SnapshotWrite snapshots thread base snap) : SnapshotBecomes base snap := by
  cases write with
  | ready => exact .inr rfl
  | release node name base held deleted => exact .inl deleted

theorem snapshotLines_of_change {snapshots next : Resource VolumeInfo State}
    {caller : Option (Tid × Op)} {node : String} (change : SnapshotChange snapshots caller next)
    (lineage : snapshots.Lineage SnapshotBecomes node) : next.Lineage SnapshotBecomes node := by
  apply change.lineage lineage
  · intro _ base snap _ write
    have becomes := SnapshotWrite.becomes write.1
    exact becomes
  · exact fun _ _ deleted => .inl deleted

theorem Heedful.env (heedful : Heedful shared) {move : Move}
    (effect : EnvEffect shared move after) :
    Heedful after := by
  have snapshotLines (node : String) : after.snapshots.Lineage SnapshotBecomes node :=
    snapshotLines_of_change effect.drift.snapshots (heedful.snapshotLines node)
  have backupLines (node : String) (step : BackupStep shared.backups after.backups) :
      after.backups.Lineage BackupBecomes node :=
    step.lineage (heedful.backupLines node)
  have backupsKept : BackupStep shared.backups shared.backups := ⟨none, .quiet _ (.refl _)⟩
  cases effect with
  | volumes move quiet =>
      exact ⟨heedful.volumes.quiet quiet, heedful.snapshots, heedful.backups, snapshotLines,
        fun node => backupLines node backupsKept⟩
  | snapshots move quiet =>
      exact ⟨heedful.volumes, heedful.snapshots.quiet quiet, heedful.backups, snapshotLines,
        fun node => backupLines node backupsKept⟩
  | backups move quiet =>
      exact ⟨heedful.volumes, heedful.snapshots, heedful.backups.quiet quiet, snapshotLines,
        fun node => backupLines node ⟨none, .quiet _ quiet⟩⟩
  | collectVolume name collected =>
      exact ⟨heedful.volumes.collect collected, heedful.snapshots, heedful.backups, snapshotLines,
        fun node => backupLines node backupsKept⟩
  | collectSnapshot name collected =>
      exact ⟨heedful.volumes, heedful.snapshots.collect collected, heedful.backups, snapshotLines,
        fun node => backupLines node backupsKept⟩
  | collectBackup name collected =>
      exact ⟨heedful.volumes, heedful.snapshots, heedful.backups.collect collected, snapshotLines,
        fun node => backupLines node ⟨none, Resource.change_of_collect collected⟩⟩
  | createBackup bkp accepted =>
      exact ⟨heedful.volumes, heedful.snapshots, heedful.backups.create accepted, snapshotLines,
        fun node => backupLines node ⟨some (), Resource.change_of_create trivial accepted⟩⟩
  | deleteBackup name accepted =>
      exact ⟨heedful.volumes, heedful.snapshots, heedful.backups.delete accepted, snapshotLines,
        fun node => backupLines node ⟨some (), Resource.change_of_delete trivial accepted⟩⟩
  | report =>
      exact ⟨heedful.volumes, heedful.snapshots, heedful.backups, snapshotLines,
        fun node => backupLines node backupsKept⟩

/-- What the backup agent owes when it writes a backup. -/
def WritesTried (thread : Tid) (op : Op) : Prop :=
  ∀ node name bkp, thread = .backup node name → op = .updateBackup bkp → Tried bkp

theorem backupStep_of_call (effect : Effect thread shared op after)
    (disciplined : Disciplined (fun _ _ => True) thread op shared) (tried : WritesTried thread op) :
    BackupStep shared.backups after.backups := by
  cases effect with
  | updateBackup bkp accepted =>
      obtain ⟨base, known, write⟩ := disciplined
      have isTried : Tried bkp := by
        cases write with
        | settle node name => exact tried node name _ rfl rfl
        | release node name => exact tried node name _ rfl rfl
      exact ⟨some (), Resource.change_of_update isTried write.rewrites known accepted⟩
  | same | lock | unlock | createVolume | updateVolume | deleteVolume | createSnapshot
  | updateSnapshot | deleteSnapshot | zfs => exact ⟨none, .quiet _ (.refl _)⟩

theorem Heedful.call (heedful : Heedful shared) (effect : Effect thread shared op after)
    (disciplined : Disciplined (fun _ _ => True) thread op shared)
    (tried : WritesTried thread op) : Heedful after := by
  have snapshotLines (node : String) : after.snapshots.Lineage SnapshotBecomes node :=
    snapshotLines_of_change (effect.snapshotChange disciplined) (heedful.snapshotLines node)
  have backupLines (node : String) : after.backups.Lineage BackupBecomes node :=
    (backupStep_of_call effect disciplined tried).lineage (heedful.backupLines node)
  have volumes := heedful.volumes
  have snapshots := heedful.snapshots
  have backups := heedful.backups
  cases effect with
  | createVolume vol accepted =>
      exact ⟨volumes.create accepted, snapshots, backups, snapshotLines, backupLines⟩
  | updateVolume vol accepted =>
      exact ⟨volumes.update accepted, snapshots, backups, snapshotLines, backupLines⟩
  | deleteVolume name accepted =>
      exact ⟨volumes.delete accepted, snapshots, backups, snapshotLines, backupLines⟩
  | createSnapshot snap accepted =>
      exact ⟨volumes, snapshots.create accepted, backups, snapshotLines, backupLines⟩
  | updateSnapshot snap accepted =>
      exact ⟨volumes, snapshots.update accepted, backups, snapshotLines, backupLines⟩
  | deleteSnapshot name accepted =>
      exact ⟨volumes, snapshots.delete accepted, backups, snapshotLines, backupLines⟩
  | updateBackup bkp accepted =>
      exact ⟨volumes, snapshots, backups.update accepted, snapshotLines, backupLines⟩
  | same | lock | unlock | zfs => exact ⟨volumes, snapshots, backups, snapshotLines, backupLines⟩

theorem Heedful.quiet (heedful : Heedful shared) (volumes : shared.volumes.Quiet after.volumes)
    (snapshots : shared.snapshots.Quiet after.snapshots)
    (backups : shared.backups.Quiet after.backups) : Heedful after where
  volumes := heedful.volumes.quiet volumes
  snapshots := heedful.snapshots.quiet snapshots
  backups := heedful.backups.quiet backups
  snapshotLines := fun node => (heedful.snapshotLines node).quiet snapshots
  backupLines := fun node => (heedful.backupLines node).quiet backups

theorem Heedful.arrive {compile : Compile} {arrival : Arrival} {program : Routine Answer}
    (heedful : Heedful shared)
    (effect : ArriveEffect compile shared arrival thread program after) : Heedful after := by
  cases effect with
  | request => exact heedful.quiet (.refl _) (.refl _) (.refl _)
  | syncVolume node name quiet => exact heedful.quiet quiet (.refl _) (.refl _)
  | syncSnapshot node name quiet => exact heedful.quiet (.refl _) quiet (.refl _)
  | syncBackup node name quiet => exact heedful.quiet (.refl _) (.refl _) quiet

theorem Heedful.leave {answer : Answer} (heedful : Heedful shared)
    (effect : LeaveEffect shared thread answer after) : Heedful after := by
  cases effect with
  | same | request => exact heedful.quiet (.refl _) (.refl _) (.refl _)
  | volumes node name answer quiet => exact heedful.quiet quiet (.refl _) (.refl _)
  | snapshots node name answer quiet => exact heedful.quiet (.refl _) quiet (.refl _)
  | backups node name answer quiet => exact heedful.quiet (.refl _) (.refl _) quiet

end Steps

/-! ## The contract -/

/-- Workers may count on the others not to make the cluster forget a name, and owe that they
put their name back or leave it settled. -/
def remembering (compile : Compile) : Contract (cluster compile) where
  Inv := Heedful
  Rely := fun worker shared after =>
    Advances shared after ∧ (Unforgotten worker shared → Unforgotten worker after)
  Guard := fun thread op _ shared => Disciplined (fun _ _ => True) thread op shared
  Ok := fun thread op _ => WritesTried thread op
  Post := Finished
  rely_refl := fun _ shared => ⟨.refl shared, fun unforgotten => unforgotten⟩
  rely_trans := fun first second =>
    ⟨first.1.trans second.1, fun unforgotten => second.2 (first.2 unforgotten)⟩

section Workers

variable {compile : Compile} {shared : Shared} {worker : Tid} {node name : String} {α : Type}

/-- A sync that does not fail leaves its name settled or waiting. -/
def Concludes (worker : Tid) (result : Except Err Unit) (shared : Shared) : Prop :=
  result = .ok () → Unforgotten worker shared

theorem remembering_failed (err : Err) : (remembering compile).Keeps worker
    (pure (.error err) : Routine (Except Err Unit)) (Concludes worker) shared := by
  intro now _ _ succeeded
  contradiction

/-- A program that makes no write of a backup keeps what lasts. -/
theorem remembering_stable {Fact : Shared → Prop} {program : Routine α}
    (calls : program.Calls fun op => WritesTried worker op)
    (rely : ∀ {before after}, (remembering compile).Rely worker before after → Fact before →
      Fact after)
    (own : ∀ {op before after}, Effect worker before op after → Fact before → Fact after)
    (holds : Fact shared) :
    (remembering compile).Keeps worker program (fun _ => Fact) shared := by
  apply Contract.keeps_of_stable calls
  · exact rely
  · exact fun tried _ _ => tried
  · exact fun _ _ _ fact executed => own (exec_effect executed) fact
  · exact holds

/-- Whatever a worker does on top, a name that waits or is settled stays so. -/
theorem remembering_unforgotten {program : Routine α}
    (calls : program.Calls fun op => WritesTried worker op)
    (unforgotten : Unforgotten worker shared) :
    (remembering compile).Keeps worker program (fun _ => Unforgotten worker) shared := by
  apply remembering_stable calls _ _ unforgotten
  · exact fun moved unforgotten => moved.2 unforgotten
  · exact fun effect unforgotten => unforgotten.call effect

theorem remembering_concluded {program : Routine (Except Err Unit)}
    (calls : program.Calls fun op => WritesTried worker op)
    (unforgotten : Unforgotten worker shared) :
    (remembering compile).Keeps worker program (Concludes worker) shared :=
  (remembering_unforgotten calls unforgotten).mono fun _ _ _ unforgotten _ => unforgotten

theorem calls_writesTried (program : Routine α) (free : ∀ node name, worker ≠ .backup node name) :
    program.Calls fun op => WritesTried worker op := by
  induction program with
  | ret value => trivial
  | call op next ih =>
      constructor
      · intro node name bkp isBackup
        exact absurd isBackup (free node name)
      · exact ih

/-! ### The resource of a worker -/

section Tends

variable {Spec Status : Type} {wants : Event Spec Status → Bool}
  {Asks : Object Spec Status → Prop} {resource : Shared → Resource Spec Status}
  {base new : Object Spec Status}

/-- A worker tends its name in one resource: it is not forgotten as long as its node attends
to that name. -/
structure Tends (worker : Tid) (node name : String) (wants : Event Spec Status → Bool)
    (Asks : Object Spec Status → Prop) (resource : Shared → Resource Spec Status) : Prop where
  unforgotten : ∀ {shared}, (resource shared).Attends wants Asks node name →
    Unforgotten worker shared
  advances : ∀ {before after}, Advances before after →
    (resource before).Advances (resource after)

theorem Tends.held (tends : Tends worker node name wants Asks resource) {program : Routine α}
    (calls : program.Calls fun op => WritesTried worker op)
    (held : (resource shared).Held node name base) :
    (remembering compile).Keeps worker program (fun _ now => (resource now).Held node name base)
      shared := by
  apply remembering_stable calls _ _ held
  · exact fun moved held => held.advance (tends.advances moved.1)
  · exact fun effect held => held.advance (tends.advances effect.advances)

theorem Tends.absent (tends : Tends worker node name wants Asks resource)
    (cached : ((resource shared).informers node).cache name = none) :
    Unforgotten worker shared :=
  tends.unforgotten (Informer.attends_of_absent cached)

theorem Tends.settled (tends : Tends worker node name wants Asks resource)
    (cached : ((resource shared).informers node).cache name = some base)
    (settled : ¬ Asks base) : Unforgotten worker shared := by
  apply tends.unforgotten
  intro object shown asks
  cases cached.symm.trans shown
  exact absurd asks settled

/-- An accepted write that changes the held copy is yet to be replayed. -/
theorem Tends.written [DecidableEq Spec] [DecidableEq Status]
    (tends : Tends worker node name wants Asks resource) {attempt : Attempt}
    {set : Resource Spec Status → Shared} {answer : Except Err Unit} {after : Shared}
    (answered :
      writeAnswer attempt shared (((resource shared).update new).map set) = (answer, after))
    (sets : ∀ next, resource (set next) = next)
    (held : (resource shared).Held node name base) (rewrites : Rewrites base new)
    (changes : (resource shared).get name = some base → new ≠ base) :
    Concludes worker answer after := by
  rintro rfl
  rcases writeAnswer_cases answered with ⟨_, refused⟩ | ⟨next, accepted, rfl⟩
  · exact absurd rfl refused
  · apply tends.unforgotten
    rw [sets]
    exact Resource.attends_of_update held rewrites changes accepted

theorem Concludes.returns {result : Except Err Unit} (concludes : Concludes worker result shared) :
    (remembering compile).Keeps worker (pure result : Routine (Except Err Unit))
      (Concludes worker) shared :=
  fun _ moved _ succeeded => moved.2 (concludes succeeded)

/-- What is deleted and stored has a finalizer to lose. -/
theorem released_ne {resource : Resource Spec Status} (finalized : resource.Finalized)
    (deleted : base.deletionTimestamp = true) (stored : resource.get name = some base) :
    { base with finalizers := [] } ≠ base := by
  intro same
  apply finalized name base stored deleted
  exact (congrArg (fun object => object.finalizers) same).symm

end Tends

/-! ### Volumes -/

theorem tends_volume (node name : String) : Tends (.volume node name) node name
    (Mgmt.wantsVolume node) (VolumeAsks node) fun shared => shared.volumes where
  unforgotten := fun attends => attends
  advances := fun advances => advances.volumes

theorem remembering_updateVolume {base new : ZFSVolume}
    (held : shared.volumes.Held node name base) (rewrites : Rewrites base new)
    (changes : ∀ now, Heedful now → now.volumes.get name = some base → new ≠ base) :
    (remembering compile).Keeps (.volume node name) (call (.updateVolume new))
      (Concludes (.volume node name)) shared := by
  intro now moved heedful
  constructor
  · exact fun _ _ _ isBackup => nomatch isBackup
  · intro choice answer after _ executed
    exact ((tends_volume node name).written (Option.some.inj executed) (fun _ => rfl)
      (held.advance moved.1.volumes) rewrites (changes now heedful)).returns

theorem remembering_syncVolume :
    (remembering compile).Keeps (.volume node name) (Mgmt.syncVolume node name)
      (Concludes (.volume node name)) shared := by
  have tends := tends_volume node name
  have free {γ : Type} (program : Routine γ) := calls_writesTried program
    (show ∀ node' name', Tid.volume node name ≠ .backup node' name' from fun _ _ => nofun)
  apply keeps_syncVolume
  · exact fun _ _ _ _ _ isBackup => nomatch isBackup
  · exact fun now cached => remembering_concluded (free _) (tends.absent cached)
  · intro base choice now _ _ cached
    by_cases asks : VolumeAsks node base
    · have held := Resource.held_of_cached cached
      apply keeps_syncZV fun err _ => remembering_failed err
      · intro deleted
        apply (tends.held (free _) held).mono
        intro answer later _ held _
        apply remembering_updateVolume held
        · exact ⟨rfl, rfl, rfl⟩
        · exact fun _ heedful => released_ne heedful.volumes deleted
      · intro live _ ready
        have pending := asks.2.resolve_left (Bool.eq_false_iff.mp live)
        simp [isVolumeReady, pending] at ready
      · intro live _
        have pending := asks.2.resolve_left (Bool.eq_false_iff.mp live)
        apply (tends.held (free _) held).mono
        intro answer later _ held
        rw [updateZvolInfo_eq]
        apply remembering_updateVolume held
        · exact ⟨rfl, rfl, rfl⟩
        · intro _ _ _ same
          have statusEq : stateAfter answer = base.status := congrArg (fun vol => vol.status) same
          rw [pending] at statusEq
          cases answer with
          | ok done => contradiction
          | error err => contradiction
    · exact remembering_concluded (free _) (tends.settled cached asks)

/-! ### Snapshots -/

theorem tends_snapshot (node name : String) : Tends (.snapshot node name) node name
    (Mgmt.wantsSnapshot node) (SnapshotAsks node) fun shared => shared.snapshots where
  unforgotten := fun attends => attends
  advances := fun advances => advances.snapshots

theorem remembering_updateSnapshot {base new : ZFSSnapshot}
    (held : shared.snapshots.Held node name base) (rewrites : Rewrites base new)
    (changes : ∀ now, Heedful now → now.snapshots.get name = some base → new ≠ base) :
    (remembering compile).Keeps (.snapshot node name) (call (.updateSnapshot new))
      (Concludes (.snapshot node name)) shared := by
  intro now moved heedful
  constructor
  · exact fun _ _ _ isBackup => nomatch isBackup
  · intro choice answer after _ executed
    exact ((tends_snapshot node name).written (Option.some.inj executed) (fun _ => rfl)
      (held.advance moved.1.snapshots) rewrites (changes now heedful)).returns

theorem remembering_syncSnapshot :
    (remembering compile).Keeps (.snapshot node name) (Mgmt.syncSnapshot node name)
      (Concludes (.snapshot node name)) shared := by
  have tends := tends_snapshot node name
  have free {γ : Type} (program : Routine γ) := calls_writesTried program
    (show ∀ node' name', Tid.snapshot node name ≠ .backup node' name' from fun _ _ => nofun)
  apply keeps_syncSnapshot
  · exact fun _ _ _ _ _ isBackup => nomatch isBackup
  · exact fun now cached => remembering_concluded (free _) (tends.absent cached)
  · intro base choice now _ _ cached
    by_cases asks : SnapshotAsks node base
    · have held := Resource.held_of_cached cached
      apply keeps_syncSnap fun err _ => remembering_failed err
      · intro deleted
        apply (tends.held (free _) held).mono
        intro answer later _ held _
        apply remembering_updateSnapshot held
        · exact ⟨rfl, rfl, rfl⟩
        · exact fun _ heedful => released_ne heedful.snapshots deleted
      · intro live ready
        exact absurd ready (asks.2.resolve_left (Bool.eq_false_iff.mp live))
      · intro _ unready
        apply (tends.held (free _) held).mono
        intro answer later _ held _
        apply remembering_updateSnapshot held
        · exact ⟨rfl, rfl, rfl⟩
        · intro _ _ _ same
          exact unready (congrArg (fun snap => snap.status) same).symm
    · exact remembering_concluded (free _) (tends.settled cached asks)

/-! ### Backups -/

theorem tends_backup (node name : String) : Tends (.backup node name) node name
    (Mgmt.wantsBackup node) (BackupAsks node) fun shared => shared.backups where
  unforgotten := fun attends => attends
  advances := fun advances => advances.backups

theorem remembering_updateBackup {base new : ZFSBackup}
    (held : shared.backups.Held node name base) (rewrites : Rewrites base new) (tried : Tried new)
    (changes : ∀ now, Heedful now → now.backups.get name = some base → new ≠ base) :
    (remembering compile).Keeps (.backup node name) (call (.updateBackup new))
      (Concludes (.backup node name)) shared := by
  intro now moved heedful
  constructor
  · rintro _ _ bkp _ isUpdate
    cases isUpdate
    exact tried
  · intro choice answer after _ executed
    exact ((tends_backup node name).written (Option.some.inj executed) (fun _ => rfl)
      (held.advance moved.1.backups) rewrites (changes now heedful)).returns

theorem calls_createBackup {P : Op → Prop} {bkp : ZFSBackup} (asks : ∀ op, op.Asks → P op)
    (runs : ∀ command, P (.zfs node command)) (sends : ∀ args, P (.send node args)) :
    (createBackup node bkp).Calls P := by
  apply ((calls_getZFSVolume _ _).mono asks).bind
  intro found
  cases found with
  | error err => trivial
  | ok vol =>
      apply (calls_createSnapshot (runs _) fun _ => runs _).bind
      intro answer
      cases answer with
      | error err => trivial
      | ok taken =>
          dsimp only
          split
          · trivial
          · apply calls_call_bind (sends _)
            intro answer
            cases answer with
            | error out => trivial
            | ok sent => trivial

theorem calls_destoryBackup {P : Op → Prop} {bkp : ZFSBackup} (asks : ∀ op, op.Asks → P op)
    (runs : ∀ command, P (.zfs node command)) : (destoryBackup node bkp).Calls P := by
  apply ((calls_getZFSVolume _ _).mono asks).bind
  intro found
  cases found with
  | error err =>
      dsimp only
      split
      · trivial
      · trivial
  | ok vol => exact calls_destroySnapshot (fun _ => runs _) (runs _)

theorem Op.Asks.ne_updateBackup {op : Op} (asks : op.Asks) (bkp : ZFSBackup) :
    op ≠ .updateBackup bkp := by
  rintro rfl
  exact asks

theorem remembering_syncBkp {base : ZFSBackup}
    (cached : (shared.backups.informers node).cache name = some base) :
    (remembering compile).Keeps (.backup node name) (Mgmt.syncBkp node base)
      (Concludes (.backup node name)) shared := by
  have tends := tends_backup node name
  have held := Resource.held_of_cached cached
  have tried {op : Op} (other : ∀ bkp, op ≠ .updateBackup bkp) :
      WritesTried (.backup node name) op :=
    fun _ _ bkp _ isUpdate => absurd isUpdate (other bkp)
  apply keeps_syncBkp fun err _ => remembering_failed err
  · intro deleted
    apply (tends.held _ held).mono
    · intro answer later _ held _
      apply remembering_updateBackup held
      · exact ⟨rfl, rfl, rfl⟩
      · exact .inl deleted
      · exact fun _ heedful => released_ne heedful.backups deleted
    · exact calls_destoryBackup (fun _ asks => tried (Op.Asks.ne_updateBackup asks))
        fun _ => tried fun _ => nofun
  · intro _ unsent
    apply (tends.held _ held).mono
    · intro answer later _ held
      have differs : backupStatusAfter answer ≠ .init := by
        cases answer with
        | ok done => exact nofun
        | error err => exact nofun
      apply remembering_updateBackup held
      · exact ⟨rfl, rfl, rfl⟩
      · exact .inr differs
      · intro _ _ _ same
        have statusEq : backupStatusAfter answer = base.status :=
          congrArg (fun bkp => bkp.status) same
        exact differs (statusEq.trans unsent)
    · exact calls_createBackup (fun _ asks => tried (Op.Asks.ne_updateBackup asks))
        (fun _ => tried fun _ => nofun) fun _ => tried fun _ => nofun
  · intro live sent
    apply remembering_concluded
    · trivial
    · apply tends.settled cached
      exact fun asks => asks.2.elim (Bool.eq_false_iff.mp live) sent

theorem remembering_syncBackup :
    (remembering compile).Keeps (.backup node name) (Mgmt.syncBackup node name)
      (Concludes (.backup node name)) shared := by
  apply keeps_syncBackup
  · exact fun _ _ _ _ _ _ isUpdate => nomatch isUpdate
  · intro now cached
    apply remembering_concluded
    · trivial
    · exact (tends_backup node name).absent cached
  · exact fun base choice now _ _ cached => remembering_syncBkp cached

end Workers

/-! ## Runs -/

section Runs

variable {compile : Compile} {start config : Config sig Shared Tid Answer}
  {Meets : Action Tid Choice Move Arrival → Config sig Shared Tid Answer → Prop}

theorem remembering_arrival {shared after : Shared} {arrival : Arrival} {thread : Tid}
    {program : Routine Answer} (effect : ArriveEffect compile shared arrival thread program after) :
    (remembering compile).Keeps thread program (Finished thread) after := by
  have finishes {worker : Tid} {now : Shared} (result : Except Err Unit)
      (settles : Concludes worker result now) : (remembering compile).Keeps worker
        (pure (.sync result) : Routine Answer) (Finished worker) now :=
    fun later moved _ => .inr ⟨result, rfl, fun done => moved.2 (settles done)⟩
  cases effect with
  | request id req =>
      have unforgotten : Unforgotten (.request id)
          { shared with inFlight := Function.update shared.inFlight id (some req) } := trivial
      apply (remembering_unforgotten (calls_writesTried _ (by simp)) unforgotten).mono
      exact fun _ _ _ _ => .inl ⟨id, rfl⟩
  | syncVolume node name =>
      apply Contract.Keeps.bind
      exact remembering_syncVolume.mono fun result now _ settles => finishes result settles
  | syncSnapshot node name =>
      apply Contract.Keeps.bind
      exact remembering_syncSnapshot.mono fun result now _ settles => finishes result settles
  | syncBackup node name =>
      apply Contract.Keeps.bind
      exact remembering_syncBackup.mono fun result now _ settles => finishes result settles

theorem remembering_sound : (remembering compile).Sound fun action config =>
    Meets action config ∧ System.AtCalls (fun thread op _ shared =>
      Disciplined (fun _ _ => True) thread op shared) action config where
  guard := fun meets atCall => meets.2 _ _ atCall
  call := by
    intro thread op choice before answer after heedful tried disciplined executed
    have effect := exec_effect executed
    exact ⟨heedful.call effect disciplined tried, fun _ _ =>
      ⟨effect.advances, fun unforgotten => unforgotten.call effect⟩⟩
  env := by
    intro config move after _ heedful moved
    have effect := env_effect moved
    exact ⟨heedful.env effect, fun _ =>
      ⟨effect.advances, fun unforgotten => unforgotten.env heedful moved⟩⟩
  arrive := by
    intro config arrival thread program after _ heedful arrived _
    have effect := arrive_effect arrived
    exact ⟨heedful.arrive effect, fun _ other =>
      ⟨effect.advances, fun unforgotten => unforgotten.arrive other arrived⟩,
      remembering_arrival effect⟩
  leave := by
    intro config thread answer _ heedful _ _
    have effect := leave_effect thread answer config.shared
    exact ⟨heedful.leave effect, fun _ _ =>
      ⟨effect.advances, fun unforgotten => unforgotten.leave thread answer⟩⟩

/-- Nobody is running, and every agent is about to replay a list of what is stored. -/
structure Started (start : Config sig Shared Tid Answer) : Prop where
  idle : ∀ thread, start.threads thread = none
  volumes : start.shared.volumes.Listed
  snapshots : start.shared.snapshots.Listed
  backups : start.shared.backups.Listed

theorem Started.heedful (started : Started start) : Heedful start.shared where
  volumes := started.volumes.finalized
  snapshots := started.snapshots.finalized
  backups := started.backups.finalized
  snapshotLines := started.snapshots.lineage
  backupLines := started.backups.lineage

theorem Started.unforgotten (started : Started start) (worker : Tid) :
    Unforgotten worker start.shared := by
  cases worker with
  | request id => trivial
  | volume node name => exact started.volumes.attends node name
  | snapshot node name => exact started.snapshots.attends node name
  | backup node name => exact started.backups.attends node name

/-- A worker that is not running has left its name settled or waiting. -/
theorem unforgotten_of_reaches (started : Started start)
    (reached : (cluster compile).Reaches Meets start config) {worker : Tid}
    (idle : config.threads worker = none) : Unforgotten worker config.shared := by
  have disciplined := reaches_disciplined provisionsOnly_true started.idle reached
  apply remembering_sound.leaves _ _ started.heedful started.idle started.unforgotten
    disciplined worker idle
  · exact fun moved unforgotten => moved.2 unforgotten
  · exact fun _ finished => finished.unforgotten

/-- In every state of every run, a volume that is deleted or has yet to be made is being
worked on by its node, or waits there for a worker. -/
theorem volume_not_forgotten (started : Started start)
    (reached : (cluster compile).Reaches Meets start config) {name : String} {vol : ZFSVolume}
    (stored : config.shared.volumes.get name = some vol)
    (unsettled : vol.deletionTimestamp = true ∨ vol.status = .pending) :
    (∃ program, config.threads (.volume vol.spec.ownerNodeID name) = some program) ∨
      (config.shared.volumes.informers vol.spec.ownerNodeID).Awaits
        (Mgmt.wantsVolume vol.spec.ownerNodeID) name := by
  cases running : config.threads (.volume vol.spec.ownerNodeID name) with
  | some program => exact .inl ⟨program, rfl⟩
  | none =>
      have unforgotten := unforgotten_of_reaches started reached running
      exact .inr (Resource.Attends.awaits unforgotten stored ⟨rfl, unsettled⟩)

theorem started_twoNodes : Started twoNodes :=
  ⟨fun _ => rfl, Resource.listed_empty, Resource.listed_empty, Resource.listed_empty⟩

/-- The dataset is made, but the write of the status fails. -/
def unreportedRun : List (Action Tid Choice Move Arrival) :=
  provisionSteps 0 ["a", "b"] ++
    [.env (.deliverVolume "a" "v"), .env (.handleVolume "a"), .arrive (.syncVolume "a" "v")] ++
    calls (.volume "a" "v") 3 ++
    [.call (.volume "a" "v") { outcome := .fail }, .leave (.volume "a" "v")]

theorem volume_not_forgotten_unreported :
    ∃ config vol, (cluster noRegexp).Reaches (fun _ _ => True) twoNodes config ∧
      config.shared.volumes.get "v" = some vol ∧ vol.status = .pending ∧
      ((∃ program, config.threads (.volume vol.spec.ownerNodeID "v") = some program) ∨
        (config.shared.volumes.informers vol.spec.ownerNodeID).Awaits
          (Mgmt.wantsVolume vol.spec.ownerNodeID) "v") := by
  have ran : ((cluster noRegexp).run (fun _ _ => True) unreportedRun twoNodes).any (fun config =>
      (config.shared.volumes.get "v").any fun vol => decide (vol.status = .pending)) = true := by
    decide +kernel
  obtain ⟨config, reached, checked⟩ := System.exists_reaches_of_run ran
  obtain ⟨vol, stored, holds⟩ := (Option.any_eq_true _ _).mp checked
  have pending := of_decide_eq_true holds
  exact ⟨config, vol, reached, stored, pending,
    volume_not_forgotten started_twoNodes reached stored (.inr pending)⟩

/-- So is a snapshot that is deleted or has yet to be taken. -/
theorem snapshot_not_forgotten (started : Started start)
    (reached : (cluster compile).Reaches Meets start config) {name : String} {snap : ZFSSnapshot}
    (stored : config.shared.snapshots.get name = some snap)
    (unsettled : snap.deletionTimestamp = true ∨ snap.status ≠ .ready) :
    (∃ program, config.threads (.snapshot snap.spec.ownerNodeID name) = some program) ∨
      (config.shared.snapshots.informers snap.spec.ownerNodeID).Awaits
        (Mgmt.wantsSnapshot snap.spec.ownerNodeID) name := by
  cases running : config.threads (.snapshot snap.spec.ownerNodeID name) with
  | some program => exact .inl ⟨program, rfl⟩
  | none =>
      have unforgotten := unforgotten_of_reaches started reached running
      exact .inr (Resource.Attends.awaits unforgotten stored ⟨rfl, unsettled⟩)

theorem started_readyCluster : Started (idle readyCluster) where
  idle := fun _ => rfl
  volumes :=
    { unseen := fun _ _ => rfl
      once := fun _ => List.nodup_singleton _
      finalized := by
        apply Resource.Finalized.commit Resource.listed_empty.finalized
        intro vol isPut deleted
        cases isPut
        contradiction }
  snapshots := Resource.listed_empty
  backups := Resource.listed_empty

theorem snapshot_not_forgotten_requested :
    ∃ config snap, (cluster noRegexp).Reaches (fun _ _ => True) (idle readyCluster) config ∧
      config.shared.snapshots.get "s" = some snap ∧ snap.status ≠ .ready ∧
      ((∃ program, config.threads (.snapshot snap.spec.ownerNodeID "s") = some program) ∨
        (config.shared.snapshots.informers snap.spec.ownerNodeID).Awaits
          (Mgmt.wantsSnapshot snap.spec.ownerNodeID) "s") := by
  have ran : ((cluster noRegexp).run (fun _ _ => True) (snapshotSteps 0) (idle readyCluster)).any
      (fun config => (config.shared.snapshots.get "s").any fun snap =>
        decide (snap.status ≠ .ready)) = true := by
    decide +kernel
  obtain ⟨config, reached, checked⟩ := System.exists_reaches_of_run ran
  obtain ⟨snap, stored, holds⟩ := (Option.any_eq_true _ _).mp checked
  have unready := of_decide_eq_true holds
  exact ⟨config, snap, reached, stored, unready,
    snapshot_not_forgotten started_readyCluster reached stored (.inr unready)⟩

/-- So is a backup that is deleted or has yet to be tried. -/
theorem backup_not_forgotten (started : Started start)
    (reached : (cluster compile).Reaches Meets start config) {name : String} {bkp : ZFSBackup}
    (stored : config.shared.backups.get name = some bkp)
    (unsettled : bkp.deletionTimestamp = true ∨ bkp.status = .init) :
    (∃ program, config.threads (.backup bkp.spec.ownerNodeID name) = some program) ∨
      (config.shared.backups.informers bkp.spec.ownerNodeID).Awaits
        (Mgmt.wantsBackup bkp.spec.ownerNodeID) name := by
  cases running : config.threads (.backup bkp.spec.ownerNodeID name) with
  | some program => exact .inl ⟨program, rfl⟩
  | none =>
      have unforgotten := unforgotten_of_reaches started reached running
      exact .inr (Resource.Attends.awaits unforgotten stored ⟨rfl, unsettled⟩)

/-- A backup of the volume that is yet to be sent by a node. -/
def unsentBackup : ZFSBackup where
  name := "b"
  spec := { ownerNodeID := "a", volumeName := "v", snapName := "s", backupDest := "10.0.0.1:9000" }
  status := .init

theorem backup_not_forgotten_unsent :
    ∃ config bkp, (cluster noRegexp).Reaches (fun _ _ => True) twoNodes config ∧
      config.shared.backups.get "b" = some bkp ∧ bkp.status = .init ∧
      ((∃ program, config.threads (.backup bkp.spec.ownerNodeID "b") = some program) ∨
        (config.shared.backups.informers bkp.spec.ownerNodeID).Awaits
          (Mgmt.wantsBackup bkp.spec.ownerNodeID) "b") := by
  have ran : ((cluster noRegexp).run (fun _ _ => True)
      [.env (.createBackup unsentBackup), .env (.deliverBackup "a" "b")] twoNodes).any
      (fun config => (config.shared.backups.get "b").any fun bkp =>
        decide (bkp.status = .init)) = true := by
    decide +kernel
  obtain ⟨config, reached, checked⟩ := System.exists_reaches_of_run ran
  obtain ⟨bkp, stored, holds⟩ := (Option.any_eq_true _ _).mp checked
  have unsent := of_decide_eq_true holds
  exact ⟨config, bkp, reached, stored, unsent,
    backup_not_forgotten started_twoNodes reached stored (.inr unsent)⟩

end Runs

end ZfsLocalPv.Properties

import ZfsLocalPv.ApiServer.Change
import ZfsLocalPv.Cluster.Discipline

/-!
# How volumes and snapshots change

Under the discipline every step of the cluster changes the volumes, and the snapshots, in one of
the ways of `Resource.Change`. A step that is no call of a thread only drifts: it writes nothing
and leaves the storage and the locks alone.
-/

namespace ZfsLocalPv.Cluster

open Api ApiServer Driver Interaction Zfs

variable {compile : Compile} {Allowed : ZFSVolume → ZFSVolume → Prop} {thread : Tid} {op : Op}
  {shared after : Shared}

/-- A step of the volumes, with the call that makes it. -/
abbrev VolumeChange (Allowed : ZFSVolume → ZFSVolume → Prop)
    (volumes : Resource VolumeInfo State) (caller : Option (Tid × Op))
    (next : Resource VolumeInfo State) : Prop :=
  volumes.Change (fun call vol => Fresh call.1 vol ∧ call.2 = .createVolume vol)
    (fun call base vol => VolumeWrite Allowed volumes call.1 base vol ∧
      call.2 = .updateVolume vol)
    (fun call name => call.2 = .deleteVolume name) caller next

/-- A step of the snapshots, with the call that makes it. -/
abbrev SnapshotChange (snapshots : Resource VolumeInfo State) (caller : Option (Tid × Op))
    (next : Resource VolumeInfo State) : Prop :=
  snapshots.Change (fun call snap => Fresh call.1 snap ∧ call.2 = .createSnapshot snap)
    (fun call base snap => SnapshotWrite snapshots call.1 base snap ∧
      call.2 = .updateSnapshot snap)
    (fun call name => call.2 = .deleteSnapshot name) caller next

/-- A step of the backups; only the environment creates any. -/
def BackupChange (Created : ZFSBackup → Prop)
    (backups next : Resource ZFSBackupSpec ZFSBackupStatus) : Prop :=
  ∃ client : Option Unit, backups.Change (fun _ bkp => Created bkp)
    (fun _ base bkp => ∃ thread, BackupWrite backups thread base bkp) (fun _ _ => True) client next

theorem VolumeWrite.rewrites {volumes : Resource VolumeInfo State} {base vol : ZFSVolume}
    (write : VolumeWrite Allowed volumes thread base vol) : Rewrites base vol := by
  cases write with
  | provision | mark | resize | settle | release => exact ⟨rfl, rfl, rfl⟩

theorem SnapshotWrite.rewrites {snapshots : Resource VolumeInfo State} {base snap : ZFSSnapshot}
    (write : SnapshotWrite snapshots thread base snap) : Rewrites base snap := by
  cases write with
  | ready | release => exact ⟨rfl, rfl, rfl⟩

theorem BackupWrite.rewrites {backups : Resource ZFSBackupSpec ZFSBackupStatus}
    {base bkp : ZFSBackup} (write : BackupWrite backups thread base bkp) : Rewrites base bkp := by
  cases write with
  | settle | release => exact ⟨rfl, rfl, rfl⟩

theorem backupChange_refl {Created : ZFSBackup → Prop}
    (backups : Resource ZFSBackupSpec ZFSBackupStatus) : BackupChange Created backups backups :=
  ⟨none, .quiet _ (.refl _)⟩

/-! ## Every step is a change -/

theorem Effect.volumeChange (effect : Effect thread shared op after)
    (disciplined : Disciplined Allowed thread op shared) :
    VolumeChange Allowed shared.volumes (some (thread, op)) after.volumes := by
  cases effect with
  | createVolume vol accepted => exact Resource.change_of_create ⟨disciplined, rfl⟩ accepted
  | updateVolume vol accepted =>
      obtain ⟨base, known, write⟩ := disciplined
      exact Resource.change_of_update ⟨write, rfl⟩ write.rewrites known accepted
  | deleteVolume name accepted => exact Resource.change_of_delete rfl accepted
  | same | lock | unlock | createSnapshot | updateSnapshot | deleteSnapshot | updateBackup
  | zfs => exact .quiet _ (.refl _)

theorem Effect.snapshotChange (effect : Effect thread shared op after)
    (disciplined : Disciplined Allowed thread op shared) :
    SnapshotChange shared.snapshots (some (thread, op)) after.snapshots := by
  cases effect with
  | createSnapshot snap accepted => exact Resource.change_of_create ⟨disciplined, rfl⟩ accepted
  | updateSnapshot snap accepted =>
      obtain ⟨base, known, write⟩ := disciplined
      exact Resource.change_of_update ⟨write, rfl⟩ write.rewrites known accepted
  | deleteSnapshot name accepted => exact Resource.change_of_delete rfl accepted
  | same | lock | unlock | createVolume | updateVolume | deleteVolume | updateBackup
  | zfs => exact .quiet _ (.refl _)

theorem Effect.backupChange {Created : ZFSBackup → Prop}
    (effect : Effect thread shared op after)
    (disciplined : Disciplined Allowed thread op shared) :
    BackupChange Created shared.backups after.backups := by
  cases effect with
  | updateBackup bkp accepted =>
      obtain ⟨base, known, write⟩ := disciplined
      exact ⟨some (), Resource.change_of_update ⟨thread, write⟩ write.rewrites known accepted⟩
  | same | lock | unlock | createVolume | updateVolume | deleteVolume | createSnapshot
  | updateSnapshot | deleteSnapshot | zfs => exact backupChange_refl _

theorem EnvEffect.backupChange {move : Move} (effect : EnvEffect shared move after) :
    BackupChange (fun bkp => move = .createBackup bkp) shared.backups after.backups := by
  cases effect with
  | backups move quiet => exact ⟨none, .quiet _ quiet⟩
  | collectBackup name collected => exact ⟨none, Resource.change_of_collect collected⟩
  | createBackup bkp accepted => exact ⟨some (), Resource.change_of_create rfl accepted⟩
  | deleteBackup name accepted => exact ⟨some (), Resource.change_of_delete trivial accepted⟩
  | volumes | snapshots | collectVolume | collectSnapshot | report => exact backupChange_refl _

theorem ArriveEffect.backupChange {Created : ZFSBackup → Prop} {arrival : Arrival}
    {program : Routine Answer}
    (effect : ArriveEffect compile shared arrival thread program after) :
    BackupChange Created shared.backups after.backups := by
  cases effect with
  | syncBackup node name quiet => exact ⟨none, .quiet _ quiet⟩
  | request | syncVolume | syncSnapshot => exact backupChange_refl _

theorem LeaveEffect.backupChange {Created : ZFSBackup → Prop} {answer : Answer}
    (effect : LeaveEffect shared thread answer after) :
    BackupChange Created shared.backups after.backups := by
  cases effect with
  | backups node name answer quiet => exact ⟨none, .quiet _ quiet⟩
  | same | request | volumes | snapshots => exact backupChange_refl _

/-- A step that is no call of a thread. -/
structure Drift (shared after : Shared) : Prop where
  volumes : ∀ Allowed, VolumeChange Allowed shared.volumes none after.volumes
  snapshots : SnapshotChange shared.snapshots none after.snapshots
  storage : after.storage = shared.storage
  locked : after.locked = shared.locked

theorem EnvEffect.drift {move : Move} (effect : EnvEffect shared move after) :
    Drift shared after := by
  have same {objects : Resource VolumeInfo State} : objects.Quiet objects := .refl objects
  cases effect with
  | volumes move quiet => exact ⟨fun _ => .quiet _ quiet, .quiet _ same, rfl, rfl⟩
  | snapshots move quiet => exact ⟨fun _ => .quiet _ same, .quiet _ quiet, rfl, rfl⟩
  | collectVolume name collected =>
      exact ⟨fun _ => Resource.change_of_collect collected, .quiet _ same, rfl, rfl⟩
  | collectSnapshot name collected =>
      exact ⟨fun _ => .quiet _ same, Resource.change_of_collect collected, rfl, rfl⟩
  | backups | collectBackup | createBackup | deleteBackup | report =>
      exact ⟨fun _ => .quiet _ same, .quiet _ same, rfl, rfl⟩

theorem ArriveEffect.drift {arrival : Arrival} {program : Routine Answer}
    (effect : ArriveEffect compile shared arrival thread program after) :
    Drift shared after := by
  have same {objects : Resource VolumeInfo State} : objects.Quiet objects := .refl objects
  cases effect with
  | syncVolume node name quiet => exact ⟨fun _ => .quiet _ quiet, .quiet _ same, rfl, rfl⟩
  | syncSnapshot node name quiet => exact ⟨fun _ => .quiet _ same, .quiet _ quiet, rfl, rfl⟩
  | request | syncBackup => exact ⟨fun _ => .quiet _ same, .quiet _ same, rfl, rfl⟩

theorem LeaveEffect.drift {answer : Answer} (effect : LeaveEffect shared thread answer after) :
    Drift shared after := by
  have same {objects : Resource VolumeInfo State} : objects.Quiet objects := .refl objects
  cases effect with
  | volumes node name answer quiet => exact ⟨fun _ => .quiet _ quiet, .quiet _ same, rfl, rfl⟩
  | snapshots node name answer quiet => exact ⟨fun _ => .quiet _ same, .quiet _ quiet, rfl, rfl⟩
  | same | request | backups => exact ⟨fun _ => .quiet _ same, .quiet _ same, rfl, rfl⟩

/-! ## The storage of the nodes -/

/-- Only commands touch the storage of a node. -/
theorem Effect.storage (effect : Effect thread shared op after) (node : String) :
    after.storage node = shared.storage node ∨
      ∃ command, op = .zfs node command ∧
        StorageEffect (shared.storage node) command (after.storage node) := by
  cases effect with
  | zfs target command effect =>
      by_cases same : node = target
      · subst same
        right
        refine ⟨command, rfl, ?_⟩
        simpa [Shared.setStorage] using effect
      · left
        simp [Shared.setStorage, same]
  | same | lock | unlock | createVolume | updateVolume | deleteVolume | createSnapshot
  | updateSnapshot | deleteSnapshot | updateBackup => exact .inl rfl

theorem StorageEffect.keeps_dataset {storage next : Storage} {command : Command}
    (effect : StorageEffect storage command next) {dataset : Dataset}
    (present : storage.hasDataset dataset = true)
    (spared : ∀ root, command = .destroy root → Storage.takes root dataset = false) :
    next.hasDataset dataset = true := by
  cases effect with
  | none => exact present
  | ran effect => exact effect.keeps_dataset present spared
  | partly assignments made volume =>
      rw [Storage.hasDataset_assign]
      exact present

theorem StorageEffect.new_dataset {storage next : Storage} {command : Command}
    (effect : StorageEffect storage command next) {dataset : Dataset}
    (present : next.hasDataset dataset = true) :
    storage.hasDataset dataset = true ∨ (∃ args, command = .create args dataset) ∨
      ∃ args source, command = .clone args source dataset := by
  cases effect with
  | none => exact .inl present
  | ran effect => exact effect.new_dataset present
  | partly assignments made volume =>
      rw [Storage.hasDataset_assign] at present
      exact .inl present

theorem StorageEffect.keeps_snapshot {storage next : Storage} {command : Command}
    (effect : StorageEffect storage command next) {snapshot : Snapshot}
    (present : storage.hasSnapshot snapshot = true)
    (spared : ∀ root, command = .destroy root → Storage.takes root snapshot.volume = false)
    (notDestroyed : command ≠ .destroySnapshot snapshot) :
    next.hasSnapshot snapshot = true := by
  cases effect with
  | none => exact present
  | ran effect => exact effect.keeps_snapshot present spared notDestroyed
  | partly assignments made volume => exact present

/-! ## Ready objects -/

/-- A volume or snapshot that is Ready, not deleted and owned by a node. -/
structure ReadyOn (objects : Resource VolumeInfo State) (node name : String)
    (object : Object VolumeInfo State) : Prop where
  stored : objects.get name = some object
  ready : object.status = .ready
  live : Live object
  owner : object.spec.ownerNodeID = node

/-- No object of the name is Ready on the node. -/
def NotReadyOn (objects : Resource VolumeInfo State) (node name : String) : Prop :=
  ∀ object, ¬ ReadyOn objects node name object

end ZfsLocalPv.Cluster

import Mathlib.Data.List.Dedup
import ZfsLocalPv.Api.Types
import ZfsLocalPv.ApiServer.Resource
import ZfsLocalPv.Interaction.System

/-!
# The backup garbage collector

The collector of `pkg/driver/backup_gc.go` keeps an informer of all ZFSBackups with two indexes.
Its handlers start a goroutine for a backup that may have lost its parent, and one for the
dependents of a backup that is gone. A goroutine reads the cache as it is when it gets to run,
and deletes through the API server.

The collector is a system of its own: the shared state is the store of the backups with the
informer of the controller, the threads are the goroutines, and the environment is everybody else
who creates, updates and deletes backups. After a start of the controller the initial list is
pending, in any order.
-/

namespace ZfsLocalPv.Driver

open Api ApiServer Interaction

/-! ## Indexes -/

/-- `getBackupKeyBySpec`. -/
def getBackupKeyBySpec (volumeName ownerNodeID snapName : String) : String :=
  volumeName ++ "." ++ ownerNodeID ++ "." ++ snapName

/-- `BackupSnapshotIndexFunc`. -/
def backupSnapshotIndexFunc (backup : ZFSBackup) : List String :=
  [backup.spec.volumeName ++ "." ++ backup.spec.ownerNodeID ++ "." ++ backup.spec.snapName]

/-- `BackupPreviousSnapshotIndexFunc`: a full backup is not indexed. -/
def backupPreviousSnapshotIndexFunc (backup : ZFSBackup) : List String :=
  if backup.spec.prevSnapName = "" then
    []
  else
    [backup.spec.volumeName ++ "." ++ backup.spec.ownerNodeID ++ "." ++ backup.spec.prevSnapName]

/-! ## Tasks -/

inductive GcOp
  /-- `ByIndex(BackupSnapshotIndex, key)`. -/
  | bySnapshot (key : String)
  /-- `ByIndex(BackupPreviousSnapshotIndex, key)`. -/
  | byPrevious (key : String)
  /-- `Delete(backup.Name)`; the server is told the name only. -/
  | delete (backup : ZFSBackup)

@[reducible]
def GcOp.Res : GcOp → Type
  | bySnapshot _ | byPrevious _ => List ZFSBackup
  | delete _ => Except ApiErr Unit

@[reducible]
def gcSig : Signature where
  Op := GcOp
  Res := GcOp.Res

/-- A goroutine of the collector. -/
abbrev Task := Prog gcSig Unit

def gcCall (op : GcOp) : Prog gcSig op.Res :=
  Prog.lift (S := gcSig) op

/-- The end of `deleteOrphanedIncBackup`. A failed delete is logged. -/
def deleteWithoutParent (backup : ZFSBackup) (parentItem : List ZFSBackup) : Task := do
  if parentItem = [] then
    let _ ← gcCall (.delete backup)
    return ()
  else
    return ()

/-- `deleteOrphanedIncBackup`. -/
def deleteOrphanedIncBackup (backup : ZFSBackup) : Task :=
  if backup.spec.prevSnapName = "" then
    return ()
  else do
    let parentItem ← gcCall (.bySnapshot (getBackupKeyBySpec backup.spec.volumeName
      backup.spec.ownerNodeID backup.spec.prevSnapName))
    deleteWithoutParent backup parentItem

/-- The loop of `deleteBackupsReferencingDeletedBackup`. -/
def deleteEach : List ZFSBackup → Task
  | [] => return ()
  | childBackup :: rest => do
      let _ ← gcCall (.delete childBackup)
      deleteEach rest

/-- `deleteBackupsReferencingDeletedBackup`. -/
def deleteBackupsReferencingDeletedBackup (backup : ZFSBackup) : Task := do
  let childBackups ← gcCall (.byPrevious (getBackupKeyBySpec backup.spec.volumeName
    backup.spec.ownerNodeID backup.spec.snapName))
  deleteEach childBackups

/-- `handleBackupCreation`: the goroutine it starts, if any. -/
def handleBackupCreation (backup : ZFSBackup) : Task :=
  if backup.spec.prevSnapName ≠ "" then deleteOrphanedIncBackup backup else return ()

/-- `handleBackupUpdate`. -/
def handleBackupUpdate (oldBackup newBackup : ZFSBackup) : Task :=
  if oldBackup.spec.prevSnapName ≠ newBackup.spec.prevSnapName ∧
      newBackup.spec.prevSnapName ≠ "" then
    deleteOrphanedIncBackup newBackup
  else
    return ()

/-- `handleBackupDeletion`. -/
def handleBackupDeletion (backup : ZFSBackup) : Task :=
  deleteBackupsReferencingDeletedBackup backup

/-- The handlers. -/
def onBackupEvent : Event ZFSBackupSpec ZFSBackupStatus → Task
  | .add backup => handleBackupCreation backup
  | .update oldBackup newBackup => handleBackupUpdate oldBackup newBackup
  | .delete backup => handleBackupDeletion backup

/-! ## The system -/

/-- The store of the backups and the informer of the collector. -/
abbrev Backups := Resource ZFSBackupSpec ZFSBackupStatus

/-- The client whose informer the collector reads. -/
def gcClient : String := "zfs-controller"

/-- The cached backups. What is cached was stored once, so the history lists it. -/
def cachedBackups (backups : Backups) : List ZFSBackup :=
  (backups.history.filter fun backup =>
    decide ((backups.informers gcClient).cache backup.name = some backup)).dedup

/-- What is left open by a call: whether a delete fails, and the order in which an
index lists its entries. -/
structure GcChoice where
  fails : Bool := false
  order : List String := []

/-- List entries in a given order of names. -/
def arrange (order : List String) (backups : List ZFSBackup) : List ZFSBackup :=
  (order.dedup.filterMap fun name => backups.find? fun backup => decide (backup.name = name)) ++
    backups.filter fun backup => decide (backup.name ∉ order)

def gcExec (_ : Nat) : (op : GcOp) → GcChoice → Backups → Option (op.Res × Backups)
  | .bySnapshot key, choice, backups =>
      some (arrange choice.order ((cachedBackups backups).filter fun backup =>
        decide (key ∈ backupSnapshotIndexFunc backup)), backups)
  | .byPrevious key, choice, backups =>
      some (arrange choice.order ((cachedBackups backups).filter fun backup =>
        decide (key ∈ backupPreviousSnapshotIndexFunc backup)), backups)
  | .delete backup, choice, backups =>
      if choice.fails then
        some (.error .other, backups)
      else
        match backups.delete backup.name with
        | .error reason => some (.error reason, backups)
        | .ok next => some (.ok (), next)

/-- The informer replays a change, or somebody else writes a backup. -/
inductive GcMove
  | deliver (name : String)
  | create (backup : ZFSBackup)
  | update (backup : ZFSBackup)
  | delete (name : String)
  | collect (name : String)

def gcEnv : GcMove → Backups → Option Backups
  | .deliver name, backups => backups.deliver gcClient name
  | .create backup, backups => (backups.create backup).toOption
  | .update backup, backups => (backups.update backup).toOption
  | .delete name, backups => (backups.delete name).toOption
  | .collect name, backups => backups.collect name

/-- A handler is called with the next notification and starts its goroutine. -/
def gcArrive (id : Nat) (backups : Backups) : Option (Nat × Task × Backups) :=
  match (backups.informers gcClient).events with
  | [] => none
  | event :: _ => (backups.handle gcClient fun _ => false).map fun next =>
      (id, onBackupEvent event, next)

/-- The collector. -/
def collector : System gcSig Backups Nat GcChoice Unit GcMove Nat where
  exec := gcExec
  env := gcEnv
  arrive := gcArrive
  leave := fun _ _ backups => backups

end ZfsLocalPv.Driver

import ZfsLocalPv.ApiServer.Resource
import ZfsLocalPv.Zfs.Util

/-!
# The agents of a node

The controllers of `pkg/mgmt` for volumes, snapshots and backups. Each has event handlers, which
decide whether a name goes on the work queue, and a sync, which reads the object of a queued name
from the cache and acts on what it finds there. The handlers compare the owner of the object with
their node; the syncs do not.
-/

namespace ZfsLocalPv.Mgmt

open Api Go Zfs Cluster ApiServer Interaction

/-! ## Volumes -/

/-- `addZV`. -/
def addZV (nodeID : String) (zv : ZFSVolume) : Bool :=
  decide (nodeID = zv.spec.ownerNodeID)

/-- `updateZV`: a property change, a deletion or a pending volume. -/
def updateZV (nodeID : String) (oldZV newZV : ZFSVolume) : Bool :=
  decide (nodeID = newZV.spec.ownerNodeID) &&
    (propertyChanged oldZV newZV || newZV.deletionTimestamp || decide (newZV.status = .pending))

/-- `deleteZV`. -/
def deleteZV (nodeID : String) (zv : ZFSVolume) : Bool :=
  decide (nodeID = zv.spec.ownerNodeID)

/-- The handlers of the volume agent. -/
def wantsVolume (nodeID : String) : Event VolumeInfo State → Bool
  | .add zv => addZV nodeID zv
  | .update oldZV newZV => updateZV nodeID oldZV newZV
  | .delete zv => deleteZV nodeID zv

/-- `syncZV` on a deleted volume. -/
def syncDeletedZV (nodeID : String) (zv : ZFSVolume) : Routine (Except Err Unit) := do
  if getUserFinalizers zv.finalizers = [] then
    match ← destroyVolume nodeID zv with
    | .error err => return .error err
    | .ok () => removeVolumeFinalizer zv
  else
    return .error (.text
      ("volume: can not destroy, waiting for finalizers to be removed " ++
        formatList (getUserFinalizers zv.finalizers)))

/-- The creation step of `syncZV`: a volume with a snapshot name is a clone. -/
def createZV (nodeID : String) (zv : ZFSVolume) : Routine (Except Err Unit) :=
  if zv.spec.snapName ≠ "" then createClone nodeID zv else createVolume nodeID zv

/-- `syncZV` on a volume that is not yet Ready. -/
def syncMissingZV (nodeID : String) (zv : ZFSVolume) : Routine (Except Err Unit) := do
  match ← createZV nodeID zv with
  | .ok () => updateZvolInfo nodeID zv .ready
  | .error _ => updateZvolInfo nodeID zv .failed

/-- `syncZV`. -/
def syncZV (nodeID : String) (zv : ZFSVolume) : Routine (Except Err Unit) :=
  if zv.deletionTimestamp = true then
    syncDeletedZV nodeID zv
  else
    match zv.spec.validate with
    | .error err => return .error (.text ("volume is invalid: " ++ err.error))
    | .ok () =>
        if isVolumeReady zv = true then
          setVolumeProp nodeID zv
        else
          syncMissingZV nodeID zv

/-- `syncHandler` of the volume agent. -/
def syncVolume (nodeID name : String) : Routine (Except Err Unit) := do
  match ← call (.cachedVolume nodeID name) with
  | none => return .ok ()
  | some zv => syncZV nodeID zv

/-! ## Snapshots -/

/-- `addSnap`. -/
def addSnap (nodeID : String) (snap : ZFSSnapshot) : Bool :=
  decide (nodeID = snap.spec.ownerNodeID)

/-- `updateSnap`: only a deletion matters. -/
def updateSnap (nodeID : String) (newSnap : ZFSSnapshot) : Bool :=
  decide (nodeID = newSnap.spec.ownerNodeID) && newSnap.deletionTimestamp

/-- `deleteSnap`. -/
def deleteSnap (nodeID : String) (snap : ZFSSnapshot) : Bool :=
  decide (nodeID = snap.spec.ownerNodeID)

/-- The handlers of the snapshot agent. -/
def wantsSnapshot (nodeID : String) : Event VolumeInfo State → Bool
  | .add snap => addSnap nodeID snap
  | .update _ newSnap => updateSnap nodeID newSnap
  | .delete snap => deleteSnap nodeID snap

/-- `syncSnap` on a deleted snapshot. -/
def syncDeletedSnap (nodeID : String) (snap : ZFSSnapshot) : Routine (Except Err Unit) := do
  if getUserFinalizers snap.finalizers = [] then
    match ← destroySnapshot nodeID snap with
    | .error err => return .error err
    | .ok () => removeSnapFinalizer snap
  else
    return .error (.text
      ("snapshot: can not destroy, waiting for finalizers to be removed " ++
        formatList (getUserFinalizers snap.finalizers)))

/-- `syncSnap`. -/
def syncSnap (nodeID : String) (snap : ZFSSnapshot) : Routine (Except Err Unit) := do
  if snap.deletionTimestamp = true then
    syncDeletedSnap nodeID snap
  else
    match snap.spec.validate with
    | .error err => return .error (.text ("snapshot is invalid: " ++ err.error))
    | .ok () =>
        if snap.status = .ready then
          return .ok ()
        else
          match ← createSnapshot nodeID snap with
          | .error err => return .error err
          | .ok () => updateSnapInfo nodeID snap

/-- `syncHandler` of the snapshot agent. -/
def syncSnapshot (nodeID name : String) : Routine (Except Err Unit) := do
  match ← call (.cachedSnapshot nodeID name) with
  | none => return .ok ()
  | some snap => syncSnap nodeID snap

/-! ## Backups -/

/-- `addBkp`. -/
def addBkp (nodeID : String) (bkp : ZFSBackup) : Bool :=
  decide (nodeID = bkp.spec.ownerNodeID)

/-- `updateBkp`: only a deletion matters. -/
def updateBkp (nodeID : String) (newBkp : ZFSBackup) : Bool :=
  decide (nodeID = newBkp.spec.ownerNodeID) && newBkp.deletionTimestamp

/-- `deleteBkp`. -/
def deleteBkp (nodeID : String) (bkp : ZFSBackup) : Bool :=
  decide (nodeID = bkp.spec.ownerNodeID)

/-- The handlers of the backup agent. -/
def wantsBackup (nodeID : String) : Event ZFSBackupSpec ZFSBackupStatus → Bool
  | .add bkp => addBkp nodeID bkp
  | .update _ newBkp => updateBkp nodeID newBkp
  | .delete bkp => deleteBkp nodeID bkp

/-- `syncBkp`. Unlike the other agents it does not look at foreign finalizers. -/
def syncBkp (nodeID : String) (bkp : ZFSBackup) : Routine (Except Err Unit) := do
  if bkp.deletionTimestamp = true then
    match ← destoryBackup nodeID bkp with
    | .error err => return .error err
    | .ok () => removeBkpFinalizer bkp
  else if bkp.status = .init then
    match ← createBackup nodeID bkp with
    | .ok () => updateBkpInfo bkp .done
    | .error _ => updateBkpInfo bkp .failed
  else
    return .ok ()

/-- `syncHandler` of the backup agent. -/
def syncBackup (nodeID name : String) : Routine (Except Err Unit) := do
  match ← call (.cachedBackup nodeID name) with
  | none => return .ok ()
  | some bkp => syncBkp nodeID bkp

end ZfsLocalPv.Mgmt

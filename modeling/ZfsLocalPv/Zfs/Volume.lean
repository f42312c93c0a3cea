import ZfsLocalPv.Api.Builders
import ZfsLocalPv.Cluster.Signature

/-!
# Volumes, snapshots and backups at the API server

The functions of `pkg/zfs/volume.go`: what controller and agents read from the API server and
write to it. `NodeID` is a parameter, since every agent has its own. The rounds of a polling loop
are bounded by a parameter.
-/

namespace ZfsLocalPv.Zfs

open Api Go Cluster ApiServer Interaction

/-- `GetNodeID`: the topology label of a node, or its name. -/
def getNodeID (nodename : String) : Routine (Except Err String) := do
  match ← call (.getNode nodename) with
  | .error err =>
      return .error (.text ("failed to get the node " ++ nodename ++ ": " ++ err.error))
  | .ok node => return .ok ((node.labels.lookup ZFSTopologyKey).getD nodename)

/-- `GetZFSVolume`. -/
def getZFSVolume (volumeID : String) (purpose : Purpose := .inspect) :
    Routine (Except Err ZFSVolume) :=
  getNamed "failed to get zfs volume: missing zfs volume name" volumeID
    (call (.getVolume volumeID purpose))

/-- `GetZFSSnapshot`. -/
def getZFSSnapshot (snapID : String) : Routine (Except Err ZFSSnapshot) :=
  getNamed "failed to get zfssnap volume: missing zfssnap volume name" snapID
    (call (.getSnapshot snapID))

/-- `checkVolCreation`: poll until the volume is Ready or Failed. The first
component tells a timeout from other failures. -/
def checkVolCreation (volname : String) : Nat → Routine (Bool × Except Err Unit)
  | 0 =>
      -- the timer has fired
      return (true, .error (.status .deadlineExceeded
        ("volume " ++ volname ++ " creation timed out")))
  | polls + 1 => do
      match ← call .select with
      | .done =>
          return (true, .error (.status .deadlineExceeded
            ("volume " ++ volname ++ " creation: context deadline reached")))
      | .timeout =>
          return (true, .error (.status .deadlineExceeded
            ("volume " ++ volname ++ " creation timed out")))
      | .proceed =>
          match ← getZFSVolume volname with
          | .error err =>
              return (false, .error (.status .internal
                ("volume creation wait failed, not able to get the volume " ++ volname ++ ": " ++
                  err.error)))
          | .ok vol =>
              match vol.status with
              | .ready => return (false, .ok ())
              | .failed =>
                  return (false, .error (.status .internal
                    ("volume " ++ volname ++ " creation failed on node " ++
                      vol.spec.ownerNodeID)))
              | _ => checkVolCreation volname polls

/-- The write of `ProvisionVolume`: overwrite the specification and status of
the volume found, or create the volume if none could be read. -/
def updateOrCreate (vol : ZFSVolume) : Except Err ZFSVolume → Routine (Except Err Unit)
  | .ok zv => call (.updateVolume { zv with spec := vol.spec, status := vol.status })
  | .error _ => call (.createVolume vol)

/-- `ProvisionVolume`: write the volume and wait for the agent. -/
def provisionVolume (polls : Nat) (vol : ZFSVolume) : Routine (Bool × Except Err Unit) := do
  let found ← getZFSVolume vol.name (.provision vol)
  let written ← updateOrCreate vol found
  match written with
  | .error err => return (false, .error err)
  | .ok () => checkVolCreation vol.name polls

/-- `ResizeVolume`: record the new capacity. -/
def resizeVolume (vol : ZFSVolume) (newSize : Int) : Routine (Except Err Unit) :=
  call (.updateVolume { vol with spec := { vol.spec with capacity := formatInt newSize } })

/-- `ProvisionSnapshot`. -/
def provisionSnapshot (snap : ZFSSnapshot) : Routine (Except Err Unit) :=
  call (.createSnapshot snap)

/-- `DeleteSnapshot`; the client refuses an empty name. -/
def deleteSnapshot (snapname : String) : Routine (Except Err Unit) :=
  if snapname = "" then
    return .error (.text "failed to delete csivolume: missing vol name")
  else
    call (.deleteSnapshot snapname)

/-- `DeleteVolume`; the client refuses an empty name. -/
def deleteVolume (volumeID : String) : Routine (Except Err Unit) :=
  if volumeID = "" then
    return .error (.text "failed to delete csivolume: missing vol name")
  else
    call (.deleteVolume volumeID)

/-- `UpdateZFSVolumeAnnotation`: annotate the volume as marked for deletion. -/
def updateZFSVolumeAnnotation (vol : ZFSVolume) : Routine (Except Err Unit) :=
  let builder := Builder.withAnnotation (Builder.buildFrom vol)
  match builder.build with
  | .error message => return .error (.text message)
  | .ok newVol => call (.updateVolume newVol)

/-- `UpdateZvolInfo`: set the status and the node label; a Ready volume also gets
the driver's finalizer. -/
def updateZvolInfo (nodeID : String) (vol : ZFSVolume) (status : State) :
    Routine (Except Err Unit) :=
  let finalizers := if status = .ready then [ZFSFinalizer] else []
  match (((Builder.buildFrom vol).withFinalizer finalizers).withVolumeStatus status).withLabels
      [(ZFSNodeKey, nodeID)] |>.build with
  | .error message => return .error (.text message)
  | .ok newVol => call (.updateVolume newVol)

/-- `RemoveVolumeFinalizer`: drop every finalizer. -/
def removeVolumeFinalizer (vol : ZFSVolume) : Routine (Except Err Unit) :=
  call (.updateVolume { vol with finalizers := [] })

/-- `GetZFSSnapshotCapacity`. -/
def getZFSSnapshotCapacity (snap : ZFSSnapshot) : Except String Int :=
  if snap.spec.capacity = "" then
    .ok 0
  else
    match parseInt snap.spec.capacity with
    | .error _ => .error ("convert " ++ snap.spec.capacity ++ " to integer failed")
    | .ok capacity => .ok capacity

/-- `UpdateSnapInfo`: finalizer, node label and state Ready. -/
def updateSnapInfo (nodeID : String) (snap : ZFSSnapshot) : Routine (Except Err Unit) :=
  match ((Builder.buildFrom snap).withFinalizer [ZFSFinalizer]).withLabels
      [(ZFSNodeKey, nodeID)] |>.build with
  | .error _ => panic
  | .ok newSnap => call (.updateSnapshot { newSnap with status := .ready })

/-- `RemoveSnapFinalizer`: drop every finalizer. -/
def removeSnapFinalizer (snap : ZFSSnapshot) : Routine (Except Err Unit) :=
  call (.updateSnapshot { snap with finalizers := [] })

/-- `RemoveBkpFinalizer`: drop every finalizer. -/
def removeBkpFinalizer (bkp : ZFSBackup) : Routine (Except Err Unit) :=
  call (.updateBackup { bkp with finalizers := [] })

/-- `UpdateBkpInfo`: finalizer and status. -/
def updateBkpInfo (bkp : ZFSBackup) (status : ZFSBackupStatus) : Routine (Except Err Unit) :=
  call (.updateBackup
    { bkp with finalizers := bkp.finalizers ++ [ZFSFinalizer], status := status })

/-- `GetUserFinalizers`: all but the driver's and the garbage collector's. -/
def getUserFinalizers (finalizers : List String) : List String :=
  finalizers.filter fun fin => decide (fin ≠ ZFSFinalizer ∧ fin ≠ foregroundDeletion)

/-- `IsVolumeReady`: the state decides, or the finalizer where there is none. -/
def isVolumeReady (vol : ZFSVolume) : Bool :=
  if vol.status ≠ .unset then
    decide (vol.status = .ready)
  else
    decide (ZFSFinalizer ∈ vol.finalizers)

/-- `GetSnapshotForVolume`. -/
def getSnapshotForVolume (volumeID : String) : Routine (Except Err (List ZFSSnapshot)) :=
  call (.listSnapshots volumeID)

/-- `MarkForDeletion`. -/
def markForDeletion (volumeName : String) : Routine (Except Err Unit) := do
  match ← getZFSVolume volumeName with
  | .error err => return .error err
  | .ok zv => updateZFSVolumeAnnotation zv

/-- `IsVolumeEligibleForDeletion`: whether the volume is marked. -/
def isVolumeEligibleForDeletion (volumeName : String) : Routine (Except Err Bool) := do
  match ← getZFSVolume volumeName with
  | .error err =>
      return .error (.status .internal
        ("failed to get ZFSVolume " ++ volumeName ++ ": " ++ err.error))
  | .ok zfsVol =>
      return .ok (decide (StringMap.get zfsVol.annotations MarkForDeletionAnnotation = "true"))

end ZfsLocalPv.Zfs

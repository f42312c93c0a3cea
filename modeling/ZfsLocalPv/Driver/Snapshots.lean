import ZfsLocalPv.Driver.Csi
import ZfsLocalPv.Driver.VolumeLock
import ZfsLocalPv.Zfs.Volume

/-!
# Snapshots

The controller's `CreateSnapshot` and `DeleteSnapshot`. Deleting the last snapshot of a volume
that is marked for deletion deletes the volume.
-/

namespace ZfsLocalPv.Driver

open Api Go Zfs Cluster Interaction

/-- `verifySnapshotRequest`; it runs before the lock is taken. -/
def verifySnapshotRequest (snapName volumeID : String) : Routine (Except Err Unit) := do
  if snapName = "" ∨ volumeID = "" then
    return .error (.status .invalidArgument
      ("CreateSnapshot error invalid request " ++ volumeID ++ ": " ++ snapName))
  else
    match ← getZFSSnapshot snapName with
    | .error err =>
        if err.isNotFound then
          return .ok ()
        else
          return .error (.status .notFound
            ("CreateSnapshot error snap " ++ snapName ++ " " ++ volumeID ++ " get failed : " ++
              err.error))
    | .ok snap =>
        if StringMap.get snap.labels ZFSVolKey ≠ volumeID then
          return .error (.status .alreadyExists
            ("CreateSnapshot error snapshot " ++ snapName ++
              " already exist for different source vol " ++
              StringMap.get snap.labels ZFSVolKey ++ ": " ++ volumeID))
        else
          return .ok ()

/-- `waitForReadySnapshot`. -/
def waitForReadySnapshot (snapname : String) : Nat → Routine (Except Err Unit)
  | 0 => hang
  | polls + 1 => do
      match ← getZFSSnapshot snapname with
      | .error err =>
          return .error (.status .internal
            ("zfs: wait failed, not able to get the snapshot " ++ snapname ++ " " ++ err.error))
      | .ok snap =>
          match snap.status with
          | .ready => return .ok ()
          | .failed =>
              return .error (.status .internal
                ("snapshot " ++ snapname ++ " creation failed on node " ++
                  snap.spec.ownerNodeID))
          | _ =>
              match ← call .select with
              | .done =>
                  return .error (.status .deadlineExceeded
                    ("snapshot " ++ snapname ++ " creation: context deadline reached"))
              | _ => waitForReadySnapshot snapname polls

/-- The answer about a snapshot found in the store. -/
def createSnapshotResponse (volumeID snapName : String) (now : Int) (snapObj : ZFSSnapshot) :
    Except Err CreateSnapshotResponse :=
  match getZFSSnapshotCapacity snapObj with
  | .error message =>
      .error (.text ("get zfssnapshot capacity failed: " ++ message ++ ", capacity: " ++
        snapObj.spec.capacity))
  | .ok size =>
      .ok
        { sourceVolumeId := volumeID
          snapshotId := volumeID ++ "@" ++ snapName
          sizeBytes := size
          creationTime := now
          readyToUse := decide (snapObj.status = .ready) }

/-- The bare object of a snapshot: name, reserved properties and label. -/
def snapshotObject (req : CreateSnapshotRequest) (volume : String) : Except String ZFSSnapshot :=
  let named := SnapBuilder.withName (toLower req.name) Builder.newBuilder
  let reserved := SnapBuilder.withVSCName
    (getInsensitiveParameter req.parameters "csi.storage.k8s.io/volumesnapshotcontent/name")
    (SnapBuilder.withVSNamespace
      (getInsensitiveParameter req.parameters "csi.storage.k8s.io/volumesnapshot/namespace")
      (SnapBuilder.withVSName
        (getInsensitiveParameter req.parameters "csi.storage.k8s.io/volumesnapshot/name") named))
  (reserved.withLabels [(ZFSVolKey, volume)]).build

/-- A snapshot takes the specification of its volume but keeps the reserved
properties of its own object. -/
def snapshotOf (snapObj : ZFSSnapshot) (vol : VolumeInfo) : ZFSSnapshot :=
  { snapObj with
    spec := { vol with userProperties := snapObj.spec.userProperties }
    status := .pending }

/-- The optional wait of `CreateSnapshot`. -/
def waitIfAsked (req : CreateSnapshotRequest) (snapName : String) (polls : Nat) :
    Routine (Except Err Unit) :=
  if StringMap.has (getCaseInsensitiveMap req.parameters) "wait" then
    waitForReadySnapshot snapName polls
  else
    return .ok ()

/-- The part of `CreateSnapshot` that runs under the locks. A snapshot that is
already there is answered for, whatever its label. -/
def createSnapshotLocked (polls : Nat) (now : Int) (req : CreateSnapshotRequest)
    (volumeID snapName : String) : Routine (Except Err CreateSnapshotResponse) := do
  match ← getZFSSnapshot snapName with
  | .ok snapObj => return createSnapshotResponse volumeID snapName now snapObj
  | .error _ =>
      match ← getZFSVolume volumeID with
      | .error err =>
          return .error (.status .notFound
            ("CreateSnapshot not able to get volume " ++ volumeID ++ ": " ++ snapName ++
              ", \x7b" ++ err.error ++ "\x7d"))
      | .ok vol =>
          match snapshotObject req vol.name with
          | .error message =>
              return .error (.status .internal
                ("failed to create snapshotobject for " ++ volumeID ++ ": " ++ snapName ++
                  ", \x7b" ++ message ++ "\x7d"))
          | .ok snapObj =>
              match ← provisionSnapshot (snapshotOf snapObj vol.spec) with
              | .error err =>
                  return .error (.status .internal
                    ("failed to handle CreateSnapshotRequest for " ++ volumeID ++ ": " ++
                      snapName ++ ", \x7b" ++ err.error ++ "\x7d"))
              | .ok () =>
                  match ← waitIfAsked req snapName polls with
                  | .error err => return .error err
                  | .ok () =>
                      match ← getZFSSnapshot snapName with
                      | .error err =>
                          return .error (.text ("get zfssnapshot failed, err: " ++ err.error))
                      | .ok stored => return createSnapshotResponse volumeID snapName now stored

/-- `CreateSnapshot`. -/
def createSnapshot (polls : Nat) (now : Int) (req : CreateSnapshotRequest) :
    Routine (Except Err CreateSnapshotResponse) := do
  let snapName := toLower req.name
  let volumeID := toLower req.sourceVolumeId
  match ← verifySnapshotRequest snapName volumeID with
  | .error err => return .error err
  | .ok () =>
      lockVolumeWithSnapshot volumeID snapName
        (createSnapshotLocked polls now req volumeID snapName)

/-- The end of `DeleteSnapshot`: the volume follows its last snapshot if it is marked
for deletion. -/
def deleteFollowing (volumeID : String) (snapList : List ZFSSnapshot) :
    Routine (Except Err Unit) := do
  match ← isVolumeEligibleForDeletion volumeID with
  | .error err =>
      return .error (.status .failedPrecondition
        ("failed to handle delete snapshot request for \x7b" ++ volumeID ++
          "\x7d, validation failed checking for eligible for deletion. Error: " ++ err.error))
  | .ok eligibleForDeletion =>
      if snapList.length = 1 ∧ eligibleForDeletion = true then
        match ← Zfs.deleteVolume volumeID with
        | .error err =>
            return .error (err.wrap
              ("failed to handle delete volume request for \x7b" ++ volumeID ++ "\x7d"))
        | .ok () => return .ok ()
      else
        return .ok ()

/-- The part of `DeleteSnapshot` that runs under the locks. The list of snapshots
is taken before the snapshot is deleted. -/
def deleteSnapshotLocked (req : DeleteSnapshotRequest) (volumeID snapName : String) :
    Routine (Except Err Unit) := do
  match ← getZFSSnapshot snapName with
  | .error err =>
      if err.isNotFound then
        return .ok ()
      else
        return .error (err.wrap ("failed to get snapshot for \x7b" ++ snapName ++ "\x7d"))
  | .ok _ =>
      match ← getSnapshotForVolume volumeID with
      | .error err =>
          return .error (.status .failedPrecondition
            ("failed to handle delete snapshot request for \x7b" ++ volumeID ++
              "\x7d, validation failed checking for snapshot list for volume. Error: " ++
              err.error))
      | .ok snapList =>
          match ← Zfs.deleteSnapshot snapName with
          | .error err =>
              return .error (.status .internal
                ("failed to handle DeleteSnapshot for " ++ req.snapshotId ++ ", \x7b" ++
                  err.error ++ "\x7d"))
          | .ok () => deleteFollowing volumeID snapList

/-- `DeleteSnapshot`. An id that is not of the form `volume@snapshot` counts as
deleted. -/
def deleteSnapshot (req : DeleteSnapshotRequest) : Routine (Except Err Unit) :=
  if req.snapshotId = "" then
    return .error (.status .invalidArgument "DeleteSnapshot: empty snapshotID")
  else
    match split '@' req.snapshotId with
    | [volumeID, snapName] =>
        lockVolumeWithSnapshot volumeID snapName (deleteSnapshotLocked req volumeID snapName)
    | _ => return .ok ()

end ZfsLocalPv.Driver

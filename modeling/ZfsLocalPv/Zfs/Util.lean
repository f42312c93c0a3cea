import ZfsLocalPv.Zfs.Volume

/-!
# Datasets and snapshots on a node

The functions of `pkg/zfs/zfs_util.go` that the agents run on their node, with the arguments they
build for `zfs`.
-/

namespace ZfsLocalPv.Zfs

open Api Go Cluster ApiServer Interaction

def ZFSDevPath : String := "/dev/zvol/"

/-- Whether two maps agree, in any order of their entries. -/
def mapsEqual (first second : StringMap) : Bool :=
  first.all (fun entry => decide (second.lookup entry.1 = first.lookup entry.1)) &&
    second.all (fun entry => decide (first.lookup entry.1 = second.lookup entry.1))

/-- `PropertyChanged`. -/
def propertyChanged (oldVol newVol : ZFSVolume) : Bool :=
  decide (oldVol.spec.volumeType = .dataset ∧ newVol.spec.volumeType = .dataset ∧
    (oldVol.spec.recordSize ≠ newVol.spec.recordSize ∨ oldVol.spec.aTime ≠ newVol.spec.aTime)) ||
  decide (oldVol.spec.compression ≠ newVol.spec.compression ∨
    oldVol.spec.dedup ≠ newVol.spec.dedup ∨ oldVol.spec.logBias ≠ newVol.spec.logBias) ||
  !mapsEqual oldVol.spec.userProperties newVol.spec.userProperties

/-- `GetVolumeType`. -/
def getVolumeType (fstype : String) : VolumeType :=
  if fstype = "zfs" then .dataset else .zvol

/-- `quotaProperty`. -/
def quotaProperty (quotaType : String) : String :=
  if quotaType = "refquota" then "refquota" else "quota"

/-- `reservationPropertyName`. -/
def reservationPropertyName (quotaType : String) : String :=
  if quotaProperty quotaType = "refquota" then "refreservation" else "reservation"

/-- The dataset `Spec.PoolName/Name` of a volume. -/
def datasetOf (vol : ZFSVolume) : Dataset :=
  { pool := vol.spec.poolName, name := vol.name }

/-- The snapshot `Spec.PoolName/volume@Name` of a labelled snapshot. -/
def snapDataset (snap : ZFSSnapshot) : Snapshot :=
  { volume := { pool := snap.spec.poolName, name := StringMap.get snap.labels ZFSVolKey }
    name := snap.name }

/-! ## Arguments -/

/-- An option that is given when the value is not empty. -/
def optional (value : String) (arg : String → Arg) : List Arg :=
  if value = "" then [] else [arg value]

/-- The user properties as options. -/
def userPropertyArgs (properties : StringMap) : List Arg :=
  properties.map fun entry => .property entry.1 entry.2

/-- `buildZvolCreateArgs`, up to the name of the volume. -/
def buildZvolCreateArgs (vol : ZFSVolume) : List Arg :=
  (if vol.spec.thinProvision = "yes" then [.sparse] else []) ++
  optional vol.spec.capacity .size ++
  optional vol.spec.volBlockSize .blockSize ++
  optional vol.spec.dedup (.property "dedup") ++
  optional vol.spec.compression (.property "compression") ++
  optional vol.spec.logBias (.property "logbias") ++
  optional vol.spec.encryption (.property "encryption") ++
  optional vol.spec.keyLocation (.property "keylocation") ++
  optional vol.spec.keyFormat (.property "keyformat") ++
  userPropertyArgs vol.spec.userProperties

/-- The reservation of a volume that is not thin provisioned. -/
def reservationArgs (vol : ZFSVolume) : List Arg :=
  if vol.spec.thinProvision = "no" then
    [.property (reservationPropertyName vol.spec.quotaType) vol.spec.capacity]
  else
    []

/-- `buildCloneCreateArgs`, up to the names of snapshot and volume. Encryption
is inherited from the snapshot. -/
def buildCloneCreateArgs (vol : ZFSVolume) : List Arg :=
  (if vol.spec.volumeType = .dataset then
    optional vol.spec.capacity (.property (quotaProperty vol.spec.quotaType)) ++
    optional vol.spec.recordSize (.property "recordsize") ++
    optional vol.spec.aTime (.property "atime") ++
    reservationArgs vol ++ [.property "mountpoint" "legacy"]
  else
    []) ++
  optional vol.spec.dedup (.property "dedup") ++
  optional vol.spec.compression (.property "compression") ++
  optional vol.spec.logBias (.property "logbias") ++
  userPropertyArgs vol.spec.userProperties

/-- `buildDatasetCreateArgs`, up to the name of the volume. -/
def buildDatasetCreateArgs (vol : ZFSVolume) : List Arg :=
  optional vol.spec.capacity (.property (quotaProperty vol.spec.quotaType)) ++
  optional vol.spec.recordSize (.property "recordsize") ++
  optional vol.spec.aTime (.property "atime") ++
  reservationArgs vol ++
  optional vol.spec.dedup (.property "dedup") ++
  optional vol.spec.compression (.property "compression") ++
  optional vol.spec.logBias (.property "logbias") ++
  optional vol.spec.encryption (.property "encryption") ++
  optional vol.spec.keyLocation (.property "keylocation") ++
  optional vol.spec.keyFormat (.property "keyformat") ++
  userPropertyArgs vol.spec.userProperties ++ [.property "mountpoint" "legacy"]

/-- An assignment that is made when the value is not empty. -/
def assignment (name value : String) : StringMap :=
  if value = "" then [] else [(name, value)]

/-- `buildVolumeSetArgs`: the editable properties that have a value. -/
def buildVolumeSetArgs (vol : ZFSVolume) : StringMap :=
  (if vol.spec.volumeType = .dataset then
    assignment "recordsize" vol.spec.recordSize ++ assignment "atime" vol.spec.aTime
  else
    []) ++
  assignment "dedup" vol.spec.dedup ++
  assignment "compression" vol.spec.compression ++
  assignment "logbias" vol.spec.logBias ++
  vol.spec.userProperties

/-- `buildVolumeResizeArgs`. -/
def buildVolumeResizeArgs (vol : ZFSVolume) : StringMap :=
  (if vol.spec.volumeType = .dataset then
    [(quotaProperty vol.spec.quotaType, vol.spec.capacity)]
  else
    [("volsize", vol.spec.capacity)]) ++
  if vol.spec.thinProvision = "no" then
    [(reservationPropertyName vol.spec.quotaType, vol.spec.capacity)]
  else
    []

/-- `buildVolumeBackupArgs`: the arguments of `zfs send` and of `nc`. -/
def buildVolumeBackupArgs (bkp : ZFSBackup) (vol : ZFSVolume) :
    Except String (List String × List String) :=
  match split ':' bkp.spec.backupDest with
  | [host, port] =>
      let curSnap := (datasetOf vol).path ++ "@" ++ bkp.spec.snapName
      let prevSnap := (datasetOf vol).path ++ "@" ++ bkp.spec.prevSnapName
      let sendArgs :=
        if bkp.spec.prevSnapName ≠ "" then ["send", "-i", prevSnap, curSnap] else ["send", curSnap]
      .ok (sendArgs, ["-w", "3", host, port])
  | _ => .error ("zfs: invalid backup server address " ++ bkp.spec.backupDest)

/-! ## Commands -/

/-- Run a command; a failure becomes the error of `NewZFSError`. -/
def runCmd (node op dataset : String) (command : Command) : Routine (Except Err String) := do
  match ← call (.zfs node command) with
  | .error out => return .error (.zfs op dataset out)
  | .ok out => return .ok out

/-- `getVolume`: whether `zfs list` finds a dataset or a snapshot. -/
def getVolume (node : String) (target : Target) : Routine (Except Err Unit) := do
  match ← runCmd node "zfs list" target.path (.list target) with
  | .error err => return .error err
  | .ok _ => return .ok ()

/-- `CreateVolume`: create the dataset unless it is there. -/
def createVolume (node : String) (vol : ZFSVolume) : Routine (Except Err Unit) := do
  let volume := datasetOf vol
  match ← getVolume node (.dataset volume) with
  | .error _ =>
      let args :=
        if vol.spec.volumeType = .dataset then buildDatasetCreateArgs vol
        else buildZvolCreateArgs vol
      match ← runCmd node "zfs create" volume.path (.create args volume) with
      | .error err => return .error err
      | .ok _ => return .ok ()
  | .ok () => return .ok ()

/-- `CreateSnapshot`: create the snapshot unless it is there. -/
def createSnapshot (node : String) (snap : ZFSSnapshot) : Routine (Except Err Unit) := do
  let snapshot := snapDataset snap
  match ← getVolume node (.snapshot snapshot) with
  | .ok () => return .ok ()
  | .error _ =>
      let args := userPropertyArgs snap.spec.userProperties
      match ← runCmd node "zfs snapshot" snapshot.path (.snapshot args snapshot) with
      | .error err => return .error err
      | .ok _ => return .ok ()

/-- `DestroySnapshot`: an absent snapshot counts as destroyed, an absent pool
does not. -/
def destroySnapshot (node : String) (snap : ZFSSnapshot) : Routine (Except Err Unit) := do
  let snapshot := snapDataset snap
  match ← getVolume node (.parent snap.spec.poolName) with
  | .error err => return .error err
  | .ok () =>
      match ← getVolume node (.snapshot snapshot) with
      | .error _ => return .ok ()
      | .ok () =>
          match ← runCmd node "zfs destroy snapshot" snapshot.path (.destroySnapshot snapshot) with
          | .error err => return .error err
          | .ok _ => return .ok ()

/-- The internal snapshot of a volume clone: it lives on the source volume and
has the clone's name. -/
def cloneSnapshot (vol : ZFSVolume) (srcVol : String) : ZFSSnapshot :=
  { name := vol.name, labels := [(ZFSVolKey, srcVol)], spec := vol.spec, status := .unset }

/-- The first step of `CreateClone`: a volume clone needs its internal snapshot. -/
def createCloneSnapshot (node : String) (vol : ZFSVolume) : Routine (Except Err Unit) :=
  match vol.labels.lookup ZFSSrcVolKey with
  | none => return .ok ()
  | some srcVol => createSnapshot node (cloneSnapshot vol srcVol)

/-- The last step of `CreateClone`: xfs and btrfs need a new uuid. -/
def generateUUID (node : String) (vol : ZFSVolume) : Routine (Except Err Unit) := do
  if vol.spec.fsType = "xfs" ∨ vol.spec.fsType = "btrfs" then
    match ← call (.generateUUID node (ZFSDevPath ++ (datasetOf vol).path)) with
    | .error message => return .error (.text message)
    | .ok () => return .ok ()
  else
    return .ok ()

/-- `CreateClone`: create the clone unless it is there. -/
def createClone (node : String) (vol : ZFSVolume) : Routine (Except Err Unit) := do
  let volume := datasetOf vol
  match ← createCloneSnapshot node vol with
  | .error err => return .error err
  | .ok () =>
      match ← getVolume node (.dataset volume) with
      | .ok () => generateUUID node vol
      | .error _ =>
          let source := vol.spec.poolName ++ "/" ++ vol.spec.snapName
          match ← runCmd node "zfs clone" volume.path
              (.clone (buildCloneCreateArgs vol) source volume) with
          | .error err => return .error err
          | .ok _ => generateUUID node vol

/-- `GetVolumeProperty`. -/
def getVolumeProperty (node : String) (vol : ZFSVolume) (prop : String) :
    Routine (Except Err String) :=
  runCmd node ("zfs get " ++ prop) (datasetOf vol).path (.get prop (datasetOf vol))

/-- `SetVolumeProp`: nothing is run when there is nothing to set. -/
def setVolumeProp (node : String) (vol : ZFSVolume) : Routine (Except Err Unit) := do
  if vol.spec.compression = "" ∧ vol.spec.dedup = "" ∧ vol.spec.logBias = "" ∧
      vol.spec.userProperties = [] ∧
      (vol.spec.volumeType ≠ .dataset ∨ (vol.spec.recordSize = "" ∧ vol.spec.aTime = "")) then
    return .ok ()
  else
    match ← runCmd node "zfs set" (datasetOf vol).path
        (.set (buildVolumeSetArgs vol) (datasetOf vol)) with
    | .error err => return .error err
    | .ok _ => return .ok ()

/-- The last step of `DestroyVolume`: the internal snapshot of a volume clone.
Its failure is logged, the volume is gone already. -/
def destroyCloneSnapshot (node : String) (vol : ZFSVolume) : Routine (Except Err Unit) := do
  match vol.labels.lookup ZFSSrcVolKey with
  | none => return .ok ()
  | some srcVol =>
      let _ ← destroySnapshot node (cloneSnapshot vol srcVol)
      return .ok ()

/-- `DestroyVolume`: an absent volume counts as destroyed, an absent pool does
not. -/
def destroyVolume (node : String) (vol : ZFSVolume) : Routine (Except Err Unit) := do
  let volume := datasetOf vol
  match ← getVolume node (.parent vol.spec.poolName) with
  | .error err => return .error err
  | .ok () =>
      match ← getVolume node (.dataset volume) with
      | .error _ => return .ok ()
      | .ok () =>
          match ← runCmd node "zfs destroy" volume.path (.destroy volume) with
          | .error err => return .error err
          | .ok _ => destroyCloneSnapshot node vol

/-! ## Resize -/

/-- `GetVolumeDevPath`. -/
def getVolumeDevPath (node : String) (vol : ZFSVolume) : Routine (Except Err String) := do
  if vol.spec.volumeType = .dataset then
    return .ok (datasetOf vol).path
  else
    match ← call (.evalSymlinks node (ZFSDevPath ++ (datasetOf vol).path)) with
    | .error message => return .error (.text message)
    | .ok dev => return .ok dev

/-- The filesystem is grown by its own tool; a dataset needs nothing. -/
def growFilesystem (node volumePath devpath fsType : String) : Routine (Except Err Unit) := do
  if fsType = "xfs" then
    match ← call (.resizeXFS node volumePath) with
    | .error message => return .error (.text message)
    | .ok () => return .ok ()
  else if fsType = "zfs" then
    return .ok ()
  else
    match ← call (.resizeExtn node devpath) with
    | .error message => return .error (.text message)
    | .ok () => return .ok ()

/-- `handleVolResize`: grow the filesystem if it is mounted at the path. -/
def handleVolResize (node : String) (vol : ZFSVolume) (volumePath : String) :
    Routine (Except Err Unit) := do
  match ← getVolumeDevPath node vol with
  | .error err => return .error err
  | .ok devpath =>
      let paths : List String ← call (.mounts node)
      if volumePath ∈ paths then
        growFilesystem node volumePath devpath vol.spec.fsType
      else
        return .ok ()

/-- The revert of `ResizeZFSVolume`: the capacity it knew before. -/
def revertedVol (vol : ZFSVolume) (oldReservation : String) : ZFSVolume :=
  { vol with spec := { vol.spec with capacity := oldReservation } }

/-- `ResizeZFSVolume`. -/
def resizeZFSVolume (node : String) (vol : ZFSVolume) (mountpath : String) (resizefs : Bool) :
    Routine (Except Err Unit) := do
  let volume := datasetOf vol
  match ← getVolumeProperty node vol (reservationPropertyName vol.spec.quotaType) with
  | .error err => return .error err
  | .ok oldReservation =>
      match ← runCmd node "zfs set quota" volume.path
          (.set (buildVolumeResizeArgs vol) volume) with
      | .error err =>
          let _ ← runCmd node "zfs set quota (revert)" volume.path
            (.set (buildVolumeResizeArgs (revertedVol vol oldReservation)) volume)
          return .error err
      | .ok _ => if resizefs then handleVolResize node vol mountpath else return .ok ()

/-! ## Backups -/

/-- The snapshot of a backup. -/
def backupSnapshot (bkp : ZFSBackup) (vol : ZFSVolume) : ZFSSnapshot :=
  { name := bkp.spec.snapName
    labels := [(ZFSVolKey, vol.name)]
    spec := { poolName := vol.spec.poolName }
    status := .unset }

/-- `CreateBackup`: take the snapshot and send it. -/
def createBackup (node : String) (bkp : ZFSBackup) : Routine (Except Err Unit) := do
  match ← getZFSVolume bkp.spec.volumeName with
  | .error err => return .error err
  | .ok vol =>
      match ← createSnapshot node (backupSnapshot bkp vol) with
      | .error err => return .error err
      | .ok () =>
          match buildVolumeBackupArgs bkp vol with
          | .error message => return .error (.text message)
          | .ok (sendArgs, ncArgs) =>
              match ← call (.send node (sendArgs ++ ncArgs)) with
              | .error out => return .error (.zfs "zfs send (backup)" (datasetOf vol).path out)
              | .ok () => return .ok ()

/-- `DestoryBackup`: destroy the snapshot of the backup. -/
def destoryBackup (node : String) (bkp : ZFSBackup) : Routine (Except Err Unit) := do
  match ← getZFSVolume bkp.spec.volumeName with
  | .error err => if err.isNotFound then return .ok () else return .error err
  | .ok vol => destroySnapshot node (backupSnapshot bkp vol)

end ZfsLocalPv.Zfs

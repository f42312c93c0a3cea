import ZfsLocalPv.Api.Errors

/-!
# Custom resources of the driver

`ZFSVolume`, `ZFSSnapshot`, `ZFSBackup` and `ZFSNode` with the fields that some function of the
driver reads or writes, and the names the driver fixes. Type metadata and namespaces are left
out: there is one namespace.
-/

namespace ZfsLocalPv.Api

open ApiServer Go

/-- The driver's finalizer on volumes, snapshots and backups. -/
def ZFSFinalizer : String := "zfs.openebs.io/finalizer"

/-- The label that names the volume of a snapshot. -/
def ZFSVolKey : String := "openebs.io/persistent-volume"

/-- The label that names the source of a volume clone. -/
def ZFSSrcVolKey : String := "openebs.io/source-volume"

def PoolNameKey : String := "openebs.io/poolname"

/-- The label that names the node of an object. -/
def ZFSNodeKey : String := "kubernetes.io/nodename"

def ZFSTopologyKey : String := "openebs.io/nodeid"

def OpenEBSCasTypeKey : String := "openebs.io/cas-type"

def FormatOptionsKey : String := "openebs.io/format-options"

def ZFSCasTypeName : String := "localpv-zfs"

/-- The annotation of a volume whose deletion waits for its snapshots. -/
def MarkForDeletionAnnotation : String := "openebs.io/marked-for-deletion"

/-- `Status.State` of a volume or a snapshot; `unset` is the empty string. -/
inductive State
  | unset
  | pending
  | ready
  | failed
  deriving DecidableEq, Repr

/-- `Spec.VolumeType`; `unset` is the empty string. -/
inductive VolumeType
  | unset
  | dataset
  | zvol
  deriving DecidableEq, Repr

/-- The parameters of a volume, copied to its clones and snapshots. -/
structure VolumeInfo where
  ownerNodeID : String := ""
  poolName : String := ""
  snapName : String := ""
  capacity : String := ""
  recordSize : String := ""
  volBlockSize : String := ""
  compression : String := ""
  dedup : String := ""
  aTime : String := ""
  logBias : String := ""
  encryption : String := ""
  keyLocation : String := ""
  keyFormat : String := ""
  thinProvision : String := ""
  volumeType : VolumeType := .unset
  quotaType : String := ""
  fsType : String := ""
  shared : String := ""
  userProperties : StringMap := []
  deriving DecidableEq

abbrev ZFSVolume := Object VolumeInfo State

abbrev ZFSSnapshot := Object VolumeInfo State

structure ZFSBackupSpec where
  volumeName : String := ""
  ownerNodeID : String := ""
  snapName : String := ""
  prevSnapName : String := ""
  backupDest : String := ""
  deriving DecidableEq

inductive ZFSBackupStatus
  | init
  | done
  | failed
  | pending
  | inProgress
  | invalid
  deriving DecidableEq, Repr

abbrev ZFSBackup := Object ZFSBackupSpec ZFSBackupStatus

/-- A pool as its node reports it. Quantities are numbers of bytes. -/
structure Pool where
  name : String
  uuid : String := ""
  free : Int := 0
  used : Int := 0
  deriving DecidableEq

structure OwnerReference where
  apiVersion : String := ""
  kind : String
  name : String
  uid : String := ""
  controller : Option Bool := none
  blockOwnerDeletion : Option Bool := none
  deriving DecidableEq

structure ZFSNode where
  name : String
  ownerReferences : List OwnerReference := []
  pools : List Pool := []
  deriving DecidableEq

/-- A Kubernetes node. -/
structure Node where
  name : String
  labels : StringMap := []
  deriving DecidableEq

/-! ## User properties -/

/-- `ValidateUserProperty`; the first rule that is violated decides the message. -/
def validateUserProperty (name value : String) : Except Err Unit :=
  if name.utf8ByteSize = 0 then
    .error (.status .invalidArgument "name cannot be empty")
  else if name.utf8ByteSize > 256 then
    .error (.status .invalidArgument "name too long")
  else if startsWith name "-" then
    .error (.status .invalidArgument "name cannot begin with '-'")
  else if ¬ name.toList.all allowed then
    .error (.status .invalidArgument "name contains invalid byte(s)")
  else if ¬ name.toList.contains ':' then
    .error (.status .invalidArgument "name does not contain ':'")
  else if value.utf8ByteSize > 8192 then
    .error (.status .invalidArgument "value too long")
  else
    .ok ()
where
  allowed (char : Char) : Bool :=
    ('a' ≤ char && char ≤ 'z') || ('0' ≤ char && char ≤ '9') ||
      char == '-' || char == '.' || char == '_' || char == ':'

/-- `VolumeInfo.Validate`: every user property is valid and reserved. -/
def VolumeInfo.validate (info : VolumeInfo) : Except Err Unit :=
  go info.userProperties
where
  go : StringMap → Except Err Unit
    | [] => .ok ()
    | (name, value) :: rest =>
        match validateUserProperty name value with
        | .error err => .error err
        | .ok () =>
            if startsWith name "openebs.io:" then
              go rest
            else
              .error (.text ("user property '" ++ name ++ "' does not have prefix `openebs.io:`"))

end ZfsLocalPv.Api

import ZfsLocalPv.Driver.Csi
import ZfsLocalPv.Driver.VolumeLock
import ZfsLocalPv.Zfs.Util

/-!
# Deletion and expansion

The controller's `DeleteVolume` and `ControllerExpandVolume`, and the node's part of an
expansion.
-/

namespace ZfsLocalPv.Driver

open Api Go Zfs Cluster Interaction

/-! ## DeleteVolume -/

/-- The part of `DeleteVolume` that runs under the lock. -/
def deleteVolumeLocked (req : DeleteVolumeRequest) (volumeID : String) :
    Routine (Except Err Unit) := do
  match ← getZFSVolume volumeID with
  | .error err =>
      if err.isNotFound then
        return .ok ()
      else
        return .error (err.wrap ("failed to get volume for \x7b" ++ volumeID ++ "\x7d"))
  | .ok vol =>
      if vol.deletionTimestamp = true then
        return .ok ()
      else if vol.status ≠ .ready then
        return .error (.status .internal "can not delete, volume creation is in progress")
      else
        match ← getSnapshotForVolume volumeID with
        | .error err =>
            return .error (.status .notFound
              ("failed to handle delete volume request for \x7b" ++ req.volumeId ++
                "\x7d, validation failed checking for snapshots. Error: " ++ err.error))
        | .ok snapList =>
            if snapList = [] then
              match ← Zfs.deleteVolume volumeID with
              | .error err =>
                  return .error (err.wrap
                    ("failed to handle delete volume request for \x7b" ++ volumeID ++ "\x7d"))
              | .ok () => return .ok ()
            else
              match ← markForDeletion volumeID with
              | .error err =>
                  return .error (err.wrap
                    ("failed to annotate volume on deletion request for \x7b" ++ volumeID ++
                      "\x7d"))
              | .ok () => return .ok ()

/-- `DeleteVolume`. -/
def deleteVolume (req : DeleteVolumeRequest) : Routine (Except Err Unit) :=
  if req.volumeId = "" then
    return .error (.status .invalidArgument
      "failed to handle delete volume request: missing volume id")
  else
    lockVolume (toLower req.volumeId) (deleteVolumeLocked req (toLower req.volumeId))

/-! ## Expansion -/

/-- The part of `ControllerExpandVolume` that runs under the lock. -/
def expandVolumeLocked (volumeID : String) (updatedSize : Int) :
    Routine (Except Err ControllerExpandVolumeResponse) := do
  match ← getZFSVolume volumeID with
  | .error err =>
      return .error (.status .internal
        ("ControllerExpandVolumeRequest: failed to get ZFSVolume in for " ++ volumeID ++
          ", \x7b" ++ err.error ++ "\x7d"))
  | .ok vol =>
      match parseInt vol.spec.capacity with
      | .error message =>
          return .error (.status .internal
            ("ControllerExpandVolumeRequest: failed to parse volsize in for " ++ volumeID ++
              ", \x7b" ++ message ++ "\x7d"))
      | .ok volsize =>
          -- a volume that is large enough needs nothing, on no node
          if volsize ≥ updatedSize then
            return .ok { capacityBytes := volsize }
          else
            match ← resizeVolume vol updatedSize with
            | .error err =>
                return .error (.status .internal
                  ("failed to handle ControllerExpandVolumeRequest for " ++ volumeID ++
                    ", \x7b" ++ err.error ++ "\x7d"))
            | .ok () =>
                return .ok { capacityBytes := updatedSize, nodeExpansionRequired := true }

/-- `ControllerExpandVolume`. -/
def controllerExpandVolume (req : ControllerExpandVolumeRequest) :
    Routine (Except Err ControllerExpandVolumeResponse) :=
  let volumeID := toLower req.volumeId
  if volumeID = "" then
    return .error (.status .invalidArgument "ControllerExpandVolume: no volumeID provided")
  else
    lockVolume volumeID (expandVolumeLocked volumeID
      (getRoundedCapacity (getRequiredBytes req.capacityRange)))

/-- `NodeExpandVolume`, run by the plugin of a node. -/
def nodeExpandVolume (node : String) (req : NodeExpandVolumeRequest) :
    Routine (Except Err NodeExpandVolumeResponse) := do
  if req.volumePath = "" ∨ req.volumeId = "" then
    return .error (.status .invalidArgument
      ("path not provided for NodeExpandVolume Request " ++ req.volumeId))
  else
    match ← getZFSVolume req.volumeId with
    | .error err =>
        return .error (.status .notFound
          ("failed to handle NodeExpandVolume Request for " ++ req.volumeId ++ ", \x7b" ++
            err.error ++ "\x7d"))
    | .ok vol =>
        match ← call (.stat node req.volumePath) with
        | .error message =>
            return .error (.status .internal ("failed to stat mountpath " ++ message))
        | .ok isDir =>
            match ← resizeZFSVolume node vol req.volumePath isDir with
            | .error err =>
                let code :=
                  if contains err.error "size is greater than available space" then
                    Code.resourceExhausted
                  else
                    Code.internal
                return .error (.status code
                  ("failed to handle NodeExpandVolume Request for " ++ req.volumeId ++
                    ", \x7b" ++ err.error ++ "\x7d"))
            | .ok () =>
                return .ok { capacityBytes := getRequiredBytes req.capacityRange }

end ZfsLocalPv.Driver

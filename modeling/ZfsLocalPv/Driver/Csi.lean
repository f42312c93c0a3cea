import ZfsLocalPv.Api.Errors
import ZfsLocalPv.Api.Types

/-!
# CSI requests and responses

The fields of the CSI messages that the driver reads or fills in. A capacity range is its
required bytes. Topology is read by the scheduler of the CSI library only and is left out. The
library is not part of the repository: `getCaseInsensitiveMap` and `getInsensitiveParameter` say
what its two helpers for parameters are taken to do.
-/

namespace ZfsLocalPv.Driver

open Api Go

inductive ContentSource
  | snapshot (snapshotId : String)
  | volume (volumeId : String)
  deriving DecidableEq

structure CreateVolumeRequest where
  name : String
  capacityRange : Option Int := none
  parameters : StringMap := []
  /-- Whether volume capabilities are given. -/
  volumeCapabilities : Bool := true
  contentSource : Option ContentSource := none
  deriving DecidableEq

structure CreateVolumeResponse where
  volumeId : String
  capacityBytes : Int
  topology : StringMap
  volumeContext : StringMap
  contentSource : Option ContentSource
  deriving DecidableEq

structure DeleteVolumeRequest where
  volumeId : String
  deriving DecidableEq

structure ControllerExpandVolumeRequest where
  volumeId : String
  capacityRange : Option Int := none
  deriving DecidableEq

structure ControllerExpandVolumeResponse where
  capacityBytes : Int
  nodeExpansionRequired : Bool := false
  deriving DecidableEq

structure CreateSnapshotRequest where
  sourceVolumeId : String
  name : String
  parameters : StringMap := []
  deriving DecidableEq

structure CreateSnapshotResponse where
  sourceVolumeId : String
  snapshotId : String
  sizeBytes : Int
  creationTime : Int
  readyToUse : Bool
  deriving DecidableEq

structure DeleteSnapshotRequest where
  snapshotId : String
  deriving DecidableEq

structure NodeExpandVolumeRequest where
  volumeId : String
  volumePath : String
  capacityRange : Option Int := none
  deriving DecidableEq

structure NodeExpandVolumeResponse where
  capacityBytes : Int
  deriving DecidableEq

/-- `GetCaseInsensitiveMap`: keys in lower case. -/
def getCaseInsensitiveMap (dict : StringMap) : StringMap :=
  dict.map fun entry => (toLower entry.1, entry.2)

/-- `GetInsensitiveParameter`. -/
def getInsensitiveParameter (dict : StringMap) (key : String) : String :=
  StringMap.get (getCaseInsensitiveMap dict) (toLower key)

/-- The nil-safe `GetCapacityRange().GetRequiredBytes()`. -/
def getRequiredBytes (capacityRange : Option Int) : Int :=
  capacityRange.getD 0

def Mi : Int := 1024 * 1024

def Gi : Int := 1024 * 1024 * 1024

/-- `getRoundedCapacity`: up to a multiple of 1Gi, or of 1Mi if that suffices.
Every operation wraps around at 64 bits and division truncates. -/
def getRoundedCapacity (size : Int) : Int :=
  if size > Gi then
    wrap64 ((wrap64 (wrap64 (size + Gi) - 1)).tdiv Gi * Gi)
  else
    wrap64 ((wrap64 (wrap64 (size + Mi) - 1)).tdiv Mi * Mi)

end ZfsLocalPv.Driver

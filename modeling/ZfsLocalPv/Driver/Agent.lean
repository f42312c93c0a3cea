import Mathlib.Logic.Relation
import ZfsLocalPv.Driver.Csi
import ZfsLocalPv.Zfs.FormatOptions
import ZfsLocalPv.Zfs.Mount

/-!
# Publishing volumes on a node

`NodePublishVolume` and `NodeUnpublishVolume` of `pkg/driver/agent.go`, and the node that handles
such requests one after another.
-/

namespace ZfsLocalPv.Driver

open Api Go Mount Interaction Zfs

/-- The access type of a capability. -/
inductive AccessType
  | unset
  | block
  | mount (fsType : String) (mountFlags : List String)
  deriving DecidableEq

structure NodePublishVolumeRequest where
  volumeId : String
  targetPath : String
  volumeCapability : Option AccessType := none
  readonly : Bool := false
  volumeContext : StringMap := []
  deriving DecidableEq

structure NodeUnpublishVolumeRequest where
  volumeId : String
  targetPath : String
  deriving DecidableEq

/-- The mount info of `GetVolAndMountInfo`. -/
def mountInfoOf (defaults : FormatDefaults) (req : NodePublishVolumeRequest)
    (access : AccessType) : MountInfo :=
  let (fsType, mountFlags) :=
    match access with
    | .mount fsType mountFlags => (fsType, mountFlags)
    | _ => ("", [])
  { fsType := fsType
    mountPath := req.targetPath
    mountOptions := mountFlags ++ if req.readonly then ["ro"] else []
    formatOptions := formatOptions defaults fsType (req.volumeContext.get FormatOptionsKey) }

/-- A failed mount is reported as an internal error, whatever it was. -/
def publishAnswer (mounted : Except Err Unit) : Except Err Unit :=
  match mounted with
  | .error err => .error (.status .internal err.error)
  | .ok () => .ok ()

/-- `NodePublishVolume`. A capability without an access type mounts nothing. -/
def nodePublishVolume (nodeID : String) (defaults : FormatDefaults)
    (req : NodePublishVolumeRequest) : Mount.Routine (Except Err Unit) := do
  match req.volumeCapability with
  | none => return .error (.status .invalidArgument "Volume capability missing in request")
  | some access =>
      if req.volumeId = "" then
        return .error (.status .invalidArgument "Volume ID missing in request")
      else
        match ← Mount.call (.getVolume (toLower req.volumeId)) with
        | .error err => return .error (.status .internal err.error)
        | .ok vol =>
            let mountInfo := mountInfoOf defaults req access
            match access with
            | .unset => return .ok ()
            | .block => return publishAnswer (← mountBlock vol mountInfo)
            | .mount _ _ => return publishAnswer (← mountFilesystem nodeID vol mountInfo)

/-- `NodeUnpublishVolume`. The id is not lowered here. -/
def nodeUnpublishVolume (req : NodeUnpublishVolumeRequest) :
    Mount.Routine (Except Err Unit) := do
  if req.volumeId = "" then
    return .error (.status .invalidArgument "Volume ID missing in request")
  else if req.targetPath = "" then
    return .error (.status .invalidArgument "Target path missing in request")
  else
    match ← Mount.call (.getVolume req.volumeId) with
    | .error err =>
        return .error (.status .internal
          ("not able to get the ZFSVolume " ++ req.volumeId ++ " err : " ++ err.error))
    | .ok vol =>
        match ← umountVolume vol req.targetPath with
        | .error err =>
            return .error (.status .internal
              ("unable to umount the volume " ++ req.volumeId ++ " err : " ++ err.error))
        | .ok () => return .ok ()

inductive NodeRequest
  | publish (req : NodePublishVolumeRequest)
  | unpublish (req : NodeUnpublishVolumeRequest)
  deriving DecidableEq

def NodeRequest.handler (nodeID : String) (defaults : FormatDefaults) :
    NodeRequest → Mount.Routine (Except Err Unit)
  | publish req => nodePublishVolume nodeID defaults req
  | unpublish req => nodeUnpublishVolume req

/-- A node that publishes volumes: its mounts and its `--default-format-options`. -/
structure Publisher extends Host where
  formatDefaults : FormatDefaults := []

namespace Publisher

variable (node : Publisher)

/-- A request is handled, from its first call to its answer. -/
def Handles (request : NodeRequest) (before : Mount.State) (answer : Except Err Unit)
    (after : Mount.State) : Prop :=
  Prog.Returns (Mount.exec node.toHost) (request.handler node.nodeID node.formatDefaults) before
    answer after

/-- One request that meets a condition on the state it finds. -/
def Step (Meets : NodeRequest → Mount.State → Prop) (before after : Mount.State) : Prop :=
  ∃ request answer, Meets request before ∧ node.Handles request before answer after

/-- The states that requests handled one after another lead to. -/
def Reaches (Meets : NodeRequest → Mount.State → Prop) : Mount.State → Mount.State → Prop :=
  Relation.ReflTransGen (node.Step Meets)

end Publisher

end ZfsLocalPv.Driver

import ZfsLocalPv.Driver.Csi
import ZfsLocalPv.Driver.Scheduling
import ZfsLocalPv.Driver.VolumeLock

/-!
# CreateVolume

The controller's `CreateVolume` in its three kinds: a plain volume, tried on one node after the
other, a clone of a volume and a clone of a snapshot. Parts of `CreateZFSVolume` are definitions
of their own; `polls` bounds the rounds of its waiting loops.
-/

namespace ZfsLocalPv.Driver

open Api Go Zfs Cluster Interaction

/-- `waitForVolDestroy`: wait until the volume is gone. -/
def waitForVolDestroy (volname : String) : Nat → Routine (Except Err Unit)
  | 0 => hang
  | polls + 1 => do
      match ← getZFSVolume volname with
      | .error err =>
          if err.isNotFound then
            return .ok ()
          else
            return .error (.status .internal
              ("zfs: destroy wait failed, not able to get the volume " ++ volname ++ " " ++
                err.error))
      | .ok _ => waitForVolDestroy volname polls

/-- The storage class parameters of a plain volume. -/
structure VolumeParams where
  volName : String
  size : Int
  pool : String
  poolpattern : String
  schld : String
  vtype : VolumeType
  thinProvision : String
  /-- The node given in place of topology, if any. -/
  node : Option String
  wait : Bool

/-- The parameters `CreateZFSVolume` reads from a request. -/
def volumeParams (req : CreateVolumeRequest) (requiredBytes : Int) : VolumeParams :=
  let parameters := getCaseInsensitiveMap req.parameters
  { volName := toLower req.name
    size := getRoundedCapacity requiredBytes
    pool := StringMap.get parameters "poolname"
    poolpattern := StringMap.get parameters "poolpattern"
    schld := StringMap.get parameters "scheduler"
    vtype := getVolumeType (StringMap.get parameters "fstype")
    thinProvision := StringMap.get parameters "thinprovision"
    node := parameters.lookup "node"
    wait := StringMap.has parameters "wait" }

/-- The volume object before a node is chosen. -/
def volumeObject (req : CreateVolumeRequest) (params : VolumeParams) :
    Except String ZFSVolume :=
  let parameters := getCaseInsensitiveMap req.parameters
  let named := VolBuilder.withName params.volName Builder.newBuilder
  let reserved := VolBuilder.withPVName
    (getInsensitiveParameter req.parameters "csi.storage.k8s.io/pv/name")
    (VolBuilder.withPVCNamespace
      (getInsensitiveParameter req.parameters "csi.storage.k8s.io/pvc/namespace")
      (VolBuilder.withPVCName
        (getInsensitiveParameter req.parameters "csi.storage.k8s.io/pvc/name") named))
  let sized := VolBuilder.withCapacity (formatInt params.size) reserved
  let specified := sized.withSpec fun spec =>
    { spec with
      recordSize := StringMap.get parameters "recordsize"
      volBlockSize := StringMap.get parameters "volblocksize"
      dedup := StringMap.get parameters "dedup"
      encryption := StringMap.get parameters "encryption"
      keyFormat := StringMap.get parameters "keyformat"
      keyLocation := StringMap.get parameters "keylocation"
      thinProvision := params.thinProvision
      volumeType := params.vtype
      fsType := StringMap.get parameters "fstype"
      shared := StringMap.get parameters "shared"
      aTime := StringMap.get parameters "atime"
      logBias := StringMap.get parameters "logbias"
      compression := StringMap.get parameters "compression" }
  let quota := VolBuilder.withQuotaType (StringMap.get parameters "quotatype") specified
  (quota.withVolumeStatus .pending).build

/-- The pool of the volume on a node: a pool name as it is, a pattern resolved
against the pools of the node. -/
def volPool (params : VolumeParams) (pattern : Pattern) (minFree : Int) (node nodeid : String) :
    Routine (Except Err String) := do
  if params.poolpattern ≠ "" then
    match ← resolvePool params.schld nodeid pattern minFree with
    | .error err => return .error err
    | .ok pool =>
        if pool = "" then
          return .error (.text ("no pool matching poolpattern " ++ quote params.poolpattern ++
            " on node " ++ node))
        else
          return .ok pool
  else
    return .ok params.pool

/-- The volume object for a node and a pool. -/
def placedVolume (volObj : ZFSVolume) (nodeid pool : String) : Except String ZFSVolume :=
  ((VolBuilder.withPoolName pool (VolBuilder.withOwnerNodeID nodeid
    (Builder.buildFrom volObj))).withVolumeStatus .pending).build

/-- The loop of `CreateZFSVolume`: try one node after the other until the volume
is provisioned or a wait times out. The last argument is the error so far. -/
def tryNodes (polls : Nat) (params : VolumeParams) (pattern : Pattern) (minFree : Int)
    (volObj : ZFSVolume) : List String → Option Err → Routine (Except (Option Err) ZFSVolume)
  | [], err => return .error err
  | node :: nodes, _ => do
      match ← getNodeID node with
      | .error err => tryNodes polls params pattern minFree volObj nodes (some err)
      | .ok nodeid =>
          match ← volPool params pattern minFree node nodeid with
          | .error err => tryNodes polls params pattern minFree volObj nodes (some err)
          | .ok pool =>
              match placedVolume volObj nodeid pool with
              | .error message =>
                  tryNodes polls params pattern minFree volObj nodes (some (.text message))
              | .ok vol =>
                  let (timeout, provisioned) ← provisionVolume polls vol
                  match provisioned with
                  | .ok () => return .ok vol
                  | .error err =>
                      if timeout then
                        return .error (some err)
                      else
                        tryNodes polls params pattern minFree volObj nodes (some err)

/-- The end of `CreateZFSVolume`: try the nodes and delete the volume resource if
all of them fail. -/
def provisionOnNodes (polls : Nat) (params : VolumeParams) (pattern : Pattern) (minFree : Int)
    (volObj : ZFSVolume) (prfList : List String) : Routine (Except Err ZFSVolume) := do
  match ← tryNodes polls params pattern minFree volObj prfList none with
  | .ok vol => return .ok vol
  | .error none => panic
  | .error (some err) =>
      let _ ← deleteVolume params.volName
      return .error (.status .internal
        ("not able to provision the volume, nodes " ++ formatList prfList ++ ", err : " ++
          err.error))

/-- The nodes a plain volume may be tried on, after the fit check. -/
def fittingNodes (params : VolumeParams) (pattern : Pattern) (prfList : List String) :
    Routine (Except Err (List String)) := do
  let reserves := reservesSpace params.vtype params.thinProvision
  if params.poolpattern ≠ "" ∨ reserves = true then
    match ← getSuitableNodes pattern params.size with
    | .error err =>
        return .error (.status .internal ("get suitable nodes failed : " ++ err.error))
    | .ok (suitable, matched) =>
        if params.poolpattern ≠ "" ∧ matched = false then
          return .error (.status .failedPrecondition
            ("no pool matching " ++ poolDesc params.pool params.poolpattern ++
              " is present on any node, volume " ++ params.volName))
        else if reserves = true then
          if filterKeep prfList suitable = [] then
            return .error (.status .resourceExhausted
              ("no pool matching " ++ poolDesc params.pool params.poolpattern ++ " has " ++
                formatInt params.size ++ " bytes free, volume " ++ params.volName))
          else
            return .ok (filterKeep prfList suitable)
        else
          return .ok prfList
  else
    return .ok prfList

/-- The ordered nodes: the one given, or the scheduler's. -/
def preferredNodes (params : VolumeParams) (nmap : Weights) : Routine (List String) :=
  match params.node with
  | some node => return [node]
  | none => call (.scheduler nmap)

/-- `CreateZFSVolume` after its check for an existing volume. -/
def createMissingVolume (compile : Compile) (polls : Nat) (req : CreateVolumeRequest)
    (params : VolumeParams) : Routine (Except Err ZFSVolume) := do
  match parsePoolParams compile params.pool params.poolpattern with
  | .error message => return .error (.status .invalidArgument message)
  | .ok pattern =>
      match ← getNodeMap params.schld pattern with
      | .error err => return .error (.status .internal ("get node map failed : " ++ err.error))
      | .ok nmap =>
          let prfList ← preferredNodes params nmap
          if prfList = [] then
            return .error (.status .internal
              "scheduler failed, node list is empty for creating the PV")
          else
            match ← fittingNodes params pattern prfList with
            | .error err => return .error err
            | .ok nodes =>
                match volumeObject req params with
                | .error message => return .error (.status .internal message)
                | .ok volObj =>
                    let minFree :=
                      if reservesSpace params.vtype params.thinProvision then params.size else 0
                    provisionOnNodes polls params pattern minFree volObj nodes

/-- `CreateZFSVolume`. Reading the required bytes of a missing capacity range is
a nil dereference. Any error of the existence check counts as absence. -/
def createZFSVolume (compile : Compile) (polls : Nat) (req : CreateVolumeRequest) :
    Routine (Except Err ZFSVolume) :=
  match req.capacityRange with
  | none => panic
  | some requiredBytes => do
      let params := volumeParams req requiredBytes
      match ← getZFSVolume params.volName with
      | .error _ => createMissingVolume compile polls req params
      | .ok vol =>
          if vol.deletionTimestamp = true then
            if params.wait = true then
              match ← waitForVolDestroy params.volName polls with
              | .error err => return .error err
              | .ok () => createMissingVolume compile polls req params
            else
              createMissingVolume compile polls req params
          else if vol.spec.capacity ≠ formatInt params.size then
            return .error (.status .alreadyExists
              ("volume " ++ params.volName ++ " already present"))
          else if vol.status ≠ .ready then
            return .error (.status .aborted
              ("volume " ++ params.volName ++ " request already pending"))
          else
            return .ok vol

/-! ## Clones -/

/-- The bare object of a clone: its name and the reserved properties. -/
def cloneObject (req : CreateVolumeRequest) (labels : StringMap) : Except String ZFSVolume :=
  let named := VolBuilder.withName (toLower req.name) Builder.newBuilder
  let reserved := VolBuilder.withPVName
    (getInsensitiveParameter req.parameters "csi.storage.k8s.io/pv/name")
    (VolBuilder.withPVCNamespace
      (getInsensitiveParameter req.parameters "csi.storage.k8s.io/pvc/namespace")
      (VolBuilder.withPVCName
        (getInsensitiveParameter req.parameters "csi.storage.k8s.io/pvc/name") named))
  ((reserved.withVolumeStatus .pending).withLabels labels).build

/-- A clone takes the specification of its source but keeps the reserved
properties of its own object. -/
def cloneOf (volObj : ZFSVolume) (source : VolumeInfo) (snapName : String) : ZFSVolume :=
  { volObj with spec := { source with
    userProperties := volObj.spec.userProperties
    snapName := snapName } }

/-- `CreateVolClone`. There is no check for an existing volume of the name. -/
def createVolClone (compile : Compile) (polls : Nat) (req : CreateVolumeRequest)
    (srcVol : String) : Routine (Except Err ZFSVolume) :=
  match req.capacityRange with
  | none => panic
  | some requiredBytes => do
      let volName := toLower req.name
      let pool := getInsensitiveParameter req.parameters "poolname"
      let poolpattern := getInsensitiveParameter req.parameters "poolpattern"
      match parsePoolParams compile pool poolpattern with
      | .error message => return .error (.status .invalidArgument message)
      | .ok pattern =>
          match ← getZFSVolume srcVol with
          | .error err => return .error (.status .notFound err.error)
          | .ok vol =>
              if sourcePoolAllowed vol.spec.poolName pool pattern = false then
                return .error (.status .invalidArgument
                  ("clone: source pool " ++ vol.spec.poolName ++ " is not covered by " ++
                    poolDesc pool poolpattern))
              else if vol.spec.capacity ≠ formatInt (getRoundedCapacity requiredBytes) then
                return .error (.status .internal "clone: volume size is not matching")
              else
                match cloneObject req [(ZFSSrcVolKey, vol.name)] with
                | .error message => return .error (.text message)
                | .ok volObj =>
                    -- the internal snapshot has the name of the clone
                    let clone := cloneOf volObj vol.spec (vol.name ++ "@" ++ volName)
                    let (_, provisioned) ← provisionVolume polls clone
                    match provisioned with
                    | .error err =>
                        return .error (.status .internal
                          ("clone: not able to provision the volume err : " ++ err.error))
                    | .ok () => return .ok clone

/-- `CreateSnapClone`. There is no check for an existing volume of the name. -/
def createSnapClone (compile : Compile) (polls : Nat) (req : CreateVolumeRequest)
    (snapshot : String) : Routine (Except Err ZFSVolume) :=
  match req.capacityRange with
  | none => panic
  | some requiredBytes => do
      let pool := getInsensitiveParameter req.parameters "poolname"
      let poolpattern := getInsensitiveParameter req.parameters "poolpattern"
      match parsePoolParams compile pool poolpattern with
      | .error message => return .error (.status .invalidArgument message)
      | .ok pattern =>
          match split '@' snapshot with
          | [_, snapID] =>
              match ← getZFSSnapshot snapID with
              | .error err => return .error (.status .notFound err.error)
              | .ok snap =>
                  if sourcePoolAllowed snap.spec.poolName pool pattern = false then
                    return .error (.status .invalidArgument
                      ("clone: snapshot pool " ++ snap.spec.poolName ++ " is not covered by " ++
                        poolDesc pool poolpattern))
                  else if snap.spec.capacity ≠ formatInt (getRoundedCapacity requiredBytes) then
                    return .error (.status .internal "clone volume size is not matching")
                  else
                    match cloneObject req [] with
                    | .error message => return .error (.text message)
                    | .ok volObj =>
                        let clone := cloneOf volObj snap.spec (toLower snapshot)
                        let (_, provisioned) ← provisionVolume polls clone
                        match provisioned with
                        | .error err =>
                            return .error (.status .internal
                              ("not able to provision the clone volume err : " ++ err.error))
                        | .ok () => return .ok clone
          | _ =>
              return .error (.status .notFound ("snap name is not valid " ++ snapshot ++
                ", \x7binvalid snapshot name\x7d"))

/-! ## The request -/

/-- `validateVolumeCreateReq`; the capability it asks for is always there. -/
def validateVolumeCreateReq (req : CreateVolumeRequest) : Except Err Unit :=
  if req.name = "" then
    .error (.status .invalidArgument
      "failed to handle create volume request: missing volume name")
  else if req.volumeCapabilities = false then
    .error (.status .invalidArgument
      "failed to handle create volume request: missing volume capabilities")
  else
    .ok ()

theorem name_of_valid {req : CreateVolumeRequest} (valid : validateVolumeCreateReq req = .ok ()) :
    req.name ≠ "" := by
  intro empty
  unfold validateVolumeCreateReq at valid
  rw [if_pos empty] at valid
  contradiction

/-- The part of `CreateVolume` that runs under the lock. -/
def createByKind (compile : Compile) (polls : Nat) (req : CreateVolumeRequest) :
    Routine (Except Err ZFSVolume) :=
  match req.contentSource with
  | some (.snapshot snapshotID) => createSnapClone compile polls req snapshotID
  | some (.volume srcVol) => createVolClone compile polls req srcVol
  | none => createZFSVolume compile polls req

/-- The answer of `CreateVolume`. -/
def createVolumeResponse (req : CreateVolumeRequest) (vol : ZFSVolume) :
    CreateVolumeResponse :=
  let formatOptions := getInsensitiveParameter req.parameters "formatoptions"
  { volumeId := toLower req.name
    capacityBytes := getRoundedCapacity (getRequiredBytes req.capacityRange)
    topology := [(ZFSTopologyKey, vol.spec.ownerNodeID)]
    volumeContext :=
      [(PoolNameKey, vol.spec.poolName), (OpenEBSCasTypeKey, ZFSCasTypeName)] ++
        if formatOptions ≠ "" then [(FormatOptionsKey, formatOptions)] else []
    contentSource := req.contentSource }

/-- `CreateVolume`. -/
def createVolume (compile : Compile) (polls : Nat) (req : CreateVolumeRequest) :
    Routine (Except Err CreateVolumeResponse) :=
  match validateVolumeCreateReq req with
  | .error err => return .error err
  | .ok () => do
      let created ← lockVolume (toLower req.name) (createByKind compile polls req)
      return created.map (createVolumeResponse req)

end ZfsLocalPv.Driver

import ZfsLocalPv.Driver.CreateVolume
import ZfsLocalPv.Driver.Snapshots
import ZfsLocalPv.Driver.Volumes
import ZfsLocalPv.Interaction.System
import ZfsLocalPv.Mgmt.Agents

/-!
# The cluster

One controller, an agent for volumes, snapshots and backups on every node, the API server and the
storage of the nodes, as a system of interleaved programs. Requests arrive at any time and in any
number; a sync starts when its name is on the queue of its agent and no other worker is on it,
and a failed sync puts the name back. Every call to the API server and every command may fail,
with or without effect.
-/

namespace ZfsLocalPv.Cluster

open Api ApiServer Driver Interaction Zfs

/-- Who is running: a request of the controller, or the worker of an agent. -/
inductive Tid
  | request (id : Nat)
  | volume (node name : String)
  | snapshot (node name : String)
  | backup (node name : String)
  deriving DecidableEq

/-- A request with what the model leaves to its environment: the rounds of its
waiting loops and the time. -/
inductive Request
  | createVolume (polls : Nat) (req : CreateVolumeRequest)
  | deleteVolume (req : DeleteVolumeRequest)
  | controllerExpandVolume (req : ControllerExpandVolumeRequest)
  | createSnapshot (polls : Nat) (now : Int) (req : CreateSnapshotRequest)
  | deleteSnapshot (req : DeleteSnapshotRequest)
  | nodeExpandVolume (node : String) (req : NodeExpandVolumeRequest)
  deriving DecidableEq

namespace Request

def isCreateVolume : Request → Bool
  | .createVolume _ _ => true
  | _ => false

def isDeleteVolume : Request → Bool
  | .deleteVolume _ => true
  | _ => false

/-- The request is for a clone. -/
def clones : Request → Bool
  | .createVolume _ req => decide (req.contentSource ≠ none)
  | _ => false

end Request

inductive Answer
  | createVolume (result : Except Err CreateVolumeResponse)
  | deleteVolume (result : Except Err Unit)
  | controllerExpandVolume (result : Except Err ControllerExpandVolumeResponse)
  | createSnapshot (result : Except Err CreateSnapshotResponse)
  | deleteSnapshot (result : Except Err Unit)
  | nodeExpandVolume (result : Except Err NodeExpandVolumeResponse)
  | sync (result : Except Err Unit)
  deriving DecidableEq

/-- What is left open by a call. -/
structure Choice extends Attempt where
  /-- The branch of a `select`. -/
  branch : Select := .proceed
  /-- The answer of the scheduler, or the mounted paths. -/
  names : List String := []
  /-- Whether a path is a directory. -/
  isDir : Bool := false
  /-- Which assignments a failed `zfs set` has made. -/
  applied : List Bool := []
  deriving DecidableEq

/-- The state that requests and agents share. -/
structure Shared where
  volumes : Resource VolumeInfo State := .empty
  snapshots : Resource VolumeInfo State := .empty
  backups : Resource ZFSBackupSpec ZFSBackupStatus := .empty
  nodes : List Node := []
  zfsNodes : List ZFSNode := []
  storage : String → Storage := fun _ => {}
  /-- The keys of the volume lock, with their holders. -/
  locked : String → Option Tid := fun _ => none
  inFlight : Nat → Option Request := fun _ => none
  /-- The requests answered so far. -/
  answered : List (Request × Answer) := []

/-! ## Calls -/

/-- The assignments a failed `zfs set` has made all the same. -/
def madeAssignments (applied : List Bool) (assignments : Go.StringMap) : Go.StringMap :=
  ((assignments.zip applied).filter fun entry => entry.2).map fun entry => entry.1

/-- The storage after a failed command: `zfs set` may have made some of its
assignments. -/
def failedStorage (choice : Choice) (storage : Storage) : Command → Storage
  | .set assignments volume => storage.assign (madeAssignments choice.applied assignments) volume
  | _ => storage

/-- The answer of `zfs` and the storage after it. -/
def zfsAnswer (choice : Choice) (storage : Storage) (command : Command) :
    Except String String × Storage :=
  match choice.outcome, storage.run command with
  | .fail, _ => (.error choice.text, failedStorage choice storage command)
  | .ok, none => (.error choice.text, storage)
  | .ok, some (output, next) => (.ok output, next)
  | .lost, none => (.error choice.text, storage)
  | .lost, some (_, next) => (.error choice.text, next)

namespace Shared

def setVolumes (shared : Shared) (volumes : Resource VolumeInfo State) : Shared :=
  { shared with volumes := volumes }

def setSnapshots (shared : Shared) (snapshots : Resource VolumeInfo State) : Shared :=
  { shared with snapshots := snapshots }

def setBackups (shared : Shared) (backups : Resource ZFSBackupSpec ZFSBackupStatus) : Shared :=
  { shared with backups := backups }

def setStorage (shared : Shared) (node : String) (storage : Storage) : Shared :=
  { shared with storage := Function.update shared.storage node storage }

def setLocked (shared : Shared) (key : String) (holder : Option Tid) : Shared :=
  { shared with locked := Function.update shared.locked key holder }

end Shared

/-- The answer to a call and the state after it. A call that is not enabled
blocks its thread. -/
def exec (thread : Tid) : (op : Op) → Choice → Shared → Option (op.Res × Shared)
  | .lock key, _, shared =>
      if shared.locked key = none then some ((), shared.setLocked key (some thread)) else none
  | .unlock key, _, shared => some ((), shared.setLocked key none)
  | .getVolume name _, choice, shared =>
      some (readAnswer choice.toAttempt (shared.volumes.get name), shared)
  | .listVolumes, choice, shared =>
      some (readAnswer choice.toAttempt (some shared.volumes.store.items), shared)
  | .createVolume vol, choice, shared =>
      some (writeAnswer choice.toAttempt shared ((shared.volumes.create vol).map shared.setVolumes))
  | .updateVolume vol, choice, shared =>
      some (writeAnswer choice.toAttempt shared ((shared.volumes.update vol).map shared.setVolumes))
  | .deleteVolume name, choice, shared =>
      some (writeAnswer choice.toAttempt shared
        ((shared.volumes.delete name).map shared.setVolumes))
  | .getSnapshot name, choice, shared =>
      some (readAnswer choice.toAttempt (shared.snapshots.get name), shared)
  | .listSnapshots volume, choice, shared =>
      some (readAnswer choice.toAttempt (some (shared.snapshots.store.list ZFSVolKey volume)),
        shared)
  | .createSnapshot snap, choice, shared =>
      some (writeAnswer choice.toAttempt shared
        ((shared.snapshots.create snap).map shared.setSnapshots))
  | .updateSnapshot snap, choice, shared =>
      some (writeAnswer choice.toAttempt shared
        ((shared.snapshots.update snap).map shared.setSnapshots))
  | .deleteSnapshot name, choice, shared =>
      some (writeAnswer choice.toAttempt shared
        ((shared.snapshots.delete name).map shared.setSnapshots))
  | .updateBackup bkp, choice, shared =>
      some (writeAnswer choice.toAttempt shared ((shared.backups.update bkp).map shared.setBackups))
  | .getNode name, choice, shared =>
      some (readAnswer choice.toAttempt
        (shared.nodes.find? fun node => decide (node.name = name)), shared)
  | .getZFSNode name, choice, shared =>
      some (readAnswer choice.toAttempt
        (shared.zfsNodes.find? fun node => decide (node.name = name)), shared)
  | .listZFSNodes, choice, shared =>
      some (readAnswer choice.toAttempt (some shared.zfsNodes), shared)
  | .scheduler _, choice, shared => some (choice.names, shared)
  | .select, choice, shared => some (choice.branch, shared)
  | .cachedVolume node name, _, shared =>
      some ((shared.volumes.informers node).cache name, shared)
  | .cachedSnapshot node name, _, shared =>
      some ((shared.snapshots.informers node).cache name, shared)
  | .cachedBackup node name, _, shared =>
      some ((shared.backups.informers node).cache name, shared)
  | .zfs node command, choice, shared =>
      let (answer, storage) := zfsAnswer choice (shared.storage node) command
      some (answer, shared.setStorage node storage)
  | .send _ _, choice, shared => some (commandAnswer choice.toAttempt (), shared)
  | .generateUUID _ _, choice, shared => some (commandAnswer choice.toAttempt (), shared)
  | .stat _ _, choice, shared => some (commandAnswer choice.toAttempt choice.isDir, shared)
  | .evalSymlinks _ _, choice, shared => some (commandAnswer choice.toAttempt choice.text, shared)
  | .mounts _, choice, shared => some (choice.names, shared)
  | .resizeXFS _ _, choice, shared => some (commandAnswer choice.toAttempt (), shared)
  | .resizeExtn _ _, choice, shared => some (commandAnswer choice.toAttempt (), shared)
  | .hang, _, _ => none
  | .panic, _, _ => none

/-! ## Moves of the environment -/

/-- Informers and their handlers, the garbage collector of the API server, the
tool that creates and deletes backups, and the nodes' reports. -/
inductive Move
  | deliverVolume (node name : String)
  | resyncVolume (node name : String)
  | handleVolume (node : String)
  | deliverSnapshot (node name : String)
  | resyncSnapshot (node name : String)
  | handleSnapshot (node : String)
  | deliverBackup (node name : String)
  | resyncBackup (node name : String)
  | handleBackup (node : String)
  | collectVolume (name : String)
  | collectSnapshot (name : String)
  | collectBackup (name : String)
  | createBackup (bkp : ZFSBackup)
  | deleteBackup (name : String)
  | report (nodes : List Node) (zfsNodes : List ZFSNode)

/-- The state after a move, if it is enabled. -/
def env : Move → Shared → Option Shared
  | .deliverVolume node name, shared =>
      (shared.volumes.deliver node name).map shared.setVolumes
  | .resyncVolume node name, shared => (shared.volumes.resync node name).map shared.setVolumes
  | .handleVolume node, shared =>
      (shared.volumes.handle node (Mgmt.wantsVolume node)).map shared.setVolumes
  | .deliverSnapshot node name, shared =>
      (shared.snapshots.deliver node name).map shared.setSnapshots
  | .resyncSnapshot node name, shared =>
      (shared.snapshots.resync node name).map shared.setSnapshots
  | .handleSnapshot node, shared =>
      (shared.snapshots.handle node (Mgmt.wantsSnapshot node)).map shared.setSnapshots
  | .deliverBackup node name, shared =>
      (shared.backups.deliver node name).map shared.setBackups
  | .resyncBackup node name, shared => (shared.backups.resync node name).map shared.setBackups
  | .handleBackup node, shared =>
      (shared.backups.handle node (Mgmt.wantsBackup node)).map shared.setBackups
  | .collectVolume name, shared => (shared.volumes.collect name).map shared.setVolumes
  | .collectSnapshot name, shared => (shared.snapshots.collect name).map shared.setSnapshots
  | .collectBackup name, shared => (shared.backups.collect name).map shared.setBackups
  | .createBackup bkp, shared => (shared.backups.create bkp).toOption.map shared.setBackups
  | .deleteBackup name, shared => (shared.backups.delete name).toOption.map shared.setBackups
  | .report nodes zfsNodes, shared => some { shared with nodes := nodes, zfsNodes := zfsNodes }

/-! ## Threads -/

inductive Arrival
  | request (id : Nat) (req : Request)
  | syncVolume (node name : String)
  | syncSnapshot (node name : String)
  | syncBackup (node name : String)

/-- The program of a request. -/
def serve (compile : Compile) : Request → Routine Answer
  | .createVolume polls req => do return .createVolume (← createVolume compile polls req)
  | .deleteVolume req => do return .deleteVolume (← deleteVolume req)
  | .controllerExpandVolume req => do
      return .controllerExpandVolume (← controllerExpandVolume req)
  | .createSnapshot polls now req => do
      return .createSnapshot (← createSnapshot polls now req)
  | .deleteSnapshot req => do return .deleteSnapshot (← deleteSnapshot req)
  | .nodeExpandVolume node req => do return .nodeExpandVolume (← nodeExpandVolume node req)

/-- The program of a worker. -/
def work (sync : Routine (Except Err Unit)) : Routine Answer := do
  return .sync (← sync)

/-- A request arrives under an unused identifier, or a worker takes a name off its
queue. -/
def arrive (compile : Compile) : Arrival → Shared → Option (Tid × Routine Answer × Shared)
  | .request id req, shared =>
      if shared.inFlight id = none then
        some (.request id, serve compile req,
          { shared with inFlight := Function.update shared.inFlight id (some req) })
      else
        none
  | .syncVolume node name, shared =>
      (shared.volumes.take node name).map fun volumes =>
        (.volume node name, work (Mgmt.syncVolume node name), shared.setVolumes volumes)
  | .syncSnapshot node name, shared =>
      (shared.snapshots.take node name).map fun snapshots =>
        (.snapshot node name, work (Mgmt.syncSnapshot node name),
          shared.setSnapshots snapshots)
  | .syncBackup node name, shared =>
      (shared.backups.take node name).map fun backups =>
        (.backup node name, work (Mgmt.syncBackup node name), shared.setBackups backups)

/-- A request is answered; a worker is done and a failed one requeues its name. -/
def leave : Tid → Answer → Shared → Shared
  | .request id, answer, shared =>
      match shared.inFlight id with
      | none => shared
      | some req =>
          { shared with
            inFlight := Function.update shared.inFlight id none
            answered := shared.answered ++ [(req, answer)] }
  | .volume node name, .sync (.error _), shared =>
      shared.setVolumes (shared.volumes.requeue node name)
  | .snapshot node name, .sync (.error _), shared =>
      shared.setSnapshots (shared.snapshots.requeue node name)
  | .backup node name, .sync (.error _), shared =>
      shared.setBackups (shared.backups.requeue node name)
  | _, _, shared => shared

/-- The cluster, for a compiler of regular expressions. -/
def cluster (compile : Compile) : System sig Shared Tid Choice Answer Move Arrival where
  exec := exec
  env := env
  arrive := arrive compile
  leave := leave

/-! ## Runs -/

/-- A configuration in which nobody is running. -/
def idle (shared : Shared) : Config sig Shared Tid Answer where
  shared := shared
  threads := fun _ => none

/-- Calls of one thread in a row that are answered as they should be. -/
def calls (thread : Tid) (count : Nat) : List (Action Tid Choice Move Arrival) :=
  List.replicate count (.call thread {})

/-- No call fails. -/
def Faultless : Action Tid Choice Move Arrival → Config sig Shared Tid Answer → Prop
  | .call _ choice, _ => choice.outcome = .ok
  | _, _ => True

instance (action : Action Tid Choice Move Arrival) (config : Config sig Shared Tid Answer) :
    Decidable (Faultless action config) :=
  match action with
  | .call _ choice => inferInstanceAs (Decidable (choice.outcome = .ok))
  | .env _ | .arrive _ | .leave _ => isTrue trivial

/-- A request that arrives meets a condition on it and on the state it finds. -/
def ArrivesTo (P : Request → Shared → Prop) :
    Action Tid Choice Move Arrival → Config sig Shared Tid Answer → Prop
  | .arrive (.request _ req), config => P req config.shared
  | _, _ => True

instance (P : Request → Shared → Prop) [∀ req shared, Decidable (P req shared)]
    (action : Action Tid Choice Move Arrival) (config : Config sig Shared Tid Answer) :
    Decidable (ArrivesTo P action config) :=
  match action with
  | .arrive (.request _ req) => inferInstanceAs (Decidable (P req config.shared))
  | .arrive (.syncVolume _ _) | .arrive (.syncSnapshot _ _) | .arrive (.syncBackup _ _)
  | .call _ _ | .env _ | .leave _ => isTrue trivial

theorem ArrivesTo.mono {P Q : Request → Shared → Prop} {action : Action Tid Choice Move Arrival}
    {config : Config sig Shared Tid Answer} (arrives : ArrivesTo P action config)
    (implies : ∀ req, P req config.shared → Q req config.shared) :
    ArrivesTo Q action config := by
  cases action with
  | arrive arrival =>
      cases arrival with
      | request id req => exact implies req arrives
      | syncVolume | syncSnapshot | syncBackup => trivial
  | call | env | leave => trivial

/-- Every request that arrives satisfies `P`. -/
abbrev Arrives (P : Request → Prop) :
    Action Tid Choice Move Arrival → Config sig Shared Tid Answer → Prop :=
  ArrivesTo fun req _ => P req

/-- A compiler for storage classes without regular expressions. -/
def noRegexp : Compile :=
  fun _ => .error "regular expressions are not supported"

/-- A plain request for a dataset in a pool. -/
def plainRequest : CreateVolumeRequest where
  name := "v"
  capacityRange := some Mi
  parameters := [("poolname", "p"), ("fstype", "zfs")]

/-- Two nodes with a pool each. -/
def twoNodes : Config sig Shared Tid Answer :=
  idle
    { nodes := [{ name := "a" }, { name := "b" }]
      storage := fun _ => { parents := ["p"] } }

/-- The volume of the plain request, Ready on a node. -/
def readyVolume : ZFSVolume where
  name := "v"
  resourceVersion := 1
  finalizers := [ZFSFinalizer]
  spec :=
    { ownerNodeID := "a", poolName := "p", capacity := "1048576", volumeType := .dataset
      fsType := "zfs" }
  status := .ready

/-- A cluster that holds the Ready volume. -/
def readyCluster : Shared where
  volumes := Resource.empty.commit (.put readyVolume)
  nodes := [{ name := "a" }]

/-- A snapshot of the Ready volume, Ready on its node. -/
def heldSnapshot (name : String) : ZFSSnapshot where
  name := name
  labels := [(ZFSVolKey, "v")]
  finalizers := [ZFSFinalizer]
  spec := readyVolume.spec
  status := .ready

/-- A cluster that holds the Ready volume and snapshots of it, with their data. -/
def snapshotCluster (names : List String) : Shared :=
  { readyCluster with
    snapshots := names.foldl (fun snapshots name => snapshots.commit (.put (heldSnapshot name)))
      .empty
    storage := Function.update (fun _ => {}) "a"
      { parents := ["p"]
        datasets := [{ dataset := ⟨"p", "v"⟩ }]
        snapshots := names.map fun name => ⟨⟨"p", "v"⟩, name⟩ } }

/-- A request for the volume up to the write of the CR, placed on the first of the
given nodes. -/
def provisionSteps (id : Nat) (nodes : List String) : List (Action Tid Choice Move Arrival) :=
  .arrive (.request id (.createVolume 1 plainRequest)) :: calls (.request id) 3 ++
    .call (.request id) { names := nodes } :: calls (.request id) 3

/-- The volume is provisioned on the first node and made Ready there. -/
def provisionedRun : List (Action Tid Choice Move Arrival) :=
  provisionSteps 0 ["a", "b"] ++
    [.env (.deliverVolume "a" "v"), .env (.handleVolume "a"), .arrive (.syncVolume "a" "v")] ++
    calls (.volume "a" "v") 4

/-- The request for the volume is answered and the worker is done. -/
def settledRun : List (Action Tid Choice Move Arrival) :=
  provisionedRun ++ calls (.request 0) 3 ++
    [.leave (.request 0), .leave (.volume "a" "v"), .env (.deliverVolume "a" "v"),
      .env (.handleVolume "a")]

/-- A request that is served in a number of calls. -/
def servedSteps (id : Nat) (req : Request) (count : Nat) :
    List (Action Tid Choice Move Arrival) :=
  .arrive (.request id req) :: calls (.request id) count ++ [.leave (.request id)]

/-- A request to delete the volume is served. -/
def deleteSteps (id : Nat) : List (Action Tid Choice Move Arrival) :=
  servedSteps id (.deleteVolume { volumeId := "v" }) 5

/-- A request to take a snapshot of the volume is served. -/
def snapshotSteps (id : Nat) (snapshot : String := "s") : List (Action Tid Choice Move Arrival) :=
  servedSteps id (.createSnapshot 1 0 { sourceVolumeId := "v", name := snapshot }) 9

/-- The snapshot agent of the first node takes the snapshot. -/
def takeSteps : List (Action Tid Choice Move Arrival) :=
  [.env (.deliverSnapshot "a" "s"), .env (.handleSnapshot "a"), .arrive (.syncSnapshot "a" "s")] ++
    calls (.snapshot "a" "s") 4 ++ [.leave (.snapshot "a" "s")]

/-- The snapshot agent of the first node destroys a deleted snapshot and removes its
finalizer. -/
def dropSteps (snapshot : String) : List (Action Tid Choice Move Arrival) :=
  [.env (.deliverSnapshot "a" snapshot), .env (.handleSnapshot "a"),
      .env (.deliverSnapshot "a" snapshot), .env (.handleSnapshot "a"),
      .arrive (.syncSnapshot "a" snapshot)] ++
    calls (.snapshot "a" snapshot) 5 ++ [.leave (.snapshot "a" snapshot)]

end ZfsLocalPv.Cluster

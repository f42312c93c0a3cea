import ZfsLocalPv.Api.Answers
import ZfsLocalPv.ApiServer.Resource
import ZfsLocalPv.Interaction.System
import ZfsLocalPv.Zfs.Restore

/-!
# The restore agent

The controller of `pkg/mgmt/restore` and `CreateRestore` of `pkg/zfs/zfs_util.go`. A restore is
written by a backup tool; the agent of its owner receives the volume once it sees the restore and
reports how that went. It does nothing about deleted restores.

The agents run against the store of the restores, the volumes they may look up, and a log of what
was done.
-/

namespace ZfsLocalPv.RestoreAgent

open Api ApiServer Go Interaction Zfs

/-- What a restore asks for, and on which node. -/
structure RestoreInfo extends ZFSRestore where
  ownerNodeID : String := ""
  deriving DecidableEq

inductive ZFSRestoreStatus
  | init
  | done
  | failed
  | pending
  | inProgress
  | invalid
  deriving DecidableEq, Repr

/-- A restore as the API server stores it. -/
abbrev Restore := Object RestoreInfo ZFSRestoreStatus

/-- The dataset that a restore receives. -/
def volumeOf (rstr : ZFSRestore) : Dataset :=
  ⟨rstr.volSpec.poolName, rstr.spec.volumeName⟩

/-! ## Calls -/

inductive Op
  /-- The lister of the informer. -/
  | cachedRestore (node name : String)
  | getVolume (name : String)
  /-- `nc | zfs recv -F`. -/
  | receive (node : String) (ncArgs : List String) (recvArgs : List Arg) (volume : Dataset)
  /-- Whether the timer of `getDevice` has fired. -/
  | timer
  | stat (node path : String)
  /-- `GenerateUUID` of the package for a filesystem. -/
  | generateUUID (node fsType device : String)
  | updateRestore (rstr : Restore)

@[reducible]
def Op.Res : Op → Type
  | cachedRestore _ _ => Option Restore
  | getVolume _ => Except Err ZFSVolume
  | receive _ _ _ _ => Except String Unit
  | timer => Bool
  | stat _ _ | generateUUID _ _ _ => Except String Unit
  | updateRestore _ => Except Err Unit

@[reducible]
def signature : Signature where
  Op := Op
  Res := Op.Res

abbrev Routine := Prog signature

@[reducible]
def call (op : Op) : Routine op.Res :=
  Prog.lift (S := signature) op

/-! ## The sync -/

/-- `GetZFSVolume`. -/
def getZFSVolume (volumeID : String) : Routine (Except Err ZFSVolume) :=
  getNamed "failed to get zfs volume: missing zfs volume name" volumeID
    (call (.getVolume volumeID))

/-- The first step of `CreateRestore`: a restore without a volume specification takes the one
of the volume. -/
def fillVolSpec (rstr : Restore) : Routine (Except Err Restore) := do
  if rstr.spec.volSpec.poolName = "" then
    match ← getZFSVolume rstr.spec.spec.volumeName with
    | .error err => return .error err
    | .ok vol => return .ok { rstr with spec := { rstr.spec with volSpec := vol.spec } }
  else
    return .ok rstr

/-- `getDevice`: wait for the device of the volume, for a number of rounds. -/
def getDevice (node : String) (volume : Dataset) : Nat → Routine (Except Err String)
  | 0 =>
      -- the timer has fired
      return .error (.text ("zfs: not able to get the device: " ++ ZFSDevPath ++ volume.path))
  | polls + 1 => do
      match ← call .timer with
      | true =>
          return .error (.text ("zfs: not able to get the device: " ++ ZFSDevPath ++ volume.path))
      | false =>
          match ← call (.stat node (ZFSDevPath ++ volume.path)) with
          | .ok () => return .ok (ZFSDevPath ++ volume.path)
          | .error _ => getDevice node volume polls

/-- The last step of `CreateRestore`: xfs and btrfs need a new uuid. -/
def renewUUID (polls : Nat) (node : String) (rstr : ZFSRestore) : Routine (Except Err Unit) := do
  if rstr.volSpec.fsType = "xfs" ∨ rstr.volSpec.fsType = "btrfs" then
    match ← getDevice node (volumeOf rstr) polls with
    | .error err => return .error err
    | .ok device =>
        match ← call (.generateUUID node rstr.volSpec.fsType device) with
        | .error message => return .error (.text message)
        | .ok () => return .ok ()
  else
    return .ok ()

/-- `CreateRestore` once the volume specification is there. -/
def receiveVolume (polls : Nat) (node : String) (rstr : ZFSRestore) :
    Routine (Except Err Unit) := do
  match buildVolumeRestoreArgs rstr with
  | .error message => return .error (.text message)
  | .ok (ncArgs, recvArgs) =>
      match ← call (.receive node ncArgs recvArgs (volumeOf rstr)) with
      | .error out => return .error (.zfs "zfs recv (restore)" (volumeOf rstr).path out)
      | .ok () => renewUUID polls node rstr

/-- `CreateRestore`, with the restore as it is afterwards. -/
def createRestore (polls : Nat) (node : String) (rstr : Restore) :
    Routine (Restore × Except Err Unit) := do
  match ← fillVolSpec rstr with
  | .error err => return (rstr, .error err)
  | .ok filled => return (filled, ← receiveVolume polls node filled.spec.toZFSRestore)

/-- `UpdateRestoreInfo`. -/
def updateRestoreInfo (rstr : Restore) (status : ZFSRestoreStatus) : Routine (Except Err Unit) :=
  call (.updateRestore { rstr with status := status })

/-- `syncRestore`. -/
def syncRestore (polls : Nat) (node : String) (rstr : Restore) : Routine (Except Err Unit) := do
  if rstr.deletionTimestamp = true then
    return .ok ()
  else if rstr.status = .init then
    match ← createRestore polls node rstr with
    | (rstr, .ok ()) => updateRestoreInfo rstr .done
    | (rstr, .error _) => updateRestoreInfo rstr .failed
  else
    return .ok ()

/-- `syncHandler` of the restore agent. -/
def syncHandler (polls : Nat) (node name : String) : Routine (Except Err Unit) := do
  match ← call (.cachedRestore node name) with
  | none => return .ok ()
  | some rstr => syncRestore polls node rstr

/-! ## Handlers -/

/-- `addRestore`. -/
def addRestore (nodeID : String) (rstr : Restore) : Bool :=
  decide (nodeID = rstr.spec.ownerNodeID)

/-- `updateRestore`: only a deletion matters. -/
def updateRestore (nodeID : String) (newRstr : Restore) : Bool :=
  decide (nodeID = newRstr.spec.ownerNodeID) && newRstr.deletionTimestamp

/-- `deleteRestore`. -/
def deleteRestore (nodeID : String) (rstr : Restore) : Bool :=
  decide (nodeID = rstr.spec.ownerNodeID)

/-- The handlers of the restore agent. -/
def wantsRestore (nodeID : String) : Event RestoreInfo ZFSRestoreStatus → Bool
  | .add rstr => addRestore nodeID rstr
  | .update _ newRstr => updateRestore nodeID newRstr
  | .delete rstr => deleteRestore nodeID rstr

/-! ## The agents of all nodes -/

/-- The worker of a node that syncs a restore. -/
@[ext]
structure Worker where
  node : String
  name : String
  deriving DecidableEq

/-- What was done. -/
inductive Entry
  | created (rstr : Restore)
  | deleted (name : String)
  /-- A run of `zfs recv` and whether it succeeded. -/
  | received (worker : Worker) (volume : Dataset) (args : List Arg) (succeeded : Bool)
  /-- A status that the API server did not confirm. -/
  | unreported (worker : Worker)
  deriving DecidableEq

structure Shared where
  restores : Resource RestoreInfo ZFSRestoreStatus := .empty
  volumes : String → Option ZFSVolume := fun _ => none
  log : List Entry := []

/-- What is left open by a call. -/
structure Choice extends Attempt where
  fired : Bool := false
  deriving DecidableEq

namespace Shared

def record (shared : Shared) (entry : Entry) : Shared :=
  { shared with log := shared.log ++ [entry] }

def setRestores (shared : Shared) (restores : Resource RestoreInfo ZFSRestoreStatus) : Shared :=
  { shared with restores := restores }

end Shared

/-- The answer to the report of a status and the state after it. -/
def reportAnswer (worker : Worker) (choice : Choice) (shared : Shared)
    (written : Except ApiErr (Resource RestoreInfo ZFSRestoreStatus)) :
    Except Err Unit × Shared :=
  match writeAnswer choice.toAttempt shared (written.map shared.setRestores) with
  | (.ok (), next) => (.ok (), next)
  | (.error err, next) => (.error err, next.record (.unreported worker))

/-- The answer to a call and the state after it. -/
def exec (worker : Worker) : (op : Op) → Choice → Shared → Option (op.Res × Shared)
  | .cachedRestore node name, _, shared =>
      some ((shared.restores.informers node).cache name, shared)
  | .getVolume name, choice, shared =>
      some (readAnswer choice.toAttempt (shared.volumes name), shared)
  | .receive _ _ recvArgs volume, choice, shared =>
      some (commandAnswer choice.toAttempt (),
        shared.record (.received worker volume recvArgs (decide (choice.outcome = .ok))))
  | .timer, choice, shared => some (choice.fired, shared)
  | .stat _ _, choice, shared => some (commandAnswer choice.toAttempt (), shared)
  | .generateUUID _ _ _, choice, shared => some (commandAnswer choice.toAttempt (), shared)
  | .updateRestore rstr, choice, shared =>
      some (reportAnswer worker choice shared (shared.restores.update rstr))

/-- Informers and their handlers, the garbage collector, the backup tool, and whoever changes
the volumes. -/
inductive Move
  | deliver (node name : String)
  | resync (node name : String)
  | handle (node : String)
  | collect (name : String)
  | create (rstr : Restore)
  | delete (name : String)
  | setVolumes (volumes : String → Option ZFSVolume)

def env : Move → Shared → Option Shared
  | .deliver node name, shared => (shared.restores.deliver node name).map shared.setRestores
  | .resync node name, shared => (shared.restores.resync node name).map shared.setRestores
  | .handle node, shared =>
      (shared.restores.handle node (wantsRestore node)).map shared.setRestores
  | .collect name, shared => (shared.restores.collect name).map shared.setRestores
  | .create rstr, shared =>
      (shared.restores.create rstr).toOption.map fun next =>
        (shared.setRestores next).record (.created rstr)
  | .delete name, shared =>
      (shared.restores.delete name).toOption.map fun next =>
        (shared.setRestores next).record (.deleted name)
  | .setVolumes volumes, shared => some { shared with volumes := volumes }

/-- A worker takes a name off its queue. -/
structure Arrival where
  worker : Worker
  polls : Nat

def arrive (arrival : Arrival) (shared : Shared) :
    Option (Worker × Routine (Except Err Unit) × Shared) :=
  (shared.restores.take arrival.worker.node arrival.worker.name).map fun restores =>
    (arrival.worker, syncHandler arrival.polls arrival.worker.node arrival.worker.name,
      shared.setRestores restores)

/-- A failed sync puts its name back. -/
def leave (worker : Worker) : Except Err Unit → Shared → Shared
  | .error _, shared => shared.setRestores (shared.restores.requeue worker.node worker.name)
  | .ok (), shared => shared

/-- The restore agents. -/
def agents : System signature Shared Worker Choice (Except Err Unit) Move Arrival where
  exec := exec
  env := env
  arrive := arrive
  leave := leave

end ZfsLocalPv.RestoreAgent

import ZfsLocalPv.Api.Answers
import ZfsLocalPv.Api.Types
import ZfsLocalPv.Zfs.Storage

/-!
# The calls the driver makes

Every point where the driver's code depends on something outside the running goroutine is a call:
the volume lock, the API server, the agents' caches, `zfs` and other commands on a node, clocks
and contexts, and the scheduler of the CSI library. Everything between two calls is local
computation.
-/

namespace ZfsLocalPv.Cluster

open Api Zfs Interaction

/-- What a volume is read for. The answer does not depend on it; it marks the
read by which `ProvisionVolume` decides between update and creation. -/
inductive Purpose
  | inspect
  | provision (vol : ZFSVolume)
  deriving DecidableEq

/-- Which branch of a `select` is taken. -/
inductive Select
  | done
  | timeout
  | proceed
  deriving DecidableEq, Repr

inductive Op
  /-- `LockVolume`, blocking. -/
  | lock (key : String)
  | unlock (key : String)
  | getVolume (name : String) (purpose : Purpose)
  | listVolumes
  | createVolume (vol : ZFSVolume)
  | updateVolume (vol : ZFSVolume)
  | deleteVolume (name : String)
  | getSnapshot (name : String)
  /-- The snapshots labelled with a volume. -/
  | listSnapshots (volume : String)
  | createSnapshot (snap : ZFSSnapshot)
  | updateSnapshot (snap : ZFSSnapshot)
  | deleteSnapshot (name : String)
  | updateBackup (bkp : ZFSBackup)
  | getNode (name : String)
  | getZFSNode (name : String)
  | listZFSNodes
  /-- The CSI library's `Scheduler`, given the weight of each node. -/
  | scheduler (weights : List (String × Int))
  | select
  | cachedVolume (node name : String)
  | cachedSnapshot (node name : String)
  | cachedBackup (node name : String)
  | zfs (node : String) (command : Command)
  /-- `zfs send | nc`. -/
  | send (node : String) (args : List String)
  | generateUUID (node device : String)
  /-- Whether a path is a directory. -/
  | stat (node path : String)
  | evalSymlinks (node path : String)
  /-- The mounted paths. -/
  | mounts (node : String)
  | resizeXFS (node path : String)
  | resizeExtn (node device : String)
  /-- Wait for ever. -/
  | hang
  /-- A nil dereference. -/
  | panic

/-- The type of the answer to each call. The error of a command is its output. -/
@[reducible]
def Op.Res : Op → Type
  | lock _ | unlock _ => Unit
  | getVolume _ _ => Except Err ZFSVolume
  | listVolumes => Except Err (List ZFSVolume)
  | createVolume _ | updateVolume _ | deleteVolume _ => Except Err Unit
  | getSnapshot _ => Except Err ZFSSnapshot
  | listSnapshots _ => Except Err (List ZFSSnapshot)
  | createSnapshot _ | updateSnapshot _ | deleteSnapshot _ => Except Err Unit
  | updateBackup _ => Except Err Unit
  | getNode _ => Except Err Node
  | getZFSNode _ => Except Err ZFSNode
  | listZFSNodes => Except Err (List ZFSNode)
  | scheduler _ => List String
  | select => Select
  | cachedVolume _ _ => Option ZFSVolume
  | cachedSnapshot _ _ => Option ZFSSnapshot
  | cachedBackup _ _ => Option ZFSBackup
  | zfs _ _ => Except String String
  | send _ _ | generateUUID _ _ => Except String Unit
  | stat _ _ => Except String Bool
  | evalSymlinks _ _ => Except String String
  | mounts _ => List String
  | resizeXFS _ _ | resizeExtn _ _ => Except String Unit
  | hang | panic => Empty

namespace Op

/-- What `ProvisionVolume` looks for, and the volume it is about to write there. -/
def provisioned : Op → Option (String × ZFSVolume)
  | getVolume name (.provision vol) => some (name, vol)
  | _ => none

def updatedVolume : Op → Option ZFSVolume
  | updateVolume vol => some vol
  | _ => none

def deletedVolume : Op → Option String
  | deleteVolume name => some name
  | _ => none

def readSnapshot : Op → Option String
  | getSnapshot name => some name
  | _ => none

def unlockedKey : Op → Option String
  | unlock key => some key
  | _ => none

end Op

/-- The signature of the driver's calls. -/
@[reducible]
def sig : Signature where
  Op := Op
  Res := Op.Res

/-- A program of the driver. -/
abbrev Routine (α : Type) := Prog sig α

/-- Make one call. -/
def call (op : Op) : Routine op.Res :=
  Prog.lift (S := sig) op

/-- Wait for ever. -/
def hang {α : Type} : Routine α :=
  Prog.call (S := sig) .hang fun answer => nomatch (answer : Empty)

/-- Dereference a nil pointer. -/
def panic {α : Type} : Routine α :=
  Prog.call (S := sig) .panic fun answer => nomatch (answer : Empty)

end ZfsLocalPv.Cluster

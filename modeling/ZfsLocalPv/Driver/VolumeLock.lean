import ZfsLocalPv.Cluster.Signature

/-!
# The volume lock

The controller's requests serialize on the names of volumes and snapshots, which share one key
space. A request releases its keys when it returns, in the order in which it took them.
-/

namespace ZfsLocalPv.Driver

open Cluster Interaction

/-- `LockVolume` with the deferred release. -/
def lockVolume {α : Type} (volume : String) (body : Routine α) : Routine α := do
  call (.lock volume)
  let result ← body
  call (.unlock volume)
  return result

/-- `LockVolumeWithSnapshot` with the deferred release. -/
def lockVolumeWithSnapshot {α : Type} (volume snapshot : String) (body : Routine α) :
    Routine α := do
  call (.lock volume)
  call (.lock snapshot)
  let result ← body
  call (.unlock volume)
  call (.unlock snapshot)
  return result

end ZfsLocalPv.Driver

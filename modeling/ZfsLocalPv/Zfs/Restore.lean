import ZfsLocalPv.Zfs.Util

/-!
# Restores

The arguments of `zfs recv` for a volume that is received from a backup server.
-/

namespace ZfsLocalPv.Zfs

open Api Go

structure ZFSRestoreSpec where
  volumeName : String := ""
  restoreSrc : String := ""
  deriving DecidableEq

/-- A restore carries the parameters of the volume it makes. -/
structure ZFSRestore where
  spec : ZFSRestoreSpec
  volSpec : VolumeInfo
  deriving DecidableEq

/-- The options of `zfs recv`. The reservation does not follow the quota type. -/
def restoreOptions (volSpec : VolumeInfo) : List Arg :=
  (if volSpec.volumeType = .dataset then
    optional volSpec.capacity (.property (quotaProperty volSpec.quotaType)) ++
    optional volSpec.recordSize (.property "recordsize") ++
    optional volSpec.aTime (.property "atime") ++
    (if volSpec.thinProvision = "no" then [.property "reservation" volSpec.capacity] else []) ++
    [.property "mountpoint" "legacy"]
  else
    []) ++
  optional volSpec.dedup (.property "dedup") ++
  optional volSpec.compression (.property "compression") ++
  optional volSpec.logBias (.property "logbias") ++
  optional volSpec.encryption (.property "encryption") ++
  optional volSpec.keyLocation (.property "keylocation") ++
  optional volSpec.keyFormat (.property "keyformat")

/-- `buildVolumeRestoreArgs`: the arguments of `nc` and, up to the name of the volume,
the options of `zfs recv`. -/
def buildVolumeRestoreArgs (rstr : ZFSRestore) : Except String (List String × List Arg) :=
  match split ':' rstr.spec.restoreSrc with
  | [host, port] => .ok (["-w", "3", host, port], restoreOptions rstr.volSpec)
  | _ => .error ("zfs: invalid restore server address " ++ rstr.spec.restoreSrc)

theorem buildVolumeRestoreArgs_eq_ok {rstr : ZFSRestore} {ncArgs : List String}
    {recvArgs : List Arg} (built : buildVolumeRestoreArgs rstr = .ok (ncArgs, recvArgs)) :
    recvArgs = restoreOptions rstr.volSpec := by
  unfold buildVolumeRestoreArgs at built
  split at built
  · exact (Prod.mk.inj (Except.ok.inj built)).2.symm
  · contradiction

end ZfsLocalPv.Zfs

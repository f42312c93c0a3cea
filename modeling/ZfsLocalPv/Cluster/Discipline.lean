import ZfsLocalPv.Cluster.Rules

/-!
# What the driver's code writes and runs

The discipline that all programs of the driver keep, whatever the others do and whatever fails:
which thread makes which write, from what copy the written object was made, and for which object
a command is run. A copy is only ever what an earlier read returned, so the discipline says when
it is still the stored object: as long as the version is.

Nothing here says that the outcome is good. The properties of the cluster start from these facts
in place of the programs' texts.
-/

namespace ZfsLocalPv.Cluster

open Api ApiServer Driver Interaction Zfs

/-! ## Writes -/

/-- The volume that `UpdateZvolInfo` writes. -/
def settledVolume (node : String) (base : ZFSVolume) (status : State) : ZFSVolume :=
  { base with
    finalizers := base.finalizers ++ if status = .ready then [ZFSFinalizer] else []
    labels := Go.StringMap.merge base.labels [(ZFSNodeKey, node)]
    status := status }

/-- The snapshot that `UpdateSnapInfo` writes. -/
def readySnapshot (node : String) (base : ZFSSnapshot) : ZFSSnapshot :=
  { base with
    finalizers := base.finalizers ++ [ZFSFinalizer]
    labels := Go.StringMap.merge base.labels [(ZFSNodeKey, node)]
    status := .ready }

/-- The volume that `UpdateZFSVolumeAnnotation` writes. -/
def markedVolume (base : ZFSVolume) : ZFSVolume :=
  { base with
    annotations := Go.StringMap.insert MarkForDeletionAnnotation "true" base.annotations }

-- An object that is built from a stored one has no errors to report.
theorem updateZvolInfo_eq (node : String) (vol : ZFSVolume) (status : State) :
    updateZvolInfo node vol status = call (.updateVolume (settledVolume node vol status)) :=
  rfl

theorem updateSnapInfo_eq (node : String) (snap : ZFSSnapshot) :
    updateSnapInfo node snap = call (.updateSnapshot (readySnapshot node snap)) :=
  rfl

theorem updateZFSVolumeAnnotation_eq (vol : ZFSVolume) :
    updateZFSVolumeAnnotation vol = call (.updateVolume (markedVolume vol)) :=
  rfl

/-- A volume or snapshot as a request creates it. -/
structure Fresh (thread : Tid) (object : Object VolumeInfo State) : Prop where
  request : ∃ id, thread = .request id
  pending : object.status = .pending
  bare : object.finalizers = []

/-- How a thread changes the copy `base` of a volume. `Allowed` restricts the
volumes that `ProvisionVolume` puts over an existing one. -/
inductive VolumeWrite (Allowed : ZFSVolume → ZFSVolume → Prop)
    (volumes : Resource VolumeInfo State) : Tid → ZFSVolume → ZFSVolume → Prop
  | provision (id : Nat) (base vol : ZFSVolume) (allowed : Allowed base vol)
      (pending : vol.status = .pending) :
      VolumeWrite Allowed volumes (.request id) base
        { base with spec := vol.spec, status := vol.status }
  | mark (id : Nat) (base : ZFSVolume) :
      VolumeWrite Allowed volumes (.request id) base (markedVolume base)
  | resize (id : Nat) (base : ZFSVolume) (capacity : String) :
      VolumeWrite Allowed volumes (.request id) base
        { base with spec := { base.spec with capacity := capacity } }
  | settle (node name : String) (base : ZFSVolume) (status : State)
      (held : volumes.Held node name base) (live : base.deletionTimestamp = false)
      (missing : isVolumeReady base = false) :
      VolumeWrite Allowed volumes (.volume node name) base (settledVolume node base status)
  | release (node name : String) (base : ZFSVolume)
      (held : volumes.Held node name base) (deleted : base.deletionTimestamp = true) :
      VolumeWrite Allowed volumes (.volume node name) base { base with finalizers := [] }

/-- How a thread changes the copy `base` of a snapshot. -/
inductive SnapshotWrite (snapshots : Resource VolumeInfo State) :
    Tid → ZFSSnapshot → ZFSSnapshot → Prop
  | ready (node name : String) (base : ZFSSnapshot) (held : snapshots.Held node name base)
      (live : base.deletionTimestamp = false) (missing : base.status ≠ .ready) :
      SnapshotWrite snapshots (.snapshot node name) base (readySnapshot node base)
  | release (node name : String) (base : ZFSSnapshot) (held : snapshots.Held node name base)
      (deleted : base.deletionTimestamp = true) :
      SnapshotWrite snapshots (.snapshot node name) base { base with finalizers := [] }

/-- How a thread changes the copy `base` of a backup. -/
inductive BackupWrite (backups : Resource ZFSBackupSpec ZFSBackupStatus) :
    Tid → ZFSBackup → ZFSBackup → Prop
  | settle (node name : String) (base : ZFSBackup) (status : ZFSBackupStatus)
      (held : backups.Held node name base) (live : base.deletionTimestamp = false) :
      BackupWrite backups (.backup node name) base
        { base with finalizers := base.finalizers ++ [ZFSFinalizer], status := status }
  | release (node name : String) (base : ZFSBackup) (held : backups.Held node name base)
      (deleted : base.deletionTimestamp = true) :
      BackupWrite backups (.backup node name) base { base with finalizers := [] }

/-! ## Commands -/

/-- For which object a thread runs a command that changes the storage of a node. -/
inductive Runs (shared : Shared) : Tid → String → Command → Prop
  | list (thread : Tid) (node : String) (target : Target) :
      Runs shared thread node (.list target)
  | get (thread : Tid) (node property : String) (volume : Dataset) :
      Runs shared thread node (.get property volume)
  | create (node name : String) (base : ZFSVolume) (args : List Arg)
      (held : shared.volumes.Held node name base) (live : base.deletionTimestamp = false)
      (missing : isVolumeReady base = false) :
      Runs shared (.volume node name) node (.create args (datasetOf base))
  | clone (node name : String) (base : ZFSVolume) (args : List Arg) (source : String)
      (held : shared.volumes.Held node name base) (live : base.deletionTimestamp = false)
      (missing : isVolumeReady base = false) :
      Runs shared (.volume node name) node (.clone args source (datasetOf base))
  | cloneSnapshot (node name : String) (base : ZFSVolume) (args : List Arg) (srcVol : String)
      (held : shared.volumes.Held node name base)
      (source : base.labels.lookup ZFSSrcVolKey = some srcVol) :
      Runs shared (.volume node name) node
        (.snapshot args (snapDataset (cloneSnapshot base srcVol)))
  | setProperties (node name : String) (base : ZFSVolume) (assignments : Go.StringMap)
      (held : shared.volumes.Held node name base) :
      Runs shared (.volume node name) node (.set assignments (datasetOf base))
  | destroy (node name : String) (base : ZFSVolume)
      (held : shared.volumes.Held node name base) (deleted : base.deletionTimestamp = true) :
      Runs shared (.volume node name) node (.destroy (datasetOf base))
  | destroyCloneSnapshot (node name : String) (base : ZFSVolume) (srcVol : String)
      (held : shared.volumes.Held node name base)
      (source : base.labels.lookup ZFSSrcVolKey = some srcVol) :
      Runs shared (.volume node name) node
        (.destroySnapshot (snapDataset (cloneSnapshot base srcVol)))
  | snapshot (node name : String) (base : ZFSSnapshot) (args : List Arg)
      (held : shared.snapshots.Held node name base) (live : base.deletionTimestamp = false)
      (missing : base.status ≠ .ready) :
      Runs shared (.snapshot node name) node (.snapshot args (snapDataset base))
  | destroySnapshot (node name : String) (base : ZFSSnapshot)
      (held : shared.snapshots.Held node name base) (deleted : base.deletionTimestamp = true) :
      Runs shared (.snapshot node name) node (.destroySnapshot (snapDataset base))
  | backup (node name : String) (bkp : ZFSBackup) (vol : ZFSVolume) (args : List Arg)
      (held : shared.backups.Held node name bkp) (named : vol.name = bkp.spec.volumeName) :
      Runs shared (.backup node name) node
        (.snapshot args (snapDataset (backupSnapshot bkp vol)))
  | destroyBackup (node name : String) (bkp : ZFSBackup) (vol : ZFSVolume)
      (held : shared.backups.Held node name bkp) (named : vol.name = bkp.spec.volumeName) :
      Runs shared (.backup node name) node
        (.destroySnapshot (snapDataset (backupSnapshot bkp vol)))
  | resize (id : Nat) (node : String) (assignments : Go.StringMap) (vol : ZFSVolume) :
      Runs shared (.request id) node (.set assignments (datasetOf vol))

/-! ## The contract -/

/-- What a call of the driver's code may be. -/
def Disciplined (Allowed : ZFSVolume → ZFSVolume → Prop) (thread : Tid) (op : Op)
    (shared : Shared) : Prop :=
  match op with
  | .lock _ | .unlock _ => ∃ id, thread = .request id
  | .createVolume vol => Fresh thread vol
  | .updateVolume vol => ∃ base, shared.volumes.Known base ∧
      VolumeWrite Allowed shared.volumes thread base vol
  | .deleteVolume _ => ∃ id, thread = .request id
  | .createSnapshot snap => Fresh thread snap
  | .updateSnapshot snap => ∃ base, shared.snapshots.Known base ∧
      SnapshotWrite shared.snapshots thread base snap
  | .deleteSnapshot _ => ∃ id, thread = .request id
  | .updateBackup bkp => ∃ base, shared.backups.Known base ∧
      BackupWrite shared.backups thread base bkp
  | .zfs node command => Runs shared thread node command
  | _ => True

/-- The condition on the read of `ProvisionVolume`. -/
def ProvisionAllowed (Allowed : ZFSVolume → ZFSVolume → Prop) (op : Op)
    (shared : Shared) : Prop :=
  ∀ wanted ∈ op.provisioned, ∀ base ∈ shared.volumes.get wanted.1, Allowed base wanted.2

instance (Allowed : ZFSVolume → ZFSVolume → Prop) [∀ base vol, Decidable (Allowed base vol)]
    (op : Op) (shared : Shared) : Decidable (ProvisionAllowed Allowed op shared) :=
  inferInstanceAs (Decidable (∀ wanted ∈ op.provisioned, _))

/-- The discipline as a contract: threads rely on nothing but that the stores
move forward. -/
def discipline (compile : Compile) (Allowed : ZFSVolume → ZFSVolume → Prop) :
    Contract (cluster compile) where
  Inv := fun _ => True
  Rely := fun _ => Advances
  Guard := fun _ op _ shared => ProvisionAllowed Allowed op shared
  Ok := fun thread op shared => Disciplined Allowed thread op shared
  Post := fun _ _ _ => True
  rely_refl := fun _ => Advances.refl
  rely_trans := fun first second => first.trans second

/-! ## Rules for programs -/

/-- From a state on, a program keeps the discipline. -/
def Follows (compile : Compile) (Allowed : ZFSVolume → ZFSVolume → Prop) (thread : Tid)
    {α : Type} (program : Routine α) (shared : Shared) : Prop :=
  (discipline compile Allowed).Keeps thread program (fun _ _ => True) shared

variable {compile : Compile} {Allowed : ZFSVolume → ZFSVolume → Prop} {thread : Tid}
  {shared now : Shared} {α β : Type}

theorem follows_pure (value : α) :
    Follows compile Allowed thread (pure value : Routine α) shared :=
  fun _ _ _ => trivial

theorem Follows.advances {program : Routine α}
    (follows : Follows compile Allowed thread program shared) :
    (discipline compile Allowed).Keeps thread program (fun _ now => Advances shared now)
      shared := by
  induction program generalizing shared with
  | ret value => exact fun now moved _ => moved
  | call op next ih =>
      intro now moved inv
      obtain ⟨ok, continues⟩ := follows now moved inv
      constructor
      · exact ok
      · intro choice answer after guard executed
        apply (ih answer (continues choice answer after guard executed)).mono
        intro value later _ advances
        have own : Advances now after := (exec_effect executed).advances
        exact moved.trans (own.trans advances)

/-- Sequencing: the rest starts in a later state. -/
theorem Follows.bind {program : Routine α} {next : α → Routine β}
    (first : Follows compile Allowed thread program shared)
    (rest : ∀ value now, Advances shared now →
      Follows compile Allowed thread (next value) now) :
    Follows compile Allowed thread (program >>= next) shared := by
  apply Contract.Keeps.bind
  apply first.advances.mono
  intro value now _ advances
  exact rest value now advances

theorem follows_call {op : Op}
    (ok : ∀ now, Advances shared now → Disciplined Allowed thread op now) :
    Follows compile Allowed thread (call op) shared := by
  intro now moved inv
  constructor
  · exact ok now moved
  · intro choice answer after guard executed later moved' inv'
    trivial

/-- A call that the discipline says nothing about. -/
def Free (op : Op) : Prop :=
  ∀ Allowed thread shared, Disciplined Allowed thread op shared

theorem follows_free_bind {op : Op} {next : op.Res → Routine α} (free : Free op)
    (rest : ∀ answer now, Advances shared now →
      Follows compile Allowed thread (next answer) now) :
    Follows compile Allowed thread (call op >>= next) shared :=
  (follows_call fun now _ => free Allowed thread now).bind rest

theorem follows_of_calls {program : Routine α} (calls : program.Calls Free) :
    Follows compile Allowed thread program shared := by
  apply Contract.keeps_of_stable calls
  · exact fun _ fact => fact
  · intro op now free _ _
    exact free Allowed thread now
  · exact fun _ _ _ fact _ => fact
  · trivial

theorem Op.Reads.free {op : Op} (reads : op.Reads) : Free op := by
  intro Allowed thread shared
  unfold Op.Reads at reads
  split at reads <;> trivial

theorem follows_of_reads {program : Routine α} (calls : program.Calls Op.Reads) :
    Follows compile Allowed thread program shared :=
  follows_of_calls (calls.mono fun _ reads => reads.free)

theorem follows_hang : Follows compile Allowed thread (hang : Routine α) shared :=
  keeps_hang fun reads => reads.free _ _ _

theorem follows_panic : Follows compile Allowed thread (panic : Routine α) shared :=
  keeps_panic fun reads => reads.free _ _ _

/-- A volume that was read is known, and for `ProvisionVolume` it is one that may
be overwritten. -/
theorem follows_getZFSVolume {name : String} {purpose : Purpose}
    {next : Except Err ZFSVolume → Routine β}
    (failed : ∀ err now, Advances shared now →
      Follows compile Allowed thread (next (.error err)) now)
    (found : ∀ vol now, Advances shared now → now.volumes.Known vol → vol.name = name →
      (∀ wanted, purpose = .provision wanted → Allowed vol wanted) →
      Follows compile Allowed thread (next (.ok vol)) now) :
    Follows compile Allowed thread (getZFSVolume name purpose >>= next) shared := by
  apply keeps_getZFSVolume_bind
  · intro now _ _
    trivial
  · intro err now moved _ _
    exact failed err now moved
  · intro vol choice now moved _ guard stored
    apply found vol now moved (Resource.known_of_get stored) (Resource.name_of_get stored)
    rintro wanted rfl
    exact guard (name, wanted) rfl vol stored

end ZfsLocalPv.Cluster

import ZfsLocalPv.Cluster.Discipline
import ZfsLocalPv.Cluster.Reads
import ZfsLocalPv.Cluster.Syncs

/-!
# The driver keeps its discipline

Every program of the controller, of the agents and of the node plugin keeps the discipline of
`Cluster.Discipline`. The proofs follow the programs: reads owe nothing, and a write or a command
is justified by the copy read before it. The result is used in the form of
`disciplined_of_reaches`: in every configuration of every run, the next call of every thread is
one the discipline allows.
-/

namespace ZfsLocalPv.Cluster

open Api ApiServer Driver Interaction Zfs

variable {compile : Compile} {Allowed : ZFSVolume → ZFSVolume → Prop} {thread : Tid}
  {shared now : Shared} {α β : Type}

/-! ## Commands -/

theorem calls_runCmd {P : Op → Prop} {node op dataset : String} {command : Command}
    (holds : P (.zfs node command)) : (runCmd node op dataset command).Calls P := by
  apply calls_call_bind holds
  intro answer
  cases answer with
  | error out => trivial
  | ok out => trivial

theorem calls_getVolume {P : Op → Prop} {node : String} {target : Target}
    (holds : P (.zfs node (.list target))) : (getVolume node target).Calls P := by
  apply (calls_runCmd holds).bind
  intro answer
  cases answer with
  | error err => trivial
  | ok out => trivial

theorem follows_getVolume (node : String) (target : Target) :
    Follows compile Allowed thread (getVolume node target) shared :=
  follows_of_calls (calls_getVolume fun _ _ _ => .list ..)

theorem follows_runCmd {node op dataset : String} {command : Command}
    (runs : ∀ now, Advances shared now → Runs now thread node command) :
    Follows compile Allowed thread (runCmd node op dataset command) shared := by
  have called : Follows compile Allowed thread (call (.zfs node command)) shared :=
    follows_call runs
  apply called.bind
  intro answer now _
  cases answer with
  | error out => exact follows_pure _
  | ok out => exact follows_pure _

theorem follows_createVolume {node : String} {vol : ZFSVolume}
    (create : ∀ args now, Advances shared now →
      Runs now thread node (.create args (datasetOf vol))) :
    Follows compile Allowed thread (Zfs.createVolume node vol) shared := by
  apply (follows_getVolume node _).bind
  intro answer now advances
  cases answer with
  | ok present => exact follows_pure _
  | error err =>
      apply (follows_runCmd fun later advances' =>
        create _ later (advances.trans advances')).bind
      intro answer now _
      cases answer with
      | error err => exact follows_pure _
      | ok out => exact follows_pure _

theorem follows_createSnapshot {node : String} {snap : ZFSSnapshot}
    (take : ∀ args now, Advances shared now →
      Runs now thread node (.snapshot args (snapDataset snap))) :
    Follows compile Allowed thread (Zfs.createSnapshot node snap) shared := by
  apply (follows_getVolume node _).bind
  intro answer now advances
  cases answer with
  | ok present => exact follows_pure _
  | error err =>
      apply (follows_runCmd fun later advances' =>
        take _ later (advances.trans advances')).bind
      intro answer now _
      cases answer with
      | error err => exact follows_pure _
      | ok out => exact follows_pure _

theorem follows_destroySnapshot {node : String} {snap : ZFSSnapshot}
    (destroy : ∀ now, Advances shared now →
      Runs now thread node (.destroySnapshot (snapDataset snap))) :
    Follows compile Allowed thread (Zfs.destroySnapshot node snap) shared := by
  apply (follows_getVolume node _).bind
  intro answer now toPool
  cases answer with
  | error err => exact follows_pure _
  | ok pool =>
      apply (follows_getVolume node _).bind
      intro answer now toList
      cases answer with
      | error err => exact follows_pure _
      | ok present =>
          apply (follows_runCmd fun later advances =>
            destroy later (toPool.trans (toList.trans advances))).bind
          intro answer now _
          cases answer with
          | error err => exact follows_pure _
          | ok out => exact follows_pure _

theorem follows_generateUUID (node : String) (vol : ZFSVolume) :
    Follows compile Allowed thread (generateUUID node vol) shared := by
  apply follows_of_calls
  unfold generateUUID
  split
  · apply calls_call_bind
    · exact fun _ _ _ => trivial
    · intro answer
      cases answer with
      | error message => trivial
      | ok done => trivial
  · trivial

/-! ## The volume agent -/

section VolumeAgent

variable {node name : String} {base : ZFSVolume}

theorem follows_createCloneSnapshot (held : shared.volumes.Held node name base) :
    Follows compile Allowed (.volume node name) (createCloneSnapshot node base) shared := by
  unfold createCloneSnapshot
  cases source : base.labels.lookup ZFSSrcVolKey with
  | none => exact follows_pure _
  | some srcVol =>
      apply follows_createSnapshot
      intro args now advances
      exact .cloneSnapshot node name base args srcVol (held.advance advances.volumes) source

theorem follows_createClone (held : shared.volumes.Held node name base)
    (live : base.deletionTimestamp = false) (missing : isVolumeReady base = false) :
    Follows compile Allowed (.volume node name) (createClone node base) shared := by
  apply (follows_createCloneSnapshot held).bind
  intro answer now toSnapshot
  cases answer with
  | error err => exact follows_pure _
  | ok taken =>
      apply (follows_getVolume node _).bind
      intro answer now toList
      cases answer with
      | ok present => exact follows_generateUUID node base
      | error err =>
          apply Follows.bind
          · apply follows_runCmd
            intro later advances
            have held := held.advance (toSnapshot.trans (toList.trans advances)).volumes
            exact .clone node name base _ _ held live missing
          · intro answer now _
            cases answer with
            | error err => exact follows_pure _
            | ok out => exact follows_generateUUID node base

theorem follows_createZV (held : shared.volumes.Held node name base)
    (live : base.deletionTimestamp = false) (missing : isVolumeReady base = false) :
    Follows compile Allowed (.volume node name) (Mgmt.createZV node base) shared := by
  unfold Mgmt.createZV
  split
  · exact follows_createClone held live missing
  · apply follows_createVolume
    intro args now advances
    exact .create node name base args (held.advance advances.volumes) live missing

theorem follows_updateZvolInfo (status : State) (held : shared.volumes.Held node name base)
    (live : base.deletionTimestamp = false) (missing : isVolumeReady base = false) :
    Follows compile Allowed (.volume node name) (updateZvolInfo node base status) shared := by
  rw [updateZvolInfo_eq]
  apply follows_call
  intro now advances
  have held := held.advance advances.volumes
  exact ⟨base, held.known, .settle node name base status held live missing⟩

theorem follows_destroyCloneSnapshot (held : shared.volumes.Held node name base) :
    Follows compile Allowed (.volume node name) (destroyCloneSnapshot node base) shared := by
  unfold destroyCloneSnapshot
  cases source : base.labels.lookup ZFSSrcVolKey with
  | none => exact follows_pure _
  | some srcVol =>
      apply Follows.bind
      · apply follows_destroySnapshot
        intro now advances
        exact .destroyCloneSnapshot node name base srcVol (held.advance advances.volumes) source
      · intro answer now _
        exact follows_pure _

theorem follows_destroyVolume (held : shared.volumes.Held node name base)
    (deleted : base.deletionTimestamp = true) :
    Follows compile Allowed (.volume node name) (destroyVolume node base) shared := by
  apply (follows_getVolume node _).bind
  intro answer now toPool
  cases answer with
  | error err => exact follows_pure _
  | ok pool =>
      apply (follows_getVolume node _).bind
      intro answer now toList
      cases answer with
      | error err => exact follows_pure _
      | ok present =>
          have held := held.advance (toPool.trans toList).volumes
          apply Follows.bind
          · apply follows_runCmd
            intro later advances
            exact .destroy node name base (held.advance advances.volumes) deleted
          · intro answer now advances
            cases answer with
            | error err => exact follows_pure _
            | ok out => exact follows_destroyCloneSnapshot (held.advance advances.volumes)

theorem follows_setVolumeProp (held : shared.volumes.Held node name base) :
    Follows compile Allowed (.volume node name) (setVolumeProp node base) shared := by
  unfold setVolumeProp
  split
  · exact follows_pure _
  · apply Follows.bind
    · apply follows_runCmd
      intro now advances
      exact .setProperties node name base _ (held.advance advances.volumes)
    · intro answer now _
      cases answer with
      | error err => exact follows_pure _
      | ok out => exact follows_pure _

theorem follows_syncZV (held : shared.volumes.Held node name base) :
    Follows compile Allowed (.volume node name) (Mgmt.syncZV node base) shared := by
  apply keeps_syncZV fun _ _ => follows_pure _
  · intro deleted
    apply (follows_destroyVolume held deleted).advances.mono
    intro answer now _ advances _
    apply follows_call
    intro later advances'
    have held := held.advance (advances.trans advances').volumes
    exact ⟨base, held.known, .release node name base held deleted⟩
  · intro _ _ _
    exact follows_setVolumeProp held
  · intro live missing
    apply (follows_createZV held live missing).advances.mono
    intro answer now _ advances
    exact follows_updateZvolInfo _ (held.advance advances.volumes) live missing

theorem follows_syncVolume (node name : String) :
    Follows compile Allowed (.volume node name) (Mgmt.syncVolume node name) shared := by
  apply keeps_syncVolume
  · exact fun _ _ => trivial
  · exact fun _ _ => follows_pure _
  · exact fun _ _ _ _ _ cached => follows_syncZV (Resource.held_of_cached cached)

end VolumeAgent

/-! ## The snapshot agent -/

section SnapshotAgent

variable {node name : String} {base : ZFSSnapshot}

theorem follows_syncSnap (held : shared.snapshots.Held node name base) :
    Follows compile Allowed (.snapshot node name) (Mgmt.syncSnap node base) shared := by
  apply keeps_syncSnap fun _ _ => follows_pure _
  · intro deleted
    apply Contract.Keeps.mono (Follows.advances _)
    · intro answer now _ advances _
      apply follows_call
      intro later advances'
      have held := held.advance (advances.trans advances').snapshots
      exact ⟨base, held.known, .release node name base held deleted⟩
    · apply follows_destroySnapshot
      intro now advances
      exact .destroySnapshot node name base (held.advance advances.snapshots) deleted
  · intro _ _
    exact follows_pure _
  · intro live unready
    apply Contract.Keeps.mono (Follows.advances _)
    · intro answer now _ advances _
      rw [updateSnapInfo_eq]
      apply follows_call
      intro later advances'
      have held := held.advance (advances.trans advances').snapshots
      exact ⟨base, held.known, .ready node name base held live unready⟩
    · apply follows_createSnapshot
      intro args now advances
      exact .snapshot node name base args (held.advance advances.snapshots) live unready

theorem follows_syncSnapshot (node name : String) :
    Follows compile Allowed (.snapshot node name) (Mgmt.syncSnapshot node name) shared := by
  apply keeps_syncSnapshot
  · exact fun _ _ => trivial
  · exact fun _ _ => follows_pure _
  · exact fun _ _ _ _ _ cached => follows_syncSnap (Resource.held_of_cached cached)

end SnapshotAgent

/-! ## The backup agent -/

section BackupAgent

variable {node name : String} {bkp : ZFSBackup}

theorem follows_createBackup (held : shared.backups.Held node name bkp) :
    Follows compile Allowed (.backup node name) (createBackup node bkp) shared := by
  apply follows_getZFSVolume
  · intro err now _
    exact follows_pure _
  · intro vol now advances _ named _
    have held := held.advance advances.backups
    apply Follows.bind
    · apply follows_createSnapshot
      intro args later advances'
      exact .backup node name bkp vol args (held.advance advances'.backups) named
    · intro answer now _
      cases answer with
      | error err => exact follows_pure _
      | ok taken =>
          dsimp only
          split
          · exact follows_pure _
          · apply follows_of_calls
            apply calls_call_bind
            · exact fun _ _ _ => trivial
            · intro answer
              cases answer with
              | error out => trivial
              | ok sent => trivial

theorem follows_destoryBackup (held : shared.backups.Held node name bkp) :
    Follows compile Allowed (.backup node name) (destoryBackup node bkp) shared := by
  apply follows_getZFSVolume
  · intro err now _
    dsimp only
    split
    · exact follows_pure _
    · exact follows_pure _
  · intro vol now advances _ named _
    apply follows_destroySnapshot
    intro later advances'
    have held := held.advance (advances.trans advances').backups
    exact .destroyBackup node name bkp vol held named

theorem follows_updateBkpInfo (status : ZFSBackupStatus)
    (held : shared.backups.Held node name bkp) (live : bkp.deletionTimestamp = false) :
    Follows compile Allowed (.backup node name) (updateBkpInfo bkp status) shared := by
  apply follows_call
  intro now advances
  have held := held.advance advances.backups
  exact ⟨bkp, held.known, .settle node name bkp status held live⟩

theorem follows_syncBkp (held : shared.backups.Held node name bkp) :
    Follows compile Allowed (.backup node name) (Mgmt.syncBkp node bkp) shared := by
  apply keeps_syncBkp fun _ _ => follows_pure _
  · intro deleted
    apply (follows_destoryBackup held).advances.mono
    intro answer now _ advances _
    apply follows_call
    intro later advances'
    have held := held.advance (advances.trans advances').backups
    exact ⟨bkp, held.known, .release node name bkp held deleted⟩
  · intro live _
    apply (follows_createBackup held).advances.mono
    intro answer now _ advances
    exact follows_updateBkpInfo _ (held.advance advances.backups) live
  · intro _ _
    exact follows_pure _

theorem follows_syncBackup (node name : String) :
    Follows compile Allowed (.backup node name) (Mgmt.syncBackup node name) shared := by
  apply keeps_syncBackup
  · exact fun _ _ => trivial
  · exact fun _ _ => follows_pure _
  · exact fun _ _ _ _ _ cached => follows_syncBkp (Resource.held_of_cached cached)

end BackupAgent

/-! ## Programs of commands -/

/-- The program only runs commands on a node. -/
def RunsOn (node : String) (op : Op) : Prop :=
  ∃ command, op = .zfs node command

theorem calls_destroySnapshot {P : Op → Prop} {node : String} {snap : ZFSSnapshot}
    (lists : ∀ target, P (.zfs node (.list target)))
    (destroys : P (.zfs node (.destroySnapshot (snapDataset snap)))) :
    (Zfs.destroySnapshot node snap).Calls P := by
  apply (calls_getVolume (lists _)).bind
  intro answer
  cases answer with
  | error err => trivial
  | ok pool =>
      apply (calls_getVolume (lists _)).bind
      intro answer
      cases answer with
      | error err => trivial
      | ok present =>
          apply (calls_runCmd destroys).bind
          intro answer
          cases answer with
          | error err => trivial
          | ok out => trivial

/-- The internal snapshot of a clone is destroyed like any other. -/
theorem calls_destroyCloneSnapshot {P : Op → Prop} {node : String} {vol : ZFSVolume}
    (lists : ∀ target, P (.zfs node (.list target)))
    (destroys : ∀ snapshot, P (.zfs node (.destroySnapshot snapshot))) :
    (destroyCloneSnapshot node vol).Calls P := by
  unfold destroyCloneSnapshot
  split
  · trivial
  · apply (calls_destroySnapshot lists (destroys _)).bind
    intro answer
    trivial

theorem calls_destroyVolume (node : String) (vol : ZFSVolume) :
    (destroyVolume node vol).Calls (RunsOn node) := by
  apply (calls_getVolume ⟨_, rfl⟩).bind
  intro answer
  cases answer with
  | error err => trivial
  | ok pool =>
      apply (calls_getVolume ⟨_, rfl⟩).bind
      intro answer
      cases answer with
      | error err => trivial
      | ok present =>
          apply (calls_runCmd ⟨_, rfl⟩).bind
          intro answer
          cases answer with
          | error err => trivial
          | ok out => exact calls_destroyCloneSnapshot (fun _ => ⟨_, rfl⟩) fun _ => ⟨_, rfl⟩

theorem calls_createSnapshot {P : Op → Prop} {node : String} {snap : ZFSSnapshot}
    (lists : P (.zfs node (.list (.snapshot (snapDataset snap)))))
    (takes : ∀ args, P (.zfs node (.snapshot args (snapDataset snap)))) :
    (Zfs.createSnapshot node snap).Calls P := by
  apply (calls_getVolume lists).bind
  intro answer
  cases answer with
  | ok present => trivial
  | error err =>
      apply (calls_runCmd (takes _)).bind
      intro answer
      cases answer with
      | error err => trivial
      | ok out => trivial

/-- The program works on a node and writes no resource. -/
def WorksOn (node : String) (op : Op) : Prop :=
  RunsOn node op ∨ ∃ path, op = .generateUUID node path

theorem worksOn_zfs (node : String) (command : Command) : WorksOn node (.zfs node command) :=
  .inl ⟨command, rfl⟩

theorem calls_generateUUID (node : String) (vol : ZFSVolume) :
    (generateUUID node vol).Calls (WorksOn node) := by
  unfold generateUUID
  split
  · apply calls_call_bind (.inr ⟨_, rfl⟩)
    intro answer
    cases answer with
    | error message => trivial
    | ok done => trivial
  · trivial

theorem calls_createClone (node : String) (vol : ZFSVolume) :
    (createClone node vol).Calls (WorksOn node) := by
  have taken : (createCloneSnapshot node vol).Calls (WorksOn node) := by
    unfold createCloneSnapshot
    split
    · trivial
    · exact calls_createSnapshot (worksOn_zfs ..) fun _ => worksOn_zfs ..
  apply taken.bind
  intro answer
  cases answer with
  | error err => trivial
  | ok done =>
      apply (calls_getVolume (worksOn_zfs ..)).bind
      intro answer
      cases answer with
      | ok present => exact calls_generateUUID node vol
      | error err =>
          apply (calls_runCmd (worksOn_zfs ..)).bind
          intro answer
          cases answer with
          | error err => trivial
          | ok out => exact calls_generateUUID node vol

theorem calls_createZV (node : String) (vol : ZFSVolume) :
    (Mgmt.createZV node vol).Calls (WorksOn node) := by
  unfold Mgmt.createZV
  split
  · exact calls_createClone node vol
  · apply (calls_getVolume (worksOn_zfs ..)).bind
    intro answer
    cases answer with
    | ok present => trivial
    | error err =>
        apply (calls_runCmd (worksOn_zfs ..)).bind
        intro answer
        cases answer with
        | error err => trivial
        | ok out => trivial

theorem calls_setVolumeProp (node : String) (vol : ZFSVolume) :
    (setVolumeProp node vol).Calls (WorksOn node) := by
  unfold setVolumeProp
  split
  · trivial
  · apply (calls_runCmd (worksOn_zfs ..)).bind
    intro answer
    cases answer with
    | error err => trivial
    | ok out => trivial

end ZfsLocalPv.Cluster

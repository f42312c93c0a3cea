import ZfsLocalPv.Cluster.Changes
import ZfsLocalPv.Cluster.Requests

/-!
# Ready snapshots keep their data

A ZFSSnapshot that is Ready and not deleted should have its ZFS snapshot on its owner node.
Volume agents, snapshot agents and backup agents all destroy ZFS snapshots, without a common lock
and in one name space, so a recursive destroy, the teardown of a clone or that of a backup may
hit the data of a Ready snapshot.

The property holds in every run in which clones and backups use other snapshot names than the
ZFSSnapshots of the volume, no volume is destroyed while a ZFSSnapshot of it is undeleted, and
agents take only the snapshots of their node.
-/

namespace ZfsLocalPv.Properties

open Api ApiServer Driver Interaction Zfs Cluster

/-! ## Names -/

section Names

-- `Reserved volume name`: the snapshot name is for clones and backups of the volume
variable (Reserved : String → String → Prop)

/-- The internal snapshot of a clone has a reserved name. -/
def CloneNamed (vol : ZFSVolume) : Prop :=
  ∀ src ∈ vol.labels.lookup ZFSSrcVolKey, Reserved src vol.name

/-- The snapshot of a backup has a reserved name. -/
def BackupNamed (bkp : ZFSBackup) : Prop :=
  Reserved bkp.spec.volumeName bkp.spec.snapName

/-- A ZFSSnapshot has a name that is not reserved. -/
def SnapshotNamed (snap : ZFSSnapshot) : Prop :=
  ¬ Reserved (Go.StringMap.get snap.labels ZFSVolKey) snap.name

structure NamesApart (shared : Shared) : Prop where
  clones : shared.volumes.Everywhere (CloneNamed Reserved)
  backups : shared.backups.Everywhere (BackupNamed Reserved)
  snapshots : shared.snapshots.Everywhere (SnapshotNamed Reserved)

/-- A clone is created under a reserved name, a snapshot under another one. -/
def CreatesApart (op : Op) : Prop :=
  match op with
  | .createVolume vol => CloneNamed Reserved vol
  | .createSnapshot snap => SnapshotNamed Reserved snap
  | _ => True

variable {Reserved} {Allowed : ZFSVolume → ZFSVolume → Prop}
  {thread : Tid} {op : Op} {shared after : Shared}

theorem lookup_settledVolume (node : String) (base : ZFSVolume) (status : State) {key : String}
    (differs : key ≠ ZFSNodeKey) :
    (settledVolume node base status).labels.lookup key = base.labels.lookup key :=
  Go.StringMap.lookup_merge_single_of_ne differs node base.labels

theorem snapDataset_readySnapshot (node : String) (base : ZFSSnapshot) :
    snapDataset (readySnapshot node base) = snapDataset base := by
  have labels : (readySnapshot node base).labels.lookup ZFSVolKey = base.labels.lookup ZFSVolKey :=
    Go.StringMap.lookup_merge_single_of_ne (by decide) node base.labels
  simp only [snapDataset, Go.StringMap.get, labels]
  rfl

/-- No write changes what a volume is a clone of. -/
theorem VolumeWrite.source {volumes : Resource VolumeInfo State} {base vol : ZFSVolume}
    (write : VolumeWrite Allowed volumes thread base vol) :
    vol.labels.lookup ZFSSrcVolKey = base.labels.lookup ZFSSrcVolKey ∧ vol.name = base.name := by
  cases write with
  | settle node name base status => exact ⟨lookup_settledVolume node base status (by decide), rfl⟩
  | provision | mark | resize | release => exact ⟨rfl, rfl⟩

/-- No write changes what a snapshot is a snapshot of. -/
theorem SnapshotWrite.dataset {snapshots : Resource VolumeInfo State} {base snap : ZFSSnapshot}
    (write : SnapshotWrite snapshots thread base snap) : snapDataset snap = snapDataset base := by
  cases write with
  | ready node name base => exact snapDataset_readySnapshot node base
  | release => rfl

theorem BackupWrite.spec {backups : Resource ZFSBackupSpec ZFSBackupStatus}
    {base bkp : ZFSBackup} (write : BackupWrite backups thread base bkp) :
    bkp.spec = base.spec := by
  cases write with
  | settle | release => rfl

theorem clones_of_change {volumes next : Resource VolumeInfo State} {caller : Option (Tid × Op)}
    (change : VolumeChange Allowed volumes caller next)
    (created : ∀ thread op, caller = some (thread, op) → CreatesApart Reserved op)
    (clones : volumes.Everywhere (CloneNamed Reserved)) :
    next.Everywhere (CloneNamed Reserved) := by
  apply change.everywhere clones
  · exact fun _ _ _ _ _ named => named
  · rintro ⟨thread, op⟩ vol callerEq ⟨_, opEq⟩
    have apart := created thread op callerEq
    rw [show op = .createVolume vol from opEq] at apart
    exact apart
  · rintro ⟨thread, op⟩ base vol ⟨write, _⟩ named src mem
    obtain ⟨sourceEq, nameEq⟩ := VolumeWrite.source write
    rw [sourceEq] at mem
    rw [nameEq]
    exact named src mem

theorem snapshots_of_change {snapshots next : Resource VolumeInfo State}
    {caller : Option (Tid × Op)} (change : SnapshotChange snapshots caller next)
    (created : ∀ thread op, caller = some (thread, op) → CreatesApart Reserved op)
    (apart : snapshots.Everywhere (SnapshotNamed Reserved)) :
    next.Everywhere (SnapshotNamed Reserved) := by
  apply change.everywhere apart
  · exact fun _ _ _ _ _ named => named
  · rintro ⟨thread, op⟩ snap callerEq ⟨_, opEq⟩
    have apart := created thread op callerEq
    rw [show op = .createSnapshot snap from opEq] at apart
    exact apart
  · rintro ⟨thread, op⟩ base snap ⟨write, _⟩ named
    have datasetEq := SnapshotWrite.dataset write
    have volumeEq := congrArg (fun dataset => dataset.volume.name) datasetEq
    have nameEq := congrArg Snapshot.name datasetEq
    simp only [snapDataset] at volumeEq nameEq
    unfold SnapshotNamed
    rw [volumeEq, nameEq]
    exact named

theorem backups_of_change {Created : ZFSBackup → Prop}
    {backups next : Resource ZFSBackupSpec ZFSBackupStatus}
    (change : BackupChange Created backups next)
    (created : ∀ bkp, Created bkp → BackupNamed Reserved bkp)
    (reserved : backups.Everywhere (BackupNamed Reserved)) :
    next.Everywhere (BackupNamed Reserved) := by
  obtain ⟨client, change⟩ := change
  apply change.everywhere reserved
  · exact fun _ _ _ _ _ named => named
  · exact fun _ bkp _ fresh => created bkp fresh
  · rintro _ base bkp ⟨thread, write⟩ named
    unfold BackupNamed
    rw [BackupWrite.spec write]
    exact named

/-- What is no call creates no volume and no snapshot. -/
theorem namesApart_of_drift {Created : ZFSBackup → Prop} (apart : NamesApart Reserved shared)
    (drift : Drift shared after)
    (backups : BackupChange Created shared.backups after.backups)
    (created : ∀ bkp, Created bkp → BackupNamed Reserved bkp) :
    NamesApart Reserved after where
  clones := clones_of_change (drift.volumes fun _ _ => True)
    (fun _ _ callerEq => nomatch callerEq) apart.clones
  backups := backups_of_change backups created apart.backups
  snapshots := snapshots_of_change drift.snapshots
    (fun _ _ callerEq => nomatch callerEq) apart.snapshots

theorem namesApart_of_call (apart : NamesApart Reserved shared)
    (creates : CreatesApart Reserved op) (disciplined : Disciplined Allowed thread op shared)
    (effect : Effect thread shared op after) : NamesApart Reserved after := by
  have created : ∀ thread' op', some (thread, op) = some (thread', op') →
      CreatesApart Reserved op' := by
    rintro _ _ ⟨⟩
    exact creates
  have backups : BackupChange (fun _ => False) shared.backups after.backups :=
    effect.backupChange disciplined
  exact
    { clones := clones_of_change (effect.volumeChange disciplined) created apart.clones
      backups := backups_of_change backups (fun _ false => false.elim) apart.backups
      snapshots := snapshots_of_change (effect.snapshotChange disciplined) created
        apart.snapshots }

end Names

/-! ## Ready snapshots -/

section Changes

variable {snapshots next : Resource VolumeInfo State} {caller : Option (Tid × Op)}
  {node name : String} {snap : ZFSSnapshot}

/-- A Ready snapshot is what it was before, or it is made Ready by the snapshot
agent of a node. -/
inductive SnapshotBecameReady (snapshots : Resource VolumeInfo State)
    (caller : Option (Tid × Op)) (next : Resource VolumeInfo State) (node name : String)
    (snap : ZFSSnapshot) : Prop
  | before (readyOn : ReadyOn snapshots node name snap)
      (shows : snapshots.Shows node name Live → next.Shows node name Live)
  | taken (agent : String) (base : ZFSSnapshot)
      (worker : caller = some (.snapshot agent name, .updateSnapshot (readySnapshot agent base)))
      (held : snapshots.Held agent name base) (stored : snapshots.get name = some base)
      (live : Live base) (specEq : snap.spec = base.spec)
      (datasetEq : snapDataset snap = snapDataset base)
      (shows : snapshots.Shows node name Live → next.Shows node name Live)

theorem snapshotBecameReady_of_change (change : SnapshotChange snapshots caller next)
    (readyOn : ReadyOn next node name snap) :
    SnapshotBecameReady snapshots caller next node name snap := by
  obtain ⟨found, ready, live, owner⟩ := readyOn
  cases change.origin found with
  | kept stored shows => exact .before ⟨stored, ready, live, owner⟩ shows
  | created creator new isClient fresh absent objectEq =>
      subst objectEq
      have pending : State.pending = .ready := fresh.1.pending.symm.trans ready
      contradiction
  | written writer base new isClient write stored rewrites still objectEq shows =>
      obtain ⟨thread, op⟩ := writer
      obtain ⟨write, opEq⟩ := write
      dsimp only at write opEq
      subst isClient opEq objectEq
      cases write with
      | ready agent other base held liveBase missing =>
          obtain rfl : other = name := held.nameEq.symm.trans (Resource.name_of_get stored)
          exact .taken agent base rfl held stored liveBase rfl
            (snapDataset_readySnapshot agent base) (shows live)
      | release agent other base held deleted =>
          have notDeleted : true = false := deleted.symm.trans live
          contradiction
  | deleted deleter old isClient deletes stored liveOld objectEq =>
      subst objectEq
      have notDeleted : true = false := live
      contradiction
  | collected old stored deleted objectEq =>
      subst objectEq
      have notDeleted : true = false := deleted.symm.trans live
      contradiction

end Changes

/-! ## The contract of the snapshot agents -/

/-- At the start of a sync of a snapshot that is neither deleted nor Ready, the
snapshot in the cache is owned by the node of the agent. -/
def TakesOwned (op : Op) (shared : Shared) : Prop :=
  match op with
  | .cachedSnapshot node name => ∀ snap ∈ (shared.snapshots.informers node).cache name,
      Live snap → snap.status ≠ .ready → snap.spec.ownerNodeID = node
  | _ => True

instance (op : Op) (shared : Shared) : Decidable (TakesOwned op shared) := by
  apply @Op.casesOn _ op <;> intros <;> dsimp only [TakesOwned] <;> infer_instance

/-- At a recursive destroy, no undeleted ZFSSnapshot of the node is of a volume that
goes. -/
def DestroysUnsnapped (op : Op) (shared : Shared) : Prop :=
  match op with
  | .zfs node (.destroy root) => ∀ snap ∈ shared.snapshots.store.items,
      Live snap → snap.spec.ownerNodeID = node →
      Storage.takes root (snapDataset snap).volume = false
  | _ => True

instance (op : Op) (shared : Shared) : Decidable (DestroysUnsnapped op shared) := by
  apply @Op.casesOn _ op
  case zfs =>
    intro node command
    apply @Command.casesOn _ command <;> intros <;>
      dsimp only [DestroysUnsnapped] <;> infer_instance
  all_goals intros; dsimp only [DestroysUnsnapped]; infer_instance

/-- Ready snapshots have their data, and their owner is not about to learn of a
deletion. -/
def SnapshotHasData (shared : Shared) : Prop :=
  ∀ node name snap, ReadyOn shared.snapshots node name snap →
    (shared.storage node).hasSnapshot (snapDataset snap) = true ∧
      shared.snapshots.Shows node name Live

/-- What the snapshot agent of a node counts on while it syncs a name: what it took
for an undeleted snapshot of the node stays as long as that snapshot does. -/
structure SnapshotRely (node name : String) (shared after : Shared) : Prop where
  advances : shared.snapshots.Advances after.snapshots
  stays : ∀ snap, after.snapshots.get name = some snap →
    snap.resourceVersion ≤ shared.snapshots.revision → Live snap →
    snap.spec.ownerNodeID = node → (shared.storage node).hasSnapshot (snapDataset snap) = true →
    (after.storage node).hasSnapshot (snapDataset snap) = true
  notReady : NotReadyOn shared.snapshots node name → NotReadyOn after.snapshots node name

theorem SnapshotRely.refl (node name : String) (shared : Shared) :
    SnapshotRely node name shared shared where
  advances := .refl _
  stays := fun _ _ _ _ _ present => present
  notReady := fun notReady => notReady

theorem SnapshotRely.trans {node name : String} {shared middle after : Shared}
    (first : SnapshotRely node name shared middle) (second : SnapshotRely node name middle after) :
    SnapshotRely node name shared after where
  advances := first.advances.trans second.advances
  stays := by
    intro snap stored bound live owner present
    have boundMiddle := Nat.le_trans bound first.advances.revision
    have storedMiddle := second.advances.old name snap stored boundMiddle
    have presentMiddle := first.stays snap storedMiddle bound live owner present
    exact second.stays snap stored boundMiddle live owner presentMiddle
  notReady := fun notReady => second.notReady (first.notReady notReady)

/-- Before it writes Ready an agent has the ZFS snapshot, unless the write is
refused; and it destroys the data of a snapshot that is not Ready. -/
def SnapshotOk (thread : Tid) (op : Op) (shared : Shared) : Prop :=
  match thread, op with
  | .snapshot node _, .updateSnapshot snap => snap.status = .ready → Live snap →
      snap.spec.ownerNodeID = node ∧ ∀ stored, shared.snapshots.get snap.name = some stored →
        stored.resourceVersion = snap.resourceVersion →
        (shared.storage node).hasSnapshot (snapDataset snap) = true
  | .snapshot node name, .zfs _ (.destroySnapshot _) => NotReadyOn shared.snapshots node name
  | _, _ => True

def snapshotData (compile : Compile) (Reserved : String → String → Prop) :
    Contract (cluster compile) where
  Inv := SnapshotHasData
  Rely := fun thread shared after =>
    match thread with
    | .snapshot node name => SnapshotRely node name shared after
    | _ => True
  Guard := fun thread op _ shared => Disciplined (fun _ _ => True) thread op shared ∧
    NamesApart Reserved shared ∧ TakesOwned op shared ∧ DestroysUnsnapped op shared
  Ok := SnapshotOk
  Post := fun _ _ _ => True
  rely_refl := by
    intro thread state
    cases thread with
    | snapshot node name => exact .refl node name state
    | request | volume | backup => trivial
  rely_trans := by
    intro thread first second third one two
    cases thread with
    | snapshot node name => exact SnapshotRely.trans one two
    | request | volume | backup => trivial

/-! ## The agent keeps its contract -/

section Agent

variable {compile : Compile} {Reserved : String → String → Prop} {node name : String}
  {base : ZFSSnapshot} {shared : Shared}

/-- A deleted snapshot may be destroyed if it is not Ready again. -/
theorem keeps_destroySnapshot (notReady : NotReadyOn shared.snapshots node name) :
    (snapshotData compile Reserved).Keeps (.snapshot node name) (Zfs.destroySnapshot node base)
      (fun _ now => NotReadyOn now.snapshots node name) shared := by
  apply Contract.keeps_of_stable (calls_destroySnapshot (fun _ => ⟨_, rfl⟩) ⟨_, rfl⟩ :
    (Zfs.destroySnapshot node base).Calls (RunsOn node))
  · intro before after rely
    exact rely.notReady
  · rintro op now ⟨command, rfl⟩ _ notReady
    cases command with
    | destroySnapshot snap => exact notReady
    | list | create | clone | snapshot | destroy | set | get => trivial
  · rintro op choice now answer after ⟨command, rfl⟩ _ _ notReady executed
    have ran : exec (.snapshot node name) (.zfs node command) choice now = some (answer, after) :=
      executed
    cases exec_effect ran with
    | same => exact notReady
    | zfs target command effect => exact notReady
  · exact notReady

/-- What was taken for the held copy is there, unless the copy is out of date. -/
structure Taken (node : String) (base : ZFSSnapshot) (shared : Shared) : Prop where
  known : shared.snapshots.Known base
  present : shared.snapshots.get base.name = some base →
    (shared.storage node).hasSnapshot (snapDataset base) = true

theorem Taken.rely {after : Shared} (taken : Taken node base shared) (named : base.name = name)
    (live : Live base) (owner : base.spec.ownerNodeID = node)
    (rely : SnapshotRely node name shared after) : Taken node base after where
  known := rely.advances.known base taken.known
  present := by
    subst named
    intro stored
    have bound := taken.known.bound
    have before := rely.advances.old base.name base stored bound
    exact rely.stays base stored bound live owner (taken.present before)

theorem keeps_takeSnapshot (named : base.name = name) (live : Live base)
    (owner : base.spec.ownerNodeID = node) (known : shared.snapshots.Known base) :
    (snapshotData compile Reserved).Keeps (.snapshot node name) (Zfs.createSnapshot node base)
      (fun result now => result = .ok () → Taken node base now) shared := by
  apply keeps_getVolume_bind
  · intro now _ _
    trivial
  · intro err now rely _
    have known := rely.advances.known base known
    apply keeps_runCmd_bind
    · intro now _ _
      trivial
    · intro out choice now after _ _ _ _ later _ _ succeeded
      contradiction
    · intro out choice now storage rely _ _ ran later rely' _ _
      have known := rely.advances.known base known
      have taken : Taken node base (now.setStorage node storage) := by
        constructor
        · exact known
        · intro _
          have created := (Storage.run_effect ran).taken
          simpa [Shared.setStorage] using created
      exact taken.rely named live owner rely'
  · intro now rely _ present later rely' _ _
    have taken : Taken node base now := ⟨rely.advances.known base known, fun _ => present⟩
    exact taken.rely named live owner rely'

theorem snapshotData_syncSnapshot :
    (snapshotData compile Reserved).Keeps (.snapshot node name) (Mgmt.syncSnapshot node name)
      (fun _ _ => True) shared := by
  apply keeps_syncSnapshot
  · exact fun _ _ => trivial
  · exact fun _ _ _ _ _ => trivial
  · intro base choice now inv guard cached
    obtain ⟨_, _, owned, _⟩ := guard
    have held := Resource.held_of_cached cached
    apply keeps_syncSnap fun _ _ _ _ _ => trivial
    · intro deleted
      have mortal (live : base.deletionTimestamp = false) : False := by
        rw [deleted] at live
        contradiction
      -- a Ready snapshot would not be shown as deleted
      have notReady : NotReadyOn now.snapshots node name := fun snap readyOn =>
        mortal ((inv node name snap readyOn).2.of_cached cached)
      apply (keeps_destroySnapshot notReady).mono
      intro answer later _ _ _
      apply keeps_call_true
      exact fun _ _ _ _ live => (mortal live).elim
    · exact fun _ _ _ _ _ => trivial
    · intro live unready
      have owner := owned base cached live unready
      apply (keeps_takeSnapshot held.nameEq live owner held.known).mono
      intro answer later _ taken succeeded
      rw [updateSnapInfo_eq]
      apply keeps_call_true
      intro last rely _ _ _
      have taken := (taken succeeded).rely held.nameEq live owner rely
      constructor
      · exact owner
      · intro stored found versionEq
        obtain rfl := taken.known.current stored found versionEq
        rw [snapDataset_readySnapshot]
        exact taken.present found

end Agent

/-! ## Every step keeps the invariant -/

section Steps

variable {compile : Compile} {Reserved : String → String → Prop} {thread : Tid} {op : Op}
  {shared after : Shared} {node name : String} {snap : ZFSSnapshot}

/-- A ZFS snapshot on a node is spared by a call. -/
structure SparesSnapshot (op : Op) (node : String) (snapshot : Snapshot) : Prop where
  recursively : ∀ root, op = .zfs node (.destroy root) →
    Storage.takes root snapshot.volume = false
  itself : op ≠ .zfs node (.destroySnapshot snapshot)

theorem SparesSnapshot.kept {snapshot : Snapshot} (spares : SparesSnapshot op node snapshot)
    (effect : Effect thread shared op after)
    (present : (shared.storage node).hasSnapshot snapshot = true) :
    (after.storage node).hasSnapshot snapshot = true := by
  rcases effect.storage node with same | ⟨command, rfl, changed⟩
  · rw [same]
    exact present
  · apply changed.keeps_snapshot present
    · rintro root rfl
      exact spares.recursively root rfl
    · rintro rfl
      exact spares.itself rfl

/-- The data of an undeleted snapshot is spared by everyone but its own agent. -/
theorem sparesSnapshot_of_other (disciplined : Disciplined (fun _ _ => True) thread op shared)
    (apart : NamesApart Reserved shared) (unsnapped : DestroysUnsnapped op shared)
    (stored : shared.snapshots.get name = some snap) (live : Live snap)
    (owner : snap.spec.ownerNodeID = node) (other : thread ≠ .snapshot node name) :
    SparesSnapshot op node (snapDataset snap) := by
  have unreserved := apart.snapshots.stored stored
  have nameEq := Resource.name_of_get stored
  constructor
  · rintro root rfl
    exact unsnapped snap (Store.mem_of_get stored) live owner
  · intro destroys
    subst destroys
    -- whose snapshot it is decides whose rule forbids it
    generalize target : snapDataset snap = destroyed at disciplined
    cases disciplined with
    | destroyCloneSnapshot node name base srcVol held source =>
        have volumeEq := congrArg (fun snapshot => snapshot.volume.name) target
        have snapshotEq := congrArg Snapshot.name target
        apply unreserved
        rw [show Go.StringMap.get snap.labels ZFSVolKey = srcVol from volumeEq,
          show snap.name = base.name from snapshotEq]
        exact apart.clones base held.known.seen srcVol source
    | destroySnapshot node name' base held deleted =>
        have snapshotEq := congrArg Snapshot.name target
        apply other
        rw [← held.nameEq, ← nameEq, show snap.name = base.name from snapshotEq]
    | destroyBackup node name bkp vol held named =>
        have volumeEq := congrArg (fun snapshot => snapshot.volume.name) target
        have snapshotEq := congrArg Snapshot.name target
        apply unreserved
        rw [show Go.StringMap.get snap.labels ZFSVolKey = vol.name from volumeEq,
          show snap.name = bkp.spec.snapName from snapshotEq, named]
        exact apart.backups bkp held.known.seen

theorem snapshotHasData_of_call (inv : SnapshotHasData shared) (ok : SnapshotOk thread op shared)
    (disciplined : Disciplined (fun _ _ => True) thread op shared)
    (apart : NamesApart Reserved shared) (unsnapped : DestroysUnsnapped op shared)
    (effect : Effect thread shared op after) : SnapshotHasData after := by
  intro node name snap readyOn
  cases snapshotBecameReady_of_change (effect.snapshotChange disciplined) readyOn with
  | before readyBefore shows =>
      obtain ⟨present, shown⟩ := inv node name snap readyBefore
      constructor
      · apply SparesSnapshot.kept ?_ effect present
        by_cases own : thread = .snapshot node name
        · subst own
          constructor
          · rintro root rfl
            exact unsnapped snap (Store.mem_of_get readyBefore.stored) readyBefore.live
              readyBefore.owner
          · rintro rfl
            exact ok snap readyBefore
        · exact sparesSnapshot_of_other disciplined apart unsnapped readyBefore.stored
            readyBefore.live readyBefore.owner own
      · exact shows shown
  | taken agent base worker held stored live specEq datasetEq shows =>
      obtain ⟨rfl, rfl⟩ := Prod.mk.inj (Option.some.inj worker)
      have liveReady : Live (readySnapshot agent base) := live
      obtain ⟨owner, present⟩ := ok rfl liveReady
      obtain rfl : agent = node := by
        rw [← readyOn.owner, specEq]
        exact owner.symm
      obtain rfl := held.nameEq
      have present := present base stored rfl
      rw [snapDataset_readySnapshot, ← datasetEq] at present
      constructor
      · apply SparesSnapshot.kept ?_ effect present
        constructor
        · intro root destroys
          contradiction
        · intro destroys
          contradiction
      · exact shows (Resource.shows_of_passed held.passed stored (Nat.le_refl _) live)

theorem notReadyOn_of_call (ok : SnapshotOk thread op shared)
    (disciplined : Disciplined (fun _ _ => True) thread op shared)
    (effect : Effect thread shared op after) (other : thread ≠ .snapshot node name)
    (notReady : NotReadyOn shared.snapshots node name) :
    NotReadyOn after.snapshots node name := by
  intro snap readyOn
  cases snapshotBecameReady_of_change (effect.snapshotChange disciplined) readyOn with
  | before readyBefore shows => exact notReady snap readyBefore
  | taken agent base worker held stored live specEq datasetEq shows =>
      -- the agent that writes Ready is the owner, so it is this one
      obtain ⟨rfl, rfl⟩ := Prod.mk.inj (Option.some.inj worker)
      have liveReady : Live (readySnapshot agent base) := live
      obtain ⟨owner, _⟩ := ok rfl liveReady
      apply other
      have ownerEq : base.spec.ownerNodeID = node := by
        rw [← specEq]
        exact readyOn.owner
      rw [← ownerEq, ← owner]
      rfl

theorem snapshotRely_of_call (ok : SnapshotOk thread op shared)
    (disciplined : Disciplined (fun _ _ => True) thread op shared)
    (apart : NamesApart Reserved shared) (unsnapped : DestroysUnsnapped op shared)
    (effect : Effect thread shared op after) (other : thread ≠ .snapshot node name) :
    SnapshotRely node name shared after where
  advances := effect.advances.snapshots
  stays := by
    intro snap stored bound live owner present
    have before := effect.advances.snapshots.old name snap stored bound
    exact (sparesSnapshot_of_other disciplined apart unsnapped before live owner other).kept
      effect present
  notReady := notReadyOn_of_call ok disciplined effect other

/-- A step that is no call of a thread makes nothing Ready. -/
theorem snapshotData_of_drift (inv : SnapshotHasData shared) (drift : Drift shared after)
    (advances : Advances shared after) :
    SnapshotHasData after ∧
      ∀ other, (snapshotData compile Reserved).Rely other shared after := by
  constructor
  · intro node name snap readyOn
    cases snapshotBecameReady_of_change drift.snapshots readyOn with
    | before readyBefore shows =>
        obtain ⟨present, shown⟩ := inv node name snap readyBefore
        rw [drift.storage]
        exact ⟨present, shows shown⟩
    | taken agent base worker => contradiction
  · intro other
    cases other with
    | request | volume | backup => trivial
    | snapshot node name =>
        constructor
        · exact advances.snapshots
        · intro snap _ _ _ _ present
          rw [drift.storage]
          exact present
        · intro notReady snap readyOn
          cases snapshotBecameReady_of_change drift.snapshots readyOn with
          | before readyBefore shows => exact notReady snap readyBefore
          | taken agent base worker => contradiction

end Steps

/-! ## Runs -/

section Runs

variable {compile : Compile} {Reserved : String → String → Prop}
  {start config : Config sig Shared Tid Answer}

/-- The condition under which Ready snapshots keep their data. -/
def SnapshotsApart (Reserved : String → String → Prop) :
    Action Tid Choice Move Arrival → Config sig Shared Tid Answer → Prop
  | .env (.createBackup bkp), _ => BackupNamed Reserved bkp
  | action, config => System.AtCalls (fun _ op _ shared =>
      CreatesApart Reserved op ∧ TakesOwned op shared ∧ DestroysUnsnapped op shared) action config

instance [∀ volume name, Decidable (Reserved volume name)] (op : Op) :
    Decidable (CreatesApart Reserved op) := by
  apply @Op.casesOn _ op <;> intros <;>
    dsimp only [CreatesApart, CloneNamed, SnapshotNamed] <;> infer_instance

instance [∀ volume name, Decidable (Reserved volume name)]
    (action : Action Tid Choice Move Arrival) (config : Config sig Shared Tid Answer) :
    Decidable (SnapshotsApart Reserved action config) := by
  apply @Interaction.Action.casesOn _ _ _ _ _ action
  case env =>
    intro move
    apply @Move.casesOn _ move <;> intros <;>
      dsimp only [SnapshotsApart, BackupNamed] <;> infer_instance
  all_goals intros; dsimp only [SnapshotsApart]; infer_instance

/-- The condition, and that the programs keep their discipline. -/
abbrev ApartDisciplined (Reserved : String → String → Prop)
    (action : Action Tid Choice Move Arrival) (config : Config sig Shared Tid Answer) : Prop :=
  SnapshotsApart Reserved action config ∧
    System.AtCalls (fun thread op _ shared =>
      Disciplined (fun _ _ => True) thread op shared) action config

theorem namesApart_of_reaches (initially : NamesApart Reserved start.shared)
    (reached : (cluster compile).Reaches (ApartDisciplined Reserved) start config) :
    NamesApart Reserved config.shared := by
  apply reached.shared_invariant (NamesApart Reserved) initially
  · intro config thread choice op next answer after meets atCall apart executed
    exact namesApart_of_call apart (meets.1 op next atCall).1 (meets.2 op next atCall)
      (exec_effect executed)
  · intro config move after meets apart moved
    have effect := env_effect moved
    apply namesApart_of_drift apart effect.drift effect.backupChange
    rintro bkp rfl
    exact meets.1
  · intro config arrival thread program after _ apart arrived
    have effect := arrive_effect arrived
    have backups : BackupChange (fun _ => False) config.shared.backups after.backups :=
      effect.backupChange
    exact namesApart_of_drift apart effect.drift backups fun _ false => false.elim
  · intro config thread answer _ apart
    have effect := leave_effect thread answer config.shared
    have backups : BackupChange (fun _ => False) config.shared.backups
        (leave thread answer config.shared).backups :=
      effect.backupChange
    exact namesApart_of_drift apart effect.drift backups fun _ false => false.elim

theorem snapshotData_sound : (snapshotData compile Reserved).Sound fun action config =>
    ApartDisciplined Reserved action config ∧ NamesApart Reserved config.shared where
  guard := by
    intro config thread choice op next meets atCall
    obtain ⟨⟨conditions, disciplined⟩, apart⟩ := meets
    obtain ⟨_, owned, unsnapped⟩ := conditions op next atCall
    exact ⟨disciplined op next atCall, apart, owned, unsnapped⟩
  call := by
    rintro thread op choice before answer after inv ok
      ⟨disciplined, apart, _, unsnapped⟩ executed
    have effect := exec_effect executed
    constructor
    · exact snapshotHasData_of_call inv ok disciplined apart unsnapped effect
    · intro other differs
      cases other with
      | snapshot node name =>
          exact snapshotRely_of_call ok disciplined apart unsnapped effect differs.symm
      | request | volume | backup => trivial
  env := by
    intro config move after _ inv moved
    have effect := env_effect moved
    exact snapshotData_of_drift inv effect.drift effect.advances
  arrive := by
    intro config arrival thread program after _ inv arrived _
    have effect := arrive_effect arrived
    obtain ⟨invAfter, rely⟩ := snapshotData_of_drift inv effect.drift effect.advances
    refine ⟨invAfter, fun other _ => rely other, ?_⟩
    cases effect with
    | syncSnapshot node name quiet =>
        apply Contract.Keeps.bind
        apply snapshotData_syncSnapshot.mono
        exact fun _ _ _ _ _ _ _ => trivial
    | request | syncVolume | syncBackup =>
        exact Contract.keeps_of_no_obligation _ (fun _ _ _ => trivial) _
  leave := by
    intro config thread answer _ inv _ _
    have effect := leave_effect thread answer config.shared
    obtain ⟨invAfter, rely⟩ := snapshotData_of_drift inv effect.drift effect.advances
    exact ⟨invAfter, fun other _ => rely other⟩

/-- No object was ever stored and nobody is running. -/
structure Untouched (start : Config sig Shared Tid Answer) : Prop where
  volumes : start.shared.volumes = .empty
  snapshots : start.shared.snapshots = .empty
  backups : start.shared.backups = .empty
  idle : ∀ thread, start.threads thread = none

/-- Along every run in which the snapshot names of clones and backups are reserved,
volumes are destroyed only when none of their snapshots is undeleted and agents take
only snapshots of their node, a snapshot that is Ready and not deleted has its data
on its owner node. -/
theorem ready_snapshot_has_data (untouched : Untouched start)
    (reached : (cluster compile).Reaches (SnapshotsApart Reserved) start config)
    {name volume : String} {snap : ZFSSnapshot}
    (stored : config.shared.snapshots.get name = some snap)
    (labelled : snap.labels.lookup ZFSVolKey = some volume) (ready : snap.status = .ready)
    (live : snap.deletionTimestamp = false) :
    (config.shared.storage snap.spec.ownerNodeID).hasSnapshot
      ⟨⟨snap.spec.poolName, volume⟩, name⟩ = true := by
  have named : NamesApart Reserved start.shared := by
    constructor
    · rw [untouched.volumes]
      exact Resource.everywhere_empty
    · rw [untouched.backups]
      exact Resource.everywhere_empty
    · rw [untouched.snapshots]
      exact Resource.everywhere_empty
  have initially : SnapshotHasData start.shared := by
    intro node name snap readyOn
    have found := readyOn.stored
    rw [untouched.snapshots] at found
    contradiction
  have disciplined := reaches_disciplined provisionsOnly_true untouched.idle reached
  have apart := disciplined.strengthen fun {config action _} reached _ _ =>
    namesApart_of_reaches named reached
  have holds := snapshotData_sound.reaches initially untouched.idle apart
  have present := (holds.1 _ name snap ⟨stored, ready, live, rfl⟩).1
  rwa [snapDataset, Go.StringMap.get, labelled, Resource.name_of_get stored] at present

theorem ready_snapshot_has_data_twoNodes :
    ∃ config snap, (cluster noRegexp).Reaches (SnapshotsApart fun _ _ => False) twoNodes config ∧
      config.shared.snapshots.get "s" = some snap ∧ snap.labels.lookup ZFSVolKey = some "v" ∧
      snap.status = .ready ∧ snap.deletionTimestamp = false ∧
      (config.shared.storage snap.spec.ownerNodeID).hasSnapshot
        ⟨⟨snap.spec.poolName, "v"⟩, "s"⟩ = true := by
  have ran : ((cluster noRegexp).run (SnapshotsApart fun _ _ => False)
      (settledRun ++ snapshotSteps 1 ++ takeSteps) twoNodes).any (fun config =>
        (config.shared.snapshots.get "s").any fun snap =>
          decide (snap.labels.lookup ZFSVolKey = some "v" ∧ snap.status = .ready ∧
            snap.deletionTimestamp = false)) = true := by
    decide +kernel
  obtain ⟨config, reached, checked⟩ := System.exists_reaches_of_run ran
  obtain ⟨snap, stored, holds⟩ := (Option.any_eq_true _ _).mp checked
  obtain ⟨labelled, ready, live⟩ := of_decide_eq_true holds
  have untouched : Untouched twoNodes := ⟨rfl, rfl, rfl, fun _ => rfl⟩
  exact ⟨config, snap, reached, stored, labelled, ready, live,
    ready_snapshot_has_data untouched reached stored labelled ready live⟩

/-- A snapshot is taken of a volume that is already deleted; then the volume agent
gets to the deletion. -/
def lateSnapshotRun : List (Action Tid Choice Move Arrival) :=
  settledRun ++ deleteSteps 1 ++ snapshotSteps 2 ++ takeSteps ++
    [.env (.deliverVolume "a" "v"), .env (.handleVolume "a"), .arrive (.syncVolume "a" "v")] ++
    calls (.volume "a" "v") 4

/-- The recursive destroy takes the data of the Ready snapshot. -/
theorem ready_snapshot_without_data :
    ∃ config snap, (cluster noRegexp).Reaches Faultless twoNodes config ∧
      config.shared.snapshots.get "s" = some snap ∧ snap.labels.lookup ZFSVolKey = some "v" ∧
      snap.status = .ready ∧ snap.deletionTimestamp = false ∧
      (config.shared.storage snap.spec.ownerNodeID).hasSnapshot
        ⟨⟨snap.spec.poolName, "v"⟩, "s"⟩ = false := by
  have ran : ((cluster noRegexp).run Faultless lateSnapshotRun twoNodes).any (fun config =>
      (config.shared.snapshots.get "s").any fun snap =>
        decide (snap.labels.lookup ZFSVolKey = some "v" ∧ snap.status = .ready ∧
          snap.deletionTimestamp = false ∧
          (config.shared.storage snap.spec.ownerNodeID).hasSnapshot
            ⟨⟨snap.spec.poolName, "v"⟩, "s"⟩ = false)) = true := by
    decide +kernel
  obtain ⟨config, reached, checked⟩ := System.exists_reaches_of_run ran
  obtain ⟨snap, stored, holds⟩ := (Option.any_eq_true _ _).mp checked
  exact ⟨config, snap, reached, stored, of_decide_eq_true holds⟩

end Runs

end ZfsLocalPv.Properties

import ZfsLocalPv.Properties.Readiness

/-!
# Datasets without a volume

Every dataset should belong to a volume that names its node and pool. The driver's finalizer,
which would hold a volume back until its dataset is destroyed, is written only after the dataset
is there. In between a request that times out deletes the volume, and nothing is left that knows
of the dataset.

The property holds in every run in which no volume is deleted or moved away from a dataset that
the finalizer does not guard, agents create datasets only for a volume that still wants them, and
agents release only volumes of their own node.
-/

namespace ZfsLocalPv.Properties

open Api ApiServer Driver Interaction Zfs Cluster

/-! ## Datasets and their volumes -/

/-- A volume of the name of the dataset names its node and its pool. -/
def Referenced (shared : Shared) (node : String) (dataset : Dataset) : Prop :=
  ∃ vol ∈ shared.volumes.get dataset.name,
    vol.spec.ownerNodeID = node ∧ vol.spec.poolName = dataset.pool

/-- The driver's finalizer holds the volume back. -/
def Guarded (vol : ZFSVolume) : Prop :=
  ZFSFinalizer ∈ vol.finalizers

/-- The volume has no dataset on its owner node. -/
def Unbuilt (shared : Shared) (vol : ZFSVolume) : Prop :=
  (shared.storage vol.spec.ownerNodeID).hasDataset (datasetOf vol) = false

instance (vol : ZFSVolume) : Decidable (Guarded vol) :=
  inferInstanceAs (Decidable (ZFSFinalizer ∈ vol.finalizers))

instance (shared : Shared) (vol : ZFSVolume) : Decidable (Unbuilt shared vol) :=
  inferInstanceAs
    (Decidable ((shared.storage vol.spec.ownerNodeID).hasDataset (datasetOf vol) = false))

/-- The volume of a dataset is stored, names its node and pool, and will not be gone
before the dataset is. -/
def Wanted (shared : Shared) (node : String) (dataset : Dataset) : Prop :=
  ∃ vol ∈ shared.volumes.get dataset.name, vol.spec.ownerNodeID = node ∧
    vol.spec.poolName = dataset.pool ∧ (vol.deletionTimestamp = true → Guarded vol)

instance (shared : Shared) (node : String) (dataset : Dataset) :
    Decidable (Wanted shared node dataset) :=
  inferInstanceAs (Decidable (∃ vol ∈ shared.volumes.get dataset.name,
    vol.spec.ownerNodeID = node ∧ vol.spec.poolName = dataset.pool ∧
      (vol.deletionTimestamp = true → Guarded vol)))

theorem Wanted.referenced {shared : Shared} {node : String} {dataset : Dataset}
    (wanted : Wanted shared node dataset) : Referenced shared node dataset := by
  obtain ⟨vol, stored, owner, pool, _⟩ := wanted
  exact ⟨vol, stored, owner, pool⟩

/-- Every dataset has its volume, and a volume on its way out either is held back by
the driver's finalizer or leaves no dataset. -/
structure NoOrphans (shared : Shared) : Prop where
  referenced : ∀ node dataset, (shared.storage node).hasDataset dataset = true →
    Referenced shared node dataset
  guarded : ∀ name, ∀ vol ∈ shared.volumes.get name, vol.deletionTimestamp = true →
    Guarded vol ∨ Unbuilt shared vol

/-! ## The conditions -/

/-- A dataset is created only while its volume wants it. -/
def CreatesWanted (op : Op) (shared : Shared) : Prop :=
  match op with
  | .zfs node (.create _ dataset) => Wanted shared node dataset
  | .zfs node (.clone _ _ dataset) => Wanted shared node dataset
  | _ => True

/-- A volume is deleted only while the finalizer guards it or there is no dataset. -/
def DeletesSafely (op : Op) (shared : Shared) : Prop :=
  match op with
  | .deleteVolume name => ∀ vol ∈ shared.volumes.get name, Guarded vol ∨ Unbuilt shared vol
  | _ => True

/-- A volume is given another node or pool only while there is no dataset. -/
def MovesUnbuilt (op : Op) (shared : Shared) : Prop :=
  match op with
  | .updateVolume new => ∀ vol ∈ shared.volumes.get new.name,
      new.resourceVersion = vol.resourceVersion →
      (new.spec.ownerNodeID = vol.spec.ownerNodeID ∧ new.spec.poolName = vol.spec.poolName) ∨
        Unbuilt shared vol
  | _ => True

/-- A deleted volume is synced only by the agent of its owner. -/
def ReleasesOwned (op : Op) (shared : Shared) : Prop :=
  match op with
  | .cachedVolume node name => ∀ vol ∈ (shared.volumes.informers node).cache name,
      vol.deletionTimestamp = true → vol.spec.ownerNodeID = node
  | _ => True

/-- Listing a dataset that is there does not fail. -/
def ListsPresent (op : Op) (choice : Choice) (shared : Shared) : Prop :=
  match op with
  | .zfs node (.list target) => (shared.storage node).has target = true → choice.outcome = .ok
  | _ => True

instance (op : Op) (shared : Shared) : Decidable (CreatesWanted op shared) := by
  apply @Op.casesOn _ op
  case zfs =>
    intro node command
    apply @Command.casesOn _ command <;> intros <;> dsimp only [CreatesWanted] <;> infer_instance
  all_goals intros; dsimp only [CreatesWanted]; infer_instance

instance (op : Op) (shared : Shared) : Decidable (DeletesSafely op shared) := by
  apply @Op.casesOn _ op <;> intros <;> dsimp only [DeletesSafely] <;> infer_instance

instance (op : Op) (shared : Shared) : Decidable (MovesUnbuilt op shared) := by
  apply @Op.casesOn _ op <;> intros <;> dsimp only [MovesUnbuilt] <;> infer_instance

instance (op : Op) (shared : Shared) : Decidable (ReleasesOwned op shared) := by
  apply @Op.casesOn _ op <;> intros <;> dsimp only [ReleasesOwned] <;> infer_instance

instance (op : Op) (choice : Choice) (shared : Shared) :
    Decidable (ListsPresent op choice shared) := by
  apply @Op.casesOn _ op
  case zfs =>
    intro node command
    apply @Command.casesOn _ command <;> intros <;> dsimp only [ListsPresent] <;> infer_instance
  all_goals intros; dsimp only [ListsPresent]; infer_instance

/-- Before an agent releases a deleted volume it has destroyed the dataset. -/
def ReleaseOk (thread : Tid) (op : Op) (shared : Shared) : Prop :=
  match thread, op with
  | .volume node _, .updateVolume vol => vol.deletionTimestamp = true →
      vol.spec.ownerNodeID = node ∧ Unbuilt shared vol
  | _, _ => True

/-! ## What one step does -/

/-- The call makes the dataset on the node. -/
def MakesOn (op : Op) (node : String) (dataset : Dataset) : Prop :=
  (∃ args, op = .zfs node (.create args dataset)) ∨
    ∃ args source, op = .zfs node (.clone args source dataset)

/-- A dataset is new only by a call that makes it. -/
theorem made_of_effect {thread : Tid} {op : Op} {shared after : Shared}
    (effect : Effect thread shared op after) {node : String} {dataset : Dataset}
    (present : (after.storage node).hasDataset dataset = true) :
    (shared.storage node).hasDataset dataset = true ∨ MakesOn op node dataset := by
  rcases effect.storage node with same | ⟨command, rfl, changed⟩
  · rw [same] at present
    exact .inl present
  · rcases changed.new_dataset present with before | ⟨args, rfl⟩ | ⟨args, source, rfl⟩
    · exact .inl before
    · exact .inr (.inl ⟨args, rfl⟩)
    · exact .inr (.inr ⟨args, source, rfl⟩)

section Steps

variable {shared after : Shared} {caller : Option (Tid × Op)} {node : String}
  {dataset : Dataset}

/-- A step in which nothing is orphaned. -/
structure SafeStep (caller : Option (Tid × Op)) (shared after : Shared) : Prop where
  change : VolumeChange (fun _ _ => True) shared.volumes caller after.volumes
  made : ∀ node dataset, (after.storage node).hasDataset dataset = true →
    (shared.storage node).hasDataset dataset = true ∨
      (Wanted shared node dataset ∧ after.volumes = shared.volumes)
  moves : ∀ thread op, caller = some (thread, op) → MovesUnbuilt op shared
  deletes : ∀ thread op, caller = some (thread, op) → DeletesSafely op shared
  releases : ∀ thread op, caller = some (thread, op) → ReleaseOk thread op shared

theorem not_guarded_of_collectable {vol : ZFSVolume}
    (last : ∀ kept ∈ vol.finalizers, kept = foregroundDeletion) : ¬ Guarded vol := by
  intro guarded
  have equal : ZFSFinalizer = foregroundDeletion := last _ guarded
  exact absurd equal (by decide)

/-- A volume whose finalizers a step has emptied leaves no dataset. -/
theorem NoOrphans.unbuilt_of_removed {thread : Tid} {op : Op} {base new : ZFSVolume} {name : String}
    (inv : NoOrphans shared) (stored : shared.volumes.get name = some base)
    (write : VolumeWrite (fun _ _ => True) shared.volumes thread base new)
    (opEq : op = .updateVolume new) (ok : ReleaseOk thread op shared)
    (deleted : base.deletionTimestamp = true) (bare : new.finalizers = []) :
    Unbuilt shared base := by
  have unguarded (finalizersEq : new.finalizers = base.finalizers) : Unbuilt shared base := by
    rcases inv.guarded name base stored deleted with guarded | unbuilt
    · unfold Guarded at guarded
      rw [← finalizersEq, bare] at guarded
      contradiction
    · exact unbuilt
  subst opEq
  cases write with
  | provision | mark | resize => exact unguarded rfl
  | settle node name base status held live =>
      have notDeleted : true = false := deleted.symm.trans live
      contradiction
  | release node name base held _ => exact (ok deleted).2

/-- A dataset that is there keeps its volume. -/
theorem SafeStep.referenced (safe : SafeStep caller shared after) (inv : NoOrphans shared)
    (present : (shared.storage node).hasDataset dataset = true) :
    Referenced after node dataset := by
  obtain ⟨vol, stored, owner, pool⟩ := inv.referenced node dataset present
  have built : ¬ Unbuilt shared vol := by
    have nameEq : vol.name = dataset.name := Resource.name_of_get stored
    have datasetEq : datasetOf vol = dataset := by
      rw [datasetOf, nameEq, pool]
    intro unbuilt
    rw [Unbuilt, owner, datasetEq, present] at unbuilt
    contradiction
  cases safe.change.fate stored with
  | kept stored => exact ⟨vol, stored, owner, pool⟩
  | written writer new isClient write rewrites found =>
      obtain ⟨thread, op⟩ := writer
      obtain ⟨_, opEq⟩ := write
      have moves := safe.moves thread op isClient
      dsimp only at opEq
      subst opEq
      have named : shared.volumes.get new.name = some vol := by
        rw [rewrites.name, Resource.name_of_get stored]
        exact stored
      rcases moves vol named rewrites.version with ⟨ownerEq, poolEq⟩ | unbuilt
      · exact ⟨_, found, ownerEq.trans owner, poolEq.trans pool⟩
      · exact absurd unbuilt built
  | removed writer new isClient write rewrites deleted bare =>
      obtain ⟨thread, op⟩ := writer
      exact absurd (inv.unbuilt_of_removed stored write.1 write.2
        (safe.releases thread op isClient) deleted bare) built
  | deleted deleter isClient deletes found => exact ⟨_, found, owner, pool⟩
  | collected deleted found => exact ⟨_, found, owner, pool⟩
  | expired isClient deleted last =>
      rcases inv.guarded _ vol stored deleted with guarded | unbuilt
      · exact absurd guarded (not_guarded_of_collectable last)
      · exact absurd unbuilt built

/-- A volume without a dataset does not come by one by naming another place. -/
theorem NoOrphans.unbuilt_of_moved {base new : ZFSVolume} {name : String}
    (inv : NoOrphans shared) (stored : shared.volumes.get name = some base)
    (named : new.name = base.name) (unbuilt : Unbuilt shared base) : Unbuilt shared new := by
  apply Bool.eq_false_iff.mpr
  intro present
  obtain ⟨vol, found, owner, pool⟩ := inv.referenced _ _ present
  obtain rfl : vol = base := by
    have foundBase : shared.volumes.get new.name = some base := by
      rw [named, Resource.name_of_get stored]
      exact stored
    exact Option.some.inj (found.symm.trans foundBase)
  have datasetEq : datasetOf vol = datasetOf new := by
    simp only [datasetOf, named]
    exact congrArg (fun pool => Dataset.mk pool vol.name) pool
  rw [Unbuilt, owner, datasetEq, present] at unbuilt
  contradiction

/-- What a volume on its way out leaves behind after a step. -/
theorem SafeStep.stays_unbuilt (safe : SafeStep caller shared after) {vol : ZFSVolume}
    {name : String} (found : after.volumes.get name = some vol)
    (deleted : vol.deletionTimestamp = true) (before : Guarded vol ∨ Unbuilt shared vol) :
    Guarded vol ∨ Unbuilt after vol := by
  rcases before with guarded | unbuilt
  · exact .inl guarded
  · cases present : (after.storage vol.spec.ownerNodeID).hasDataset (datasetOf vol) with
    | false => exact .inr present
    | true =>
        rcases safe.made _ _ present with before | ⟨⟨other, stored, _, _, guarded⟩, volumesEq⟩
        · rw [unbuilt] at before
          contradiction
        · -- the dataset was made for this very volume
          have nameEq : (datasetOf vol).name = name := Resource.name_of_get found
          rw [nameEq, ← volumesEq] at stored
          obtain rfl := Option.some.inj (found.symm.trans stored)
          exact .inl (guarded deleted)

theorem SafeStep.guarded (safe : SafeStep caller shared after) (inv : NoOrphans shared)
    {name : String} {vol : ZFSVolume} (found : after.volumes.get name = some vol)
    (deleted : vol.deletionTimestamp = true) : Guarded vol ∨ Unbuilt after vol := by
  apply safe.stays_unbuilt found deleted
  cases safe.change.origin found with
  | kept stored => exact inv.guarded name vol stored deleted
  | created creator new isClient fresh absent objectEq =>
      subst objectEq
      contradiction
  | written writer base new isClient write stored rewrites held objectEq =>
      subst objectEq
      have wasDeleted : base.deletionTimestamp = true := by
        rw [← rewrites.deletion]
        exact deleted
      have unbuilt (before : Unbuilt shared base) : Unbuilt shared new :=
        inv.unbuilt_of_moved stored rewrites.name before
      obtain ⟨thread, op⟩ := writer
      obtain ⟨write, _⟩ := write
      dsimp only at write
      cases write with
      | provision | mark | resize =>
          exact (inv.guarded name base stored wasDeleted).imp id unbuilt
      | settle node name base status _ live =>
          have notDeleted : true = false := wasDeleted.symm.trans live
          contradiction
      | release node name base _ _ => exact absurd rfl (held wasDeleted).2
  | deleted deleter old isClient deletes stored live objectEq =>
      subst objectEq
      obtain ⟨thread, op⟩ := deleter
      obtain rfl : op = .deleteVolume name := deletes
      refine (safe.deletes _ _ isClient old stored).imp ?_ id
      exact fun guarded => List.mem_insert_of_mem guarded
  | collected old stored wasDeleted objectEq =>
      subst objectEq
      refine (inv.guarded name old stored wasDeleted).imp ?_ id
      intro guarded
      exact List.mem_filter.mpr ⟨guarded, by decide⟩

theorem NoOrphans.step (inv : NoOrphans shared) (safe : SafeStep caller shared after) :
    NoOrphans after where
  referenced := by
    intro node dataset present
    rcases safe.made node dataset present with before | ⟨wanted, volumesEq⟩
    · exact safe.referenced inv before
    · have kept := wanted.referenced
      rw [Referenced, ← volumesEq] at kept
      exact kept
  guarded := fun _ _ found deleted => safe.guarded inv found deleted

end Steps

/-! ## The contract of the volume agents -/

/-- What the volume agent of a node counts on: nobody else makes a dataset of the name
it syncs. -/
def MakesNone (node name : String) (shared after : Shared) : Prop :=
  ∀ pool, (shared.storage node).hasDataset ⟨pool, name⟩ = false →
    (after.storage node).hasDataset ⟨pool, name⟩ = false

def referencing (compile : Compile) : Contract (cluster compile) where
  Inv := NoOrphans
  Rely := fun thread shared after =>
    match thread with
    | .volume node name => MakesNone node name shared after
    | _ => True
  Guard := fun thread op choice shared => Disciplined (fun _ _ => True) thread op shared ∧
    CreatesWanted op shared ∧ DeletesSafely op shared ∧ MovesUnbuilt op shared ∧
      ReleasesOwned op shared ∧ ListsPresent op choice shared
  Ok := ReleaseOk
  Post := fun _ _ _ => True
  rely_refl := by
    intro thread state
    cases thread with
    | volume node name => exact fun _ absent => absent
    | request | snapshot | backup => trivial
  rely_trans := by
    intro thread first second third one two
    cases thread with
    | volume node name => exact fun pool absent => two pool (one pool absent)
    | request | snapshot | backup => trivial

/-! ## The agent keeps its contract -/

section Agent

variable {compile : Compile} {node name : String} {base : ZFSVolume} {shared : Shared}
  {α : Type}

/-- There is no dataset for the held copy on the node. -/
def NoData (node : String) (base : ZFSVolume) (shared : Shared) : Prop :=
  (shared.storage node).hasDataset (datasetOf base) = false

theorem NoData.rely {after : Shared} (named : base.name = name)
    (rely : MakesNone node name shared after) (absent : NoData node base shared) :
    NoData node base after := by
  subst named
  exact rely _ absent

/-- Destroying a snapshot makes no dataset. -/
theorem referencing_destroyCloneSnapshot (named : base.name = name)
    (absent : NoData node base shared) :
    (referencing compile).Keeps (.volume node name) (destroyCloneSnapshot node base)
      (fun _ now => NoData node base now) shared := by
  have calls : (destroyCloneSnapshot node base).Calls fun op =>
      RunsOn node op ∧ ∀ dataset, ¬ MakesOn op node dataset := by
    apply calls_destroyCloneSnapshot
    · exact fun _ => ⟨⟨_, rfl⟩, by simp [MakesOn]⟩
    · exact fun _ => ⟨⟨_, rfl⟩, by simp [MakesOn]⟩
  apply Contract.keeps_of_stable calls
  · exact fun rely absent => absent.rely named rely
  · rintro op now ⟨⟨command, rfl⟩, _⟩ _ _
    trivial
  · rintro op choice now answer after ⟨_, makesNone⟩ _ _ absent executed
    apply Bool.eq_false_iff.mpr
    intro present
    rcases made_of_effect (exec_effect executed) present with before | makes
    · rw [absent] at before
      contradiction
    · exact makesNone _ makes
  · exact absent

/-- When `DestroyVolume` succeeds the dataset is gone. -/
theorem referencing_destroyVolume (named : base.name = name) :
    (referencing compile).Keeps (.volume node name) (destroyVolume node base)
      (fun result now => result = .ok () → NoData node base now) shared := by
  have failed (err : Err) (now : Shared) : (referencing compile).Keeps (.volume node name)
      (pure (.error err) : Routine (Except Err Unit))
      (fun result now => result = .ok () → NoData node base now) now := by
    intro later _ _ succeeded
    contradiction
  apply keeps_getVolume_bind
  · intro now _ _
    trivial
  · intro err now _ _
    exact failed err now
  · intro now _ _ _
    apply keeps_list_bind
    · intro now _ _
      trivial
    · intro err choice now _ _ guard missing
      obtain ⟨_, _, _, _, _, lists⟩ := guard
      have absent : NoData node base now := by
        apply Bool.eq_false_iff.mpr
        intro present
        exact absurd present (Bool.eq_false_iff.mp (missing (lists present)))
      exact fun later rely _ _ => absent.rely named rely
    · intro now _ _ _
      apply keeps_runCmd_bind
      · intro now _ _
        trivial
      · intro out choice now after _ _ _ _
        exact failed _ after
      · intro out choice now storage _ _ _ ran
        have destroyed := (Storage.run_effect ran).destroyed
        have absent : NoData node base (now.setStorage node storage) := by
          simpa [NoData, Shared.setStorage] using destroyed
        apply (referencing_destroyCloneSnapshot named absent).mono
        exact fun _ _ _ absent _ => absent

theorem referencing_works {program : Routine α} (calls : program.Calls (WorksOn node)) :
    (referencing compile).Keeps (.volume node name) program (fun _ _ => True) shared := by
  apply Contract.keeps_of_stable calls
  · exact fun _ fact => fact
  · rintro op now (⟨command, rfl⟩ | ⟨path, rfl⟩) _ _
    · trivial
    · trivial
  · exact fun _ _ _ fact _ => fact
  · trivial

theorem referencing_syncVolume :
    (referencing compile).Keeps (.volume node name) (Mgmt.syncVolume node name)
      (fun _ _ => True) shared := by
  apply keeps_syncVolume
  · exact fun _ _ => trivial
  · exact fun _ _ _ _ _ => trivial
  · intro base choice now inv guard cached
    obtain ⟨_, _, _, _, owned, _⟩ := guard
    have named := (Resource.held_of_cached cached).nameEq
    apply keeps_syncZV fun _ _ _ _ _ => trivial
    · intro deleted
      have owner := owned base cached deleted
      apply (referencing_destroyVolume named).mono
      intro answer later _ gone succeeded
      apply keeps_call_true
      intro last rely _ _
      refine ⟨owner, ?_⟩
      rw [Unbuilt, owner]
      exact (gone succeeded).rely named rely
    · exact fun _ _ _ => referencing_works (calls_setVolumeProp node base)
    · intro live _
      apply (referencing_works (calls_createZV node base)).mono
      intro answer later _ _
      rw [updateZvolInfo_eq]
      apply keeps_call_true
      intro last _ _ deleted
      have isLive : (settledVolume node base (stateAfter answer)).deletionTimestamp = false := live
      rw [isLive] at deleted
      contradiction

end Agent

/-! ## Runs -/

section Runs

variable {compile : Compile} {start config : Config sig Shared Tid Answer}

/-- The condition under which no dataset is orphaned. -/
def ProvisionsSafely : Action Tid Choice Move Arrival → Config sig Shared Tid Answer → Prop :=
  System.AtCalls fun _ op choice shared => CreatesWanted op shared ∧ DeletesSafely op shared ∧
    MovesUnbuilt op shared ∧ ReleasesOwned op shared ∧ ListsPresent op choice shared

instance (action : Action Tid Choice Move Arrival) (config : Config sig Shared Tid Answer) :
    Decidable (ProvisionsSafely action config) :=
  inferInstanceAs (Decidable (System.AtCalls _ action config))

theorem volumes_of_zfs {thread : Tid} {node : String} {command : Command} {shared after : Shared}
    (effect : Effect thread shared (.zfs node command) after) :
    after.volumes = shared.volumes := by
  cases effect with
  | same => rfl
  | zfs => rfl

/-- The agent of the node alone makes datasets of a name. -/
theorem makesNone_of_call {thread : Tid} {op : Op} {shared after : Shared} {node name : String}
    (disciplined : Disciplined (fun _ _ => True) thread op shared)
    (effect : Effect thread shared op after) (other : thread ≠ .volume node name) :
    MakesNone node name shared after := by
  intro pool absent
  apply Bool.eq_false_iff.mpr
  intro present
  rcases made_of_effect effect present with before | ⟨args, rfl⟩ | ⟨args, source, rfl⟩
  · rw [absent] at before
    contradiction
  · have runs : Runs shared thread node (.create args ⟨pool, name⟩) := disciplined
    generalize datasetEq : Dataset.mk pool name = dataset at runs
    cases runs with
    | create node' name' base args held live missing =>
        obtain rfl : name = base.name := congrArg Dataset.name datasetEq
        exact other (congrArg (Tid.volume node) held.nameEq.symm)
  · have runs : Runs shared thread node (.clone args source ⟨pool, name⟩) := disciplined
    generalize datasetEq : Dataset.mk pool name = dataset at runs
    cases runs with
    | clone node' name' base args source held live missing =>
        obtain rfl : name = base.name := congrArg Dataset.name datasetEq
        exact other (congrArg (Tid.volume node) held.nameEq.symm)

theorem safeStep_of_call {thread : Tid} {op : Op} {choice : Choice} {shared after : Shared}
    (guard : (referencing compile).Guard thread op choice shared)
    (ok : ReleaseOk thread op shared) (effect : Effect thread shared op after) :
    SafeStep (some (thread, op)) shared after := by
  obtain ⟨disciplined, creates, deletes, moves, _, _⟩ := guard
  have atCaller {P : Tid → Op → Prop} (holds : P thread op) (thread' : Tid) (op' : Op)
      (isCaller : some (thread, op) = some (thread', op')) : P thread' op' := by
    cases isCaller
    exact holds
  refine ⟨effect.volumeChange disciplined, ?_, atCaller moves, atCaller deletes, atCaller ok⟩
  intro node dataset present
  rcases made_of_effect effect present with before | ⟨args, rfl⟩ | ⟨args, source, rfl⟩
  · exact .inl before
  · exact .inr ⟨creates, volumes_of_zfs effect⟩
  · exact .inr ⟨creates, volumes_of_zfs effect⟩

/-- A step that is no call of a thread makes and moves nothing. -/
theorem referencing_of_drift {shared after : Shared} (inv : NoOrphans shared)
    (drift : Drift shared after) :
    NoOrphans after ∧ ∀ other, (referencing compile).Rely other shared after := by
  constructor
  · have safe : SafeStep none shared after := by
      have noCaller {P : Tid → Op → Prop} (thread : Tid) (op : Op)
          (isCaller : none = some (thread, op)) : P thread op := by
        contradiction
      refine ⟨drift.volumes _, ?_, noCaller, noCaller, noCaller⟩
      intro node dataset present
      rw [drift.storage] at present
      exact .inl present
    exact inv.step safe
  · intro other
    cases other with
    | request | snapshot | backup => trivial
    | volume node name =>
        intro pool absent
        rw [drift.storage]
        exact absent

theorem referencing_sound : (referencing compile).Sound fun action config =>
    ProvisionsSafely action config ∧
      System.AtCalls (fun thread op _ shared =>
        Disciplined (fun _ _ => True) thread op shared) action config where
  guard := by
    intro config thread choice op next meets atCall
    obtain ⟨creates, deletes, moves, owned, lists⟩ := meets.1 op next atCall
    exact ⟨meets.2 op next atCall, creates, deletes, moves, owned, lists⟩
  call := by
    intro thread op choice before answer after inv ok guard executed
    have effect := exec_effect executed
    constructor
    · exact inv.step (safeStep_of_call guard ok effect)
    · intro other differs
      cases other with
      | volume node name => exact makesNone_of_call guard.1 effect differs.symm
      | request | snapshot | backup => trivial
  env := fun _ inv moved => referencing_of_drift inv (env_effect moved).drift
  arrive := by
    intro config arrival thread program after _ inv arrived _
    have effect := arrive_effect arrived
    obtain ⟨invAfter, rely⟩ := referencing_of_drift inv effect.drift
    refine ⟨invAfter, fun other _ => rely other, ?_⟩
    cases effect with
    | syncVolume node name quiet =>
        apply Contract.Keeps.bind
        apply referencing_syncVolume.mono
        exact fun _ _ _ _ _ _ _ => trivial
    | request | syncSnapshot | syncBackup =>
        exact Contract.keeps_of_no_obligation _ (fun _ _ _ => trivial) _
  leave := by
    intro config thread answer _ inv _ _
    have drift := (leave_effect thread answer config.shared).drift
    obtain ⟨invAfter, rely⟩ := referencing_of_drift inv drift
    exact ⟨invAfter, fun other _ => rely other⟩

/-- Along every run in which volumes are not deleted or moved away from an unguarded
dataset and agents make and release only what is theirs, every dataset belongs to a
volume that names its node and pool. -/
theorem dataset_has_volume (unused : Unused start)
    (reached : (cluster compile).Reaches ProvisionsSafely start config) {node : String}
    {dataset : Dataset} (present : (config.shared.storage node).hasDataset dataset = true) :
    ∃ vol, config.shared.volumes.get dataset.name = some vol ∧ vol.spec.ownerNodeID = node ∧
      vol.spec.poolName = dataset.pool := by
  have initially : NoOrphans start.shared := by
    constructor
    · intro node dataset present
      obtain ⟨entry, mem, _⟩ := Storage.hasDataset_iff.mp present
      rw [unused.datasets node] at mem
      contradiction
    · intro name vol stored
      rw [unused.volumes] at stored
      contradiction
  have disciplined := reaches_disciplined provisionsOnly_true unused.idle reached
  have holds := referencing_sound.reaches initially unused.idle disciplined
  exact holds.1.referenced node dataset present

/-- The informer of a node sees a change of the volume and queues what it asks for. -/
def seeVolume (node : String) : List (Action Tid Choice Move Arrival) :=
  [.env (.deliverVolume node "v"), .env (.handleVolume node)]

/-- The request gives up waiting, deletes the volume and answers, and the volume is
gone. -/
def giveUpSteps : List (Action Tid Choice Move Arrival) :=
  .call (.request 0) { branch := .timeout } :: calls (.request 0) 2 ++
    [.leave (.request 0), .env (.collectVolume "v")]

/-- The first attempt is given up before its agent starts, and a retry is provisioned
on the second node. -/
def retriedRun : List (Action Tid Choice Move Arrival) :=
  provisionSteps 0 ["a", "b"] ++ seeVolume "a" ++ giveUpSteps ++ seeVolume "a" ++ seeVolume "a" ++
    .arrive (.syncVolume "a" "v") :: calls (.volume "a" "v") 1 ++ [.leave (.volume "a" "v")] ++
    provisionSteps 1 ["b", "a"] ++ seeVolume "b" ++ seeVolume "b" ++ seeVolume "b" ++
    seeVolume "b" ++ .arrive (.syncVolume "b" "v") :: calls (.volume "b" "v") 4

theorem dataset_has_volume_retried :
    ∃ config, (cluster noRegexp).Reaches ProvisionsSafely twoNodes config ∧
      (config.shared.storage "b").hasDataset ⟨"p", "v"⟩ = true ∧
      ∃ vol, config.shared.volumes.get "v" = some vol ∧ vol.spec.ownerNodeID = "b" ∧
        vol.spec.poolName = "p" := by
  have ran : ((cluster noRegexp).run ProvisionsSafely retriedRun twoNodes).any (fun config =>
      (config.shared.storage "b").hasDataset ⟨"p", "v"⟩) = true := by
    decide +kernel
  obtain ⟨config, reached, present⟩ := System.exists_reaches_of_run ran
  exact ⟨config, reached, present, dataset_has_volume unused_twoNodes reached present⟩

/-! ## A dataset that is orphaned -/

/-- No request is in flight, no sync is in progress, and the volume agents of the nodes
have seen every change and have nothing queued. -/
structure AtRest (config : Config sig Shared Tid Answer) : Prop where
  idle : ∀ thread, config.threads thread = none
  seen : ∀ node ∈ config.shared.nodes,
    (config.shared.volumes.informers node.name).pending = [] ∧
      (config.shared.volumes.informers node.name).events = []
  queues : ∀ node ∈ config.shared.nodes,
    (config.shared.volumes.informers node.name).queue = []

/-- The request gives up between `zfs create` and the write of the finalizer. The agent
finds no volume to report on, and none to release later. -/
def orphaningRun : List (Action Tid Choice Move Arrival) :=
  provisionSteps 0 ["a", "b"] ++ seeVolume "a" ++ .arrive (.syncVolume "a" "v") ::
    calls (.volume "a" "v") 3 ++ giveUpSteps ++ calls (.volume "a" "v") 1 ++
    [.leave (.volume "a" "v")] ++
    seeVolume "a" ++ seeVolume "a" ++ seeVolume "b" ++ seeVolume "b" ++ seeVolume "b" ++
    .arrive (.syncVolume "a" "v") :: calls (.volume "a" "v") 1 ++ [.leave (.volume "a" "v")]

/-- Two threads take part in the run. -/
theorem thread_of_orphaningRun {arrival : Arrival} {shared after : Shared} {thread : Tid}
    {program : Routine Answer} (mem : .arrive arrival ∈ orphaningRun)
    (arrived : arrive noRegexp arrival shared = some (thread, program, after)) :
    thread = .request 0 ∨ thread = .volume "a" "v" := by
  simp [orphaningRun, provisionSteps, seeVolume, giveUpSteps, calls] at mem
  rcases mem with rfl | rfl
  · cases arrive_effect arrived with
    | request => exact .inl rfl
  · cases arrive_effect arrived with
    | syncVolume => exact .inr rfl

theorem dataset_orphaned :
    ∃ config, (cluster noRegexp).Reaches PlainSystem twoNodes config ∧ AtRest config ∧
      (config.shared.storage "a").hasDataset ⟨"p", "v"⟩ = true ∧
      config.shared.volumes.get "v" = none := by
  have ran : ((cluster noRegexp).run PlainSystem orphaningRun twoNodes).any (fun config =>
      (config.threads (.request 0)).isNone && (config.threads (.volume "a" "v")).isNone &&
        (config.shared.nodes.all fun node =>
          (config.shared.volumes.informers node.name).pending.isEmpty &&
            (config.shared.volumes.informers node.name).events.isEmpty &&
            (config.shared.volumes.informers node.name).queue.isEmpty) &&
        (config.shared.storage "a").hasDataset ⟨"p", "v"⟩ &&
        (config.shared.volumes.get "v").isNone) = true := by
    decide +kernel
  obtain ⟨config, reached, checked⟩ := (Option.any_eq_true _ _).mp ran
  have byActions := System.reaches_of_run reached
  simp only [Bool.and_eq_true, Option.isNone_iff_eq_none, List.all_eq_true,
    List.isEmpty_iff] at checked
  obtain ⟨⟨⟨⟨request, agent⟩, agents⟩, present⟩, gone⟩ := checked
  refine ⟨config, byActions.mono fun step => step.1, ⟨?_, ?_, ?_⟩, present, gone⟩
  · intro thread
    by_cases isRequest : thread = .request 0
    · rw [isRequest]
      exact request
    · by_cases isAgent : thread = .volume "a" "v"
      · rw [isAgent]
        exact agent
      · apply byActions.idle_of_never (unused_twoNodes.idle thread)
        intro config arrival program after meets arrived
        rcases thread_of_orphaningRun meets.2 arrived with same | same
        · exact isRequest same
        · exact isAgent same
  · exact fun node mem => (agents node mem).1
  · exact fun node mem => (agents node mem).2

end Runs

end ZfsLocalPv.Properties

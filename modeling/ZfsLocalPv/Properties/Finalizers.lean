import ZfsLocalPv.Cluster.Commands
import ZfsLocalPv.Mgmt.Agents

/-!
# Foreign finalizers

A finalizer of somebody else asks the agents to wait. The agents of volumes and snapshots look
for one before they destroy anything or give up their own; the agent of backups does not look.
What the three have in common is shown once: a sync that has changed anything has destroyed the
object or dropped finalizers.
-/

namespace ZfsLocalPv.Properties

open Api ApiServer Cluster Interaction Mgmt Zfs

variable {thread : Tid} {node : String} {shared middle final : Shared} {choices : List Choice}
  {result : Except Err Unit}

/-- An object that an agent looks after. -/
inductive Managed
  | volume (zv : ZFSVolume)
  | snapshot (snap : ZFSSnapshot)
  | backup (bkp : ZFSBackup)

section

variable {Spec Status : Type}

/-- A copy is what the store holds as long as the versions agree. -/
def CopyOf (resource : Resource Spec Status) (copy : Object Spec Status) : Prop :=
  ∀ old, resource.get copy.name = some old → old.resourceVersion = copy.resourceVersion →
    old = copy

/-- An object was written with fewer finalizers, or went with its last one. -/
def FewerFinalizers (before after : Resource Spec Status) (name : String) : Prop :=
  ∃ old, before.get name = some old ∧
    ∀ new, after.get name = some new → new.finalizers.length < old.finalizers.length

theorem update_without_finalizers [DecidableEq Spec] [DecidableEq Status]
    {resource next : Resource Spec Status} {copy : Object Spec Status}
    (agrees : CopyOf resource copy) (deleted : copy.deletionTimestamp = true)
    (updated : resource.update { copy with finalizers := [] } = .ok next) :
    next = resource ∨ FewerFinalizers resource next copy.name := by
  obtain ⟨old, stored, versionEq, ⟨same, _⟩ | ⟨rfl, _⟩ | ⟨_, kept⟩⟩ :=
    Resource.update_eq_ok updated
  · exact .inl same
  · refine .inr ⟨old, stored, fun new found => ?_⟩
    have gone := Resource.get_commit_remove resource (merged old { copy with finalizers := [] })
    cases gone.symm.trans found
  · obtain rfl := agrees old stored versionEq
    exact absurd rfl (kept deleted).2

end

namespace Managed

def finalizers : Managed → List String
  | volume zv => zv.finalizers
  | snapshot snap => snap.finalizers
  | backup bkp => bkp.finalizers

def deletionTimestamp : Managed → Bool
  | volume zv => zv.deletionTimestamp
  | snapshot snap => snap.deletionTimestamp
  | backup bkp => bkp.deletionTimestamp

/-- The sync of its agent. -/
def sync (node : String) : Managed → Routine (Except Err Unit)
  | volume zv => syncZV node zv
  | snapshot snap => syncSnap node snap
  | backup bkp => syncBkp node bkp

/-- The agent works on a copy of the stored object. -/
def IsCopy (shared : Shared) : Managed → Prop
  | volume zv => CopyOf shared.volumes zv
  | snapshot snap => CopyOf shared.snapshots snap
  | backup bkp => CopyOf shared.backups bkp

/-- What the object stands for was there and is no longer. -/
def Destroyed (node : String) (shared final : Shared) : Managed → Prop
  | volume zv => (shared.storage node).hasDataset (datasetOf zv) = true ∧
      (final.storage node).hasDataset (datasetOf zv) = false
  | snapshot snap => (shared.storage node).hasSnapshot (snapDataset snap) = true ∧
      (final.storage node).hasSnapshot (snapDataset snap) = false
  | backup bkp => ∃ vol, shared.volumes.get bkp.spec.volumeName = some vol ∧
      (shared.storage node).hasSnapshot (snapDataset (backupSnapshot bkp vol)) = true ∧
      (final.storage node).hasSnapshot (snapDataset (backupSnapshot bkp vol)) = false

/-- The resource was written with fewer finalizers. -/
def Released (shared final : Shared) : Managed → Prop
  | volume zv => FewerFinalizers shared.volumes final.volumes zv.name
  | snapshot snap => FewerFinalizers shared.snapshots final.snapshots snap.name
  | backup bkp => FewerFinalizers shared.backups final.backups bkp.name

/-- What was destroyed or released had no foreign finalizer, and nothing else was changed. -/
def Respected (node : String) (shared final : Shared) (object : Managed) : Prop :=
  (object.Destroyed node shared final ∨ object.Released shared final →
    ∀ fin ∈ object.finalizers, fin = ZFSFinalizer ∨ fin = foregroundDeletion) ∧
  (¬ (object.Destroyed node shared final ∨ object.Released shared final) → final = shared)

/-- No sync of the object acts over a foreign finalizer. -/
def NeverOverForeign (node : String) (object : Managed) : Prop :=
  ∀ (thread : Tid) (choices : List Choice) (shared final : Shared) (result : Except Err Unit),
    object.IsCopy shared →
    Prog.eval (exec thread) choices (object.sync node) shared = some (result, final) →
    object.Respected node shared final

end Managed

/-! ## The commands -/

/-- `DestroySnapshot` destroys the snapshot or does nothing. -/
theorem destroySnapshot_changes {snap : ZFSSnapshot}
    (ran : Prog.eval (exec thread) choices (Zfs.destroySnapshot node snap) shared =
      some (result, final)) :
    final = shared ∨ ∃ storage, final = shared.setStorage node storage ∧
      storage.datasets = (shared.storage node).datasets ∧
      (shared.storage node).hasSnapshot (snapDataset snap) = true ∧
      storage.hasSnapshot (snapDataset snap) = false := by
  obtain ⟨listPool, rest, rfl, ⟨_, asked⟩ | ⟨_, ended⟩⟩ := eval_getVolume_bind_iff.mp ran
  · obtain ⟨list, rest, rfl, ⟨listed, destroyed⟩ | ⟨_, ended⟩⟩ :=
      eval_getVolume_bind_iff.mp asked
    · obtain ⟨destroy, _, isFinal, _⟩ :=
        eval_last_runCmd (fun _ => rfl) (fun _ => rfl) destroyed
      generalize afterEq : (zfsAnswer destroy (shared.storage node)
        (.destroySnapshot (snapDataset snap))).2 = after at isFinal
      have effect := zfsAnswer_effect destroy (shared.storage node)
        (.destroySnapshot (snapDataset snap))
      rw [afterEq] at effect
      cases effect with
      | none =>
          rw [Shared.setStorage_self] at isFinal
          exact .inl isFinal
      | ran effect =>
          cases effect with
          | destroySnapshot =>
              exact .inr ⟨_, isFinal, rfl, listed.2, Storage.hasSnapshot_withoutSnapshot ..⟩
    · exact .inl (Prog.eval_ret_iff.mp ended).2.2
  · exact .inl (Prog.eval_ret_iff.mp ended).2.2

theorem destroyCloneSnapshot_keeps {vol : ZFSVolume} (dataset : Dataset)
    (ran : Prog.eval (exec thread) choices (destroyCloneSnapshot node vol) shared =
      some (result, final)) :
    ∃ storage, final = shared.setStorage node storage ∧
      storage.hasDataset dataset = (shared.storage node).hasDataset dataset := by
  have same : shared = shared.setStorage node (shared.storage node) :=
    (Shared.setStorage_self _ _).symm
  unfold destroyCloneSnapshot at ran
  split at ran
  · obtain ⟨_, _, rfl⟩ := Prog.eval_ret_iff.mp ran
    exact ⟨_, same, rfl⟩
  · obtain ⟨first, second, value, middle, rfl, destroyed, ended⟩ := Prog.eval_bind_iff.mp ran
    obtain ⟨_, _, rfl⟩ := Prog.eval_ret_iff.mp ended
    rcases destroySnapshot_changes destroyed with rfl | ⟨storage, rfl, datasets, _⟩
    · exact ⟨_, same, rfl⟩
    · exact ⟨storage, rfl, by rw [Storage.hasDataset, datasets, Storage.hasDataset]⟩

/-- `DestroyVolume` destroys the volume or does nothing. -/
theorem destroyVolume_changes {vol : ZFSVolume}
    (ran : Prog.eval (exec thread) choices (destroyVolume node vol) shared =
      some (result, final)) :
    final = shared ∨ ∃ storage, final = shared.setStorage node storage ∧
      (shared.storage node).hasDataset (datasetOf vol) = true ∧
      storage.hasDataset (datasetOf vol) = false := by
  obtain ⟨listPool, rest, rfl, ⟨_, asked⟩ | ⟨_, ended⟩⟩ := eval_getVolume_bind_iff.mp ran
  · obtain ⟨list, rest, rfl, ⟨listed, destroyed⟩ | ⟨_, ended⟩⟩ :=
      eval_getVolume_bind_iff.mp asked
    · obtain ⟨destroy, rest, rfl, ended⟩ := eval_runCmd_bind_iff.mp destroyed
      cases answered : (zfsAnswer destroy (shared.storage node) (.destroy (datasetOf vol))).1 with
      | ok out =>
          rw [answered] at ended
          have gone := (Storage.run_effect (zfsAnswer_ok answered)).destroyed
          obtain ⟨storage, rfl, kept⟩ := destroyCloneSnapshot_keeps (datasetOf vol) ended
          rw [Shared.storage_setStorage] at kept
          exact .inr ⟨storage, Shared.setStorage_setStorage .., listed.2, kept.trans gone⟩
      | error out =>
          rw [answered] at ended
          have isFinal := (Prog.eval_ret_iff.mp ended).2.2
          generalize afterEq : (zfsAnswer destroy (shared.storage node)
            (.destroy (datasetOf vol))).2 = after at isFinal
          have effect := zfsAnswer_effect destroy (shared.storage node) (.destroy (datasetOf vol))
          rw [afterEq] at effect
          cases effect with
          | none =>
              rw [Shared.setStorage_self] at isFinal
              exact .inl isFinal
          | ran effect => exact .inr ⟨_, isFinal, listed.2, effect.destroyed⟩
    · exact .inl (Prog.eval_ret_iff.mp ended).2.2
  · exact .inl (Prog.eval_ret_iff.mp ended).2.2

/-- `DestoryBackup` destroys the snapshot of the backup or does nothing. -/
theorem destoryBackup_changes {bkp : ZFSBackup}
    (ran : Prog.eval (exec thread) choices (destoryBackup node bkp) shared =
      some (result, final)) :
    final = shared ∨ ∃ storage, final = shared.setStorage node storage ∧
      ∃ vol, shared.volumes.get bkp.spec.volumeName = some vol ∧
        (shared.storage node).hasSnapshot (snapDataset (backupSnapshot bkp vol)) = true ∧
        storage.hasSnapshot (snapDataset (backupSnapshot bkp vol)) = false := by
  obtain ⟨first, second, value, middle, rfl, read, ended⟩ := Prog.eval_bind_iff.mp ran
  have isVolume : middle = shared ∧
      ∀ vol, value = .ok vol → shared.volumes.get bkp.spec.volumeName = some vol := by
    unfold getZFSVolume getNamed at read
    split at read
    · obtain ⟨_, rfl, rfl⟩ := Prog.eval_ret_iff.mp read
      simp
    · obtain ⟨choice, rest, answer, after, _, executed, returned⟩ := Prog.eval_call_iff.mp read
      obtain ⟨_, rfl, rfl⟩ := Prog.eval_ret_iff.mp returned
      obtain ⟨answered, sameState⟩ := Prod.mk.inj (Option.some.inj executed)
      refine ⟨sameState.symm, fun vol isOk => readAnswer_ok (answered.trans isOk)⟩
  obtain ⟨rfl, isVolume⟩ := isVolume
  cases value with
  | error err =>
      dsimp only at ended
      split at ended
      · exact .inl (Prog.eval_ret_iff.mp ended).2.2
      · exact .inl (Prog.eval_ret_iff.mp ended).2.2
  | ok vol =>
      exact (destroySnapshot_changes ended).imp id fun ⟨storage, isFinal, _, had, gone⟩ =>
        ⟨storage, isFinal, vol, isVolume vol rfl, had, gone⟩

/-! ## The syncs -/

theorem effect_of_eval {op : Op} {answer : op.Res}
    (ran : Prog.eval (exec thread) choices (call op) shared = some (answer, final)) :
    Cluster.Effect thread shared op final := by
  obtain ⟨choice, rest, answer, after, _, executed, returned⟩ := Prog.eval_call_iff.mp ran
  obtain ⟨_, _, rfl⟩ := Prog.eval_ret_iff.mp returned
  exact exec_effect executed

/-- A sync that destroys and then releases has done nothing, or one of the two. -/
theorem changes_of_sync {destroy release : Routine (Except Err Unit)}
    {next : Except Err Unit → Routine (Except Err Unit)} {object : Managed}
    (ran : Prog.eval (exec thread) choices (destroy >>= next) shared = some (result, final))
    (fails : ∀ err, next (.error err) = pure (.error err)) (succeeds : next (.ok ()) = release)
    (destroys : ∀ {choices result final},
      Prog.eval (exec thread) choices destroy shared = some (result, final) →
      final = shared ∨ object.Destroyed node shared final)
    (keeps : ∀ {choices result middle final}, object.Destroyed node shared middle →
      Prog.eval (exec thread) choices release middle = some (result, final) →
      object.Destroyed node shared final)
    (releases : ∀ {choices result final},
      Prog.eval (exec thread) choices release shared = some (result, final) →
      final = shared ∨ object.Released shared final) :
    final = shared ∨ object.Destroyed node shared final ∨ object.Released shared final := by
  obtain ⟨first, second, value, middle, rfl, destroyed, ended⟩ := Prog.eval_bind_iff.mp ran
  have changed := destroys destroyed
  cases value with
  | error err =>
      rw [fails] at ended
      obtain ⟨_, _, rfl⟩ := Prog.eval_ret_iff.mp ended
      exact changed.imp id .inl
  | ok done =>
      rw [succeeds] at ended
      rcases changed with rfl | gone
      · exact (releases ended).imp id .inr
      · exact .inr (.inl (keeps gone ended))

namespace Managed

/-- What the syncs of deleted objects do once they have begun. -/
theorem changes_volume {zv : ZFSVolume} (copy : CopyOf shared.volumes zv)
    (deleted : zv.deletionTimestamp = true) (own : getUserFinalizers zv.finalizers = [])
    (ran : Prog.eval (exec thread) choices (syncZV node zv) shared = some (result, final)) :
    final = shared ∨ (volume zv).Destroyed node shared final ∨
      (volume zv).Released shared final := by
  rw [syncZV, if_pos deleted, syncDeletedZV, if_pos own] at ran
  refine changes_of_sync ran (fun _ => rfl) rfl (fun destroyed => ?_)
    (fun gone released => ?_) (fun released => ?_)
  · refine (destroyVolume_changes destroyed).imp id ?_
    rintro ⟨storage, rfl, had, gone⟩
    exact ⟨had, by rwa [Shared.storage_setStorage]⟩
  · cases effect_of_eval released with
    | same => exact gone
    | updateVolume _ accepted => exact gone
  · cases effect_of_eval released with
    | same => exact .inl rfl
    | updateVolume _ accepted =>
        exact (update_without_finalizers copy deleted accepted).imp
          (fun same => by rw [same]; rfl) id

theorem changes_snapshot {snap : ZFSSnapshot} (copy : CopyOf shared.snapshots snap)
    (deleted : snap.deletionTimestamp = true) (own : getUserFinalizers snap.finalizers = [])
    (ran : Prog.eval (exec thread) choices (syncSnap node snap) shared = some (result, final)) :
    final = shared ∨ (snapshot snap).Destroyed node shared final ∨
      (snapshot snap).Released shared final := by
  rw [syncSnap, if_pos deleted, syncDeletedSnap, if_pos own] at ran
  refine changes_of_sync ran (fun _ => rfl) rfl (fun destroyed => ?_)
    (fun gone released => ?_) (fun released => ?_)
  · refine (destroySnapshot_changes destroyed).imp id ?_
    rintro ⟨storage, rfl, _, had, gone⟩
    exact ⟨had, by rwa [Shared.storage_setStorage]⟩
  · cases effect_of_eval released with
    | same => exact gone
    | updateSnapshot _ accepted => exact gone
  · cases effect_of_eval released with
    | same => exact .inl rfl
    | updateSnapshot _ accepted =>
        exact (update_without_finalizers copy deleted accepted).imp
          (fun same => by rw [same]; rfl) id

theorem changes_backup {bkp : ZFSBackup} (copy : CopyOf shared.backups bkp)
    (deleted : bkp.deletionTimestamp = true)
    (ran : Prog.eval (exec thread) choices (syncBkp node bkp) shared = some (result, final)) :
    final = shared ∨ (backup bkp).Destroyed node shared final ∨
      (backup bkp).Released shared final := by
  rw [syncBkp, if_pos deleted] at ran
  refine changes_of_sync ran (fun _ => rfl) rfl (fun destroyed => ?_)
    (fun gone released => ?_) (fun released => ?_)
  · refine (destoryBackup_changes destroyed).imp id ?_
    rintro ⟨storage, rfl, vol, found, had, gone⟩
    exact ⟨vol, found, had, by rwa [Shared.storage_setStorage]⟩
  · cases effect_of_eval released with
    | same => exact gone
    | updateBackup _ accepted => exact gone
  · cases effect_of_eval released with
    | same => exact .inl rfl
    | updateBackup _ accepted =>
        exact (update_without_finalizers copy deleted accepted).imp
          (fun same => by rw [same]; rfl) id

theorem respected_of_changes {object : Managed}
    (own : ∀ fin ∈ object.finalizers, fin = ZFSFinalizer ∨ fin = foregroundDeletion)
    (changes : final = shared ∨ object.Destroyed node shared final ∨
      object.Released shared final) : object.Respected node shared final :=
  ⟨fun _ => own, fun neither => changes.resolve_right neither⟩

/-- A sync that changes nothing has destroyed and released nothing. -/
theorem respected_refl (object : Managed) : object.Respected node shared shared := by
  have kept {Spec Status : Type} {resource : Resource Spec Status} {name : String} :
      ¬ FewerFinalizers resource resource name := by
    rintro ⟨old, found, fewer⟩
    exact Nat.lt_irrefl _ (fewer old found)
  refine ⟨fun changed => absurd changed ?_, fun _ => rfl⟩
  rintro (destroyed | released)
  · cases object with
    | volume zv => exact Bool.eq_false_iff.mp destroyed.2 destroyed.1
    | snapshot snap => exact Bool.eq_false_iff.mp destroyed.2 destroyed.1
    | backup bkp =>
        obtain ⟨vol, _, had, gone⟩ := destroyed
        exact Bool.eq_false_iff.mp gone had
  · cases object with
    | volume zv => exact kept released
    | snapshot snap => exact kept released
    | backup bkp => exact kept released

end Managed

theorem getUserFinalizers_eq_nil_iff {finalizers : List String} :
    getUserFinalizers finalizers = [] ↔
      ∀ fin ∈ finalizers, fin = ZFSFinalizer ∨ fin = foregroundDeletion := by
  simp only [getUserFinalizers, List.filter_eq_nil_iff, decide_eq_true_eq, not_and_or, not_not]

/-! ## A backup with a foreign finalizer -/

theorem eval_destroySnapshot {snap : ZFSSnapshot}
    (pool : (shared.storage node).hasPath snap.spec.poolName = true)
    (present : (shared.storage node).hasSnapshot (snapDataset snap) = true)
    (unused : ¬ (shared.storage node).HasClone (snapDataset snap)) :
    Prog.eval (exec thread) [{}, {}, {}] (Zfs.destroySnapshot node snap) shared =
      some (.ok (), shared.setStorage node
        ((shared.storage node).withoutSnapshot (snapDataset snap))) := by
  have accepted : zfsAnswer {} (shared.storage node) (.destroySnapshot (snapDataset snap)) =
      (.ok "", (shared.storage node).withoutSnapshot (snapDataset snap)) := by
    rw [zfsAnswer, Storage.run_destroySnapshot present unused]
  rw [Zfs.destroySnapshot, eval_getVolume_bind, if_pos ⟨rfl, pool⟩, eval_getVolume_bind,
    if_pos ⟨rfl, present⟩, eval_runCmd_bind, accepted]
  rfl

/-- A volume with a snapshot for a backup. -/
def backedUp (name : String) : ZFSVolume where
  name := name
  spec := { poolName := "p" }
  status := .ready

/-- A cluster in which a backup has its volume and its snapshot. -/
def withBackup (bkp : ZFSBackup) : Shared where
  volumes := Resource.empty.commit (.put (backedUp bkp.spec.volumeName))
  storage := fun _ => {
    parents := ["p"]
    snapshots := [snapDataset (backupSnapshot bkp (backedUp bkp.spec.volumeName))] }

theorem isCopy_withBackup (bkp : ZFSBackup) : (Managed.backup bkp).IsCopy (withBackup bkp) := by
  intro old found
  cases found

/-- The agent destroys the snapshot of a backup, whatever finalizers the backup has. -/
theorem exists_destroyed_backup (node : String) {bkp : ZFSBackup}
    (deleted : bkp.deletionTimestamp = true) (named : bkp.spec.volumeName ≠ "") :
    ∃ choices result final,
      Prog.eval (exec (.backup node bkp.name)) choices (syncBkp node bkp) (withBackup bkp) =
        some (result, final) ∧ (Managed.backup bkp).Destroyed node (withBackup bkp) final := by
  have found : (withBackup bkp).volumes.get bkp.spec.volumeName =
      some { backedUp bkp.spec.volumeName with resourceVersion := 1 } :=
    Resource.get_commit_put Resource.empty (backedUp bkp.spec.volumeName)
  let snapshot := snapDataset (backupSnapshot bkp (backedUp bkp.spec.volumeName))
  have present : ((withBackup bkp).storage node).hasSnapshot snapshot = true := by
    simp [withBackup, Storage.hasSnapshot, snapshot]
  have destroyed : Prog.eval (exec (.backup node bkp.name)) [{}, {}, {}, {}]
      (destoryBackup node bkp) (withBackup bkp) = some (.ok (), (withBackup bkp).setStorage node
        (((withBackup bkp).storage node).withoutSnapshot snapshot)) := by
    rw [destoryBackup, getZFSVolume, getNamed, if_neg named]
    change Option.bind (some (readAnswer {} ((withBackup bkp).volumes.get _), withBackup bkp)) _ = _
    rw [found]
    have unused : ¬ ((withBackup bkp).storage node).HasClone snapshot := by
      simp [withBackup, Storage.HasClone]
    have pool : ((withBackup bkp).storage node).hasPath "p" = true := rfl
    exact eval_destroySnapshot pool present unused
  obtain ⟨answer, final, released⟩ : ∃ answer final,
      Prog.eval (exec (.backup node bkp.name)) [{}] (removeBkpFinalizer bkp)
        ((withBackup bkp).setStorage node
          (((withBackup bkp).storage node).withoutSnapshot snapshot)) = some (answer, final) :=
    ⟨_, _, rfl⟩
  refine ⟨([{}, {}, {}, {}] : List Choice) ++ ([{}] : List Choice), answer, final, ?_, _, found,
    present, ?_⟩
  · rw [syncBkp, if_pos deleted]
    exact Prog.eval_bind_iff.mpr ⟨_, _, .ok (), _, rfl, destroyed, released⟩
  · have kept : final.storage node = ((withBackup bkp).storage node).withoutSnapshot snapshot := by
      cases effect_of_eval released with
      | same => exact Shared.storage_setStorage ..
      | updateBackup => exact Shared.storage_setStorage ..
    rw [kept]
    exact Storage.hasSnapshot_withoutSnapshot ..

namespace Managed

/-- The agents respect the finalizers of others on every deleted object exactly if no
backup that names a volume has any. -/
theorem never_over_foreign_iff {object : Managed} (deleted : object.deletionTimestamp = true) :
    NeverOverForeign node object ↔
      ∀ bkp, object = .backup bkp → bkp.spec.volumeName ≠ "" →
        ∀ fin ∈ bkp.finalizers, fin = ZFSFinalizer ∨ fin = foregroundDeletion := by
  constructor
  · rintro never bkp rfl named
    obtain ⟨choices, result, final, ran, destroyed⟩ :=
      exists_destroyed_backup node deleted named
    exact (never _ _ _ _ _ (isCopy_withBackup bkp) ran).1 (.inl destroyed)
  · intro guarded thread choices shared final result copy ran
    cases object with
    | volume zv =>
        change zv.deletionTimestamp = true at deleted
        by_cases own : getUserFinalizers zv.finalizers = []
        · exact respected_of_changes (getUserFinalizers_eq_nil_iff.mp own)
            (changes_volume copy deleted own ran)
        · rw [sync, syncZV, if_pos deleted, syncDeletedZV, if_neg own] at ran
          obtain ⟨_, _, rfl⟩ := Prog.eval_ret_iff.mp ran
          exact respected_refl _
    | snapshot snap =>
        change snap.deletionTimestamp = true at deleted
        by_cases own : getUserFinalizers snap.finalizers = []
        · exact respected_of_changes (getUserFinalizers_eq_nil_iff.mp own)
            (changes_snapshot copy deleted own ran)
        · rw [sync, syncSnap, if_pos deleted, syncDeletedSnap, if_neg own] at ran
          obtain ⟨_, _, rfl⟩ := Prog.eval_ret_iff.mp ran
          exact respected_refl _
    | backup bkp =>
        change bkp.deletionTimestamp = true at deleted
        by_cases named : bkp.spec.volumeName = ""
        · -- the client refuses the empty name
          rw [sync, syncBkp, if_pos deleted, destoryBackup, named] at ran
          obtain ⟨_, _, rfl⟩ := Prog.eval_ret_iff.mp ran
          exact respected_refl _
        · exact respected_of_changes (guarded bkp rfl named) (changes_backup copy deleted ran)

theorem never_over_foreign_iff_held :
    let zv : ZFSVolume :=
      { name := "v", finalizers := [ZFSFinalizer, "hold"], deletionTimestamp := true, spec := {},
        status := .ready }
    (volume zv).deletionTimestamp = true ∧ NeverOverForeign "n" (volume zv) :=
  ⟨rfl, (never_over_foreign_iff rfl).mpr fun _ isBackup => nomatch isBackup⟩

/-- A deleted backup that somebody holds: its snapshot is destroyed. -/
theorem backup_destroyed_over_foreign :
    let bkp : ZFSBackup :=
      { name := "b", finalizers := [ZFSFinalizer, "hold"], deletionTimestamp := true,
        spec := { volumeName := "v", snapName := "s", ownerNodeID := "n" }, status := .done }
    "hold" ≠ ZFSFinalizer ∧ "hold" ≠ foregroundDeletion ∧ (backup bkp).IsCopy (withBackup bkp) ∧
      ∃ choices result final,
        Prog.eval (exec (.backup "n" "b")) choices ((backup bkp).sync "n") (withBackup bkp) =
          some (result, final) ∧ (backup bkp).Destroyed "n" (withBackup bkp) final := by
  intro bkp
  have named : bkp.spec.volumeName ≠ "" := by decide
  exact ⟨by decide, by decide, isCopy_withBackup bkp, exists_destroyed_backup "n" rfl named⟩

end Managed

end ZfsLocalPv.Properties

import ZfsLocalPv.ApiServer.Lineage
import ZfsLocalPv.Properties.BackupGc

/-!
# The backup garbage collector and broken chains

An incremental backup whose parent is gone should go as well, and with it all that builds on it.
The collector looks after a backup twice: when the backup comes or is linked to another parent,
and when a parent goes. Neither look is repeated, so every one of them has to find what it is
for.

The invariant says that a cached backup without a cached parent is attended to: it is on its way
out, or a notification or a goroutine is left that will delete it. A backup loses its parent in
the cache in the same step that puts such a notification on its way.
-/

namespace ZfsLocalPv.Properties

open Api ApiServer Driver Interaction

variable {backups next : Backups} {backup : ZFSBackup}

/-! ## Keys -/

/-- The key of a backup in `BackupSnapshotIndex`. -/
def ownKey (backup : ZFSBackup) : String :=
  getBackupKeyBySpec backup.spec.volumeName backup.spec.ownerNodeID backup.spec.snapName

/-- The key of the backup it builds on. -/
def parentKey (backup : ZFSBackup) : String :=
  getBackupKeyBySpec backup.spec.volumeName backup.spec.ownerNodeID backup.spec.prevSnapName

@[simp]
theorem mem_backupSnapshotIndexFunc {key : String} :
    key ∈ backupSnapshotIndexFunc backup ↔ key = ownKey backup :=
  List.mem_singleton

@[simp]
theorem mem_backupPreviousSnapshotIndexFunc {key : String} :
    key ∈ backupPreviousSnapshotIndexFunc backup ↔
      backup.spec.prevSnapName ≠ "" ∧ key = parentKey backup := by
  unfold backupPreviousSnapshotIndexFunc
  split
  · simp_all
  · simp_all [parentKey, getBackupKeyBySpec]

/-- A later state of a backup has the same snapshot, and its deletion is not undone. -/
structure Succeeds (old new : ZFSBackup) : Prop where
  volume : new.spec.volumeName = old.spec.volumeName
  node : new.spec.ownerNodeID = old.spec.ownerNodeID
  snap : new.spec.snapName = old.spec.snapName
  deleted : old.deletionTimestamp = true → new.deletionTimestamp = true

theorem Succeeds.ownKey_eq {old new : ZFSBackup} (succeeds : Succeeds old new) :
    ownKey new = ownKey old := by
  unfold ownKey
  rw [succeeds.volume, succeeds.node, succeeds.snap]

theorem Succeeds.parentKey_eq {old new : ZFSBackup} (succeeds : Succeeds old new)
    (prev : new.spec.prevSnapName = old.spec.prevSnapName) : parentKey new = parentKey old := by
  unfold parentKey
  rw [succeeds.volume, succeeds.node, prev]

/-! ## The cache -/

/-- What the collector sees under a name. -/
def cachedAs (backups : Backups) : View ZFSBackupSpec ZFSBackupStatus :=
  (backups.informers gcClient).cache

theorem name_of_cachedAs {name : String} (cached : cachedAs backups name = some backup) :
    backup.name = name :=
  (backups.tracked gcClient).named name backup cached

theorem mem_cachedBackups : backup ∈ cachedBackups backups ↔
    cachedAs backups backup.name = some backup := by
  unfold cachedBackups
  rw [List.mem_dedup, List.mem_filter, decide_eq_true_iff]
  constructor
  · exact fun both => both.2
  · exact fun cached => ⟨(backups.tracked gcClient).cachedSeen _ _ cached, cached⟩

/-- An incremental backup that has no parent in the cache. -/
structure Orphaned (backups : Backups) (backup : ZFSBackup) : Prop where
  incremental : backup.spec.prevSnapName ≠ ""
  parentless : ∀ parent ∈ cachedBackups backups, ownKey parent ≠ parentKey backup

/-! ## Backups on their way out -/

/-- The name is deleted in the store, or its removal has yet to be seen. -/
inductive Leaving (backups : Backups) (name : String) : Prop
  | removal (gone : ZFSBackup) (mem : .remove gone ∈ (backups.informers gcClient).pending)
      (nameEq : gone.name = name)
  | deletion (stored : ZFSBackup) (found : backups.get name = some stored)
      (deleted : stored.deletionTimestamp = true)

/-- The store is left as it is, or a change continues it. -/
inductive Writes (backups : Backups) : Backups → Prop
  | same : Writes backups backups
  | commit (change : Watch ZFSBackupSpec ZFSBackupStatus)
      (continues : (change.stamp (backups.revision + 1)).Continues Succeeds backups.get) :
      Writes backups (backups.commit change)

theorem Writes.informer (writes : Writes backups next) :
    cachedAs next = cachedAs backups ∧
      (next.informers gcClient).events = (backups.informers gcClient).events := by
  cases writes with
  | same => exact ⟨rfl, rfl⟩
  | commit change continues => exact ⟨rfl, rfl⟩

theorem Writes.lineage (writes : Writes backups next)
    (lineage : backups.Lineage Succeeds gcClient) : next.Lineage Succeeds gcClient := by
  cases writes with
  | same => exact lineage
  | commit change continues => exact lineage.commit continues

/-- A deleted name stays deleted until its removal is on its way. -/
theorem Writes.leaving {name : String} (writes : Writes backups next)
    (leaving : Leaving backups name) : Leaving next name := by
  cases writes with
  | same => exact leaving
  | commit change continues =>
      rcases leaving with ⟨gone, mem, nameEq⟩ | ⟨stored, found, deleted⟩
      · exact .removal gone (List.mem_append_left _ mem) nameEq
      · by_cases same : change.name = name
        · subst same
          have succeeds := continues stored (by rwa [Watch.name_stamp])
          cases change with
          | put fresh =>
              exact .deletion _ (Resource.get_commit_put backups fresh) (succeeds.deleted deleted)
          | remove gone =>
              exact .removal gone (List.mem_append_right _ (List.mem_singleton_self _)) rfl
        · rw [← Resource.get_commit_of_ne (Ne.symm same)] at found
          exact .deletion stored found deleted

theorem writes_of_create (created : backups.create backup = .ok next) : Writes backups next := by
  obtain ⟨absent, rfl⟩ := Resource.create_eq_ok created
  apply Writes.commit
  intro old found
  rw [Watch.name_stamp] at found
  exact absurd (found.symm.trans absent) (by simp)

theorem writes_of_delete {name : String} (deleted : backups.delete name = .ok next) :
    Writes backups next := by
  obtain ⟨old, stored, outcome⟩ := Resource.delete_eq_ok deleted
  obtain rfl := Resource.name_of_get stored
  rcases outcome with ⟨rfl, _⟩ | ⟨rfl, _⟩
  · exact .same
  · apply Writes.commit
    intro found foundAt
    cases stored.symm.trans foundAt
    exact ⟨rfl, rfl, rfl, fun _ => rfl⟩

theorem writes_of_collect {name : String} (collected : backups.collect name = some next) :
    Writes backups next := by
  obtain ⟨old, stored, _, outcome⟩ := Resource.collect_eq_some collected
  obtain rfl := Resource.name_of_get stored
  rcases outcome with ⟨rfl, _⟩ | rfl
  all_goals
    apply Writes.commit
    intro found foundAt
    cases stored.symm.trans foundAt
    exact ⟨rfl, rfl, rfl, fun deleted => deleted⟩

/-- The update keeps the snapshot of the backup. -/
def KeepsSnapshot (backups : Backups) (backup : ZFSBackup) : Prop :=
  ∀ stored ∈ backups.get backup.name, backup.spec.volumeName = stored.spec.volumeName ∧
    backup.spec.ownerNodeID = stored.spec.ownerNodeID ∧
    backup.spec.snapName = stored.spec.snapName

theorem writes_of_update (updated : backups.update backup = .ok next)
    (keeps : KeepsSnapshot backups backup) : Writes backups next := by
  obtain ⟨old, stored, _, outcome⟩ := Resource.update_eq_ok updated
  obtain ⟨volume, node, snap⟩ := keeps old stored
  rcases outcome with ⟨rfl, _⟩ | ⟨rfl, _, _⟩ | ⟨rfl, _⟩
  · exact .same
  all_goals
    apply Writes.commit
    intro found foundAt
    cases stored.symm.trans foundAt
    exact ⟨volume, node, snap, fun deleted => deleted⟩

/-! ## Goroutines that look after a backup -/

/-- The goroutine has decided to delete the name. -/
def WillDelete (name : String) : Task → Prop
  | .ret _ => False
  | .call (.delete backup) rest => backup.name = name ∨ ∀ answer, WillDelete name (rest answer)
  | .call (.bySnapshot _) _ => False
  | .call (.byPrevious _) _ => False

theorem willDelete_deleteEach {name : String} {children : List ZFSBackup}
    (listed : ∃ child ∈ children, child.name = name) : WillDelete name (deleteEach children) := by
  induction children with
  | nil => simp at listed
  | cons child rest ih =>
      obtain ⟨other, mem, nameEq⟩ := listed
      rcases List.mem_cons.mp mem with rfl | mem
      · exact .inl nameEq
      · exact .inr fun _ => ih ⟨other, mem, nameEq⟩

/-- The goroutine will delete the backup of a name if nothing has the key of its parent. -/
inductive Checks (name key : String) (task : Task) : Prop
  | orphan (backup : ZFSBackup) (nameEq : backup.name = name)
      (incremental : backup.spec.prevSnapName ≠ "") (keyEq : parentKey backup = key)
      (isTask : task = deleteOrphanedIncBackup backup)
  | dependents (backup : ZFSBackup) (keyEq : ownKey backup = key)
      (isTask : task = deleteBackupsReferencingDeletedBackup backup)
  | deletes (willDelete : WillDelete name task)

theorem not_checks_ret {name key : String} {value : Unit} : ¬ Checks name key (.ret value) := by
  rintro (⟨backup, _, incremental, _, isTask⟩ | ⟨backup, _, isTask⟩ | willDelete)
  · rw [deleteOrphanedIncBackup, if_neg incremental] at isTask
    cases isTask
  · cases isTask
  · exact willDelete

theorem writes_of_gcExec {id : Nat} {op : GcOp} {choice : GcChoice} {answer : op.Res}
    (executed : gcExec id op choice backups = some (answer, next)) : Writes backups next := by
  cases op with
  | bySnapshot key | byPrevious key =>
      cases executed
      exact .same
  | delete backup =>
      simp only [gcExec] at executed
      split at executed
      · cases executed
        exact .same
      · split at executed
        · cases executed
          exact .same
        · rename_i deleted
          cases executed
          exact writes_of_delete deleted

/-- A delete that does not fail leaves the name on its way out. -/
theorem leaving_of_gcDelete {id : Nat} {target : ZFSBackup} {choice : GcChoice}
    {answer : Except ApiErr Unit} (cached : cachedAs backups target.name = some backup)
    (succeeds : choice.fails = false)
    (executed : gcExec id (.delete target) choice backups = some (answer, next)) :
    Leaving next target.name := by
  simp only [gcExec, succeeds, Bool.false_eq_true, if_false] at executed
  split at executed
  · rename_i refused
    cases executed
    obtain ⟨gone, mem, nameEq⟩ :=
      Resource.exists_remove_of_absent cached (Resource.absent_of_delete_eq_error refused)
    exact .removal gone mem nameEq
  · rename_i deleted
    cases executed
    obtain ⟨old, stored, outcome⟩ := Resource.delete_eq_ok deleted
    rcases outcome with ⟨rfl, before⟩ | ⟨rfl, _⟩
    · exact .deletion old stored before
    · rw [← Resource.name_of_get stored]
      exact .deletion _ (Resource.get_commit_put backups (marked old)) rfl

theorem arrange_nil (order : List String) : arrange order [] = [] := by
  simp [arrange]

/-- A step of a goroutine that looks after a backup without a parent: it still does, or the
backup is on its way out. -/
theorem checks_of_call {id : Nat} {op : GcOp} {rest : op.Res → Task} {choice : GcChoice}
    {answer : op.Res} (checks : Checks backup.name (parentKey backup) (.call op rest))
    (cached : backup ∈ cachedBackups backups) (orphaned : Orphaned backups backup)
    (succeeds : choice.fails = false)
    (executed : gcExec id op choice backups = some (answer, next)) :
    Checks backup.name (parentKey backup) (rest answer) ∨ Leaving next backup.name := by
  rcases checks with ⟨checked, nameEq, incremental, keyEq, isTask⟩ | ⟨parent, keyEq, isTask⟩ |
    willDelete
  · rw [deleteOrphanedIncBackup, if_neg incremental] at isTask
    cases isTask
    obtain ⟨rfl, rfl⟩ := Prod.mk.inj (Option.some.inj executed)
    -- the lookup finds no parent
    have missing : (cachedBackups backups).filter (fun cached => decide
        (parentKey checked ∈ backupSnapshotIndexFunc cached)) = [] := by
      apply List.filter_eq_nil_iff.mpr
      intro parent mem filed
      have filed := mem_backupSnapshotIndexFunc.mp (of_decide_eq_true filed)
      exact orphaned.parentless parent mem (filed.symm.trans keyEq)
    refine .inl (.deletes ?_)
    change WillDelete backup.name (deleteWithoutParent checked (arrange choice.order
      ((cachedBackups backups).filter fun cached => decide
        (parentKey checked ∈ backupSnapshotIndexFunc cached))))
    rw [missing, arrange_nil, deleteWithoutParent, if_pos rfl]
    exact .inl nameEq
  · cases isTask
    obtain ⟨rfl, rfl⟩ := Prod.mk.inj (Option.some.inj executed)
    refine .inl (.deletes (willDelete_deleteEach ?_))
    apply exists_mem_arrange
    apply List.mem_filter.mpr
    refine ⟨cached, decide_eq_true (mem_backupPreviousSnapshotIndexFunc.mpr ?_)⟩
    exact ⟨orphaned.incremental, keyEq⟩
  · cases op with
    | bySnapshot | byPrevious => exact willDelete.elim
    | delete target =>
        rcases willDelete with named | later
        · have shown : cachedAs backups target.name = some backup := by
            rw [named]
            exact mem_cachedBackups.mp cached
          rw [← named]
          exact .inr (leaving_of_gcDelete shown succeeds executed)
        · exact .inl (.deletes (later answer))

/-! ## Runs -/

section Runs

variable {start middle last config : Config gcSig Backups Nat Unit}

/-- A backup that is on its way out, or that a notification or a goroutine is left for. -/
inductive Attended (config : Config gcSig Backups Nat Unit) (backup : ZFSBackup) : Prop
  | leaving (leaving : Leaving config.shared backup.name)
  | notified (event : Event ZFSBackupSpec ZFSBackupStatus)
      (mem : event ∈ (config.shared.informers gcClient).events)
      (checks : Checks backup.name (parentKey backup) (onBackupEvent event))
  | running (id : Nat) (task : Task) (runs : config.threads id = some task)
      (checks : Checks backup.name (parentKey backup) task)

/-- Every cached backup without a cached parent is attended to. -/
structure ChainInv (config : Config gcSig Backups Nat Unit) : Prop where
  lineage : config.shared.Lineage Succeeds gcClient
  attended : ∀ backup ∈ cachedBackups config.shared, Orphaned config.shared backup →
    Attended config backup

/-- Only the name and the parent matter. -/
theorem Attended.congr {other : ZFSBackup} (attended : Attended config backup)
    (nameEq : other.name = backup.name) (keyEq : parentKey other = parentKey backup) :
    Attended config other := by
  rcases attended with leaving | ⟨event, mem, checks⟩ | ⟨id, task, runs, checks⟩
  · rw [← nameEq] at leaving
    exact .leaving leaving
  · rw [← nameEq, ← keyEq] at checks
    exact .notified event mem checks
  · rw [← nameEq, ← keyEq] at checks
    exact .running id task runs checks

/-- A step that changes nothing in the cache. -/
theorem orphaned_of_cachedAs_eq (cacheEq : cachedAs next = cachedAs backups)
    (orphaned : Orphaned next backup) : Orphaned backups backup := by
  constructor
  · exact orphaned.incremental
  · intro parent mem
    apply orphaned.parentless parent
    rw [mem_cachedBackups] at mem ⊢
    rwa [cacheEq]

/-- A step of the store leaves what is on its way out and what is notified. -/
theorem ChainInv.of_writes (inv : ChainInv middle) (writes : Writes middle.shared last.shared)
    (runs : ∀ backup ∈ cachedBackups middle.shared, Orphaned middle.shared backup →
      ∀ id task, middle.threads id = some task → Checks backup.name (parentKey backup) task →
        Attended last backup) : ChainInv last where
  lineage := writes.lineage inv.lineage
  attended := by
    intro backup mem orphaned
    obtain ⟨cacheEq, eventsEq⟩ := writes.informer
    have orphaned := orphaned_of_cachedAs_eq cacheEq orphaned
    rw [mem_cachedBackups, cacheEq, ← mem_cachedBackups] at mem
    rcases inv.attended backup mem orphaned with leaving | ⟨event, told, checks⟩ |
      ⟨id, task, running, checks⟩
    · exact .leaving (writes.leaving leaving)
    · rw [← eventsEq] at told
      exact .notified event told checks
    · exact runs backup mem orphaned id task running checks

/-! ### Notifications -/

/-- What the handler of a notification is given. -/
theorem gcArrive_eq_some {id thread : Nat} {task : Task}
    (arrived : gcArrive id backups = some (thread, task, next)) :
    thread = id ∧ next.get = backups.get ∧ cachedAs next = cachedAs backups ∧
      (next.informers gcClient).pending = (backups.informers gcClient).pending ∧
      ∃ event, (backups.informers gcClient).events = event :: (next.informers gcClient).events ∧
        task = onBackupEvent event := by
  unfold gcArrive at arrived
  split at arrived
  · contradiction
  · rename_i event events eventsEq
    obtain ⟨handled, handles, equal⟩ := Option.map_eq_some_iff.mp arrived
    cases equal
    obtain ⟨_, storeEq, _, informer, stepped, informersEq⟩ := Resource.move_eq_some handles
    simp only [Informer.handle, eventsEq] at stepped
    cases stepped
    refine ⟨rfl, ?_, ?_, ?_, event, ?_, rfl⟩
    · unfold Resource.get
      rw [storeEq]
    · simp [cachedAs, informersEq]
    · simp [informersEq]
    · simp [informersEq, eventsEq]

theorem chainInv_of_arrive {id thread : Nat} {task : Task} (inv : ChainInv middle)
    (arrived : gcArrive id middle.shared = some (thread, task, last.shared))
    (idle : middle.threads thread = none)
    (threadsEq : last.threads = Function.update middle.threads thread (some task)) :
    ChainInv last := by
  obtain ⟨_, getEq, cacheEq, pendingEq, event, eventsEq, rfl⟩ := gcArrive_eq_some arrived
  constructor
  · have lineage := inv.lineage
    unfold Resource.Lineage at lineage ⊢
    rw [show (last.shared.informers gcClient).cache = _ from cacheEq, pendingEq]
    exact lineage
  · intro backup mem orphaned
    have orphaned := orphaned_of_cachedAs_eq cacheEq orphaned
    rw [mem_cachedBackups, cacheEq, ← mem_cachedBackups] at mem
    rcases inv.attended backup mem orphaned with leaving | ⟨told, mem, checks⟩ |
      ⟨other, task, running, checks⟩
    · rcases leaving with ⟨gone, mem, nameEq⟩ | ⟨stored, found, deleted⟩
      · rw [← pendingEq] at mem
        exact .leaving (.removal gone mem nameEq)
      · rw [← getEq] at found
        exact .leaving (.deletion stored found deleted)
    · rw [eventsEq] at mem
      rcases List.mem_cons.mp mem with rfl | mem
      · exact .running thread _ (by rw [threadsEq, Function.update_self]) checks
      · exact .notified told mem checks
    · apply Attended.running other task _ checks
      rw [threadsEq, Function.update_of_ne, running]
      rintro rfl
      rw [idle] at running
      contradiction

/-! ### Deliveries -/

section Deliveries

variable {change : Watch ZFSBackupSpec ZFSBackupStatus}
  {earlier later : List (Watch ZFSBackupSpec ZFSBackupStatus)}

/-- One change has been replayed and the handlers have been notified of it. -/
structure Delivered (middle last : Config gcSig Backups Nat Unit)
    (change : Watch ZFSBackupSpec ZFSBackupStatus)
    (earlier later : List (Watch ZFSBackupSpec ZFSBackupStatus)) : Prop where
  getEq : last.shared.get = middle.shared.get
  threadsEq : last.threads = middle.threads
  replayed : (middle.shared.informers gcClient).Replayed (last.shared.informers gcClient) change
    earlier later
  eventsEq : (last.shared.informers gcClient).events =
    (middle.shared.informers gcClient).events ++
      [Informer.notification (cachedAs middle.shared) change]

theorem Delivered.cachedAs_eq (delivered : Delivered middle last change earlier later) :
    cachedAs last.shared = change.applyTo (cachedAs middle.shared) :=
  delivered.replayed.cacheEq

/-- A backup that is not removed is attended to as before. -/
theorem Delivered.attended (delivered : Delivered middle last change earlier later)
    (kept : ∀ gone, change = .remove gone → gone.name ≠ backup.name)
    (attended : Attended middle backup) : Attended last backup := by
  rcases attended with (⟨gone, mem, nameEq⟩ | ⟨stored, found, deleted⟩) | ⟨event, mem, checks⟩ |
    ⟨id, task, runs, checks⟩
  · have mem := delivered.replayed.mem_of_ne mem fun isChange => kept gone isChange.symm nameEq
    exact .leaving (.removal gone mem nameEq)
  · rw [← delivered.getEq] at found
    exact .leaving (.deletion stored found deleted)
  · apply Attended.notified event _ checks
    rw [delivered.eventsEq]
    exact List.mem_append_left _ mem
  · rw [← delivered.threadsEq] at runs
    exact .running id task runs checks

/-- The notification of the change looks after the backup. -/
theorem Delivered.notified (delivered : Delivered middle last change earlier later)
    (checks : Checks backup.name (parentKey backup)
      (onBackupEvent (Informer.notification (cachedAs middle.shared) change))) :
    Attended last backup := by
  apply Attended.notified _ _ checks
  rw [delivered.eventsEq]
  exact List.mem_append_right _ (List.mem_singleton_self _)

/-- A backup whose parent goes with the change. -/
theorem Delivered.attended_of_parent (delivered : Delivered middle last change earlier later)
    (continues : change.Continues Succeeds (cachedAs middle.shared)) {parent : ZFSBackup}
    (mem : parent ∈ cachedBackups middle.shared) (keyEq : ownKey parent = parentKey backup)
    (orphaned : Orphaned last.shared backup) : Attended last backup := by
  rw [mem_cachedBackups] at mem
  have isChange : change.name = parent.name := by
    by_contra differs
    refine orphaned.parentless parent ?_ keyEq
    rw [mem_cachedBackups, delivered.cachedAs_eq, Watch.applyTo_of_ne (Ne.symm differs)]
    exact mem
  have succeeds : Succeeds parent change.object := continues parent (by rwa [isChange])
  cases change with
  | put fresh =>
      refine absurd (succeeds.ownKey_eq.trans keyEq) (orphaned.parentless fresh ?_)
      rw [mem_cachedBackups, delivered.cachedAs_eq]
      exact Watch.applyTo_self ..
  | remove gone => exact delivered.notified (.dependents gone (succeeds.ownKey_eq.trans keyEq) rfl)

/-- A backup that comes with the change. -/
theorem Delivered.attended_of_put (inv : ChainInv middle)
    (delivered : Delivered middle last (.put backup) earlier later)
    (continues : (Watch.put backup).Continues Succeeds (cachedAs middle.shared))
    (orphaned : Orphaned last.shared backup) : Attended last backup := by
  have shown : backup ∈ cachedBackups last.shared := by
    rw [mem_cachedBackups, delivered.cachedAs_eq]
    exact Watch.applyTo_self ..
  cases cached : cachedAs middle.shared backup.name with
  | none =>
      apply delivered.notified
      simp only [Informer.notification, cached, onBackupEvent, handleBackupCreation]
      rw [if_pos orphaned.incremental]
      exact .orphan backup rfl orphaned.incremental rfl rfl
  | some old =>
      have succeeds : Succeeds old backup := continues old cached
      by_cases relinked : old.spec.prevSnapName = backup.spec.prevSnapName
      · -- the notification is dropped, but the backup had no parent before
        have nameEq : backup.name = old.name := (name_of_cachedAs cached).symm
        have before : Orphaned middle.shared old := by
          constructor
          · rw [relinked]
            exact orphaned.incremental
          · intro parent mem
            rw [← succeeds.parentKey_eq relinked.symm]
            rw [mem_cachedBackups] at mem
            by_cases same : parent.name = backup.name
            · rw [same, cached] at mem
              cases mem
              rw [← succeeds.ownKey_eq]
              exact orphaned.parentless backup shown
            · apply orphaned.parentless parent
              rw [mem_cachedBackups, delivered.cachedAs_eq, Watch.applyTo_of_ne same]
              exact mem
        have oldShown : old ∈ cachedBackups middle.shared := by
          rw [mem_cachedBackups, ← nameEq]
          exact cached
        have attended := (inv.attended old oldShown before).congr nameEq
          (succeeds.parentKey_eq relinked.symm)
        exact delivered.attended (fun _ isRemoval => nomatch isRemoval) attended
      · apply delivered.notified
        simp only [Informer.notification, cached, onBackupEvent, handleBackupUpdate]
        rw [if_pos ⟨relinked, orphaned.incremental⟩]
        exact .orphan backup rfl orphaned.incremental rfl rfl

theorem chainInv_of_delivered (inv : ChainInv middle)
    (delivered : Delivered middle last change earlier later) : ChainInv last := by
  obtain ⟨continues, lineage⟩ := inv.lineage.replayed delivered.replayed
  refine ⟨lineage, fun backup mem orphaned => ?_⟩
  have shown := mem_cachedBackups.mp mem
  rw [delivered.cachedAs_eq] at shown
  rcases Watch.applyTo_eq_some shown with ⟨cached, differs⟩ | ⟨rfl, _⟩
  · by_cases parents : ∃ parent ∈ cachedBackups middle.shared, ownKey parent = parentKey backup
    · obtain ⟨parent, parentMem, keyEq⟩ := parents
      exact delivered.attended_of_parent continues parentMem keyEq orphaned
    · have before : Orphaned middle.shared backup :=
        ⟨orphaned.incremental, fun parent mem keyEq => parents ⟨parent, mem, keyEq⟩⟩
      apply delivered.attended _ (inv.attended backup (mem_cachedBackups.mpr cached) before)
      rintro gone rfl
      exact differs
  · exact delivered.attended_of_put inv continues orphaned

end Deliveries

/-! ### Whole runs -/

/-- Updates keep the snapshot of a backup, and no delete of the collector fails. -/
def ChainStep : Action Nat GcChoice GcMove Nat → Config gcSig Backups Nat Unit → Prop
  | .env (.update backup), config => KeepsSnapshot config.shared backup
  | .call _ choice, _ => choice.fails = false
  | _, _ => True

theorem chainInv_of_env {move : GcMove} (inv : ChainInv middle)
    (meets : ChainStep (.env move) middle) (moved : gcEnv move middle.shared = some last.shared)
    (threadsEq : last.threads = middle.threads) : ChainInv last := by
  have written (writes : Writes middle.shared last.shared) : ChainInv last := by
    apply inv.of_writes writes
    intro backup _ _ id task running checks
    rw [← threadsEq] at running
    exact .running id task running checks
  cases move with
  | deliver name =>
      obtain ⟨getEq, change, earlier, later, replayed, eventsEq⟩ := Resource.deliver_notifies moved
      exact chainInv_of_delivered inv ⟨getEq, threadsEq, replayed, eventsEq⟩
  | create backup => exact written (writes_of_create (eq_ok_of_toOption moved))
  | update backup => exact written (writes_of_update (eq_ok_of_toOption moved) meets)
  | delete name => exact written (writes_of_delete (eq_ok_of_toOption moved))
  | collect name => exact written (writes_of_collect moved)

theorem chainInv_of_call {id : Nat} {op : GcOp} {rest : op.Res → Task} {choice : GcChoice}
    {answer : op.Res} (inv : ChainInv middle) (succeeds : choice.fails = false)
    (running : middle.threads id = some (.call op rest))
    (executed : gcExec id op choice middle.shared = some (answer, last.shared))
    (threadsEq : last.threads = Function.update middle.threads id (some (rest answer))) :
    ChainInv last := by
  apply inv.of_writes (writes_of_gcExec executed)
  intro backup mem orphaned other task runs checks
  by_cases same : other = id
  · subst same
    cases running.symm.trans runs
    rcases checks_of_call checks mem orphaned succeeds executed with checks | leaving
    · exact .running other _ (by rw [threadsEq, Function.update_self]) checks
    · exact .leaving leaving
  · apply Attended.running other task _ checks
    rw [threadsEq, Function.update_of_ne same, runs]

theorem chainInv_step {action : Action Nat GcChoice GcMove Nat} (inv : ChainInv middle)
    (meets : ChainStep action middle) (stepped : collector.step action middle = some last) :
    ChainInv last := by
  rcases System.step_cases stepped with
    ⟨id, choice, op, rest, answer, rfl, running, executed, threadsEq⟩ |
    ⟨move, rfl, moved, threadsEq⟩ |
    ⟨arrival, id, task, rfl, arrived, idle, threadsEq⟩ |
    ⟨id, answer, rfl, finished, sharedEq, threadsEq⟩
  · exact chainInv_of_call inv meets running executed threadsEq
  · exact chainInv_of_env inv meets moved threadsEq
  · exact chainInv_of_arrive inv arrived idle threadsEq
  · have sharedEq : last.shared = middle.shared := sharedEq
    apply inv.of_writes (sharedEq ▸ .same)
    intro backup _ _ other task running checks
    by_cases same : other = id
    · subst same
      cases finished.symm.trans running
      exact absurd checks not_checks_ret
    · apply Attended.running other task _ checks
      rw [threadsEq, Function.update_of_ne same, running]

/-- No goroutine runs, every incremental backup in the cache has its parent there, and what
the cache has yet to see continues it. A cache that is still empty is of this kind. -/
structure ChainStart (start : Config gcSig Backups Nat Unit) : Prop where
  idle : ∀ id, start.threads id = none
  complete : ∀ backup ∈ cachedBackups start.shared, ¬ Orphaned start.shared backup
  lineage : start.shared.Lineage Succeeds gcClient

/-- No goroutine, notification or deletion is left, and the cache has seen every change. -/
structure Quiescent (config : Config gcSig Backups Nat Unit) : Prop where
  idle : ∀ id, config.threads id = none
  handled : (config.shared.informers gcClient).events = []
  replayed : (config.shared.informers gcClient).pending = []
  settled : ∀ name backup, config.shared.get name = some backup →
    backup.deletionTimestamp = false

theorem Quiescent.not_attended (quiescent : Quiescent config) : ¬ Attended config backup := by
  rintro ((⟨gone, mem, _⟩ | ⟨stored, found, deleted⟩) | ⟨event, mem, _⟩ | ⟨id, task, runs, _⟩)
  · rw [quiescent.replayed] at mem
    contradiction
  · rw [quiescent.settled _ stored found] at deleted
    contradiction
  · rw [quiescent.handled] at mem
    contradiction
  · rw [quiescent.idle id] at runs
    contradiction

theorem exists_parent_of_not_orphaned (incremental : backup.spec.prevSnapName ≠ "")
    (linked : ¬ Orphaned backups backup) : ∃ parent ∈ cachedBackups backups,
      backupSnapshotIndexFunc parent = backupPreviousSnapshotIndexFunc backup := by
  by_contra missing
  refine linked ⟨incremental, fun parent mem keyEq => missing ⟨parent, mem, ?_⟩⟩
  rw [backupPreviousSnapshotIndexFunc, if_neg incremental]
  exact congrArg (fun key => [key]) keyEq

/-- The backups of a chain of keys go with its root. -/
theorem chain_removed {keys : List String} {root : String}
    (linked : ∀ backup ∈ cachedBackups backups, backup.spec.prevSnapName ≠ "" →
      ∃ parent ∈ cachedBackups backups,
        backupSnapshotIndexFunc parent = backupPreviousSnapshotIndexFunc backup)
    (chain : List.IsChain (fun parent key => ∀ backup ∈ cachedBackups backups,
      key ∈ backupSnapshotIndexFunc backup → parent ∈ backupPreviousSnapshotIndexFunc backup)
      (root :: keys))
    (removed : ∀ backup ∈ cachedBackups backups, root ∉ backupSnapshotIndexFunc backup) :
    ∀ key ∈ keys, ∀ backup ∈ cachedBackups backups, key ∉ backupSnapshotIndexFunc backup := by
  induction keys generalizing root with
  | nil => simp
  | cons child keys ih =>
      obtain ⟨first, rest⟩ := List.isChain_cons_cons.mp chain
      have childRemoved : ∀ backup ∈ cachedBackups backups,
          child ∉ backupSnapshotIndexFunc backup := by
        intro backup mem filed
        have previous := first backup mem filed
        have incremental := (mem_backupPreviousSnapshotIndexFunc.mp previous).1
        obtain ⟨parent, parentMem, keyEq⟩ := linked backup mem incremental
        exact removed parent parentMem (keyEq ▸ previous)
      intro key mem
      rcases List.mem_cons.mp mem with rfl | mem
      · exact childRemoved
      · exact ih rest childRemoved key mem

/-- In every quiescent state of every run in which updates keep the snapshot of a backup and
no delete of the collector fails, each incremental backup in the cache has a parent there.
So once the root of a chain is gone, no backup of the chain is left. -/
theorem backup_collector_complete (begins : ChainStart start)
    (reached : collector.Reaches ChainStep start config) (quiescent : Quiescent config) :
    (∀ backup ∈ cachedBackups config.shared, backup.spec.prevSnapName ≠ "" →
      ∃ parent ∈ cachedBackups config.shared,
        backupSnapshotIndexFunc parent = backupPreviousSnapshotIndexFunc backup) ∧
    ∀ root keys, List.IsChain (fun parent key => ∀ backup ∈ cachedBackups config.shared,
        key ∈ backupSnapshotIndexFunc backup → parent ∈ backupPreviousSnapshotIndexFunc backup)
        (root :: keys) →
      (∀ backup ∈ cachedBackups config.shared, root ∉ backupSnapshotIndexFunc backup) →
      ∀ key ∈ keys, ∀ backup ∈ cachedBackups config.shared,
        key ∉ backupSnapshotIndexFunc backup := by
  have inv : ChainInv config := by
    apply reached.invariant ChainInv
    · exact ⟨begins.lineage,
        fun backup mem orphaned => absurd orphaned (begins.complete backup mem)⟩
    · intro middle last action _ inv meets stepped
      exact chainInv_step inv meets stepped
  have linked : ∀ backup ∈ cachedBackups config.shared, backup.spec.prevSnapName ≠ "" →
      ∃ parent ∈ cachedBackups config.shared,
        backupSnapshotIndexFunc parent = backupPreviousSnapshotIndexFunc backup := by
    intro backup mem incremental
    apply exists_parent_of_not_orphaned incremental
    exact fun orphaned => quiescent.not_attended (inv.attended backup mem orphaned)
  exact ⟨linked, fun root keys chain removed => chain_removed linked chain removed⟩

/-! ### A run that is executed -/

/-- A goroutine that is never started does not run. -/
theorem idle_of_run {Meets : Action Nat GcChoice GcMove Nat → Config gcSig Backups Nat Unit → Prop}
    {actions : List (Action Nat GcChoice GcMove Nat)} (ids : List Nat)
    (reached : collector.Reaches (fun action config => Meets action config ∧ action ∈ actions)
      start config)
    (idle : ∀ id, start.threads id = none) (only : ∀ id, .arrive id ∈ actions → id ∈ ids)
    (finished : ∀ id ∈ ids, config.threads id = none) (id : Nat) : config.threads id = none := by
  by_cases known : id ∈ ids
  · exact finished id known
  · apply reached.invariant (fun config => config.threads id = none) (idle id)
    intro middle last action _ unused meets stepped
    rcases System.step_cases stepped with
      ⟨other, choice, op, rest, answer, rfl, running, executed, threadsEq⟩ |
      ⟨move, rfl, moved, threadsEq⟩ |
      ⟨arrival, other, task, rfl, arrived, _, threadsEq⟩ |
      ⟨other, answer, rfl, finished, _, threadsEq⟩
    · rw [threadsEq, Function.update_of_ne, unused]
      rintro rfl
      rw [unused] at running
      contradiction
    · rw [threadsEq, unused]
    · rw [threadsEq, Function.update_of_ne, unused]
      rintro rfl
      obtain ⟨rfl, _⟩ := gcArrive_eq_some arrived
      exact known (only id meets.2)
    · rw [threadsEq, Function.update_of_ne, unused]
      rintro rfl
      rw [unused] at finished
      contradiction

instance (backups : Backups) (backup : ZFSBackup) : Decidable (KeepsSnapshot backups backup) := by
  dsimp only [KeepsSnapshot]
  infer_instance

instance (action : Action Nat GcChoice GcMove Nat) (config : Config gcSig Backups Nat Unit) :
    Decidable (ChainStep action config) :=
  match action with
  | .env (.create _) | .env (.update _) | .env (.deliver _) | .env (.delete _) | .env (.collect _)
  | .call _ _ | .arrive _ | .leave _ => by
      dsimp only [ChainStep]
      infer_instance

/-- No backup exists. -/
def noBackups : Config gcSig Backups Nat Unit where
  shared := .empty
  threads := fun _ => none

/-- The next notification is handled, and its goroutine runs to its end. -/
def goroutineSteps (count : Nat) : List (Action Nat GcChoice GcMove Nat) :=
  .arrive 0 :: List.replicate count (.call 0 {}) ++ [.leave 0]

/-- A backup is created and seen. -/
def createSteps (backup : ZFSBackup) (count : Nat) : List (Action Nat GcChoice GcMove Nat) :=
  [.env (.create backup), .env (.deliver backup.name)] ++ goroutineSteps count

/-- A deleted backup disappears, and its dependents are looked up and deleted. -/
def removeSteps (name : String) (count : Nat) : List (Action Nat GcChoice GcMove Nat) :=
  [.env (.collect name), .env (.deliver name), .env (.deliver name)] ++ goroutineSteps 0 ++
    goroutineSteps count

/-- Of two backups that build on a full one, the one that has a dependent is deleted. -/
def brokenChainRun : List (Action Nat GcChoice GcMove Nat) :=
  createSteps fullBackup 0 ++ createSteps incrementalBackup 1 ++
    createSteps { incrementalBackup with
      name := "last"
      spec := { incrementalBackup.spec with snapName := "s3", prevSnapName := "s2" } } 1 ++
    createSteps { incrementalBackup with
      name := "other"
      spec := { incrementalBackup.spec with snapName := "s4" } } 1 ++
    [.env (.delete "inc")] ++ removeSteps "inc" 2 ++ removeSteps "last" 1

/-- The cached names. -/
def cachedNames (config : Config gcSig Backups Nat Unit) : List String :=
  (cachedBackups config.shared).map fun backup => backup.name

/-- The full backup and the one without a dependent are left. -/
theorem backup_collector_complete_brokenChainRun :
    ∃ config, collector.Reaches ChainStep noBackups config ∧ Quiescent config ∧
      cachedNames config = ["full", "other"] ∧
      (∀ backup ∈ cachedBackups config.shared, backup.spec.prevSnapName ≠ "" →
        ∃ parent ∈ cachedBackups config.shared,
          backupSnapshotIndexFunc parent = backupPreviousSnapshotIndexFunc backup) ∧
      ∀ root keys, List.IsChain (fun parent key => ∀ backup ∈ cachedBackups config.shared,
          key ∈ backupSnapshotIndexFunc backup → parent ∈ backupPreviousSnapshotIndexFunc backup)
          (root :: keys) →
        (∀ backup ∈ cachedBackups config.shared, root ∉ backupSnapshotIndexFunc backup) →
        ∀ key ∈ keys, ∀ backup ∈ cachedBackups config.shared,
          key ∉ backupSnapshotIndexFunc backup := by
  have only : ∀ id, .arrive id ∈ brokenChainRun → id ∈ [0] := by
    intro id
    simp only [brokenChainRun, createSteps, removeSteps, goroutineSteps]
    simp
  have begins : ChainStart noBackups := by
    refine ⟨fun _ => rfl, fun backup mem => ?_, trivial⟩
    exact absurd (mem_cachedBackups.mp mem) (by simp [noBackups, cachedAs, Resource.empty])
  have ran : (collector.run ChainStep brokenChainRun noBackups).any (fun config =>
      decide (cachedNames config = ["full", "other"] ∧
        (config.shared.informers gcClient).events = [] ∧
        (config.shared.informers gcClient).pending = [] ∧
        ∀ backup ∈ config.shared.store.items, backup.deletionTimestamp = false) &&
      (config.threads 0).isNone) = true := by
    decide +kernel
  obtain ⟨config, last, checked⟩ := (Option.any_eq_true _ _).mp ran
  obtain ⟨shown, finished⟩ := Bool.and_eq_true_iff.mp checked
  obtain ⟨names, handled, replayed, settled⟩ := of_decide_eq_true shown
  have executed := System.reaches_of_run last
  have reached : collector.Reaches ChainStep noBackups config := executed.mono fun step => step.1
  have idle : ∀ id, config.threads id = none := by
    apply idle_of_run [0] executed (fun _ => rfl) only
    intro id mem
    rw [List.mem_singleton.mp mem]
    exact Option.isNone_iff_eq_none.mp finished
  have quiescent : Quiescent config :=
    ⟨idle, handled, replayed, fun _ backup found => settled backup (Store.mem_of_get found)⟩
  exact ⟨config, reached, quiescent, names,
    backup_collector_complete begins reached quiescent⟩

end Runs

end ZfsLocalPv.Properties

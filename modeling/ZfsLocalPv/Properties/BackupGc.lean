import ZfsLocalPv.ApiServer.Change
import ZfsLocalPv.Driver.BackupGc

/-!
# The backup garbage collector and restorable backups

An incremental backup can be restored as long as a backup of the same volume and node has its
previous snapshot. The collector should delete no such backup. It decides from its cache: a
goroutine for a child may run while the parent is in the store but not yet in the cache, as after
every start of the controller, where the initial list is added one by one.

What it deletes is not restorable if the cache is current for the key whenever a goroutine looks
it up, and nobody gives a parent to what it has found between the lookup and the deletes that
follow. From a lookup on, a goroutine only deletes; so its remaining program is a list of deletes
of backups whose parent is missing, and that stays so under every other step.
-/

namespace ZfsLocalPv.Properties

open Api ApiServer Driver Interaction

variable {backups next : Backups} {backup : ZFSBackup}

/-- The store has a backup of the same volume and node that holds the previous
snapshot. -/
def Restorable (backups : Backups) (backup : ZFSBackup) : Prop :=
  ∃ parent ∈ backups.store.items, parent.spec.volumeName = backup.spec.volumeName ∧
    parent.spec.ownerNodeID = backup.spec.ownerNodeID ∧
    parent.spec.snapName = backup.spec.prevSnapName

instance (backups : Backups) (backup : ZFSBackup) : Decidable (Restorable backups backup) := by
  dsimp only [Restorable]
  infer_instance

/-- Whether it is restorable depends on the specification of a backup. -/
theorem Restorable.congr {other : ZFSBackup} (restorable : Restorable backups backup)
    (volume : other.spec.volumeName = backup.spec.volumeName)
    (node : other.spec.ownerNodeID = backup.spec.ownerNodeID)
    (prev : other.spec.prevSnapName = backup.spec.prevSnapName) : Restorable backups other := by
  obtain ⟨parent, mem, volumeEq, nodeEq, snapEq⟩ := restorable
  exact ⟨parent, mem, volumeEq.trans volume.symm, nodeEq.trans node.symm, snapEq.trans prev.symm⟩

/-! ## What a step adds -/

/-- The backup builds on one with the given specification. -/
def ChildOf (backup : ZFSBackup) (parent : ZFSBackupSpec) : Prop :=
  parent.volumeName = backup.spec.volumeName ∧ parent.ownerNodeID = backup.spec.ownerNodeID ∧
    parent.snapName = backup.spec.prevSnapName

variable {Fresh : ZFSBackupSpec → Prop}

/-- Every stored specification was stored before or is fresh. -/
def AddsOnly (Fresh : ZFSBackupSpec → Prop) (backups next : Backups) : Prop :=
  ∀ name object, next.get name = some object →
    (∃ old, backups.get name = some old ∧ old.spec = object.spec) ∨ Fresh object.spec

/-- Every stored specification was stored before. -/
abbrev AddsNoSpec (backups next : Backups) : Prop :=
  AddsOnly (fun _ => False) backups next

/-- Only a fresh parent makes a backup restorable. -/
theorem AddsOnly.restorable (adds : AddsOnly Fresh backups next)
    (apart : ∀ spec, Fresh spec → ¬ ChildOf backup spec)
    (restorable : Restorable next backup) : Restorable backups backup := by
  obtain ⟨parent, mem, builds⟩ := restorable
  rcases adds parent.name parent (Store.mem_items_iff.mp mem) with ⟨old, stored, specEq⟩ | fresh
  · rw [← specEq] at builds
    exact ⟨old, Store.mem_of_get stored, builds⟩
  · exact absurd builds (apart parent.spec fresh)

theorem addsNoSpec_of_quiet (quiet : backups.Quiet next) : AddsNoSpec backups next := by
  intro name object found
  rw [quiet.get] at found
  exact .inl ⟨object, found, rfl⟩

theorem addsOnly_of_commit {change : Watch ZFSBackupSpec ZFSBackupStatus}
    (puts : ∀ object, change = .put object →
      (∃ old, backups.get object.name = some old ∧ old.spec = object.spec) ∨ Fresh object.spec) :
    AddsOnly Fresh backups (backups.commit change) := by
  intro name object found
  rcases Resource.get_commit_eq_some found with ⟨stored, _⟩ | ⟨fresh, changeEq, rfl, rfl⟩
  · exact .inl ⟨object, stored, rfl⟩
  · exact puts fresh changeEq

theorem addsNoSpec_of_delete {name : String} (deleted : backups.delete name = .ok next) :
    AddsNoSpec backups next := by
  obtain ⟨old, stored, outcome⟩ := Resource.delete_eq_ok deleted
  obtain rfl := Resource.name_of_get stored
  rcases outcome with ⟨rfl, _⟩ | ⟨rfl, _⟩
  · exact addsNoSpec_of_quiet (.refl next)
  · apply addsOnly_of_commit
    intro object puts
    cases puts
    exact .inl ⟨old, stored, rfl⟩

theorem addsNoSpec_of_collect {name : String} (collected : backups.collect name = some next) :
    AddsNoSpec backups next := by
  obtain ⟨old, stored, _, outcome⟩ := Resource.collect_eq_some collected
  obtain rfl := Resource.name_of_get stored
  rcases outcome with ⟨rfl, _⟩ | rfl
  · apply addsOnly_of_commit
    intro object removes
    contradiction
  · apply addsOnly_of_commit
    intro object puts
    cases puts
    exact .inl ⟨old, stored, rfl⟩

theorem addsOnly_of_create (created : backups.create backup = .ok next) :
    AddsOnly (· = backup.spec) backups next := by
  obtain ⟨_, rfl⟩ := Resource.create_eq_ok created
  apply addsOnly_of_commit
  intro object puts
  cases puts
  exact .inr rfl

/-- An update may change the specification it finds. -/
theorem addsOnly_of_update (updated : backups.update backup = .ok next)
    (allowed : ∀ stored, backups.get backup.name = some stored →
      backup.spec = stored.spec ∨ Fresh backup.spec) : AddsOnly Fresh backups next := by
  obtain ⟨old, stored, _, outcome⟩ := Resource.update_eq_ok updated
  rcases outcome with ⟨rfl, _⟩ | ⟨rfl, _, _⟩ | ⟨rfl, _⟩
  · exact fun name object found => .inl ⟨object, found, rfl⟩
  · apply addsOnly_of_commit
    intro object removes
    contradiction
  · apply addsOnly_of_commit
    intro object puts
    cases puts
    exact (allowed old stored).imp (fun same => ⟨old, stored, same.symm⟩) id

/-! ## Lookups -/

/-- A parent is filed under the key by which its children look for it. -/
theorem Restorable.key (restorable : Restorable backups backup) :
    ∃ parent ∈ backups.store.items, getBackupKeyBySpec backup.spec.volumeName
      backup.spec.ownerNodeID backup.spec.prevSnapName ∈ backupSnapshotIndexFunc parent := by
  obtain ⟨parent, mem, volume, node, snap⟩ := restorable
  refine ⟨parent, mem, ?_⟩
  rw [← volume, ← node, ← snap]
  exact List.mem_singleton_self _

/-- A dependent is filed under the key of its parent. -/
theorem key_of_mem_previous {key : String}
    (filed : key ∈ backupPreviousSnapshotIndexFunc backup) :
    key = getBackupKeyBySpec backup.spec.volumeName backup.spec.ownerNodeID
      backup.spec.prevSnapName := by
  unfold backupPreviousSnapshotIndexFunc at filed
  split at filed
  · contradiction
  · exact List.mem_singleton.mp filed

theorem mem_of_mem_arrange {order : List String} {entries : List ZFSBackup}
    (mem : backup ∈ arrange order entries) : backup ∈ entries := by
  rcases List.mem_append.mp mem with mem | mem
  · obtain ⟨name, _, found⟩ := List.mem_filterMap.mp mem
    exact List.mem_of_find?_eq_some found
  · exact List.mem_of_mem_filter mem

/-- No entry is left out of a listing. -/
theorem exists_mem_arrange {order : List String} {entries : List ZFSBackup}
    (mem : backup ∈ entries) : ∃ entry ∈ arrange order entries, entry.name = backup.name := by
  unfold arrange
  by_cases listed : backup.name ∈ order
  · cases found : entries.find? fun entry => decide (entry.name = backup.name) with
    | none =>
        have absent := List.find?_eq_none.mp found backup mem
        simp at absent
    | some entry =>
        have nameEq : entry.name = backup.name := by
          simpa using List.find?_some found
        refine ⟨entry, List.mem_append_left _ ?_, nameEq⟩
        exact List.mem_filterMap.mpr ⟨backup.name, List.mem_dedup.mpr listed, found⟩
  · refine ⟨backup, List.mem_append_right _ ?_, rfl⟩
    exact List.mem_filter.mpr ⟨mem, decide_eq_true listed⟩

theorem arrange_ne_nil_of_mem {order : List String} {entries : List ZFSBackup}
    (mem : backup ∈ entries) : arrange order entries ≠ [] := by
  obtain ⟨entry, listed, _⟩ := @exists_mem_arrange backup order entries mem
  exact List.ne_nil_of_mem listed

/-! ## Goroutines -/

/-- A goroutine that has not looked anything up. -/
def Waiting (task : Task) : Prop :=
  ∃ backup, task = deleteOrphanedIncBackup backup ∨
    task = deleteBackupsReferencingDeletedBackup backup

/-- A goroutine that only deletes, and only what is not restorable. -/
def Cleared (backups : Backups) (task : Task) : Prop :=
  task.Calls fun op : GcOp => ∃ backup, op = .delete backup ∧ ¬ Restorable backups backup

/-- At a lookup the cache is current for the key: a missing parent is missing in the
store, and a deleted parent is not back. At a delete the backup is still linked as it
was when it was looked up. -/
def LooksCurrent (op : GcOp) (backups : Backups) : Prop :=
  match op with
  | .bySnapshot key => ∀ stored ∈ backups.store.items, key ∈ backupSnapshotIndexFunc stored →
      ∃ cached ∈ cachedBackups backups, key ∈ backupSnapshotIndexFunc cached
  | .byPrevious key => ∀ stored ∈ backups.store.items, key ∉ backupSnapshotIndexFunc stored
  | .delete backup => ∀ stored ∈ backups.get backup.name,
      stored.spec.volumeName = backup.spec.volumeName ∧
        stored.spec.ownerNodeID = backup.spec.ownerNodeID ∧
        stored.spec.prevSnapName = backup.spec.prevSnapName

instance (op : GcOp) (backups : Backups) : Decidable (LooksCurrent op backups) :=
  match op with
  | .bySnapshot _ | .byPrevious _ | .delete _ => by
      dsimp only [LooksCurrent]
      infer_instance

/-- What the goroutine may still delete does not build on the given specification. -/
def DeletesNoChild (parent : ZFSBackupSpec) (task : Task) : Prop :=
  task.Calls fun op : GcOp => ∀ child, op = .delete child → ¬ ChildOf child parent

theorem Cleared.mono {task : Task} (cleared : Cleared backups task)
    (adds : AddsOnly Fresh backups next)
    (apart : ∀ spec, Fresh spec → DeletesNoChild spec task) : Cleared next task := by
  induction task with
  | ret value => trivial
  | call op rest ih =>
      obtain ⟨⟨backup, rfl, notRestorable⟩, later⟩ := cleared
      constructor
      · refine ⟨backup, rfl, fun restorable => notRestorable (adds.restorable ?_ restorable)⟩
        exact fun spec fresh => (apart spec fresh).1 backup rfl
      · exact fun answer => ih answer (later answer) fun spec fresh => (apart spec fresh).2 answer

theorem cleared_deleteEach {children : List ZFSBackup}
    (orphans : ∀ child ∈ children, ¬ Restorable backups child) :
    Cleared backups (deleteEach children) := by
  induction children with
  | nil => trivial
  | cons child rest ih =>
      constructor
      · exact ⟨child, rfl, orphans child (.head _)⟩
      · intro _
        exact ih fun other mem => orphans other (.tail _ mem)

theorem waiting_onBackupEvent (backups : Backups) (event : Event ZFSBackupSpec ZFSBackupStatus) :
    Waiting (onBackupEvent event) ∨ Cleared backups (onBackupEvent event) := by
  cases event with
  | add backup =>
      dsimp only [onBackupEvent, handleBackupCreation]
      split
      · exact .inl ⟨backup, .inl rfl⟩
      · exact .inr trivial
  | update oldBackup newBackup =>
      dsimp only [onBackupEvent, handleBackupUpdate]
      split
      · exact .inl ⟨newBackup, .inl rfl⟩
      · exact .inr trivial
  | delete backup => exact .inl ⟨backup, .inr rfl⟩

/-- What follows the lookup of an orphan check. -/
theorem cleared_deleteWithoutParent {order : List String}
    (current : LooksCurrent (.bySnapshot (getBackupKeyBySpec backup.spec.volumeName
      backup.spec.ownerNodeID backup.spec.prevSnapName)) backups) :
    Cleared backups (deleteWithoutParent backup
      (arrange order ((cachedBackups backups).filter fun cached =>
        decide (getBackupKeyBySpec backup.spec.volumeName backup.spec.ownerNodeID
          backup.spec.prevSnapName ∈ backupSnapshotIndexFunc cached)))) := by
  unfold deleteWithoutParent
  split
  · rename_i missing
    constructor
    · refine ⟨backup, rfl, fun restorable => ?_⟩
      obtain ⟨parent, mem, filed⟩ := restorable.key
      obtain ⟨cached, cachedMem, cachedFiled⟩ := current parent mem filed
      refine arrange_ne_nil_of_mem (List.mem_filter.mpr ⟨cachedMem, ?_⟩) missing
      exact decide_eq_true cachedFiled
    · intro _
      trivial
  · trivial

/-- A lookup changes nothing and leaves a goroutine that deletes only what is not
restorable. -/
theorem cleared_of_waiting {id : Nat} {op : GcOp} {rest : op.Res → Task} {choice : GcChoice}
    {answer : op.Res} (waiting : Waiting (.call op rest)) (current : LooksCurrent op backups)
    (executed : gcExec id op choice backups = some (answer, next)) :
    next = backups ∧ Cleared backups (rest answer) := by
  obtain ⟨backup, isTask⟩ := waiting
  rcases isTask with isTask | isTask
  · unfold deleteOrphanedIncBackup at isTask
    split at isTask
    · contradiction
    · cases isTask
      obtain ⟨answered, sameEq⟩ := Prod.mk.inj (Option.some.inj executed)
      constructor
      · exact sameEq.symm
      · subst answered
        exact cleared_deleteWithoutParent current
  · cases isTask
    obtain ⟨answered, sameEq⟩ := Prod.mk.inj (Option.some.inj executed)
    constructor
    · exact sameEq.symm
    · apply cleared_deleteEach
      intro child mem restorable
      have entry := mem_of_mem_arrange (answered.symm ▸ mem)
      have filed := of_decide_eq_true (List.mem_filter.mp entry).2
      obtain ⟨parent, stored, parentFiled⟩ := restorable.key
      rw [← key_of_mem_previous filed] at parentFiled
      exact current parent stored parentFiled

/-- A delete adds no parent. -/
theorem addsNoSpec_of_gcDelete {id : Nat} {choice : GcChoice} {answer : Except ApiErr Unit}
    (executed : gcExec id (.delete backup) choice backups = some (answer, next)) :
    AddsNoSpec backups next := by
  simp only [gcExec] at executed
  split at executed
  · cases executed
    exact addsNoSpec_of_quiet (.refl _)
  · split at executed
    · cases executed
      exact addsNoSpec_of_quiet (.refl _)
    · rename_i deleted
      cases executed
      exact addsNoSpec_of_delete deleted

/-! ## Runs -/

section Runs

variable {start config middle last : Config gcSig Backups Nat Unit}

/-- A goroutine between its lookup and its last delete has no backup left to delete that builds
on the given specification. -/
def NoChildPending (parent : ZFSBackupSpec) (config : Config gcSig Backups Nat Unit) : Prop :=
  ∀ id backup rest, config.threads id = some (.call (.delete backup) rest) →
    DeletesNoChild parent (.call (.delete backup) rest)

/-- The condition under which the collector deletes nothing that is restorable. -/
def CurrentCache : Action Nat GcChoice GcMove Nat → Config gcSig Backups Nat Unit → Prop
  | .env (.create backup), config => NoChildPending backup.spec config
  | .env (.update backup), config =>
      (∀ stored, config.shared.get backup.name = some stored → backup.spec = stored.spec) ∨
        NoChildPending backup.spec config
  | action, config => System.AtCalls (fun _ op _ backups => LooksCurrent op backups) action config

/-- Every goroutine waits or is cleared. -/
def CollectorInv (config : Config gcSig Backups Nat Unit) : Prop :=
  ∀ id task, config.threads id = some task → Waiting task ∨ Cleared config.shared task

theorem CollectorInv.mono (inv : CollectorInv middle) (adds : AddsNoSpec middle.shared next)
    {id : Nat} {task : Task} (running : middle.threads id = some task) :
    Waiting task ∨ Cleared next task := by
  rcases inv id task running with waiting | cleared
  · exact .inl waiting
  · exact .inr (cleared.mono adds fun _ fresh => fresh.elim)

/-- A new parent is one of no backup that is about to be deleted. -/
theorem CollectorInv.of_noChildPending (inv : CollectorInv middle)
    (adds : AddsOnly (· = backup.spec) middle.shared next)
    (unrelated : NoChildPending backup.spec middle) {id : Nat} {task : Task}
    (running : middle.threads id = some task) : Waiting task ∨ Cleared next task := by
  rcases inv id task running with waiting | cleared
  · exact .inl waiting
  · cases task with
    | ret value => exact .inr trivial
    | call op rest =>
        obtain ⟨child, rfl, _⟩ := cleared.1
        refine .inr (cleared.mono adds ?_)
        rintro spec rfl
        exact unrelated id child rest running

theorem collectorInv_of_call {id : Nat} {op : GcOp} {rest : op.Res → Task} {choice : GcChoice}
    {answer : op.Res} {backups : Backups} (inv : CollectorInv middle)
    (current : LooksCurrent op middle.shared)
    (running : middle.threads id = some (.call op rest))
    (executed : gcExec id op choice middle.shared = some (answer, backups)) :
    AddsNoSpec middle.shared backups ∧ Cleared backups (rest answer) := by
  rcases inv id _ running with waiting | cleared
  · obtain ⟨rfl, cleared⟩ := cleared_of_waiting waiting current executed
    exact ⟨addsNoSpec_of_quiet (.refl _), cleared⟩
  · obtain ⟨backup, rfl, _⟩ := cleared.1
    have adds := addsNoSpec_of_gcDelete executed
    exact ⟨adds, Cleared.mono (cleared.2 answer) adds fun _ fresh => fresh.elim⟩

theorem addsNoSpec_of_arrive {id : Nat} {thread : Nat} {task : Task}
    (arrived : gcArrive id backups = some (thread, task, next)) :
    AddsNoSpec backups next ∧ ∃ event, task = onBackupEvent event := by
  unfold gcArrive at arrived
  split at arrived
  · contradiction
  · rename_i event events eventsEq
    obtain ⟨handled, handles, equal⟩ := Option.map_eq_some_iff.mp arrived
    cases equal
    exact ⟨addsNoSpec_of_quiet (Resource.quiet_handle handles), event, rfl⟩

theorem collectorInv_of_env {move : GcMove} {backups : Backups} (inv : CollectorInv middle)
    (meets : CurrentCache (.env move) middle)
    (moved : gcEnv move middle.shared = some backups) {id : Nat} {task : Task}
    (running : middle.threads id = some task) : Waiting task ∨ Cleared backups task := by
  cases move with
  | deliver name => exact inv.mono (addsNoSpec_of_quiet (Resource.quiet_deliver moved)) running
  | create backup =>
      exact inv.of_noChildPending (addsOnly_of_create (eq_ok_of_toOption moved)) meets running
  | update backup =>
      have updated := eq_ok_of_toOption moved
      rcases meets with same | unrelated
      · exact inv.mono (addsOnly_of_update updated fun stored found => .inl (same stored found))
          running
      · exact inv.of_noChildPending (addsOnly_of_update updated fun _ _ => .inr rfl) unrelated
          running
  | delete name => exact inv.mono (addsNoSpec_of_delete (eq_ok_of_toOption moved)) running
  | collect name => exact inv.mono (addsNoSpec_of_collect moved) running

theorem collectorInv_step {action : Action Nat GcChoice GcMove Nat} (inv : CollectorInv middle)
    (meets : CurrentCache action middle) (stepped : collector.step action middle = some last) :
    CollectorInv last := by
  intro other task running
  rcases System.step_cases stepped with
    ⟨id, choice, op, rest, answer, rfl, atCall, executed, threadsEq⟩ |
    ⟨move, rfl, moved, threadsEq⟩ |
    ⟨arrival, id, started, rfl, arrived, _, threadsEq⟩ |
    ⟨id, answer, rfl, _, sharedEq, threadsEq⟩
  · obtain ⟨adds, cleared⟩ := collectorInv_of_call inv (meets op rest atCall) atCall executed
    rw [threadsEq] at running
    by_cases same : other = id
    · subst same
      rw [Function.update_self] at running
      cases running
      exact .inr cleared
    · rw [Function.update_of_ne same] at running
      exact inv.mono adds running
  · rw [threadsEq] at running
    exact collectorInv_of_env inv meets moved running
  · obtain ⟨adds, event, rfl⟩ := addsNoSpec_of_arrive arrived
    rw [threadsEq] at running
    by_cases same : other = id
    · subst same
      rw [Function.update_self] at running
      cases running
      exact waiting_onBackupEvent _ event
    · rw [Function.update_of_ne same] at running
      exact inv.mono adds running
  · have same : last.shared = middle.shared := sharedEq
    rw [threadsEq] at running
    by_cases gone : other = id
    · subst gone
      rw [Function.update_self] at running
      contradiction
    · rw [Function.update_of_ne gone] at running
      rw [same]
      exact inv other task running

/-- Along every run in which the cache is current at each lookup and no backup that is about to be
deleted is given a parent between the lookup and its delete, a backup is not restorable at the
moment the collector deletes it: neither as the collector saw it nor as it is stored. -/
theorem collected_backup_not_restorable (idle : ∀ id, start.threads id = none)
    (reached : collector.Reaches CurrentCache start config) {id : Nat} {choice : GcChoice}
    {rest : Except ApiErr Unit → Task}
    (issues : config.threads id = some (.call (.delete backup) rest))
    (meets : CurrentCache (.call id choice) config) :
    ¬ Restorable config.shared backup ∧
      ∀ stored, config.shared.get backup.name = some stored →
        ¬ Restorable config.shared stored := by
  have inv : CollectorInv config := by
    apply reached.invariant CollectorInv
    · intro id task running
      rw [idle id] at running
      contradiction
    · intro middle last action _ inv meets stepped
      exact collectorInv_step inv meets stepped
  have notRestorable : ¬ Restorable config.shared backup := by
    rcases inv id _ issues with ⟨other, isTask | isTask⟩ | cleared
    · unfold deleteOrphanedIncBackup at isTask
      split at isTask
      · contradiction
      · cases isTask
    · cases isTask
    · obtain ⟨same, sameEq, notRestorable⟩ := cleared.1
      cases sameEq
      exact notRestorable
  constructor
  · exact notRestorable
  · intro stored found restorable
    have current : LooksCurrent (.delete backup) config.shared := meets _ rest issues
    obtain ⟨volume, node, prev⟩ := current stored found
    exact notRestorable (restorable.congr volume.symm node.symm prev.symm)

/-- A full backup and an incremental one that builds on it. -/
def fullBackup : ZFSBackup where
  name := "full"
  spec := { volumeName := "v", ownerNodeID := "a", snapName := "s1" }
  status := .done

def incrementalBackup : ZFSBackup where
  name := "inc"
  spec := { volumeName := "v", ownerNodeID := "a", snapName := "s2", prevSnapName := "s1" }
  status := .done

/-- The collector starts: all of the given backups are stored and pending. -/
def restarted (stored : List ZFSBackup) : Config gcSig Backups Nat Unit where
  shared := stored.foldl (fun backups backup => backups.commit (.put backup)) .empty
  threads := fun _ => none

/-- The goroutine for the incremental backup is started and looks for the parent. -/
def orphanCheckRun : List (Action Nat GcChoice GcMove Nat) :=
  [.env (.deliver "inc"), .arrive 0, .call 0 {}]

/-- Whether a goroutine is about to delete a backup that passes a check. -/
def deletesSuch (check : ZFSBackup → Bool) : Option Task → Bool
  | some (.call (.delete backup) _) => check backup
  | _ => false

theorem exists_of_deletesSuch {check : ZFSBackup → Bool} {task : Option Task}
    (deletes : deletesSuch check task = true) :
    ∃ backup rest, task = some (.call (.delete backup) rest) ∧ check backup = true := by
  unfold deletesSuch at deletes
  split at deletes
  · exact ⟨_, _, rfl, deletes⟩
  · contradiction

/-- Nobody else writes, and the cache is current. -/
def OnlyCollector : Action Nat GcChoice GcMove Nat → Config gcSig Backups Nat Unit → Prop
  | .env (.create _), _ | .env (.update _), _ => False
  | action, config => System.AtCalls (fun _ op _ backups => LooksCurrent op backups) action config

instance (action : Action Nat GcChoice GcMove Nat) (config : Config gcSig Backups Nat Unit) :
    Decidable (OnlyCollector action config) :=
  match action with
  | .env (.create _) | .env (.update _) => inferInstanceAs (Decidable False)
  | .env (.deliver _) | .env (.delete _) | .env (.collect _)
  | .call _ _ | .arrive _ | .leave _ => by
      dsimp only [OnlyCollector]
      infer_instance

theorem currentCache_of_onlyCollector {action : Action Nat GcChoice GcMove Nat}
    (only : OnlyCollector action config) : CurrentCache action config := by
  cases action with
  | env move =>
      cases move with
      | create | update => exact only.elim
      | deliver | delete | collect => trivial
  | call | arrive | leave => exact only

theorem collected_backup_not_restorable_incrementalBackup :
    ∃ config backup rest, collector.Reaches CurrentCache (restarted [incrementalBackup]) config ∧
      config.threads 0 = some (.call (.delete backup) rest) ∧ backup.name = "inc" ∧
      ¬ Restorable config.shared backup ∧
      ∀ stored, config.shared.get backup.name = some stored →
        ¬ Restorable config.shared stored := by
  have ran : (collector.run OnlyCollector orphanCheckRun (restarted [incrementalBackup])).any
      (fun config => deletesSuch (fun backup => decide (backup.name = "inc")) (config.threads 0) &&
        decide (OnlyCollector (.call 0 {}) config)) = true := by
    decide +kernel
  obtain ⟨config, reached, checked⟩ := System.exists_reaches_of_run ran
  obtain ⟨deletes, meets⟩ := Bool.and_eq_true_iff.mp checked
  obtain ⟨backup, rest, issues, nameEq⟩ := exists_of_deletesSuch deletes
  have reached := reached.mono fun only => currentCache_of_onlyCollector only
  have meets := currentCache_of_onlyCollector (of_decide_eq_true meets)
  obtain ⟨notRestorable, stored⟩ :=
    collected_backup_not_restorable (fun _ => rfl) reached issues meets
  exact ⟨config, backup, rest, reached, issues, of_decide_eq_true nameEq, notRestorable, stored⟩

/-- After a start of the controller the incremental backup is added to the cache
before the full one, and its check runs first. -/
theorem restorable_backup_collected :
    ∃ config backup rest, collector.Reaches (fun _ _ => True)
        (restarted [incrementalBackup, fullBackup]) config ∧
      config.threads 0 = some (.call (.delete backup) rest) ∧ backup.name = "inc" ∧
      Restorable config.shared backup ∧
      ∃ stored ∈ config.shared.get "inc", Restorable config.shared stored := by
  have ran : (collector.run (fun _ _ => True) orphanCheckRun
      (restarted [incrementalBackup, fullBackup])).any (fun config =>
        deletesSuch (fun backup => decide (backup.name = "inc" ∧ Restorable config.shared backup ∧
          ∃ stored ∈ config.shared.get "inc", Restorable config.shared stored))
          (config.threads 0)) = true := by
    decide +kernel
  obtain ⟨config, reached, checked⟩ := System.exists_reaches_of_run ran
  obtain ⟨backup, rest, issues, holds⟩ := exists_of_deletesSuch checked
  exact ⟨config, backup, rest, reached, issues, of_decide_eq_true holds⟩

end Runs

end ZfsLocalPv.Properties

import ZfsLocalPv.ApiServer.Tickets
import ZfsLocalPv.Properties.Restores

/-!
# How often a volume is received

`zfs recv -F` rolls the volume back before it writes, so it matters how often a restore makes an
agent run it. Where the names of restores are not used again, agents do not restart and informers
do not list anew, the agents together run it once for a restore, and once more for each report
that the API server did not confirm.

The cache of the agent lags behind the store, so a worker may still see the restore as it was
before the report. That nobody looks at it then is a matter of the handlers: only the first
notification of a restore is wanted while the restore is Init.
-/

namespace ZfsLocalPv.RestoreAgent

open Api ApiServer Go Interaction Zfs

variable {worker other : Worker} {shared after : Shared} {op : Op} {rstr base : Restore}
  {log : List Entry} {name : String}

/-! ## Counts -/

/-- A run of `zfs recv` by the worker. -/
def Entry.receives (worker : Worker) : Entry → Bool
  | .received other _ _ _ => decide (other = worker)
  | _ => false

/-- A report of the worker that was not confirmed. -/
def Entry.unconfirmed (worker : Worker) : Entry → Bool
  | .unreported other => decide (other = worker)
  | _ => false

def receipts (worker : Worker) (log : List Entry) : Nat :=
  log.countP (Entry.receives worker)

def unconfirmed (worker : Worker) (log : List Entry) : Nat :=
  log.countP (Entry.unconfirmed worker)

theorem receipts_concat (worker : Worker) (log : List Entry) (entry : Entry) :
    receipts worker (log ++ [entry]) =
      receipts worker log + if entry.receives worker then 1 else 0 := by
  simp [receipts, List.countP_append, List.countP_cons]

theorem unconfirmed_concat (worker : Worker) (log : List Entry) (entry : Entry) :
    unconfirmed worker (log ++ [entry]) =
      unconfirmed worker log + if entry.unconfirmed worker then 1 else 0 := by
  simp [unconfirmed, List.countP_append, List.countP_cons]

/-- Nothing was received and no report was lost by the worker. -/
structure SameCounts (worker : Worker) (log more : List Entry) : Prop where
  receipts : receipts worker more = receipts worker log
  unconfirmed : unconfirmed worker more = unconfirmed worker log

theorem sameCounts_refl (worker : Worker) (log : List Entry) : SameCounts worker log log :=
  ⟨rfl, rfl⟩

theorem sameCounts_concat {entry : Entry} (received : entry.receives worker = false)
    (reported : entry.unconfirmed worker = false) : SameCounts worker log (log ++ [entry]) where
  receipts := by simp [receipts_concat, received]
  unconfirmed := by simp [unconfirmed_concat, reported]

/-- What one worker does is not counted for another. -/
theorem Effect.sameCounts (effect : Effect worker shared op after) (differs : other ≠ worker) :
    SameCounts other shared.log after.log := by
  cases effect with
  | same | written => exact sameCounts_refl _ _
  | receive =>
      exact sameCounts_concat (decide_eq_false (Ne.symm differs)) rfl
  | unreported | lost =>
      exact sameCounts_concat rfl (decide_eq_false (Ne.symm differs))

/-! ## Budgets -/

/-- A restore that makes its agent run `zfs recv`. -/
def Starts (rstr : Restore) : Prop :=
  Live rstr ∧ rstr.status = .init

/-- What the worker has received and may yet receive is within the limit. -/
def Metered (worker : Worker) (limit : Nat) (shared : Shared) : Prop :=
  shared.restores.Metered (wantsRestore worker.node) Starts worker.node worker.name
    (receipts worker shared.log) limit

/-- A restore of the worker's name was stored for the worker's node. -/
def Named (worker : Worker) (shared : Shared) : Prop :=
  ∃ rstr ∈ shared.restores.history,
    rstr.name = worker.name ∧ rstr.spec.ownerNodeID = worker.node

/-- The worker is asked to look at a restore only if it is of its node. -/
def Called (worker : Worker) (shared : Shared)
    (informer : Informer RestoreInfo ZFSRestoreStatus) : Prop :=
  0 < informer.tickets (wantsRestore worker.node) worker.name → Named worker shared

/-- Every trace of a name is of a restore that was stored, and leads to its one owner. -/
structure Owned (shared : Shared) : Prop where
  owners : ∀ first ∈ shared.restores.history, ∀ second ∈ shared.restores.history,
    first.name = second.name → first.spec.ownerNodeID = second.spec.ownerNodeID
  pending : ∀ node, ∀ change ∈ (shared.restores.informers node).pending,
    Named ⟨change.object.spec.ownerNodeID, change.name⟩ shared
  called : ∀ worker, Called worker shared (shared.restores.informers worker.node)
  logged : ∀ worker, 0 < receipts worker shared.log → Named worker shared

theorem Named.mono (named : Named worker shared)
    (grows : shared.restores.history ⊆ after.restores.history) : Named worker after := by
  obtain ⟨rstr, mem, about⟩ := named
  exact ⟨rstr, grows mem, about⟩

/-- The owner of a name is one node. -/
theorem Owned.node_eq (owned : Owned shared) (first : Named worker shared)
    (second : Named other shared) (same : worker.name = other.name) : worker = other := by
  obtain ⟨one, oneMem, oneName, oneOwner⟩ := first
  obtain ⟨two, twoMem, twoName, twoOwner⟩ := second
  have owners := owned.owners one oneMem two twoMem (oneName.trans (same.trans twoName.symm))
  apply Worker.ext _ same
  rw [← oneOwner, ← twoOwner, owners]

/-- A name that was never stored has left no trace. -/
theorem Owned.untouched (owned : Owned shared)
    (fresh : ∀ old ∈ shared.restores.history, old.name ≠ worker.name) :
    (shared.restores.informers worker.node).cache worker.name = none ∧
      (shared.restores.informers worker.node).line worker.name = [] ∧
      (shared.restores.informers worker.node).tickets (wantsRestore worker.node) worker.name = 0 ∧
      receipts worker shared.log = 0 := by
  have unnamed (node : String) : ¬ Named ⟨node, worker.name⟩ shared := by
    rintro ⟨old, mem, named, _⟩
    exact fresh old mem named
  refine ⟨?_, ?_, ?_, ?_⟩
  · rw [Option.eq_none_iff_forall_ne_some]
    intro old cached
    have tracked := shared.restores.tracked worker.node
    exact fresh old (tracked.cachedSeen _ old cached) (tracked.named _ old cached)
  · rw [List.eq_nil_iff_forall_not_mem]
    intro change mem
    obtain ⟨pending, named⟩ := Informer.mem_pending_of_line mem
    have traced := owned.pending worker.node change pending
    rw [named] at traced
    exact unnamed _ traced
  · exact Nat.eq_zero_of_not_pos fun called => unnamed _ (owned.called worker called)
  · exact Nat.eq_zero_of_not_pos fun received => unnamed _ (owned.logged worker received)

/-! ## Steps that keep the traces -/

theorem Owned.record {entry : Entry} (owned : Owned shared)
    (received : ∀ worker, entry.receives worker = true → Named worker shared) :
    Owned (shared.record entry) where
  owners := owned.owners
  pending := owned.pending
  called := owned.called
  logged := by
    intro worker positive
    rw [show (shared.record entry).log = shared.log ++ [entry] from rfl,
      receipts_concat] at positive
    by_cases receives : entry.receives worker = true
    · exact received worker receives
    · rw [if_neg receives] at positive
      exact owned.logged worker positive

/-- A step of the informers keeps the traces if new tickets are for the owner. -/
theorem Owned.quiet {next : Resource RestoreInfo ZFSRestoreStatus} (owned : Owned shared)
    (quiet : shared.restores.Quiet next)
    (called : ∀ worker, Called worker shared (next.informers worker.node)) :
    Owned (shared.setRestores next) := by
  have kept {worker : Worker} (named : Named worker shared) :
      Named worker (shared.setRestores next) :=
    named.mono (quiet.advances.history)
  constructor
  · intro first firstMem second secondMem
    rw [show (shared.setRestores next).restores.history = _ from quiet.history]
      at firstMem secondMem
    exact owned.owners first firstMem second secondMem
  · exact fun node change mem => kept (owned.pending node change (quiet.mem_pending mem))
  · exact fun worker positive => kept (called worker positive)
  · exact fun worker positive => kept (owned.logged worker positive)

/-- A change of a restore that was stored, or of a new name. -/
def Traced (change : Watch RestoreInfo ZFSRestoreStatus) (shared : Shared) : Prop :=
  Named ⟨change.object.spec.ownerNodeID, change.name⟩ shared ∨
    (∃ rstr, change = .put rstr) ∧ ∀ old ∈ shared.restores.history, old.name ≠ change.name

theorem mem_history_commit {change : Watch RestoreInfo ZFSRestoreStatus}
    {restores : Resource RestoreInfo ZFSRestoreStatus}
    (mem : rstr ∈ (restores.commit change).history) :
    rstr ∈ restores.history ∨
      change.name = rstr.name ∧ change.object.spec.ownerNodeID = rstr.spec.ownerNodeID := by
  rcases List.mem_append.mp mem with old | new
  · exact .inl old
  · cases change with
    | put object =>
        obtain rfl := List.mem_singleton.mp new
        exact .inr ⟨rfl, rfl⟩
    | remove object => contradiction

theorem Owned.commit {change : Watch RestoreInfo ZFSRestoreStatus} (owned : Owned shared)
    (traced : Traced change shared) :
    Owned (shared.setRestores (shared.restores.commit change)) := by
  have kept {worker : Worker} (named : Named worker shared) :
      Named worker (shared.setRestores (shared.restores.commit change)) :=
    named.mono fun _ old => List.mem_append_left _ old
  -- a new version has the owner of the old ones
  have agrees {old : Restore} (mem : old ∈ shared.restores.history)
      (named : old.name = change.name) :
      old.spec.ownerNodeID = change.object.spec.ownerNodeID := by
    rcases traced with ⟨first, firstMem, firstName, firstOwner⟩ | ⟨_, fresh⟩
    · exact (owned.owners old mem first firstMem (named.trans firstName.symm)).trans firstOwner
    · exact absurd named (fresh old mem)
  constructor
  · intro first firstMem second secondMem same
    rcases mem_history_commit firstMem with firstOld | ⟨firstName, firstOwner⟩
    · rcases mem_history_commit secondMem with secondOld | ⟨secondName, secondOwner⟩
      · exact owned.owners first firstOld second secondOld same
      · exact (agrees firstOld (same.trans secondName.symm)).trans secondOwner
    · rcases mem_history_commit secondMem with secondOld | ⟨_, secondOwner⟩
      · exact (firstOwner.symm.trans (agrees secondOld (same.symm.trans firstName.symm)).symm)
      · exact firstOwner.symm.trans secondOwner
  · intro node other mem
    rcases List.mem_append.mp mem with old | new
    · exact kept (owned.pending node other old)
    · obtain rfl := List.mem_singleton.mp new
      rw [Watch.name_stamp]
      rcases traced with named | ⟨⟨rstr, rfl⟩, _⟩
      · cases change with
        | put object | remove object => exact kept named
      · exact ⟨_, List.mem_append_right _ (.head _), rfl, rfl⟩
  · exact fun worker positive => kept (owned.called worker positive)
  · exact fun worker positive => kept (owned.logged worker positive)

theorem Owned.update {next : Resource RestoreInfo ZFSRestoreStatus} (owned : Owned shared)
    (named : Named ⟨rstr.spec.ownerNodeID, rstr.name⟩ shared)
    (updated : shared.restores.update rstr = .ok next) : Owned (shared.setRestores next) := by
  obtain ⟨old, _, _, ⟨rfl, _⟩ | ⟨rfl, _⟩ | ⟨rfl, _⟩⟩ := Resource.update_eq_ok updated
  · exact owned
  · exact owned.commit (.inl named)
  · exact owned.commit (.inl named)

theorem Owned.create {next : Resource RestoreInfo ZFSRestoreStatus} (owned : Owned shared)
    (fresh : ∀ old ∈ shared.restores.history, old.name ≠ rstr.name)
    (created : shared.restores.create rstr = .ok next) : Owned (shared.setRestores next) := by
  obtain ⟨_, rfl⟩ := Resource.create_eq_ok created
  apply owned.commit
  exact .inr ⟨⟨_, rfl⟩, fresh⟩

/-- What is stored was stored for its owner. -/
theorem named_of_get (stored : shared.restores.get name = some rstr) :
    Named ⟨rstr.spec.ownerNodeID, rstr.name⟩ shared :=
  ⟨rstr, Resource.mem_history_of_get stored, rfl, rfl⟩

theorem Owned.delete {next : Resource RestoreInfo ZFSRestoreStatus} (owned : Owned shared)
    (deleted : shared.restores.delete name = .ok next) : Owned (shared.setRestores next) := by
  obtain ⟨old, stored, ⟨rfl, _⟩ | ⟨rfl, _⟩⟩ := Resource.delete_eq_ok deleted
  · exact owned
  · have named := named_of_get stored
    exact owned.commit (.inl named)

theorem Owned.collect {next : Resource RestoreInfo ZFSRestoreStatus} (owned : Owned shared)
    (collected : shared.restores.collect name = some next) : Owned (shared.setRestores next) := by
  obtain ⟨old, stored, _, outcome⟩ := Resource.collect_eq_some collected
  have named := named_of_get stored
  rcases outcome with ⟨rfl, _⟩ | rfl
  · exact owned.commit (.inl named)
  · exact owned.commit (.inl named)

/-- The handlers want only what is of their node. -/
theorem owner_of_wants {node : String} {view : View RestoreInfo ZFSRestoreStatus}
    {change : Watch RestoreInfo ZFSRestoreStatus}
    (wanted : wantsRestore node (Informer.notification view change) = true) :
    change.object.spec.ownerNodeID = node := by
  cases change with
  | put rstr =>
      simp only [Informer.notification] at wanted
      split at wanted
      · exact (of_decide_eq_true wanted).symm
      · rw [wantsRestore, updateRestore, Bool.and_eq_true] at wanted
        exact (of_decide_eq_true wanted.1).symm
  | remove rstr => exact (of_decide_eq_true wanted).symm

/-- A ticket is new, or there was one before. -/
theorem called_of_notify {informer next : Informer RestoreInfo ZFSRestoreStatus}
    {event : Event RestoreInfo ZFSRestoreStatus} (owned : Owned shared)
    (informerEq : informer = shared.restores.informers worker.node)
    (queueEq : next.queue = informer.queue) (eventsEq : next.events = informer.events ++ [event])
    (fresh : event.name = worker.name → wantsRestore worker.node event = true →
      Named worker shared) : Called worker shared next := by
  intro positive
  subst informerEq
  rw [Informer.tickets_notify queueEq eventsEq] at positive
  by_cases called : Informer.calling (wantsRestore worker.node) worker.name event = true
  · rw [Informer.calling, Bool.and_eq_true] at called
    exact fresh (of_decide_eq_true called.1) called.2
  · rw [if_neg called] at positive
    exact owned.called worker positive

theorem Owned.deliver {node : String} {next : Resource RestoreInfo ZFSRestoreStatus}
    (owned : Owned shared) (delivered : shared.restores.deliver node name = some next) :
    Owned (shared.setRestores next) := by
  apply owned.quiet (Resource.quiet_deliver delivered)
  intro worker
  apply Resource.informer_of_move (owned.called worker) delivered
  intro informer _ stepped
  obtain ⟨change, earlier, later, replayed, eventsEq, queueEq⟩ := Informer.deliver_notifies stepped
  apply called_of_notify owned rfl queueEq eventsEq
  intro named wanted
  have traced := owned.pending worker.node change replayed.change_mem
  rw [Informer.name_notification] at named
  rwa [owner_of_wants wanted, named] at traced

theorem Owned.resync {node : String} {next : Resource RestoreInfo ZFSRestoreStatus}
    (owned : Owned shared) (resynced : shared.restores.resync node name = some next) :
    Owned (shared.setRestores next) := by
  apply owned.quiet (Resource.quiet_resync resynced)
  intro worker
  apply Resource.informer_of_move (owned.called worker) resynced
  intro informer _ stepped
  obtain ⟨shown, cached, rfl⟩ := Option.map_eq_some_iff.mp stepped
  refine called_of_notify owned rfl rfl rfl fun named wanted => ?_
  rw [wantsRestore, updateRestore, Bool.and_eq_true] at wanted
  have seen := (shared.restores.tracked worker.node).cachedSeen name shown cached
  exact ⟨shown, seen, named, (of_decide_eq_true wanted.1).symm⟩

theorem Owned.handle {node : String} {next : Resource RestoreInfo ZFSRestoreStatus}
    (owned : Owned shared) (handled : shared.restores.handle node (wantsRestore node) = some next) :
    Owned (shared.setRestores next) := by
  apply owned.quiet (Resource.quiet_handle handled)
  intro worker
  apply Resource.informer_of_move (owned.called worker) handled
  rintro informer rfl stepped positive
  exact owned.called worker (positive.trans_le (Informer.tickets_handle_le _ stepped))

theorem Owned.take {next : Resource RestoreInfo ZFSRestoreStatus} (owned : Owned shared)
    (taken : shared.restores.take other.node other.name = some next) :
    Owned (shared.setRestores next) := by
  apply owned.quiet (Resource.quiet_take taken)
  intro worker
  apply Resource.informer_of_move (owned.called worker) taken
  rintro informer same stepped positive
  exact owned.called worker (positive.trans_le (Informer.tickets_take_le _ _ stepped))

theorem Owned.requeue (owned : Owned shared) (named : Named other shared) :
    Owned (shared.setRestores (shared.restores.requeue other.node other.name)) := by
  apply owned.quiet (Resource.quiet_requeue _ _ _)
  intro worker
  apply Resource.informer_of_requeue (owned.called worker)
  intro same positive
  by_cases isSame : other.name = worker.name
  · rwa [Worker.ext same isSame] at named
  · exact owned.called worker
      (positive.trans_le (Informer.tickets_enqueue_of_ne _ _ isSame))

/-! ## Steps that keep the budgets -/

theorem calm_wantsRestore (node : String) (starts : Starts rstr) :
    wantsRestore node (.update rstr rstr) = false := by
  have live : rstr.deletionTimestamp = false := starts.1
  simp [wantsRestore, updateRestore, live]

/-- A step of others: it is not counted for the worker, and keeps within its budgets. A budget
with something left is kept even if the name is new. -/
structure Spares (worker : Worker) (shared after : Shared) : Prop where
  counts : SameCounts worker shared.log after.log
  metered : ∀ limit, Named worker shared ∨ receipts worker shared.log < limit →
    Metered worker limit shared → Metered worker limit after

/-- The budget of a worker. -/
structure Budgeted (worker : Worker) (shared : Shared) : Prop where
  metered : Metered worker (unconfirmed worker shared.log + 1) shared
  bound : receipts worker shared.log ≤ unconfirmed worker shared.log + 1

theorem Budgeted.spares (budgeted : Budgeted worker shared) (owned : Owned shared)
    (spares : Spares worker shared after) : Budgeted worker after where
  metered := by
    rw [spares.counts.unconfirmed]
    apply spares.metered _ _ budgeted.metered
    by_cases received : 0 < receipts worker shared.log
    · exact .inl (owned.logged worker received)
    · exact .inr (by omega)
  bound := by
    rw [spares.counts.unconfirmed, spares.counts.receipts]
    exact budgeted.bound

theorem metered_of_counts {limit : Nat} (counts : SameCounts worker shared.log after.log)
    (metered : after.restores.Metered (wantsRestore worker.node) Starts worker.node worker.name
      (receipts worker shared.log) limit) : Metered worker limit after := by
  rwa [Metered, counts.receipts]

theorem spares_of_metered (counts : SameCounts worker shared.log after.log)
    (metered : ∀ limit, Metered worker limit shared →
      after.restores.Metered (wantsRestore worker.node) Starts worker.node worker.name
        (receipts worker shared.log) limit) : Spares worker shared after :=
  ⟨counts, fun limit _ before => metered_of_counts counts (metered limit before)⟩

/-- A new restore is within a budget that has something left. -/
theorem spares_of_create {next : Resource RestoreInfo ZFSRestoreStatus} (owned : Owned shared)
    (fresh : ∀ old ∈ shared.restores.history, old.name ≠ rstr.name)
    (created : shared.restores.create rstr = .ok next) (worker : Worker) :
    Spares worker shared ((shared.setRestores next).record (.created rstr)) := by
  refine ⟨sameCounts_concat rfl rfl, fun limit known before => ?_⟩
  apply metered_of_counts (sameCounts_concat rfl rfl)
  apply Resource.Metered.create before _ created
  intro named
  rw [named] at fresh
  have untouched := owned.untouched fresh
  refine ⟨untouched.1, untouched.2.1, ?_⟩
  rcases known with ⟨old, mem, oldName, _⟩ | below
  · exact absurd oldName (fresh old mem)
  · rwa [untouched.2.2.1, Nat.zero_add]

/-- The status that a worker reports does not start anything. -/
theorem Effect.metered {limit spent : Nat} (effect : Effect worker shared op after)
    (tried : ∀ rstr, op = .updateRestore rstr → rstr.status ≠ .init)
    (metered : shared.restores.Metered (wantsRestore other.node) Starts other.node other.name
      spent limit) :
    after.restores.Metered (wantsRestore other.node) Starts other.node other.name spent limit := by
  rcases effect.restores with same | ⟨rstr, rfl, accepted⟩
  · rwa [same]
  · exact metered.update (fun _ _ _ _ starts => tried rstr rfl starts.2) accepted

/-- The names that the backup tool uses are new. -/
def Action.creation : Action Worker Choice Move Arrival → Option Restore
  | .env (.create rstr) => some rstr
  | _ => none

def NewNames (action : Action Worker Choice Move Arrival)
    (config : Config signature Shared Worker (Except Err Unit)) : Prop :=
  ∀ rstr ∈ Action.creation action, ∀ old ∈ config.shared.restores.history, old.name ≠ rstr.name

instance (action : Action Worker Choice Move Arrival)
    (config : Config signature Shared Worker (Except Err Unit)) :
    Decidable (NewNames action config) :=
  inferInstanceAs (Decidable (∀ rstr ∈ Action.creation action, _))

theorem once_env {config : Config signature Shared Worker (Except Err Unit)} {move : Move}
    (meets : NewNames (.env move) config) (owned : Owned config.shared)
    (moved : env move config.shared = some after) :
    Owned after ∧ config.shared.restores.Advances after.restores ∧
      ∀ worker, Spares worker config.shared after := by
  cases move with
  | deliver node name =>
      obtain ⟨next, stepped, rfl⟩ := Option.map_eq_some_iff.mp moved
      refine ⟨owned.deliver stepped, (Resource.quiet_deliver stepped).advances, fun worker => ?_⟩
      exact spares_of_metered ⟨rfl, rfl⟩ fun _ before => before.deliver stepped
  | resync node name =>
      obtain ⟨next, stepped, rfl⟩ := Option.map_eq_some_iff.mp moved
      refine ⟨owned.resync stepped, (Resource.quiet_resync stepped).advances, fun worker => ?_⟩
      exact spares_of_metered ⟨rfl, rfl⟩ fun _ before =>
        before.resync (fun _ => calm_wantsRestore _) stepped
  | handle node =>
      obtain ⟨next, stepped, rfl⟩ := Option.map_eq_some_iff.mp moved
      refine ⟨owned.handle stepped, (Resource.quiet_handle stepped).advances, fun worker => ?_⟩
      exact spares_of_metered ⟨rfl, rfl⟩ fun _ before => before.handle stepped
  | collect name =>
      obtain ⟨next, stepped, rfl⟩ := Option.map_eq_some_iff.mp moved
      refine ⟨owned.collect stepped, Resource.advances_of_collect stepped, fun worker => ?_⟩
      exact spares_of_metered ⟨rfl, rfl⟩ fun _ before =>
        before.collect (fun _ starts => starts.1) stepped
  | create rstr =>
      obtain ⟨next, stepped, rfl⟩ := Option.map_eq_some_iff.mp moved
      have accepted := eq_ok_of_toOption stepped
      have fresh := meets rstr rfl
      exact ⟨(owned.create fresh accepted).record nofun, Resource.advances_of_create accepted,
        spares_of_create owned fresh accepted⟩
  | delete name =>
      obtain ⟨next, stepped, rfl⟩ := Option.map_eq_some_iff.mp moved
      have accepted := eq_ok_of_toOption stepped
      refine ⟨(owned.delete accepted).record nofun, Resource.advances_of_delete accepted,
        fun worker => ?_⟩
      exact spares_of_metered (sameCounts_concat rfl rfl) fun _ before =>
        before.delete (fun _ starts => starts.1) accepted
  | setVolumes volumes =>
      obtain rfl := Option.some.inj moved
      exact ⟨⟨owned.owners, owned.pending, owned.called, owned.logged⟩, .refl _, fun worker =>
        spares_of_metered ⟨rfl, rfl⟩ fun _ before => before⟩

/-! ## The contract -/

/-- A worker that has taken its name may receive once within the budget. -/
structure Licensed (worker : Worker) (shared : Shared) : Prop where
  named : Named worker shared
  metered : Metered worker (unconfirmed worker shared.log) shared

/-- A worker that has seen a restore to start with. -/
structure Ready (worker : Worker) (shared : Shared) : Prop extends Licensed worker shared where
  bound : receipts worker shared.log ≤ unconfirmed worker shared.log

/-- The restore is the worker's. -/
structure About (worker : Worker) (rstr : Restore) : Prop where
  name : rstr.name = worker.name
  owner : rstr.spec.ownerNodeID = worker.node

/-- A worker receives only while it has a licence, and reports that a restore was tried. -/
def Pays (worker : Worker) (shared : Shared) : Op → Prop
  | .receive _ _ _ _ => Ready worker shared
  | .updateRestore rstr => Named worker shared ∧ About worker rstr ∧ rstr.status ≠ .init
  | _ => True

/-- Others do not use up the budget of a worker. -/
structure Leaves (worker : Worker) (shared after : Shared) : Prop where
  restores : shared.restores.Advances after.restores
  counts : SameCounts worker shared.log after.log
  metered : ∀ limit, Named worker shared → Metered worker limit shared →
    Metered worker limit after

def receivingOnce : Contract agents where
  Inv := fun shared => Owned shared ∧ ∀ worker, Budgeted worker shared
  Rely := Leaves
  Guard := fun _ _ _ _ => True
  Ok := fun worker op shared => Pays worker shared op
  Post := fun worker result shared => result ≠ .ok () → Licensed worker shared
  rely_refl := fun _ _ => ⟨.refl _, ⟨rfl, rfl⟩, fun _ _ metered => metered⟩
  rely_trans := fun first second => {
    restores := first.restores.trans second.restores
    counts := ⟨second.counts.receipts.trans first.counts.receipts,
      second.counts.unconfirmed.trans first.counts.unconfirmed⟩
    metered := fun limit named metered =>
      second.metered limit (named.mono first.restores.history) (first.metered limit named metered) }

theorem Leaves.named (leaves : Leaves worker shared after) (named : Named worker shared) :
    Named worker after :=
  named.mono leaves.restores.history

theorem Leaves.licensed (leaves : Leaves worker shared after) (licensed : Licensed worker shared) :
    Licensed worker after where
  named := leaves.named licensed.named
  metered := by
    rw [leaves.counts.unconfirmed]
    exact leaves.metered _ licensed.named licensed.metered

theorem Leaves.ready (leaves : Leaves worker shared after) (ready : Ready worker shared) :
    Ready worker after where
  toLicensed := leaves.licensed ready.toLicensed
  bound := by
    rw [leaves.counts.receipts, leaves.counts.unconfirmed]
    exact ready.bound

section Programs

variable {α : Type} {polls : Nat}

/-- What others cannot take back lasts while a worker neither receives nor reports. -/
theorem once_stable {Fact : Shared → Prop} {program : Routine α} (calls : program.Calls Silent)
    (lasts : ∀ {before after}, Leaves worker before after → Fact before → Fact after)
    (holds : Fact shared) : receivingOnce.Keeps worker program (fun _ => Fact) shared := by
  apply Contract.keeps_of_stable calls
  · exact lasts
  · intro op now silent _ _
    cases op with
    | receive | updateRestore => exact silent.elim
    | cachedRestore | getVolume | timer | stat | generateUUID => trivial
  · intro op choice now answer after silent _ _ fact executed
    rw [exec_silent silent executed]
    exact fact
  · exact holds

theorem once_fillVolSpec (about : About worker base) (ready : Ready worker shared) :
    receivingOnce.Keeps worker (fillVolSpec base) (fun result now =>
      Ready worker now ∧ ∀ filled, result = .ok filled → About worker filled) shared := by
  unfold fillVolSpec
  split
  · apply Contract.Keeps.bind
    apply (once_stable (calls_getZFSVolume _) (fun leaves => leaves.ready) ready).mono
    intro found now _ ready
    cases found with
    | error err => exact fun later leaves _ => ⟨leaves.ready ready, nofun⟩
    | ok vol =>
        intro later leaves _
        refine ⟨leaves.ready ready, ?_⟩
        rintro _ ⟨⟩
        exact ⟨about.name, about.owner⟩
  · intro later leaves _
    refine ⟨leaves.ready ready, ?_⟩
    rintro _ ⟨⟩
    exact about

theorem once_receiveVolume {restore : ZFSRestore} (ready : Ready worker shared) :
    receivingOnce.Keeps worker (receiveVolume polls worker.node restore)
      (fun _ now => Named worker now) shared := by
  unfold receiveVolume
  split
  · exact fun later leaves _ => leaves.named ready.named
  · rename_i ncArgs recvArgs _
    intro now leaves _
    have ready := leaves.ready ready
    refine ⟨ready, fun choice answer after _ executed => ?_⟩
    have effect :
        Effect worker now (.receive worker.node ncArgs recvArgs (volumeOf restore)) after :=
      exec_effect executed
    have named : Named worker after := ready.named.mono effect.advances.history
    cases answer with
    | error out => exact fun later leaves _ => leaves.named named
    | ok done =>
        exact once_stable (calls_renewUUID polls worker.node _) (fun leaves => leaves.named) named

theorem once_createRestore (about : About worker base) (ready : Ready worker shared) :
    receivingOnce.Keeps worker (createRestore polls worker.node base)
      (fun made now => About worker made.1 ∧ Named worker now) shared := by
  apply Contract.Keeps.bind
  apply (once_fillVolSpec about ready).mono
  intro result now _ filled
  cases result with
  | error err => exact fun later leaves _ => ⟨about, leaves.named filled.1.named⟩
  | ok rstr =>
      apply Contract.Keeps.bind
      apply (once_receiveVolume filled.1).mono
      exact fun result now _ named later leaves _ => ⟨filled.2 rstr rfl, leaves.named named⟩

/-- A report that is not confirmed extends the budget, so the worker may try again. -/
theorem once_updateRestoreInfo {status : ZFSRestoreStatus} (about : About worker rstr)
    (named : Named worker shared) (tried : status ≠ .init) :
    receivingOnce.Keeps worker (updateRestoreInfo rstr status)
      (fun result now => result ≠ .ok () → Licensed worker now) shared := by
  intro now leaves inv
  have named := leaves.named named
  refine ⟨⟨named, ⟨about.name, about.owner⟩, tried⟩, ?_⟩
  intro choice answer after _ executed later leaves' _ refused
  apply leaves'.licensed
  have effect : Effect worker now (.updateRestore { rstr with status := status }) after :=
    exec_effect executed
  have metered : after.restores.Metered (wantsRestore worker.node) Starts worker.node worker.name
      (receipts worker now.log) (unconfirmed worker now.log + 1) := by
    apply effect.metered _ (inv.2 worker).metered
    rintro _ ⟨⟩
    exact tried
  have logEq : after.log = now.log ++ [.unreported worker] := by
    rcases reportAnswer_cases (Option.some.inj executed) with
      ⟨_, rfl⟩ | ⟨succeeded, _⟩ | ⟨_, next, accepted, rfl⟩
    · rfl
    · exact absurd succeeded refused
    · rfl
  refine ⟨named.mono effect.advances.history, ?_⟩
  rw [Metered, logEq, receipts_concat, unconfirmed_concat]
  simpa [Entry.receives, Entry.unconfirmed] using metered

theorem once_syncRestore (about : About worker base) (licensed : Licensed worker shared)
    (bound : Starts base → receipts worker shared.log ≤ unconfirmed worker shared.log) :
    receivingOnce.Keeps worker (syncRestore polls worker.node base)
      (fun result now => result ≠ .ok () → Licensed worker now) shared := by
  have done : receivingOnce.Keeps worker (pure (.ok ()) : Routine (Except Err Unit))
      (fun result now => result ≠ .ok () → Licensed worker now) shared :=
    fun later leaves _ refused => absurd rfl refused
  unfold syncRestore
  split
  · exact done
  · rename_i alive
    split
    · rename_i isInit
      apply Contract.Keeps.bind
      apply (once_createRestore about ⟨licensed, bound ⟨eq_false_of_ne_true alive, isInit⟩⟩).mono
      rintro ⟨filled, result⟩ now _ ⟨about, named⟩
      cases result with
      | ok received => exact once_updateRestoreInfo about named nofun
      | error err => exact once_updateRestoreInfo about named nofun
    · exact done

theorem once_syncHandler (licensed : Licensed worker shared) :
    receivingOnce.Keeps worker (syncHandler polls worker.node worker.name)
      (fun result now => result ≠ .ok () → Licensed worker now) shared := by
  intro now leaves inv
  have licensed := leaves.licensed licensed
  refine ⟨trivial, fun choice answer after _ executed => ?_⟩
  obtain ⟨cached, rfl⟩ := Prod.mk.inj (Option.some.inj executed)
  cases answer with
  | none => exact fun later _ _ refused => absurd rfl refused
  | some base =>
      have tracked := now.restores.tracked worker.node
      have named := tracked.named _ base cached
      have stored : Named ⟨base.spec.ownerNodeID, base.name⟩ now :=
        ⟨base, tracked.cachedSeen _ base cached, rfl, rfl⟩
      have same := inv.1.node_eq stored licensed.named named
      apply once_syncRestore ⟨named, congrArg Worker.node same⟩ licensed
      intro starts
      have bound := licensed.metered.balance base cached starts
      omega

end Programs

/-! ## Runs -/

theorem Effect.owned (effect : Effect worker shared op after) (owned : Owned shared)
    (pays : Pays worker shared op) : Owned after := by
  cases effect with
  | same => exact owned
  | receive node ncArgs args volume succeeded =>
      apply owned.record
      intro other received
      rw [← of_decide_eq_true received]
      exact pays.named
  | unreported rstr => exact owned.record nofun
  | written rstr accepted =>
      apply owned.update _ accepted
      rw [pays.2.1.name, pays.2.1.owner]
      exact pays.1
  | lost rstr accepted =>
      have named : Named ⟨rstr.spec.ownerNodeID, rstr.name⟩ shared := by
        rw [pays.2.1.name, pays.2.1.owner]
        exact pays.1
      exact (owned.update named accepted).record nofun

theorem Pays.tried (pays : Pays worker shared op) :
    ∀ rstr, op = .updateRestore rstr → rstr.status ≠ .init := by
  rintro rstr rfl
  exact pays.2.2

theorem Effect.spares (effect : Effect worker shared op after) (pays : Pays worker shared op)
    (differs : other ≠ worker) : Spares other shared after :=
  spares_of_metered (effect.sameCounts differs) fun _ before => effect.metered pays.tried before

theorem budgeted_of_refused (logEq : after.log = shared.log ++ [.unreported worker])
    (metered : after.restores.Metered (wantsRestore worker.node) Starts worker.node worker.name
      (receipts worker shared.log) (unconfirmed worker shared.log + 1))
    (bound : receipts worker shared.log ≤ unconfirmed worker shared.log + 1) :
    Budgeted worker after := by
  have receiptsEq : receipts worker after.log = receipts worker shared.log := by
    simp [logEq, receipts_concat, Entry.receives]
  have unconfirmedEq : unconfirmed worker after.log = unconfirmed worker shared.log + 1 := by
    simp [logEq, unconfirmed_concat, Entry.unconfirmed]
  constructor
  · rw [Metered, receiptsEq, unconfirmedEq]
    exact metered.mono (by omega)
  · omega

/-- What a worker does is within its own budget. -/
theorem Effect.budgeted (effect : Effect worker shared op after)
    (budgeted : Budgeted worker shared) (pays : Pays worker shared op) :
    Budgeted worker after := by
  have metered := effect.metered pays.tried budgeted.metered
  cases effect with
  | same => exact budgeted
  | receive node ncArgs args volume succeeded =>
      have licensed : Ready worker shared := pays
      have received : receipts worker (shared.record (.received worker volume args succeeded)).log =
          receipts worker shared.log + 1 := by
        simp [Shared.record, receipts_concat, Entry.receives]
      have same : unconfirmed worker (shared.record (.received worker volume args succeeded)).log =
          unconfirmed worker shared.log := by
        simp [Shared.record, unconfirmed_concat, Entry.unconfirmed]
      constructor
      · rw [Metered, received, same]
        exact licensed.metered.mono (by omega)
      · have bound := licensed.bound
        omega
  | unreported rstr => exact budgeted_of_refused rfl metered budgeted.bound
  | written rstr accepted => exact ⟨metered, budgeted.bound⟩
  | lost rstr accepted => exact budgeted_of_refused rfl metered budgeted.bound

section Runs

variable {start config : Config signature Shared Worker (Except Err Unit)}

theorem Spares.leaves (spares : Spares worker shared after)
    (advances : shared.restores.Advances after.restores) : Leaves worker shared after :=
  ⟨advances, spares.counts, fun limit named => spares.metered limit (.inl named)⟩

theorem once_sound : receivingOnce.Sound NewNames where
  guard := fun _ _ => trivial
  call := by
    rintro worker op choice before answer after ⟨owned, budgeted⟩ pays _ executed
    have effect := exec_effect executed
    refine ⟨⟨effect.owned owned pays, fun other => ?_⟩, fun other differs =>
      (effect.spares pays differs).leaves effect.advances⟩
    by_cases same : other = worker
    · subst same
      exact effect.budgeted (budgeted other) pays
    · exact (budgeted other).spares owned (effect.spares pays same)
  env := by
    rintro config move after meets ⟨owned, budgeted⟩ moved
    obtain ⟨ownedAfter, advances, spares⟩ := once_env meets owned moved
    exact ⟨⟨ownedAfter, fun worker => (budgeted worker).spares owned (spares worker)⟩,
      fun worker => (spares worker).leaves advances⟩
  arrive := by
    rintro config arrival worker program after _ ⟨owned, budgeted⟩ arrived _
    obtain ⟨next, taken, equal⟩ := Option.map_eq_some_iff.mp arrived
    cases equal
    have metered : Metered arrival.worker (unconfirmed arrival.worker config.shared.log)
        (config.shared.setRestores next) := (budgeted arrival.worker).metered.take_self taken
    have called : Named arrival.worker config.shared := by
      obtain ⟨_, _, _, informer, stepped, _⟩ := Resource.move_eq_some taken
      have used := Informer.tickets_take_self (wantsRestore arrival.worker.node) stepped
      exact owned.called arrival.worker (by omega)
    have spares (other : Worker) (differs : other ≠ arrival.worker) :
        Spares other config.shared (config.shared.setRestores next) := by
      refine spares_of_metered ⟨rfl, rfl⟩ fun limit before => ?_
      apply before.take _ taken
      rintro ⟨node, name⟩
      exact differs (Worker.ext node.symm name.symm)
    have advances := (Resource.quiet_take taken).advances
    refine ⟨⟨owned.take taken, fun other => ?_⟩, fun other differs =>
      (spares other differs).leaves advances, ?_⟩
    · by_cases same : other = arrival.worker
      · subst same
        exact ⟨metered.mono (Nat.le_succ _), (budgeted _).bound⟩
      · exact (budgeted other).spares owned (spares other same)
    · exact once_syncHandler ⟨called.mono advances.history, metered⟩
  leave := by
    rintro config worker result _ ⟨owned, budgeted⟩ finished _
    cases result with
    | ok done => exact ⟨⟨owned, budgeted⟩, fun other _ => receivingOnce.rely_refl other _⟩
    | error err =>
        have licensed := finished nofun
        have spares (other : Worker) (differs : other ≠ worker) :
            Spares other config.shared (leave worker (.error err) config.shared) := by
          refine spares_of_metered ⟨rfl, rfl⟩ fun limit before => ?_
          apply before.requeue
          rintro ⟨node, name⟩
          exact differs (Worker.ext node.symm name.symm)
        refine ⟨⟨owned.requeue licensed.named, fun other => ?_⟩, fun other differs =>
          (spares other differs).leaves (Resource.quiet_requeue _ _ _).advances⟩
        by_cases same : other = worker
        · subst same
          exact ⟨licensed.metered.requeue_self, (budgeted other).bound⟩
        · exact (budgeted other).spares owned (spares other same)

/-- Nobody is running, nothing was done or queued, and every agent is about to replay a list of
what is stored. -/
structure Opened (start : Config signature Shared Worker (Except Err Unit)) : Prop where
  idle : ∀ worker, start.threads worker = none
  listed : start.shared.restores.Listed
  untold : ∀ node, (start.shared.restores.informers node).queue = [] ∧
    (start.shared.restores.informers node).events = []
  puts : ∀ node, ∀ change ∈ (start.shared.restores.informers node).pending,
    ∃ rstr, change = .put rstr
  owners : ∀ first ∈ start.shared.restores.history, ∀ second ∈ start.shared.restores.history,
    first.name = second.name → first.spec.ownerNodeID = second.spec.ownerNodeID
  unused : start.shared.log = []

theorem Opened.inv (opened : Opened start) : receivingOnce.Inv start.shared := by
  have untold (worker : Worker) : (start.shared.restores.informers worker.node).tickets
      (wantsRestore worker.node) worker.name = 0 := by
    simp [Informer.tickets, opened.untold worker.node]
  have unused (worker : Worker) : receipts worker start.shared.log = 0 := by
    simp [receipts, opened.unused]
  constructor
  · constructor
    · exact opened.owners
    · intro node change mem
      obtain ⟨rstr, rfl⟩ := opened.puts node change mem
      exact ⟨rstr, (start.shared.restores.tracked node).pendingSeen rstr mem, rfl, rfl⟩
    · intro worker positive
      rw [untold worker] at positive
      contradiction
    · intro worker positive
      rw [unused worker] at positive
      contradiction
  · intro worker
    constructor
    · apply opened.listed.metered
      rw [untold worker, unused worker]
      exact Nat.succ_pos _
    · rw [unused worker]
      exact Nat.zero_le _

/-- A run of `zfs recv` for the restore, on whatever node. -/
def Entry.receivesFor (name : String) : Entry → Bool
  | .received worker _ _ _ => decide (worker.name = name)
  | _ => false

/-- A report on the restore that was not confirmed. -/
def Entry.unconfirmedFor (name : String) : Entry → Bool
  | .unreported worker => decide (worker.name = name)
  | _ => false

theorem unconfirmed_le (worker : Worker) (log : List Entry) :
    unconfirmed worker log ≤ log.countP (Entry.unconfirmedFor worker.name) := by
  apply List.countP_mono_left
  intro entry _ counted
  cases entry with
  | unreported other =>
      obtain rfl := of_decide_eq_true counted
      exact decide_eq_true rfl
  | created | deleted | received => contradiction

/-- Only the owner receives. -/
theorem Owned.receipts_eq (owned : Owned shared) (name : String) :
    shared.log.countP (Entry.receivesFor name) = 0 ∨ ∃ worker : Worker, worker.name = name ∧
      shared.log.countP (Entry.receivesFor name) = receipts worker shared.log := by
  by_cases received : ∃ entry ∈ shared.log, entry.receivesFor name = true
  · obtain ⟨entry, mem, counted⟩ := received
    cases entry with
    | received worker volume args succeeded =>
        have named : worker.name = name := of_decide_eq_true counted
        have logged {other : Worker} {volume : Dataset} {args : List Arg} {succeeded : Bool}
            (mem : .received other volume args succeeded ∈ shared.log) : Named other shared := by
          apply owned.logged other
          exact List.countP_pos_iff.mpr ⟨_, mem, by simp [Entry.receives]⟩
        refine .inr ⟨worker, named, List.countP_congr fun entry among => ?_⟩
        cases entry with
        | received other _ _ _ =>
            simp only [Entry.receivesFor, Entry.receives, decide_eq_true_eq]
            constructor
            · exact fun same => owned.node_eq (logged among) (logged mem) (same.trans named.symm)
            · rintro rfl
              exact named
        | created | deleted | unreported => exact Iff.rfl
    | created | deleted | unreported => contradiction
  · left
    rw [List.countP_eq_zero]
    exact fun entry mem counted => received ⟨entry, mem, counted⟩

/-- In every run in which the names of restores are not used again, the agents of all nodes
together run `zfs recv` for a restore at most once, and once more for each report that the API
server did not confirm. -/
theorem restore_received_once (opened : Opened start)
    (reached : agents.Reaches NewNames start config) (name : String) :
    config.shared.log.countP (Entry.receivesFor name) ≤
      config.shared.log.countP (Entry.unconfirmedFor name) + 1 := by
  obtain ⟨owned, budgeted⟩ := (once_sound.reaches opened.inv opened.idle reached).1
  rcases owned.receipts_eq name with none | ⟨worker, rfl, receiptsEq⟩
  · rw [none]
    exact Nat.zero_le _
  · rw [receiptsEq]
    exact (budgeted worker).bound.trans (Nat.succ_le_succ (unconfirmed_le worker _))

theorem opened_blank : Opened blank where
  idle := fun _ => rfl
  listed := Resource.listed_empty
  untold := fun _ => ⟨rfl, rfl⟩
  puts := by
    intro node change mem
    contradiction
  owners := by
    intro first mem
    contradiction
  unused := rfl

/-- The bound is reached: the volume is received a second time after a report was refused. -/
theorem restore_received_once_repeated :
    ∃ config, agents.Reaches NewNames blank config ∧
      config.shared.log.countP (Entry.receivesFor "r") = 2 ∧
      config.shared.log.countP (Entry.receivesFor "r") ≤
        config.shared.log.countP (Entry.unconfirmedFor "r") + 1 := by
  have ran : (agents.run NewNames repeatedSteps blank).any (fun config =>
      decide (config.shared.log.countP (Entry.receivesFor "r") = 2)) = true := by
    decide +kernel
  obtain ⟨config, reached, checked⟩ := System.exists_reaches_of_run ran
  exact ⟨config, reached, of_decide_eq_true checked,
    restore_received_once opened_blank reached "r"⟩

end Runs

end ZfsLocalPv.RestoreAgent

import Mathlib.Data.Set.Insert
import ZfsLocalPv.Cluster.Changes
import ZfsLocalPv.Cluster.Requests

/-!
# What the volume lock protects

Requests for snapshots, deletions and expansions serialize on the names of volumes and snapshots.
A request that holds a key can count on three things until it releases it: the key stays its own,
no snapshot of that name or labelled with that volume appears, and none of them comes back to
life. Agents take no locks; they may make a snapshot Ready or remove a deleted one at any time,
and both are compatible with what the lock protects.

From this every request is shown to hold the keys of what it writes, and a request that deletes a
volume to have seen the end of its snapshots.
-/

namespace ZfsLocalPv.Cluster

open Api ApiServer Driver Interaction Zfs

/-! ## Snapshots of a volume -/

/-- The volume a snapshot is labelled with. -/
def volumeOf (snap : ZFSSnapshot) : Option String :=
  snap.labels.lookup ZFSVolKey

/-- Every snapshot labelled with the volume is deleted. -/
def AllDeleted (snapshots : Resource VolumeInfo State) (volume : String) : Prop :=
  ∀ name snap, snapshots.get name = some snap → volumeOf snap = some volume →
    snap.deletionTimestamp = true

/-- Of the snapshots that have the key as their name or as their volume, none is new
and none has come back to life. -/
def KeptUnder (key : String) (snapshots next : Resource VolumeInfo State) : Prop :=
  ∀ name snap, next.get name = some snap → name = key ∨ volumeOf snap = some key →
    ∃ old, snapshots.get name = some old ∧ volumeOf old = volumeOf snap ∧ (Live snap → Live old)

theorem KeptUnder.refl (key : String) (snapshots : Resource VolumeInfo State) :
    KeptUnder key snapshots snapshots :=
  fun _ snap found _ => ⟨snap, found, rfl, id⟩

theorem KeptUnder.trans {key : String} {first second third : Resource VolumeInfo State}
    (one : KeptUnder key first second) (two : KeptUnder key second third) :
    KeptUnder key first third := by
  intro name snap found under
  obtain ⟨middle, foundMiddle, volumeEq, live⟩ := two name snap found under
  rw [← volumeEq] at under
  obtain ⟨old, foundOld, volumeEq', live'⟩ := one name middle foundMiddle under
  exact ⟨old, foundOld, volumeEq'.trans volumeEq, fun isLive => live' (live isLive)⟩

/-- The label of the volume is not the one agents set. -/
theorem SnapshotWrite.volumeOf_eq {snapshots : Resource VolumeInfo State} {thread : Tid}
    {base snap : ZFSSnapshot} (write : SnapshotWrite snapshots thread base snap) :
    volumeOf snap = volumeOf base := by
  cases write with
  | ready node name base =>
      exact Go.StringMap.lookup_merge_single_of_ne (by decide) node base.labels
  | release => rfl

theorem SnapshotWrite.deletion_eq {snapshots : Resource VolumeInfo State} {thread : Tid}
    {base snap : ZFSSnapshot} (write : SnapshotWrite snapshots thread base snap) :
    snap.deletionTimestamp = base.deletionTimestamp := by
  cases write with
  | ready | release => rfl

/-- Only a creation can add to what is under a key. -/
theorem keptUnder_of_change {key : String} {snapshots next : Resource VolumeInfo State}
    {caller : Option (Tid × Op)} (change : SnapshotChange snapshots caller next)
    (spared : ∀ thread snap, caller = some (thread, .createSnapshot snap) →
      snap.name ≠ key ∧ volumeOf snap ≠ some key) : KeptUnder key snapshots next := by
  intro name snap found under
  cases change.origin found with
  | kept stored shows => exact ⟨snap, stored, rfl, id⟩
  | created creator new isClient fresh absent objectEq =>
      obtain ⟨thread, op⟩ := creator
      obtain rfl : op = .createSnapshot new := fresh.2
      obtain ⟨otherName, otherVolume⟩ := spared thread new isClient
      have nameEq := Resource.name_of_get found
      subst objectEq nameEq
      exact absurd under (not_or.mpr ⟨otherName, otherVolume⟩)
  | written writer base new isClient write stored rewrites held objectEq shows =>
      subst objectEq
      refine ⟨base, stored, write.1.volumeOf_eq.symm, fun live => ?_⟩
      exact write.1.deletion_eq.symm.trans live
  | deleted deleter old isClient deletes stored live objectEq =>
      subst objectEq
      exact ⟨old, stored, rfl, fun _ => live⟩
  | collected old stored deleted objectEq =>
      subst objectEq
      exact ⟨old, stored, rfl, id⟩

/-! ## Locks and requests in flight -/

section Steps

variable {compile : Compile} {thread : Tid} {op : Op} {shared after : Shared}

@[simp]
theorem Shared.locked_setLocked_self (shared : Shared) (key : String) (holder : Option Tid) :
    (shared.setLocked key holder).locked key = holder :=
  Function.update_self ..

theorem Shared.locked_setLocked_of_ne {key other : String} (differs : other ≠ key)
    (shared : Shared) (holder : Option Tid) :
    (shared.setLocked key holder).locked other = shared.locked other :=
  Function.update_of_ne differs ..

/-- A call leaves the requests in flight alone. -/
theorem Effect.inFlight (effect : Effect thread shared op after) :
    after.inFlight = shared.inFlight := by
  cases effect with
  | same | lock | unlock | createVolume | updateVolume | deleteVolume | createSnapshot
  | updateSnapshot | deleteSnapshot | updateBackup | zfs => rfl

theorem EnvEffect.inFlight {move : Move} (effect : EnvEffect shared move after) :
    after.inFlight = shared.inFlight := by
  cases effect with
  | volumes | snapshots | backups | collectVolume | collectSnapshot | collectBackup
  | createBackup | deleteBackup | report => rfl

/-- An arrival is no concern of the other requests. -/
theorem ArriveEffect.inFlight {arrival : Arrival} {program : Routine Answer} {id : Nat}
    (effect : ArriveEffect compile shared arrival thread program after)
    (other : Tid.request id ≠ thread) : after.inFlight id = shared.inFlight id := by
  cases effect with
  | request arriving req unused =>
      have differs : id ≠ arriving := fun same => other (congrArg Tid.request same)
      exact Function.update_of_ne differs _ _
  | syncVolume | syncSnapshot | syncBackup => rfl

/-- Neither is a departure. -/
theorem LeaveEffect.inFlight {answer : Answer} {id : Nat}
    (effect : LeaveEffect shared thread answer after) (other : Tid.request id ≠ thread) :
    after.inFlight id = shared.inFlight id := by
  cases effect with
  | request leaving req answer serving =>
      have differs : id ≠ leaving := fun same => other (congrArg Tid.request same)
      exact Function.update_of_ne differs _ _
  | same | volumes | snapshots | backups => rfl

/-- A request that is in flight after a departure was so before. -/
theorem LeaveEffect.served {answer : Answer} {id : Nat} {req : Request}
    (effect : LeaveEffect shared thread answer after) (serving : after.inFlight id = some req) :
    shared.inFlight id = some req := by
  cases effect with
  | request leaving left answer =>
      by_cases same : id = leaving
      · subst same
        simp at serving
      · simpa [same] using serving
  | same | volumes | snapshots | backups => exact serving

/-- A request that never arrives is never in flight. -/
theorem inFlight_of_reaches {id : Nat} {start config : Config sig Shared Tid Answer}
    {Meets : Action Tid Choice Move Arrival → Config sig Shared Tid Answer → Prop}
    (never : ∀ {action config}, Meets action config → ∀ req, action ≠ .arrive (.request id req))
    (unused : start.shared.inFlight id = none)
    (reached : (cluster compile).Reaches Meets start config) :
    config.shared.inFlight id = none := by
  apply reached.shared_invariant (fun shared => shared.inFlight id = none) unused
  · intro config thread choice op next answer after _ _ unused executed
    rw [(exec_effect executed).inFlight]
    exact unused
  · intro config move after _ unused moved
    rw [(env_effect moved).inFlight]
    exact unused
  · intro config arrival thread program after meets unused arrived
    have effect := arrive_effect arrived
    rw [effect.inFlight, unused]
    rintro rfl
    cases effect with
    | request id req unused => exact never meets req rfl
  · intro config thread answer _ unused
    have effect := leave_effect thread answer config.shared
    by_cases own : Tid.request id = thread
    · subst own
      simp [cluster, leave, unused]
    · exact (effect.inFlight own).trans unused

/-- Nothing is in flight at the end of a run whose requests have been answered. -/
theorem quiet_of_run {Meets : Action Tid Choice Move Arrival → Config sig Shared Tid Answer → Prop}
    {actions : List (Action Tid Choice Move Arrival)} {start config : Config sig Shared Tid Answer}
    (ids : List Nat)
    (reached : (cluster compile).Reaches
      (fun action config => Meets action config ∧ action ∈ actions) start config)
    (fresh : ∀ id, start.shared.inFlight id = none)
    (only : ∀ id req, .arrive (.request id req) ∈ actions → id ∈ ids)
    (answered : ∀ id ∈ ids, config.shared.inFlight id = none) (id : Nat) :
    config.shared.inFlight id = none := by
  by_cases known : id ∈ ids
  · exact answered id known
  · apply inFlight_of_reaches _ (fresh id) reached
    rintro action config ⟨_, mem⟩ req rfl
    exact known (only id req mem)

/-- Answers are given by departures only. -/
theorem Effect.answered (effect : Effect thread shared op after) :
    after.answered = shared.answered := by
  cases effect with
  | same | lock | unlock | createVolume | updateVolume | deleteVolume | createSnapshot
  | updateSnapshot | deleteSnapshot | updateBackup | zfs => rfl

theorem EnvEffect.answered {move : Move} (effect : EnvEffect shared move after) :
    after.answered = shared.answered := by
  cases effect with
  | volumes | snapshots | backups | collectVolume | collectSnapshot | collectBackup
  | createBackup | deleteBackup | report => rfl

theorem ArriveEffect.answered {arrival : Arrival} {program : Routine Answer}
    (effect : ArriveEffect compile shared arrival thread program after) :
    after.answered = shared.answered := by
  cases effect with
  | request | syncVolume | syncSnapshot | syncBackup => rfl

theorem LeaveEffect.answered {answer : Answer} (effect : LeaveEffect shared thread answer after) :
    after.answered = shared.answered ∨
      ∃ id req, thread = .request id ∧ shared.inFlight id = some req ∧
        after.answered = shared.answered ++ [(req, answer)] := by
  cases effect with
  | request id req answer serving => exact .inr ⟨id, req, rfl, serving, rfl⟩
  | same | volumes | snapshots | backups => exact .inl rfl

/-- What a call does to the lock. -/
theorem Effect.locked_cases (effect : Effect thread shared op after) :
    after.locked = shared.locked ∨
      (∃ key, op = .lock key ∧ shared.locked key = none ∧
        after = shared.setLocked key (some thread)) ∨
      ∃ key, op = .unlock key ∧ after = shared.setLocked key none := by
  cases effect with
  | lock key free => exact .inr (.inl ⟨key, rfl, free, rfl⟩)
  | unlock key => exact .inr (.inr ⟨key, rfl, rfl⟩)
  | same | createVolume | updateVolume | deleteVolume | createSnapshot | updateSnapshot
  | deleteSnapshot | updateBackup | zfs => exact .inl rfl

/-- A key that is held after a call was held before or has been taken by it. -/
theorem Effect.locked_after {key : String} {owner : Tid} (effect : Effect thread shared op after)
    (held : after.locked key = some owner) :
    shared.locked key = some owner ∨ (op = .lock key ∧ owner = thread) := by
  rcases effect.locked_cases with same | ⟨taken, rfl, free, rfl⟩ | ⟨released, rfl, rfl⟩
  · rw [same] at held
    exact .inl held
  · by_cases same : key = taken
    · subst same
      exact .inr ⟨rfl, by simpa using held.symm⟩
    · rw [Shared.locked_setLocked_of_ne same] at held
      exact .inl held
  · by_cases same : key = released
    · subst same
      simp at held
    · rw [Shared.locked_setLocked_of_ne same] at held
      exact .inl held

/-- A key stays with its owner until it is released. -/
theorem Effect.locked_before {key : String} {owner : Tid} (effect : Effect thread shared op after)
    (notReleased : op ≠ .unlock key) (held : shared.locked key = some owner) :
    after.locked key = some owner := by
  rcases effect.locked_cases with same | ⟨taken, rfl, free, rfl⟩ | ⟨released, rfl, rfl⟩
  · rw [same]
    exact held
  · rw [Shared.locked_setLocked_of_ne]
    · exact held
    · rintro rfl
      rw [free] at held
      contradiction
  · rw [Shared.locked_setLocked_of_ne]
    · exact held
    · rintro rfl
      exact notReleased rfl

/-- Threads that release only their own keys leave the keys of the others alone. -/
theorem Effect.locked_iff {key : String} {owner : Tid} (effect : Effect thread shared op after)
    (releasesOwn : ∀ key, op = .unlock key → shared.locked key = some thread)
    (other : owner ≠ thread) :
    after.locked key = some owner ↔ shared.locked key = some owner := by
  constructor
  · intro held
    rcases effect.locked_after held with before | ⟨_, same⟩
    · exact before
    · exact absurd same other
  · intro held
    apply effect.locked_before _ held
    intro released
    exact other (Option.some.inj (held.symm.trans (releasesOwn key released)))

end Steps

/-! ## The contract -/

/-- Only requests that are in flight hold a key. -/
def OwnersServed (shared : Shared) : Prop :=
  ∀ key thread, shared.locked key = some thread →
    ∃ id req, thread = .request id ∧ shared.inFlight id = some req

/-- What a request can count on while others move. -/
structure Spared (id : Nat) (shared after : Shared) : Prop where
  serving : after.inFlight id = shared.inFlight id
  locked : ∀ key, after.locked key = some (.request id) ↔ shared.locked key = some (.request id)
  kept : ∀ key, shared.locked key = some (.request id) →
    KeptUnder key shared.snapshots after.snapshots

theorem Spared.refl (id : Nat) (shared : Shared) : Spared id shared shared where
  serving := rfl
  locked := fun _ => .rfl
  kept := fun key _ => .refl key _

theorem Spared.trans {id : Nat} {first second third : Shared} (one : Spared id first second)
    (two : Spared id second third) : Spared id first third where
  serving := two.serving.trans one.serving
  locked := fun key => (two.locked key).trans (one.locked key)
  kept := fun key held => (one.kept key held).trans (two.kept key ((one.locked key).mpr held))

/-- A snapshot of the name, if there is one, is of the volume. -/
def LabelledWith (volume snapName : String) (snapshots : Resource VolumeInfo State) : Prop :=
  ∀ snap, snapshots.get snapName = some snap → volumeOf snap = some volume

/-- The request in flight under an identifier deletes a snapshot of a volume. -/
def ServesSnapshot (id : Nat) (volume snapName : String) (shared : Shared) : Prop :=
  ∃ req, shared.inFlight id = some (.deleteSnapshot req) ∧
    Go.split '@' req.snapshotId = [volume, snapName]

/-- What a request owes at a call: it holds the keys of what it writes, and a volume
is deleted only after its snapshots. -/
def Owed (thread : Tid) (op : Op) (shared : Shared) : Prop :=
  match thread, op with
  | .request id, .lock _ => ∃ req, shared.inFlight id = some req
  | .request id, .unlock key => shared.locked key = some (.request id)
  | .request id, .createSnapshot snap => shared.locked snap.name = some (.request id) ∧
      ∃ volume, volumeOf snap = some volume ∧ shared.locked volume = some (.request id)
  | .request id, .deleteSnapshot name => ∃ volume, ServesSnapshot id volume name shared ∧
      shared.locked volume = some (.request id) ∧ LabelledWith volume name shared.snapshots
  | .request _, .createVolume _ => False
  | .request id, .updateVolume vol => shared.locked vol.name = some (.request id)
  | .request id, .deleteVolume name => shared.locked name = some (.request id) ∧
      AllDeleted shared.snapshots name
  | _, _ => True

/-- The volume and the snapshot in the id of a DeleteSnapshot request. -/
def Request.snapshotNames : Request → Option (String × String)
  | .deleteSnapshot req =>
      match Go.split '@' req.snapshotId with
      | [volume, snapName] => some (volume, snapName)
      | _ => none
  | _ => none

theorem snapshotNames_deleteSnapshot {req : DeleteSnapshotRequest} {volume snapName : String}
    (names : Go.split '@' req.snapshotId = [volume, snapName]) :
    (Request.deleteSnapshot req).snapshotNames = some (volume, snapName) := by
  simp only [Request.snapshotNames, names]

/-- The snapshot that a DeleteSnapshot request finds under the name in its id is one
of the volume in its id. -/
def NamesItsVolume (thread : Tid) (op : Op) (shared : Shared) : Prop :=
  match thread with
  | .request id => ∀ req ∈ shared.inFlight id, ∀ names ∈ req.snapshotNames,
      ∀ name ∈ op.readSnapshot, ∀ snap ∈ shared.snapshots.get name,
        volumeOf snap = some names.1
  | _ => True

/-- The lock as a contract. -/
def locking (compile : Compile) : Contract (cluster compile) where
  Inv := OwnersServed
  Rely := fun thread shared after => ∀ id, thread = .request id → Spared id shared after
  Guard := fun thread op _ shared => Disciplined (fun _ _ => True) thread op shared ∧
    NamesItsVolume thread op shared
  Ok := Owed
  Post := fun thread _ shared => ∀ key, shared.locked key ≠ some thread
  rely_refl := fun _ shared id _ => .refl id shared
  rely_trans := fun first second id isRequest => (first id isRequest).trans (second id isRequest)

section Sound

variable {compile : Compile} {thread : Tid} {op : Op} {shared after : Shared} {id : Nat}

/-- A disciplined call that holds what it owes spares the other requests. -/
theorem Effect.spared (effect : Effect thread shared op after) (owed : Owed thread op shared)
    (disciplined : Disciplined (fun _ _ => True) thread op shared)
    (other : Tid.request id ≠ thread) : Spared id shared after where
  serving := by rw [effect.inFlight]
  locked := by
    intro key
    apply effect.locked_iff _ other
    rintro released rfl
    obtain ⟨owner, rfl⟩ := disciplined
    exact owed
  kept := by
    intro key held
    apply keptUnder_of_change (effect.snapshotChange disciplined)
    rintro creator snap isCaller
    cases isCaller
    obtain ⟨owner, rfl⟩ := disciplined.request
    obtain ⟨nameHeld, volume, volumeEq, volumeHeld⟩ := owed
    constructor
    · rintro rfl
      exact other (Option.some.inj (held.symm.trans nameHeld))
    · intro isKey
      obtain rfl := Option.some.inj (volumeEq.symm.trans isKey)
      exact other (Option.some.inj (held.symm.trans volumeHeld))

theorem Drift.spared (drift : Drift shared after)
    (serving : after.inFlight id = shared.inFlight id) : Spared id shared after where
  serving := serving
  locked := by
    intro key
    rw [drift.locked]
  kept := by
    intro key _
    apply keptUnder_of_change drift.snapshots
    intro creator snap isCaller
    contradiction

theorem Effect.ownersServed (effect : Effect thread shared op after)
    (owed : Owed thread op shared)
    (disciplined : Disciplined (fun _ _ => True) thread op shared)
    (served : OwnersServed shared) : OwnersServed after := by
  intro key owner held
  rw [effect.inFlight]
  rcases effect.locked_after held with before | ⟨rfl, rfl⟩
  · exact served key owner before
  · obtain ⟨id, rfl⟩ := disciplined
    obtain ⟨req, serving⟩ := owed
    exact ⟨id, req, rfl, serving⟩

theorem ArriveEffect.ownersServed {arrival : Arrival} {program : Routine Answer}
    (effect : ArriveEffect compile shared arrival thread program after)
    (served : OwnersServed shared) : OwnersServed after := by
  intro key owner held
  rw [effect.drift.locked] at held
  obtain ⟨id, req, rfl, serving⟩ := served key owner held
  by_cases same : Tid.request id = thread
  · cases effect with
    | request arriving req unused =>
        cases same
        rw [unused] at serving
        contradiction
    | syncVolume | syncSnapshot | syncBackup => contradiction
  · exact ⟨id, req, rfl, (effect.inFlight same).trans serving⟩

/-- A request that leaves holds no key. -/
theorem LeaveEffect.ownersServed {answer : Answer}
    (effect : LeaveEffect shared thread answer after)
    (released : ∀ key, shared.locked key ≠ some thread) (served : OwnersServed shared) :
    OwnersServed after := by
  intro key owner held
  rw [effect.drift.locked] at held
  obtain ⟨id, req, rfl, serving⟩ := served key owner held
  have other : Tid.request id ≠ thread := fun same => released key (same ▸ held)
  exact ⟨id, req, rfl, (effect.inFlight other).trans serving⟩

end Sound

/-! ## Programs under the lock -/

section Programs

variable {compile : Compile} {id : Nat} {req : Request} {keys : Set String} {key : String}
  {shared now : Shared} {α β : Type} {post : α → Shared → Prop}

/-- A request is being served and holds these keys and no others. -/
structure Holding (id : Nat) (req : Request) (keys : Set String) (shared : Shared) : Prop where
  serving : shared.inFlight id = some req
  held : ∀ key, shared.locked key = some (.request id) ↔ key ∈ keys

theorem Holding.spared (holding : Holding id req keys shared) (spared : Spared id shared now) :
    Holding id req keys now where
  serving := spared.serving.trans holding.serving
  held := fun key => (spared.locked key).trans (holding.held key)

theorem Holding.rely (holding : Holding id req keys shared)
    (moved : (locking compile).Rely (.request id) shared now) : Holding id req keys now :=
  holding.spared (moved id rfl)

/-- A request that has just arrived holds nothing. -/
theorem holding_of_arrival (served : OwnersServed shared) (unused : shared.inFlight id = none)
    (req : Request) :
    Holding id req ∅
      { shared with inFlight := Function.update shared.inFlight id (some req) } where
  serving := Function.update_self ..
  held := by
    intro key
    refine iff_of_false (fun held => ?_) (Set.notMem_empty key)
    obtain ⟨_, req, isRequest, serving⟩ := served key _ held
    cases isRequest
    rw [unused] at serving
    contradiction

theorem Holding.lock (holding : Holding id req keys shared) (key : String) :
    Holding id req (insert key keys) (shared.setLocked key (some (.request id))) where
  serving := holding.serving
  held := by
    intro other
    by_cases same : other = key
    · subst same
      simp
    · rw [Shared.locked_setLocked_of_ne same, Set.mem_insert_iff, or_iff_right same]
      exact holding.held other

theorem Holding.unlock (holding : Holding id req keys shared) (key : String) :
    Holding id req (keys \ {key}) (shared.setLocked key none) where
  serving := holding.serving
  held := by
    intro other
    by_cases same : other = key
    · subst same
      simp
    · rw [Shared.locked_setLocked_of_ne same, Set.mem_sdiff, Set.mem_singleton_iff,
        and_iff_left same]
      exact holding.held other

/-- The keys of a volume and its snapshot, once both are released. -/
theorem released_eq_empty (volume snapshot : String) :
    ({snapshot, volume} \ {volume}) \ {snapshot} = (∅ : Set String) := by
  ext key
  simp only [Set.mem_sdiff, Set.mem_insert_iff, Set.mem_singleton_iff, Set.mem_empty_iff_false]
  tauto

theorem Op.Reads.owed {thread : Tid} {op : Op} (reads : op.Reads) : Owed thread op shared := by
  unfold Op.Reads at reads
  split at reads <;> first | exact reads.elim | (cases thread <;> trivial)

theorem lasts_holding : Lasts (locking compile) (.request id) (Holding id req keys) :=
  fun _ _ moved holding => holding.rely moved

theorem keeps_lock_bind {next : Unit → Routine α} (holding : Holding id req keys shared)
    (rest : ∀ now, key ∉ keys → Holding id req (insert key keys) now →
      (locking compile).Keeps (.request id) (next ()) post now) :
    (locking compile).Keeps (.request id) (call (.lock key) >>= next) post shared := by
  apply keeps_call_bind
  intro now moved _
  have holding := holding.rely moved
  constructor
  · exact ⟨req, holding.serving⟩
  · intro choice answer after _ executed
    obtain ⟨free, rfl⟩ := exec_lock executed
    apply rest _ _ (holding.lock key)
    intro mem
    rw [(holding.held key).mpr mem] at free
    contradiction

theorem keeps_unlock_bind {next : Unit → Routine α} (holding : Holding id req keys shared)
    (mem : key ∈ keys)
    (rest : ∀ now, Holding id req (keys \ {key}) now →
      (locking compile).Keeps (.request id) (next ()) post now) :
    (locking compile).Keeps (.request id) (call (.unlock key) >>= next) post shared := by
  apply keeps_call_bind
  intro now moved _
  have holding := holding.rely moved
  constructor
  · exact (holding.held key).mpr mem
  · intro choice answer after _ executed
    cases executed
    exact rest _ (holding.unlock key)

/-- The body runs with the one key. -/
theorem keeps_lockVolume {volume : String} {body : Routine α} (holding : Holding id req ∅ shared)
    (keeps : ∀ now, Holding id req {volume} now → (locking compile).Keeps (.request id) body
      (fun _ => Holding id req {volume}) now) :
    (locking compile).Keeps (.request id) (lockVolume volume body)
      (fun _ => Holding id req ∅) shared := by
  apply keeps_lock_bind holding
  intro now _ holding
  rw [insert_empty_eq] at holding
  apply Contract.Keeps.bind
  apply (keeps now holding).mono
  intro result later _ holding
  apply keeps_unlock_bind holding rfl
  intro last holding
  rw [Set.sdiff_self] at holding
  exact fun _ moved _ => holding.rely moved

/-- The body runs with the keys of the volume and of the snapshot. -/
theorem keeps_lockVolumeWithSnapshot {volume snapshot : String} {body : Routine α}
    (holding : Holding id req ∅ shared)
    (keeps : ∀ now, Holding id req {snapshot, volume} now →
      (locking compile).Keeps (.request id) body
        (fun _ => Holding id req {snapshot, volume}) now) :
    (locking compile).Keeps (.request id) (lockVolumeWithSnapshot volume snapshot body)
      (fun _ => Holding id req ∅) shared := by
  apply keeps_lock_bind holding
  intro now _ holding
  rw [insert_empty_eq] at holding
  apply keeps_lock_bind holding
  intro now differs holding
  apply Contract.Keeps.bind
  apply (keeps now holding).mono
  intro result later _ holding
  apply keeps_unlock_bind holding (.inr rfl)
  intro later holding
  apply keeps_unlock_bind holding ⟨.inl rfl, differs⟩
  intro last holding
  rw [released_eq_empty] at holding
  exact fun _ moved _ => holding.rely moved

end Programs

end ZfsLocalPv.Cluster

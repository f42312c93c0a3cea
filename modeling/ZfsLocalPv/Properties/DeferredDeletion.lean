import ZfsLocalPv.Cluster.Serialized

/-!
# Deferred deletion

DeleteVolume only marks a volume that has snapshots, and the DeleteSnapshot that takes away the
last one is to delete it. Whether it is the last one is read off a list taken before the
deletion. The list also has snapshots that are deleted already and wait for their finalizers to
go, and it is not looked at again.

A marked volume with no undeleted snapshot is abandoned. It may be so while the DeleteSnapshot
that took the last one still holds the key of the volume. Under the conditions below it is so at
no other time, and then a volume whose deletion was acknowledged is gone or on its way once
nothing is in flight and its snapshots are gone.
-/

namespace ZfsLocalPv.Properties

open Api ApiServer Driver Interaction Zfs Cluster

/-! ## Marked volumes and live snapshots -/

/-- The volume carries the annotation of a deferred deletion. -/
def Marked (vol : ZFSVolume) : Prop :=
  Go.StringMap.get vol.annotations MarkForDeletionAnnotation = "true"

/-- The volume is marked for deletion and not deleted. -/
def Deferred (volumes : Resource VolumeInfo State) (volume : String) : Prop :=
  ∃ vol ∈ volumes.get volume, Live vol ∧ Marked vol

/-- The volume is gone, deleted or marked for deletion. -/
def Doomed (volumes : Resource VolumeInfo State) (volume : String) : Prop :=
  ∀ vol, volumes.get volume = some vol → Live vol → Marked vol

/-- The snapshot of the name is one of the volume and not deleted. -/
def LiveOf (snapshots : Resource VolumeInfo State) (volume name : String) : Prop :=
  ∃ snap, snapshots.get name = some snap ∧ Live snap ∧ volumeOf snap = some volume

/-- All other snapshots of the volume are deleted. -/
def OthersDeleted (snapshots : Resource VolumeInfo State) (volume snapName : String) : Prop :=
  ∀ snap ∈ snapshots.store.list ZFSVolKey volume, snap.name ≠ snapName →
    snap.deletionTimestamp = true

/-- A marked volume that nothing will delete. -/
structure Abandoned (shared : Shared) (volume : String) : Prop where
  named : volume ≠ ""
  deferred : Deferred shared.volumes volume
  deleted : AllDeleted shared.snapshots volume

/-- A marked volume that hangs on one snapshot. -/
structure Hangs (shared : Shared) (volume snapName : String) : Prop where
  deferred : Deferred shared.volumes volume
  others : OthersDeleted shared.snapshots volume snapName

section Changes

variable {snapshots nextSnapshots volumes nextVolumes : Resource VolumeInfo State}
  {Allowed : ZFSVolume → ZFSVolume → Prop} {caller : Option (Tid × Op)}
  {volume name snapName : String}

theorem allDeleted_iff : AllDeleted snapshots volume ↔ ∀ name, ¬ LiveOf snapshots volume name := by
  constructor
  · rintro deleted name ⟨snap, stored, live, label⟩
    exact not_live_iff.mpr (deleted name snap stored label) live
  · intro none name snap stored label
    exact not_live_iff.mp fun live => none name ⟨snap, stored, live, label⟩

theorem othersDeleted_iff : OthersDeleted snapshots volume snapName ↔
    ∀ name, name ≠ snapName → ¬ LiveOf snapshots volume name := by
  constructor
  · rintro deleted name other ⟨snap, stored, live, label⟩
    obtain rfl := Resource.name_of_get stored
    exact not_live_iff.mpr (deleted snap (Store.mem_list_iff.mpr ⟨stored, label⟩) other) live
  · intro none snap mem other
    obtain ⟨stored, label⟩ := Store.mem_list_iff.mp mem
    exact not_live_iff.mp fun live => none snap.name other ⟨snap, stored, live, label⟩

/-- A live snapshot stays one of its volume unless a request deletes it. -/
theorem liveOf_of_change (change : SnapshotChange snapshots caller nextSnapshots)
    (live : LiveOf snapshots volume name) :
    LiveOf nextSnapshots volume name ∨ ∃ thread, caller = some (thread, .deleteSnapshot name) := by
  obtain ⟨snap, stored, isLive, label⟩ := live
  rcases change.fate_of_live stored isLive with
    same | ⟨writer, new, _, write, rewrites, found⟩ | ⟨deleter, isCaller, deletes⟩
  · exact .inl ⟨snap, same, isLive, label⟩
  · left
    refine ⟨_, found, ?_, ?_⟩
    · exact write.1.deletion_eq.trans isLive
    · exact write.1.volumeOf_eq.trans label
  · right
    obtain ⟨thread, op⟩ := deleter
    obtain rfl : op = .deleteSnapshot name := deletes
    exact ⟨thread, isCaller⟩

/-- The mark stays, whoever writes the volume. -/
theorem VolumeWrite.marked {thread : Tid} {base vol : ZFSVolume}
    (write : VolumeWrite Allowed volumes thread base vol) (marked : Marked base) : Marked vol := by
  cases write with
  | mark id base => simp [Marked, markedVolume, Go.StringMap.get]
  | provision | resize | settle | release => exact marked

/-- Agents do not mark volumes. -/
theorem VolumeWrite.marks {thread : Tid} {base vol : ZFSVolume}
    (write : VolumeWrite Allowed volumes thread base vol) (marked : Marked vol) :
    Marked base ∨ ∃ id, thread = .request id := by
  cases write with
  | provision id | mark id | resize id => exact .inr ⟨id, rfl⟩
  | settle | release => exact .inl marked

/-- A volume becomes a deferred one only by a write of a request. -/
theorem deferred_of_change (change : VolumeChange Allowed volumes caller nextVolumes)
    (deferred : Deferred nextVolumes volume) :
    Deferred volumes volume ∨
      (∃ id vol, caller = some (.request id, .updateVolume vol) ∧ vol.name = volume) ∨
      ∃ id vol, caller = some (.request id, .createVolume vol) := by
  obtain ⟨vol, found, live, marked⟩ := deferred
  cases change.origin found with
  | kept stored shows => exact .inl ⟨vol, stored, live, marked⟩
  | created creator new isClient fresh absent objectEq =>
      right
      right
      obtain ⟨thread, op⟩ := creator
      obtain rfl : op = .createVolume new := fresh.2
      obtain ⟨id, rfl⟩ := fresh.1.request
      exact ⟨id, new, isClient⟩
  | written writer base new isClient write stored rewrites held objectEq shows =>
      obtain ⟨thread, op⟩ := writer
      obtain rfl : op = .updateVolume new := write.2
      subst objectEq
      rcases VolumeWrite.marks write.1 marked with before | ⟨id, rfl⟩
      · exact .inl ⟨base, stored, rewrites.deletion.symm.trans live, before⟩
      · exact .inr (.inl ⟨id, new, isClient, rewrites.name.trans (Resource.name_of_get stored)⟩)
  | deleted deleter old isClient deletes stored oldLive objectEq =>
      subst objectEq
      contradiction
  | collected old stored deleted objectEq =>
      subst objectEq
      exact absurd live (not_live_iff.mpr deleted)

/-- A doomed volume stays doomed unless it is created again. -/
theorem doomed_of_change (change : VolumeChange Allowed volumes caller nextVolumes)
    (notCreated : ∀ id vol, caller ≠ some (.request id, .createVolume vol))
    (doomed : Doomed volumes volume) : Doomed nextVolumes volume := by
  intro vol found live
  cases change.origin found with
  | kept stored shows => exact doomed vol stored live
  | created creator new isClient fresh absent objectEq =>
      obtain ⟨thread, op⟩ := creator
      obtain rfl : op = .createVolume new := fresh.2
      obtain ⟨id, rfl⟩ := fresh.1.request
      exact absurd isClient (notCreated id new)
  | written writer base new isClient write stored rewrites held objectEq shows =>
      subst objectEq
      have marked := doomed base stored (rewrites.deletion.symm.trans live)
      exact show Marked new from VolumeWrite.marked write.1 marked
  | deleted deleter old isClient deletes stored oldLive objectEq =>
      subst objectEq
      contradiction
  | collected old stored deleted objectEq =>
      subst objectEq
      exact absurd live (not_live_iff.mpr deleted)

end Changes

/-! ## The contract -/

/-- What DeleteSnapshot needs in order not to forget the volume: if the volume hangs on
its snapshot, no deleted snapshot of the volume is left in the list and the answer to
the deletion is not lost; once the volume is abandoned, neither the look at it nor its
deletion fails. -/
def RemembersVolume (volume snapName : String) (op : Op) (choice : Choice) (shared : Shared) :
    Prop :=
  match op with
  | .listSnapshots _ => Hangs shared volume snapName →
      ∀ snap ∈ shared.snapshots.store.list ZFSVolKey volume, snap.name = snapName
  | .deleteSnapshot _ => Hangs shared volume snapName → choice.outcome ≠ .lost
  | .getVolume _ _ => Abandoned shared volume → choice.outcome = .ok
  | .deleteVolume _ => Abandoned shared volume → choice.outcome ≠ .fail
  | _ => True

/-- A list of snapshots has an undeleted one or none at all. -/
def ListsLive (op : Op) (shared : Shared) : Prop :=
  match op with
  | .listSnapshots volume => AllDeleted shared.snapshots volume →
      shared.snapshots.store.list ZFSVolKey volume = []
  | _ => True

/-- DeleteVolume finds an undeleted snapshot or none at all, and DeleteSnapshot does not
forget the volume. -/
def Remembers (thread : Tid) (op : Op) (choice : Choice) (shared : Shared) : Prop :=
  match thread with
  | .request id => ∀ req ∈ shared.inFlight id,
      (req.isDeleteVolume = true → ListsLive op shared) ∧
        ∀ names ∈ req.snapshotNames, RemembersVolume names.1 names.2 op choice shared
  | _ => True

/-- The volume of an acknowledged DeleteVolume. -/
structure Acknowledged (req : DeleteVolumeRequest) (shared : Shared) : Prop where
  named : req.volumeId ≠ ""
  doomed : Doomed shared.volumes (Go.toLower req.volumeId)

/-- An abandoned volume is looked after, and acknowledged deletions are not undone. -/
structure DeferralInv (shared : Shared) : Prop where
  abandoned : ∀ volume, Abandoned shared volume → ∃ id snapName,
    shared.locked volume = some (.request id) ∧ ServesSnapshot id volume snapName shared
  acknowledged : ∀ req, (.deleteVolume req, .deleteVolume (.ok ())) ∈ shared.answered →
    Acknowledged req shared

/-- What a request can count on: under its keys no volume is marked and no snapshot is
deleted. -/
structure DeferralRely (id : Nat) (shared after : Shared) : Prop where
  spared : Spared id shared after
  deferred : ∀ key, shared.locked key = some (.request id) → Deferred after.volumes key →
    Deferred shared.volumes key
  live : ∀ key, shared.locked key = some (.request id) → ∀ name,
    LiveOf shared.snapshots key name ↔ LiveOf after.snapshots key name
  doomed : ∀ volume, Doomed shared.volumes volume → Doomed after.volumes volume

theorem DeferralRely.refl (id : Nat) (shared : Shared) : DeferralRely id shared shared where
  spared := .refl id shared
  deferred := fun _ _ deferred => deferred
  live := fun _ _ _ => .rfl
  doomed := fun _ doomed => doomed

theorem DeferralRely.trans {id : Nat} {first second third : Shared}
    (one : DeferralRely id first second) (two : DeferralRely id second third) :
    DeferralRely id first third where
  spared := one.spared.trans two.spared
  deferred := by
    intro key held deferred
    exact one.deferred key held (two.deferred key ((one.spared.locked key).mpr held) deferred)
  live := by
    intro key held name
    exact (one.live key held name).trans (two.live key ((one.spared.locked key).mpr held) name)
  doomed := fun volume doomed => two.doomed volume (one.doomed volume doomed)

/-- What a request owes: DeleteSnapshot leaves no abandoned volume behind, and a volume
is marked only while it has an undeleted snapshot. -/
def DeferralOwed (thread : Tid) (op : Op) (shared : Shared) : Prop :=
  match thread, op with
  | .request id, .unlock key => ∀ snapName, ServesSnapshot id key snapName shared →
      ¬ Abandoned shared key
  | .request _, .updateVolume vol => ∃ name, LiveOf shared.snapshots vol.name name
  | _, _ => True

theorem Op.Reads.deferralOwed {thread : Tid} {op : Op} {shared : Shared} (reads : op.Reads) :
    DeferralOwed thread op shared := by
  unfold Op.Reads at reads
  split at reads <;> first | exact reads.elim | (cases thread <;> trivial)

/-- Deferred deletion as a contract, on top of that of the lock. -/
def deferral (compile : Compile) : Contract (cluster compile) where
  Inv := DeferralInv
  Rely := fun thread shared after => ∀ id, thread = .request id → DeferralRely id shared after
  Guard := fun thread op choice shared => Disciplined (fun _ _ => True) thread op shared ∧
    Owed thread op shared ∧ Remembers thread op choice shared
  Ok := DeferralOwed
  Post := fun thread answer shared => ∀ id req, thread = .request id →
    shared.inFlight id = some (.deleteVolume req) → answer = .deleteVolume (.ok ()) →
      Acknowledged req shared
  rely_refl := fun _ shared id _ => .refl id shared
  rely_trans := fun first second id isRequest => (first id isRequest).trans (second id isRequest)

/-! ## What a step keeps -/

section Steps

variable {thread : Tid} {op : Op} {choice : Choice} {shared after : Shared} {id : Nat}
  {volume name snapName : String}

/-- No request of such a run creates a volume. -/
theorem notCreated_of_owed (owed : Owed thread op shared) (id : Nat) (vol : ZFSVolume) :
    some (thread, op) ≠ some (.request id, .createVolume vol) := by
  rintro isCall
  cases isCall
  exact owed

theorem deferred_of_call (effect : Effect thread shared op after)
    (disciplined : Disciplined (fun _ _ => True) thread op shared)
    (owed : Owed thread op shared) (deferred : Deferred after.volumes volume) :
    Deferred shared.volumes volume ∨
      ∃ id vol, thread = .request id ∧ op = .updateVolume vol ∧ vol.name = volume := by
  rcases deferred_of_change (effect.volumeChange disciplined) deferred with
    before | ⟨id, vol, isCall, nameEq⟩ | ⟨id, vol, isCall⟩
  · exact .inl before
  · cases isCall
    exact .inr ⟨id, vol, rfl, rfl, nameEq⟩
  · exact absurd isCall (notCreated_of_owed owed id vol)

/-- Only the DeleteSnapshot request for it deletes a live snapshot of a volume. -/
theorem liveOf_of_call (effect : Effect thread shared op after)
    (disciplined : Disciplined (fun _ _ => True) thread op shared)
    (owed : Owed thread op shared) (live : LiveOf shared.snapshots volume name) :
    LiveOf after.snapshots volume name ∨
      ∃ id, thread = .request id ∧ op = .deleteSnapshot name ∧
        ServesSnapshot id volume name shared ∧ shared.locked volume = some (.request id) := by
  rcases liveOf_of_change (effect.snapshotChange disciplined) live with stays | ⟨_, isCall⟩
  · exact .inl stays
  · cases isCall
    obtain ⟨id, rfl⟩ := disciplined
    obtain ⟨snap, stored, _, label⟩ := live
    obtain ⟨labelled, serves, held, labels⟩ := owed
    obtain rfl := Option.some.inj ((labels snap stored).symm.trans label)
    exact .inr ⟨id, rfl, rfl, serves, held⟩

theorem doomed_of_call (effect : Effect thread shared op after)
    (disciplined : Disciplined (fun _ _ => True) thread op shared)
    (owed : Owed thread op shared) (doomed : Doomed shared.volumes volume) :
    Doomed after.volumes volume :=
  doomed_of_change (effect.volumeChange disciplined) (notCreated_of_owed owed) doomed

/-- Under a key that is held no snapshot of the volume appears. -/
theorem liveOf_of_keptUnder (kept : KeptUnder volume shared.snapshots after.snapshots)
    (live : LiveOf after.snapshots volume name) : LiveOf shared.snapshots volume name := by
  obtain ⟨snap, stored, isLive, label⟩ := live
  obtain ⟨old, storedOld, volumeEq, liveOld⟩ := kept name snap stored (.inr label)
  exact ⟨old, storedOld, liveOld isLive, volumeEq.trans label⟩

theorem deferralRely_of_call (effect : Effect thread shared op after)
    (disciplined : Disciplined (fun _ _ => True) thread op shared)
    (owed : Owed thread op shared) (other : Tid.request id ≠ thread) :
    DeferralRely id shared after where
  spared := effect.spared owed disciplined other
  deferred := by
    intro key held deferred
    rcases deferred_of_call effect disciplined owed deferred with
      before | ⟨writer, vol, rfl, rfl, rfl⟩
    · exact before
    · exact absurd (Option.some.inj (held.symm.trans owed)) other
  live := by
    intro key held name
    constructor
    · intro live
      rcases liveOf_of_call effect disciplined owed live with stays | ⟨writer, rfl, _, _, heldToo⟩
      · exact stays
      · exact absurd (Option.some.inj (held.symm.trans heldToo)) other
    · exact liveOf_of_keptUnder ((effect.spared owed disciplined other).kept key held)
  doomed := fun _ doomed => doomed_of_call effect disciplined owed doomed

/-- A volume becomes abandoned by the DeleteSnapshot request that holds its key, and is
not left so when the key is released. -/
theorem abandoned_of_call (effect : Effect thread shared op after)
    (disciplined : Disciplined (fun _ _ => True) thread op shared)
    (owed : Owed thread op shared) (owes : DeferralOwed thread op shared)
    (looked : ∀ volume, Abandoned shared volume → ∃ id snapName,
      shared.locked volume = some (.request id) ∧ ServesSnapshot id volume snapName shared)
    (abandoned : Abandoned after volume) :
    ∃ id snapName, after.locked volume = some (.request id) ∧
      ServesSnapshot id volume snapName after := by
  have serves {id : Nat} {snapName : String} (serves : ServesSnapshot id volume snapName shared) :
      ServesSnapshot id volume snapName after := by
    unfold ServesSnapshot
    rw [effect.inFlight]
    exact serves
  by_cases before : Abandoned shared volume
  · obtain ⟨id, snapName, held, serving⟩ := looked volume before
    refine ⟨id, snapName, ?_, serves serving⟩
    apply effect.locked_before _ held
    rintro rfl
    -- the one who releases the key is the one who holds it
    obtain ⟨releaser, rfl⟩ := disciplined
    obtain rfl : id = releaser := by simpa using held.symm.trans owed
    exact owes snapName serving before
  · have gone := allDeleted_iff.mp abandoned.deleted
    have live : ∃ name, LiveOf shared.snapshots volume name := by
      rcases deferred_of_call effect disciplined owed abandoned.deferred with
        deferred | ⟨writer, vol, rfl, rfl, rfl⟩
      · by_contra none
        exact before ⟨abandoned.named, deferred, allDeleted_iff.mpr (not_exists.mp none)⟩
      · exact owes
    obtain ⟨name, live⟩ := live
    rcases liveOf_of_call effect disciplined owed live with stays | ⟨id, rfl, rfl, serving, held⟩
    · exact absurd stays (gone name)
    · refine ⟨id, name, ?_, serves serving⟩
      apply effect.locked_before _ held
      intro released
      contradiction

end Steps

/-! ## DeleteSnapshot -/

section DeleteSnapshot

variable {compile : Compile} {id : Nat} {request : DeleteSnapshotRequest}
  {volume snapName : String} {keys : Set String} {shared now after : Shared}
  {snapList : List ZFSSnapshot}

theorem DeferralRely.abandoned (rely : DeferralRely id shared after)
    (held : shared.locked volume = some (.request id)) (abandoned : Abandoned after volume) :
    Abandoned shared volume where
  named := abandoned.named
  deferred := rely.deferred volume held abandoned.deferred
  deleted := by
    apply allDeleted_iff.mpr
    intro name live
    exact allDeleted_iff.mp abandoned.deleted name ((rely.live volume held name).mp live)

theorem DeferralRely.hangs (rely : DeferralRely id shared after)
    (held : shared.locked volume = some (.request id)) (hangs : Hangs after volume snapName) :
    Hangs shared volume snapName where
  deferred := rely.deferred volume held hangs.deferred
  others := by
    apply othersDeleted_iff.mpr
    intro name other live
    exact othersDeleted_iff.mp hangs.others name other ((rely.live volume held name).mp live)

/-- The request for the snapshot of the volume holds both keys. -/
structure Serving (id : Nat) (request : DeleteSnapshotRequest) (volume snapName : String)
    (shared : Shared) : Prop where
  names : Go.split '@' request.snapshotId = [volume, snapName]
  holding : Holding id (.deleteSnapshot request) {snapName, volume} shared

theorem Serving.held (serving : Serving id request volume snapName shared) :
    shared.locked volume = some (.request id) :=
  (serving.holding.held volume).mpr (.inr rfl)

theorem Serving.rely (serving : Serving id request volume snapName shared)
    (moved : (deferral compile).Rely (.request id) shared now) :
    Serving id request volume snapName now :=
  ⟨serving.names, serving.holding.spared (moved id rfl).spared⟩

theorem Serving.effect {op : Op} (serving : Serving id request volume snapName shared)
    (effect : Effect (.request id) shared op after) (calm : op.Calm) :
    Serving id request volume snapName after :=
  ⟨serving.names, serving.holding.effect effect calm⟩

theorem Serving.remembers {op : Op} {choice : Choice}
    (serving : Serving id request volume snapName shared)
    (remembers : Remembers (.request id) op choice shared) :
    RemembersVolume volume snapName op choice shared :=
  (remembers _ serving.holding.serving).2 _ (snapshotNames_deleteSnapshot serving.names)

/-- The request has nothing to answer for: the volume is not abandoned. -/
structure Discharged (id : Nat) (request : DeleteSnapshotRequest) (volume snapName : String)
    (shared : Shared) : Prop where
  serving : Serving id request volume snapName shared
  kept : ¬ Abandoned shared volume

theorem Discharged.rely (discharged : Discharged id request volume snapName shared)
    (moved : (deferral compile).Rely (.request id) shared now) :
    Discharged id request volume snapName now where
  serving := discharged.serving.rely moved
  kept := by
    intro abandoned
    exact discharged.kept ((moved id rfl).abandoned discharged.serving.held abandoned)

theorem lasts_discharged :
    Lasts (deferral compile) (.request id) (Discharged id request volume snapName) :=
  fun _ _ moved discharged => discharged.rely moved

/-- A look at an abandoned volume finds the mark. -/
theorem keeps_isVolumeEligibleForDeletion
    (serving : Serving id request volume snapName shared) :
    (deferral compile).Keeps (.request id) (isVolumeEligibleForDeletion volume)
      (fun answer now => Serving id request volume snapName now ∧
        (Abandoned now volume → Abandoned shared volume ∧ answer = .ok true)) shared := by
  unfold isVolumeEligibleForDeletion getZFSVolume getNamed
  by_cases empty : volume = ""
  · rw [if_pos empty]
    intro now moved _
    exact ⟨serving.rely moved, fun abandoned => absurd empty abandoned.named⟩
  · rw [if_neg empty]
    apply keeps_call_bind
    intro now moved _
    have servingNow := serving.rely moved
    constructor
    · trivial
    · intro choice answer after guard executed
      obtain ⟨answered, rfl⟩ := Prod.mk.inj (Option.some.inj executed)
      have back {later : Shared} (moved : (deferral compile).Rely (.request id) now later)
          (abandoned : Abandoned later volume) : Abandoned now volume :=
        (moved id rfl).abandoned servingNow.held abandoned
      have before (abandoned : Abandoned now volume) : Abandoned shared volume :=
        (moved id rfl).abandoned serving.held abandoned
      cases answer with
      | error err =>
          intro later moved' _
          refine ⟨servingNow.rely moved', fun abandoned => ?_⟩
          have abandoned := back moved' abandoned
          obtain ⟨vol, stored, _, _⟩ := abandoned.deferred
          have outcome : choice.outcome = .ok := servingNow.remembers guard.2.2 abandoned
          rw [readAnswer_error answered outcome] at stored
          contradiction
      | ok vol =>
          intro later moved' _
          refine ⟨servingNow.rely moved', fun abandoned => ?_⟩
          have abandoned := back moved' abandoned
          obtain ⟨other, stored, _, marked⟩ := abandoned.deferred
          obtain rfl := Option.some.inj (stored.symm.trans (readAnswer_ok answered))
          exact ⟨before abandoned, congrArg Except.ok (decide_eq_true marked)⟩

/-- The deletion of an abandoned volume is not without effect. -/
theorem keeps_deleteAbandoned (serving : Serving id request volume snapName shared) :
    (deferral compile).Keeps (.request id) (Zfs.deleteVolume volume)
      (fun _ => Discharged id request volume snapName) shared := by
  unfold Zfs.deleteVolume
  split
  · rename_i empty
    intro now moved _
    exact ⟨serving.rely moved, fun abandoned => abandoned.named empty⟩
  · intro now moved _
    have serving := serving.rely moved
    constructor
    · trivial
    · intro choice answer after guard executed
      have effect : Effect (.request id) now (.deleteVolume volume) after := exec_effect executed
      have discharged : Discharged id request volume snapName after := by
        refine ⟨serving.effect effect trivial, fun abandoned => ?_⟩
        obtain ⟨vol, stored, live, _⟩ := abandoned.deferred
        rcases writeAnswer_effective (Option.some.inj executed) with
          ⟨failed, rfl, _⟩ | ⟨reason, refused, rfl, _⟩ | ⟨next, accepted, rfl, _⟩
        · exact serving.remembers guard.2.2 abandoned failed
        · rw [Resource.absent_of_delete_eq_error refused] at stored
          contradiction
        · exact not_live_iff.mpr ((Resource.deleted_of_delete accepted).2 vol stored) live
      exact fun later moved' _ => discharged.rely moved'

/-- If the volume is abandoned, the list had just the deleted snapshot. -/
theorem keeps_deleteFollowing_discharged (serving : Serving id request volume snapName shared)
    (single : Abandoned shared volume → snapList.length = 1) :
    (deferral compile).Keeps (.request id) (deleteFollowing volume snapList)
      (fun _ => Discharged id request volume snapName) shared := by
  apply (promise_of_lasts lasts_discharged).deleteFollowing
    (keeps_isVolumeEligibleForDeletion serving)
  · rintro err other now ⟨serving, looked⟩
    exact ⟨serving, fun abandoned => nomatch (looked abandoned).2⟩
  · rintro eligible now ⟨serving, looked⟩ notLast
    refine ⟨serving, fun abandoned => notLast ?_⟩
    obtain ⟨before, found⟩ := looked abandoned
    exact ⟨single before, Except.ok.inj found⟩
  · exact fun looked _ => keeps_deleteAbandoned looked.1

/-- The list of a volume that hangs on a snapshot has that snapshot only. -/
theorem length_list_of_hangs
    (only : ∀ snap ∈ shared.snapshots.store.list ZFSVolKey volume, snap.name = snapName)
    (live : LiveOf shared.snapshots volume snapName) :
    (shared.snapshots.store.list ZFSVolKey volume).length = 1 := by
  obtain ⟨snap, stored, _, label⟩ := live
  obtain rfl := Resource.name_of_get stored
  have mem : snap ∈ shared.snapshots.store.list ZFSVolKey volume :=
    Store.mem_list_iff.mpr ⟨stored, label⟩
  have same : ∀ other ∈ shared.snapshots.store.list ZFSVolKey volume, other = snap := by
    intro other otherMem
    have found := (Store.mem_list_iff.mp otherMem).1
    rw [only other otherMem] at found
    exact Option.some.inj (found.symm.trans stored)
  have distinct := List.Nodup.of_map _ (Store.list_nodup shared.snapshots.store ZFSVolKey volume)
  cases listEq : shared.snapshots.store.list ZFSVolKey volume with
  | nil =>
      rw [listEq] at mem
      contradiction
  | cons first rest =>
      cases rest with
      | nil => rfl
      | cons second rest =>
          rw [listEq] at same distinct
          have equal : first = second :=
            (same first (.head _)).trans (same second (.tail _ (.head _))).symm
          exact absurd (equal ▸ .head _) (List.nodup_cons.mp distinct).1

/-- Before the deletion: if the volume hangs on the snapshot, the list has that snapshot
only. -/
def SingleIfHangs (snapList : List ZFSSnapshot) (volume snapName : String) (shared : Shared) :
    Prop :=
  Hangs shared volume snapName → LiveOf shared.snapshots volume snapName → snapList.length = 1

theorem SingleIfHangs.rely (single : SingleIfHangs snapList volume snapName shared)
    (rely : DeferralRely id shared now) (held : shared.locked volume = some (.request id)) :
    SingleIfHangs snapList volume snapName now := by
  intro hangs live
  exact single (rely.hangs held hangs) ((rely.live volume held snapName).mpr live)

/-- The deletion of the snapshot leaves the volume abandoned only if it hung on it. -/
theorem hangs_of_abandoned
    (effect : Effect (.request id) shared (.deleteSnapshot snapName) after)
    (disciplined : Disciplined (fun _ _ => True) (.request id) (.deleteSnapshot snapName) shared)
    (owed : Owed (.request id) (.deleteSnapshot snapName) shared)
    (kept : ¬ Abandoned shared volume) (abandoned : Abandoned after volume) :
    Hangs shared volume snapName ∧ LiveOf shared.snapshots volume snapName := by
  have gone := allDeleted_iff.mp abandoned.deleted
  have deferred : Deferred shared.volumes volume := by
    rcases deferred_of_call effect disciplined owed abandoned.deferred with
      before | ⟨_, _, _, isUpdate, _⟩
    · exact before
    · contradiction
  -- whatever was live and is not any more is the snapshot
  have only (name : String) (live : LiveOf shared.snapshots volume name) : name = snapName := by
    rcases liveOf_of_call effect disciplined owed live with stays | ⟨_, _, isDelete, _⟩
    · exact absurd stays (gone name)
    · exact (Op.deleteSnapshot.inj isDelete).symm
  constructor
  · refine ⟨deferred, othersDeleted_iff.mpr fun name other live => ?_⟩
    exact other (only name live)
  · by_contra notLive
    refine kept ⟨abandoned.named, deferred, allDeleted_iff.mpr fun name live => ?_⟩
    exact notLive (only name live ▸ live)

/-- What follows from the deletion of the snapshot. -/
theorem Discharged.deleted {choice : Choice} {answer : Except Err Unit}
    (discharged : Discharged id request volume snapName shared)
    (single : SingleIfHangs snapList volume snapName shared)
    (guard : (deferral compile).Guard (.request id) (.deleteSnapshot snapName) choice shared)
    (executed :
      exec (.request id) (.deleteSnapshot snapName) choice shared = some (answer, after)) :
    Continues (deferral compile) (.request id) (deleteFollowing volume snapList)
      (fun _ => Discharged id request volume snapName) answer after := by
  have effect : Effect (.request id) shared (.deleteSnapshot snapName) after :=
    exec_effect executed
  have serving := discharged.serving.effect effect trivial
  have hung (abandoned : Abandoned after volume) :=
    hangs_of_abandoned effect guard.1 guard.2.1 discharged.kept abandoned
  cases answer with
  | ok done =>
      apply keeps_deleteFollowing_discharged serving
      intro abandoned
      exact single (hung abandoned).1 (hung abandoned).2
  | error err =>
      refine ⟨serving, fun abandoned => ?_⟩
      rcases writeAnswer_effective (Option.some.inj executed) with
        ⟨_, rfl, _⟩ | ⟨_, _, rfl, _⟩ | ⟨_, _, _, answered | lost⟩
      · exact discharged.kept abandoned
      · exact discharged.kept abandoned
      · contradiction
      · exact discharged.serving.remembers guard.2.2 (hung abandoned).1 lost

theorem keeps_deleteSnapshotLocked_discharged
    (discharged : Discharged id request volume snapName shared) :
    (deferral compile).Keeps (.request id) (deleteSnapshotLocked request volume snapName)
      (fun _ => Discharged id request volume snapName) shared := by
  apply (promise_of_lasts lasts_discharged).deleteSnapshotLocked Op.Reads.deferralOwed
    lasts_discharged (Discharged id request volume snapName)
    (fun snapList now => Discharged id request volume snapName now ∧
      SingleIfHangs snapList volume snapName now) lasts_discharged _
    (fun discharged => discharged) (fun discharged => discharged) (fun listed => listed.1)
    (fun discharged _ => discharged) _ _ discharged
  · rintro snapList before after moved ⟨discharged, single⟩
    exact ⟨discharged.rely moved, single.rely (moved id rfl) discharged.serving.held⟩
  · intro choice now discharged guard
    refine ⟨discharged, fun hangs live => ?_⟩
    exact length_list_of_hangs (discharged.serving.remembers guard.2.2 hangs) live
  · rintro snapList now ⟨discharged, single⟩
    refine ⟨trivial, fun guard executed => ?_⟩
    exact discharged.deleted single guard executed

/-- A key that is free is not the one of an abandoned volume. -/
theorem not_abandoned_of_free (inv : DeferralInv shared) (free : shared.locked volume = none) :
    ¬ Abandoned shared volume := by
  intro abandoned
  obtain ⟨id, _, held, _⟩ := inv.abandoned volume abandoned
  rw [free] at held
  contradiction

/-- Keys are no concern of the volumes. -/
theorem abandoned_of_setLocked {key : String} {holder : Option Tid}
    (abandoned : Abandoned (shared.setLocked key holder) volume) : Abandoned shared volume :=
  ⟨abandoned.named, abandoned.deferred, abandoned.deleted⟩

theorem keeps_takeKey {α : Type} {key : String} {next : Unit → Routine α}
    {post : α → Shared → Prop}
    (rest : ∀ now, DeferralRely id shared now → DeferralInv now → now.locked key = none →
      (deferral compile).Keeps (.request id) (next ()) post
        (now.setLocked key (some (.request id)))) :
    (deferral compile).Keeps (.request id) (call (.lock key) >>= next) post shared := by
  apply keeps_call_bind
  intro now moved inv
  constructor
  · trivial
  · intro choice answer after _ executed
    obtain ⟨free, rfl⟩ := exec_lock executed
    exact rest now (moved id rfl) inv free

theorem keeps_releaseKey {α : Type} {key : String} {next : Unit → Routine α}
    {post : α → Shared → Prop}
    (owes : ∀ now, DeferralRely id shared now → DeferralOwed (.request id) (.unlock key) now)
    (rest : ∀ now, DeferralRely id shared now →
      (deferral compile).Keeps (.request id) (next ()) post (now.setLocked key none)) :
    (deferral compile).Keeps (.request id) (call (.unlock key) >>= next) post shared := by
  apply keeps_call_bind
  intro now moved _
  constructor
  · exact owes now (moved id rfl)
  · intro choice answer after _ executed
    cases executed
    exact rest now (moved id rfl)

theorem keeps_deleteSnapshot (holding : Holding id (.deleteSnapshot request) ∅ shared) :
    (deferral compile).Keeps (.request id) (Driver.deleteSnapshot request)
      (fun _ => Holding id (.deleteSnapshot request) ∅) shared := by
  have done (value : Except Err Unit) : (deferral compile).Keeps (.request id)
      (pure value : Routine _) (fun _ => Holding id (.deleteSnapshot request) ∅) shared :=
    fun now moved _ => holding.spared (moved id rfl).spared
  unfold Driver.deleteSnapshot
  split
  · exact done _
  · split
    · rename_i volume snapName names
      apply keeps_takeKey
      intro now moved inv free
      have kept := not_abandoned_of_free inv free
      have holding := (holding.spared moved.spared).lock volume
      rw [insert_empty_eq] at holding
      apply keeps_takeKey
      intro later moved _ freeLater
      have held := (holding.held volume).mpr rfl
      have differs : snapName ≠ volume := by
        rintro rfl
        rw [(moved.spared.locked snapName).mpr held] at freeLater
        contradiction
      have discharged : Discharged id request volume snapName
          (later.setLocked snapName (some (.request id))) := by
        refine ⟨⟨names, (holding.spared moved.spared).lock snapName⟩, fun abandoned => ?_⟩
        have before := moved.abandoned held (abandoned_of_setLocked abandoned)
        exact kept (abandoned_of_setLocked before)
      apply Contract.Keeps.bind
      apply (keeps_deleteSnapshotLocked_discharged discharged).mono
      intro result last _ discharged
      apply keeps_releaseKey
      · intro now moved _ _ abandoned
        exact discharged.kept (moved.abandoned discharged.serving.held abandoned)
      · intro now moved
        have holding := (discharged.serving.holding.spared moved.spared).unlock volume
        apply keeps_releaseKey
        · rintro later moved other ⟨req, serving, otherNames⟩
          have same := (holding.spared moved.spared).serving.symm.trans serving
          cases same
          rw [names] at otherNames
          cases otherNames
          exact absurd rfl differs
        · intro later moved
          have holding := (holding.spared moved.spared).unlock snapName
          rw [released_eq_empty] at holding
          exact fun now moved _ => holding.spared (moved id rfl).spared
    · exact done _

end DeleteSnapshot

/-! ## DeleteVolume -/

section DeleteVolume

variable {compile : Compile} {id : Nat} {request : DeleteVolumeRequest} {keys : Set String}
  {shared now after : Shared}

/-- The request for a volume holds these keys, and a success is one. -/
structure AnswersFor (id : Nat) (request : DeleteVolumeRequest) (keys : Set String)
    (answer : Except Err Unit) (shared : Shared) : Prop where
  holding : Holding id (.deleteVolume request) keys shared
  doomed : answer = .ok () → Doomed shared.volumes (Go.toLower request.volumeId)

theorem AnswersFor.rely {answer : Except Err Unit}
    (answers : AnswersFor id request keys answer shared)
    (moved : (deferral compile).Rely (.request id) shared now) :
    AnswersFor id request keys answer now where
  holding := answers.holding.spared (moved id rfl).spared
  doomed := fun success => (moved id rfl).doomed _ (answers.doomed success)

theorem keeps_answer {answer : Except Err Unit}
    (answers : AnswersFor id request keys answer shared) :
    (deferral compile).Keeps (.request id) (pure answer : Routine _)
      (AnswersFor id request keys) shared :=
  fun _ moved _ => answers.rely moved

theorem keeps_failure (err : Err) (holding : Holding id (.deleteVolume request) keys shared) :
    (deferral compile).Keeps (.request id) (pure (.error err) : Routine (Except Err Unit))
      (AnswersFor id request keys) shared :=
  keeps_answer ⟨holding, fun success => nomatch success⟩

theorem doomed_of_deleted {volumes : Resource VolumeInfo State} {volume : String}
    (deleted : ∀ vol, volumes.get volume = some vol → vol.deletionTimestamp = true) :
    Doomed volumes volume :=
  fun vol stored live => absurd live (not_live_iff.mpr (deleted vol stored))

theorem keeps_zfsDeleteVolume_doomed
    (holding : Holding id (.deleteVolume request) keys shared) :
    (deferral compile).Keeps (.request id) (Zfs.deleteVolume (Go.toLower request.volumeId))
      (AnswersFor id request keys) shared := by
  unfold Zfs.deleteVolume
  split
  · exact keeps_failure _ holding
  · intro now moved _
    have holding := holding.spared (moved id rfl).spared
    constructor
    · trivial
    · intro choice answer after _ executed
      have effect : Effect (.request id) now (.deleteVolume (Go.toLower request.volumeId)) after :=
        exec_effect executed
      refine keeps_answer ⟨holding.effect effect trivial, fun success => ?_⟩
      rcases writeAnswer_cases (Option.some.inj executed) with ⟨_, refused⟩ | ⟨next, accepted, rfl⟩
      · exact absurd success refused
      · exact doomed_of_deleted (Resource.deleted_of_delete accepted).2

/-- A volume is marked while one of its snapshots is live. -/
theorem keeps_markForDeletion_doomed {name : String}
    (holding : Holding id (.deleteVolume request) {Go.toLower request.volumeId} shared)
    (live : LiveOf shared.snapshots (Go.toLower request.volumeId) name) :
    (deferral compile).Keeps (.request id) (markForDeletion (Go.toLower request.volumeId))
      (AnswersFor id request {Go.toLower request.volumeId}) shared := by
  have held {now : Shared}
      (holding : Holding id (.deleteVolume request) {Go.toLower request.volumeId} now) :
      now.locked (Go.toLower request.volumeId) = some (.request id) :=
    (holding.held _).mpr rfl
  apply keeps_getZFSVolume_bind
  · intro now _ _
    trivial
  · intro err now moved _ _
    exact keeps_failure _ (holding.spared (moved id rfl).spared)
  · intro vol choice now moved _ _ stored
    have nameEq := Resource.name_of_get stored
    have live := ((moved id rfl).live _ (held holding) name).mp live
    have holding := holding.spared (moved id rfl).spared
    dsimp only
    rw [updateZFSVolumeAnnotation_eq]
    intro later moved _
    have live := ((moved id rfl).live _ (held holding) name).mp live
    have holding := holding.spared (moved id rfl).spared
    constructor
    · exact ⟨name, nameEq ▸ live⟩
    · intro choice answer after _ executed
      have effect : Effect (.request id) later (.updateVolume (markedVolume vol)) after :=
        exec_effect executed
      refine keeps_answer ⟨holding.effect effect trivial, fun success => ?_⟩
      rcases writeAnswer_cases (Option.some.inj executed) with ⟨_, refused⟩ | ⟨next, accepted, rfl⟩
      · exact absurd success refused
      · intro written found _
        have found : next.get (markedVolume vol).name = some written := by
          rw [show (markedVolume vol).name = _ from nameEq]
          exact found
        rw [Resource.stored_of_update accepted found]
        simp [Marked, markedVolume, Go.StringMap.get]

theorem promise_answersFor :
    Promise (deferral compile) (.request id) (AnswersFor id request keys) where
  lasts := fun _ _ _ moved answers => answers.rely moved
  anyText := fun answers => ⟨answers.holding, fun success => nomatch success⟩

theorem keeps_deleteVolumeLocked_doomed
    (holding : Holding id (.deleteVolume request) {Go.toLower request.volumeId} shared) :
    (deferral compile).Keeps (.request id)
      (deleteVolumeLocked request (Go.toLower request.volumeId))
      (AnswersFor id request {Go.toLower request.volumeId}) shared := by
  apply promise_answersFor.deleteVolumeLocked Op.Reads.deferralOwed
    (fun _ _ moved holding => holding.spared (moved id rfl).spared) _ _ _ _ holding
  · exact fun holding => ⟨holding, fun success => nomatch success⟩
  · exact fun holding deleted => ⟨holding, fun _ => doomed_of_deleted deleted⟩
  · exact fun holding _ => keeps_zfsDeleteVolume_doomed holding
  · intro choice now holding guard nonempty
    have lists := (guard.2.2 _ holding.serving).1 rfl
    have someLive := mt lists nonempty
    rw [allDeleted_iff, not_forall_not] at someLive
    obtain ⟨name, live⟩ := someLive
    exact keeps_markForDeletion_doomed holding live

/-- A request to delete a volume answers for it. -/
theorem keeps_deleteVolume (holding : Holding id (.deleteVolume request) ∅ shared) :
    (deferral compile).Keeps (.request id) (Driver.deleteVolume request)
      (fun answer now => AnswersFor id request ∅ answer now ∧
        (answer = .ok () → request.volumeId ≠ "")) shared := by
  unfold Driver.deleteVolume
  split
  · intro now moved _
    exact ⟨⟨holding.spared (moved id rfl).spared, fun success => nomatch success⟩,
      fun success => nomatch success⟩
  · rename_i named
    apply keeps_takeKey
    intro now moved _ _
    have holding := (holding.spared moved.spared).lock (Go.toLower request.volumeId)
    rw [insert_empty_eq] at holding
    apply Contract.Keeps.bind
    apply (keeps_deleteVolumeLocked_doomed holding).mono
    intro answer later _ answers
    apply keeps_releaseKey
    · rintro now moved other ⟨req, serving, _⟩
      have same := (answers.holding.spared moved.spared).serving.symm.trans serving
      cases same
    · intro now moved
      have holding := (answers.holding.spared moved.spared).unlock (Go.toLower request.volumeId)
      rw [Set.sdiff_self] at holding
      intro last moved' _
      refine ⟨⟨holding.spared (moved' id rfl).spared, fun success => ?_⟩, fun _ => named⟩
      exact (moved' id rfl).doomed _ (moved.doomed _ (answers.doomed success))

end DeleteVolume

/-! ## Runs -/

section Runs

variable {compile : Compile} {thread : Tid} {shared after : Shared}
  {start config : Config sig Shared Tid Answer}

theorem Drift.liveOf_iff (drift : Drift shared after) (volume name : String) :
    LiveOf shared.snapshots volume name ↔ LiveOf after.snapshots volume name := by
  constructor
  · intro live
    rcases liveOf_of_change drift.snapshots live with stays | ⟨_, isCall⟩
    · exact stays
    · contradiction
  · apply liveOf_of_keptUnder
    apply keptUnder_of_change drift.snapshots
    intro creator snap isCall
    contradiction

theorem Drift.deferred (drift : Drift shared after) {volume : String}
    (deferred : Deferred after.volumes volume) : Deferred shared.volumes volume := by
  rcases deferred_of_change (drift.volumes fun _ _ => True) deferred with
    before | ⟨_, _, isCall, _⟩ | ⟨_, _, isCall⟩
  · exact before
  · contradiction
  · contradiction

theorem Drift.doomed (drift : Drift shared after) {volume : String}
    (doomed : Doomed shared.volumes volume) : Doomed after.volumes volume := by
  apply doomed_of_change (drift.volumes fun _ _ => True) _ doomed
  intro id vol isCall
  contradiction

theorem Drift.deferralRely (drift : Drift shared after) {id : Nat}
    (serving : after.inFlight id = shared.inFlight id) : DeferralRely id shared after where
  spared := drift.spared serving
  deferred := fun _ _ => Drift.deferred drift
  live := fun key _ name => Drift.liveOf_iff drift key name
  doomed := fun _ => Drift.doomed drift

/-- A step that is no call keeps the invariant if the holders of keys stay in flight and
a new answer is a true one. -/
theorem DeferralInv.drift (inv : DeferralInv shared) (drift : Drift shared after)
    (serving : ∀ key id, shared.locked key = some (.request id) → shared.inFlight id ≠ none →
      after.inFlight id = shared.inFlight id)
    (answered : ∀ req, (.deleteVolume req, .deleteVolume (.ok ())) ∈ after.answered →
      (.deleteVolume req, .deleteVolume (.ok ())) ∈ shared.answered ∨ Acknowledged req shared) :
    DeferralInv after where
  abandoned := by
    intro volume abandoned
    have before : Abandoned shared volume := by
      refine ⟨abandoned.named, Drift.deferred drift abandoned.deferred, ?_⟩
      apply allDeleted_iff.mpr
      intro name live
      exact allDeleted_iff.mp abandoned.deleted name ((Drift.liveOf_iff drift volume name).mp live)
    obtain ⟨id, snapName, held, req, inFlight, names⟩ := inv.abandoned volume before
    have same := serving volume id held (by simp [inFlight])
    rw [← drift.locked] at held
    exact ⟨id, snapName, held, req, same.trans inFlight, names⟩
  acknowledged := by
    intro req mem
    have before : Acknowledged req shared := by
      rcases answered req mem with mem | acknowledged
      · exact inv.acknowledged req mem
      · exact acknowledged
    exact ⟨before.named, Drift.doomed drift before.doomed⟩

/-- The requests of the deferred deletion. -/
def Request.Deletes : Request → Prop
  | .deleteVolume _ | .deleteSnapshot _ => True
  | _ => False

/-- Only deletions arrive, and each DeleteSnapshot names the volume of its snapshot. -/
structure DeletionStep (action : Action Tid Choice Move Arrival)
    (config : Config sig Shared Tid Answer) : Prop where
  arrives : Arrives Request.Deletes action config
  names : System.AtCalls (fun thread op _ shared => NamesItsVolume thread op shared) action config

theorem DeletionStep.serialized {action : Action Tid Choice Move Arrival}
    (step : DeletionStep action config) : SerializedStep action config where
  arrives := by
    apply step.arrives.mono
    intro req deletes
    cases req with
    | deleteVolume | deleteSnapshot => trivial
    | createVolume | controllerExpandVolume | createSnapshot | nodeExpandVolume =>
        exact deletes.elim
  names := step.names

/-- A step of the deferred deletion that forgets no volume. -/
structure RememberingStep (action : Action Tid Choice Move Arrival)
    (config : Config sig Shared Tid Answer) : Prop where
  deletion : DeletionStep action config
  remembers : System.AtCalls Remembers action config

theorem keeps_serve_deletion {id : Nat} {req : Request} (deletes : Request.Deletes req)
    (holding : Holding id req ∅ shared) :
    (deferral compile).Keeps (.request id) (serve compile req)
      ((deferral compile).Post (.request id)) shared := by
  cases req with
  | createVolume | controllerExpandVolume | createSnapshot | nodeExpandVolume =>
      exact deletes.elim
  | deleteVolume request =>
      apply Contract.Keeps.bind
      apply (keeps_deleteVolume holding).mono
      rintro result now _ ⟨answers, named⟩ later moved _ id' req isRequest serving answerEq
      cases isRequest
      have answers := answers.rely moved
      cases answers.holding.serving.symm.trans serving
      have success : result = .ok () := Answer.deleteVolume.inj answerEq
      exact ⟨named success, answers.doomed success⟩
  | deleteSnapshot request =>
      apply Contract.Keeps.bind
      apply (keeps_deleteSnapshot holding).mono
      intro result now _ holding later moved _ id' req isRequest serving _
      cases isRequest
      have holding := holding.spared (moved id rfl).spared
      cases holding.serving.symm.trans serving

/-- A call keeps the invariant. -/
theorem DeferralInv.call {thread : Tid} {op : Op} (inv : DeferralInv shared)
    (effect : Effect thread shared op after)
    (disciplined : Disciplined (fun _ _ => True) thread op shared) (owed : Owed thread op shared)
    (owes : DeferralOwed thread op shared) : DeferralInv after where
  abandoned := fun _ => abandoned_of_call effect disciplined owed owes inv.abandoned
  acknowledged := by
    intro req mem
    rw [effect.answered] at mem
    have acknowledged := inv.acknowledged req mem
    exact ⟨acknowledged.named, doomed_of_call effect disciplined owed acknowledged.doomed⟩

/-- A thread leaves without a key, and what it answers is true. -/
theorem DeferralInv.leave {thread : Tid} {answer : Answer} (inv : DeferralInv shared)
    (effect : LeaveEffect shared thread answer after)
    (released : ∀ key, shared.locked key ≠ some thread)
    (post : (deferral compile).Post thread answer shared) : DeferralInv after := by
  apply inv.drift effect.drift
  · intro key id held _
    apply effect.inFlight
    rintro rfl
    exact released key held
  · intro req mem
    rcases effect.answered with same | ⟨id, served, rfl, serving, added⟩
    · rw [same] at mem
      exact .inl mem
    · rw [added, List.mem_append, List.mem_singleton] at mem
      rcases mem with mem | isNew
      · exact .inl mem
      · cases isNew
        exact .inr (post id req rfl serving rfl)

theorem deferral_sound
    {Meets : Action Tid Choice Move Arrival → Config sig Shared Tid Answer → Prop}
    (remembering : ∀ {action config}, Meets action config → RememberingStep action config)
    (orderly : ∀ {action config}, Meets action config → Orderly action config) :
    (deferral compile).Sound Meets where
  guard := fun meets atCall => ⟨(orderly meets).disciplined _ _ atCall,
    (orderly meets).owed _ _ atCall, (remembering meets).remembers _ _ atCall⟩
  call := by
    rintro thread op choice before answer after inv owes ⟨disciplined, owed, _⟩ executed
    have effect := exec_effect executed
    constructor
    · exact inv.call effect disciplined owed owes
    · rintro other differs id rfl
      exact deferralRely_of_call effect disciplined owed differs
  env := by
    intro config move after _ inv moved
    have effect := env_effect moved
    constructor
    · apply inv.drift effect.drift
      · intro key id _ _
        rw [effect.inFlight]
      · intro req mem
        rw [effect.answered] at mem
        exact .inl mem
    · rintro other id rfl
      exact Drift.deferralRely effect.drift (by rw [effect.inFlight])
  arrive := by
    intro config arrival thread program after meets inv arrived _
    have effect := arrive_effect arrived
    refine ⟨?_, ?_, ?_⟩
    · apply inv.drift effect.drift
      · intro key id _ inFlight
        apply effect.inFlight
        rintro rfl
        cases effect with
        | request id req unused => exact inFlight unused
      · intro req mem
        rw [effect.answered] at mem
        exact .inl mem
    · rintro other differs id rfl
      exact Drift.deferralRely effect.drift (effect.inFlight differs)
    · have arrives := (remembering meets).deletion.arrives
      have owners := (orderly meets).served
      cases effect with
      | request id req unused =>
          exact keeps_serve_deletion arrives (holding_of_arrival owners unused req)
      | syncVolume | syncSnapshot | syncBackup =>
          apply keeps_work
          · exact fun _ _ _ => trivial
          · exact fun _ _ _ id req isRequest => nomatch isRequest
  leave := by
    intro config thread answer meets inv post _
    have effect := leave_effect thread answer config.shared
    constructor
    · exact inv.leave effect ((orderly meets).released thread rfl) post
    · rintro other differs id rfl
      exact Drift.deferralRely effect.drift (effect.inFlight differs)

/-- Nobody is running, no key is taken, no volume is abandoned and nothing is answered. -/
structure Undeferred (start : Config sig Shared Tid Answer) : Prop where
  unlocked : Unlocked start
  kept : ∀ volume, ¬ Abandoned start.shared volume
  unanswered : start.shared.answered = []

/-- Along every run of deletions that forgets no volume: once a DeleteVolume is
acknowledged, nothing is in flight and no snapshot of the volume is left, the volume is
gone or deleted. -/
theorem deferred_deletion_completes (undeferred : Undeferred start)
    (reached : (cluster compile).Reaches RememberingStep start config)
    {req : DeleteVolumeRequest}
    (acknowledged : (.deleteVolume req, .deleteVolume (.ok ())) ∈ config.shared.answered)
    (quiet : ∀ id, config.shared.inFlight id = none)
    (gone : ∀ name snap, config.shared.snapshots.get name = some snap →
      snap.labels.lookup ZFSVolKey ≠ some (Go.toLower req.volumeId))
    {vol : ZFSVolume}
    (stored : config.shared.volumes.get (Go.toLower req.volumeId) = some vol) :
    vol.deletionTimestamp = true := by
  have initially : DeferralInv start.shared := by
    constructor
    · intro volume abandoned
      exact absurd abandoned (undeferred.kept volume)
    · intro req mem
      rw [undeferred.unanswered] at mem
      contradiction
  have orderly := reaches_orderly undeferred.unlocked (fun step => step.deletion.serialized) reached
  have holds : (deferral compile).Holds config := by
    apply Contract.Sound.reaches _ initially undeferred.unlocked.idle orderly
    exact deferral_sound (fun step => step.1) fun step => step.2
  have inv : DeferralInv config.shared := holds.1
  have answered := inv.acknowledged req acknowledged
  apply not_live_iff.mp
  intro live
  have abandoned : Abandoned config.shared (Go.toLower req.volumeId) := by
    refine ⟨Go.toLower_ne_empty answered.named, ?_, ?_⟩
    · exact ⟨vol, stored, live, answered.doomed vol stored live⟩
    · intro name snap found label
      exact absurd label (gone name snap found)
  obtain ⟨id, _, _, _, serving, _⟩ := inv.abandoned _ abandoned
  rw [quiet id] at serving
  contradiction

instance (vol : ZFSVolume) : Decidable (Marked vol) :=
  inferInstanceAs (Decidable (_ = _))

instance (volumes : Resource VolumeInfo State) (volume : String) :
    Decidable (Deferred volumes volume) :=
  inferInstanceAs (Decidable (∃ vol ∈ volumes.get volume, Live vol ∧ Marked vol))

instance (snapshots : Resource VolumeInfo State) (volume : String) :
    Decidable (AllDeleted snapshots volume) :=
  decidable_of_iff (∀ snap ∈ snapshots.store.list ZFSVolKey volume, snap.deletionTimestamp = true)
    ⟨fun deleted name snap found label => by
        obtain rfl := Resource.name_of_get found
        exact deleted snap (Store.mem_list_iff.mpr ⟨found, label⟩),
      fun deleted snap mem =>
        deleted snap.name snap (Store.mem_list_iff.mp mem).1 (Store.mem_list_iff.mp mem).2⟩

instance (shared : Shared) (volume snapName : String) : Decidable (Hangs shared volume snapName) :=
  decidable_of_iff (Deferred shared.volumes volume ∧
      ∀ snap ∈ shared.snapshots.store.list ZFSVolKey volume, snap.name ≠ snapName →
        snap.deletionTimestamp = true)
    ⟨fun both => ⟨both.1, both.2⟩, fun hangs => ⟨hangs.deferred, hangs.others⟩⟩

instance (shared : Shared) (volume : String) : Decidable (Abandoned shared volume) :=
  decidable_of_iff (volume ≠ "" ∧ Deferred shared.volumes volume ∧
      AllDeleted shared.snapshots volume)
    ⟨fun all => ⟨all.1, all.2.1, all.2.2⟩,
      fun abandoned => ⟨abandoned.named, abandoned.deferred, abandoned.deleted⟩⟩

instance (volume snapName : String) (op : Op) (choice : Choice) (shared : Shared) :
    Decidable (RemembersVolume volume snapName op choice shared) := by
  apply @Op.casesOn _ op <;> intros <;> dsimp only [RemembersVolume] <;> infer_instance

instance (op : Op) (shared : Shared) : Decidable (ListsLive op shared) := by
  apply @Op.casesOn _ op <;> intros <;> dsimp only [ListsLive] <;> infer_instance

instance (thread : Tid) (op : Op) (choice : Choice) (shared : Shared) :
    Decidable (Remembers thread op choice shared) :=
  match thread with
  | .request _ | .volume _ _ | .snapshot _ _ | .backup _ _ => by
      dsimp only [Remembers]
      infer_instance

instance : DecidablePred Request.Deletes
  | .createVolume _ _ | .deleteVolume _ | .controllerExpandVolume _ | .createSnapshot _ _ _
  | .deleteSnapshot _ | .nodeExpandVolume _ _ => by
      dsimp only [Request.Deletes]
      infer_instance

instance (action : Action Tid Choice Move Arrival) (config : Config sig Shared Tid Answer) :
    Decidable (DeletionStep action config) :=
  decidable_of_iff (Arrives Request.Deletes action config ∧
      System.AtCalls (fun thread op _ shared => NamesItsVolume thread op shared) action config)
    ⟨fun both => ⟨both.1, both.2⟩, fun step => ⟨step.arrives, step.names⟩⟩

instance (action : Action Tid Choice Move Arrival) (config : Config sig Shared Tid Answer) :
    Decidable (RememberingStep action config) :=
  decidable_of_iff (DeletionStep action config ∧ System.AtCalls Remembers action config)
    ⟨fun both => ⟨both.1, both.2⟩, fun step => ⟨step.deletion, step.remembers⟩⟩

/-- The volume is marked while it has a snapshot, and follows the snapshot. -/
def followingRun : List (Action Tid Choice Move Arrival) :=
  servedSteps 0 (.deleteVolume { volumeId := "v" }) 6 ++
    servedSteps 1 (.deleteSnapshot { snapshotId := "v@s" }) 9 ++ dropSteps "s"

/-- The volume is marked while it has two snapshots. Both are deleted before the agent
gets to either of them. -/
def forgettingRun : List (Action Tid Choice Move Arrival) :=
  servedSteps 0 (.deleteVolume { volumeId := "v" }) 6 ++
    servedSteps 1 (.deleteSnapshot { snapshotId := "v@s" }) 8 ++
    servedSteps 2 (.deleteSnapshot { snapshotId := "v@t" }) 8 ++ dropSteps "s" ++ dropSteps "t"

theorem undeferred_snapshotCluster (names : List String) :
    Undeferred (idle (snapshotCluster names)) := by
  refine ⟨⟨fun _ => rfl, fun _ => rfl⟩, fun volume abandoned => ?_, rfl⟩
  obtain ⟨vol, stored, _, marked⟩ := abandoned.deferred
  rcases Resource.get_commit_eq_some stored with ⟨absent, _⟩ | ⟨put, putEq, _, rfl⟩
  · contradiction
  · cases putEq
    contradiction

/-- No snapshot of the volume is stored if none is listed. -/
theorem gone_of_list {snapshots : Resource VolumeInfo State} {volume : String}
    (none : snapshots.store.list ZFSVolKey volume = []) (name : String) (snap : ZFSSnapshot)
    (stored : snapshots.get name = some snap) : snap.labels.lookup ZFSVolKey ≠ some volume := by
  intro label
  obtain rfl := Resource.name_of_get stored
  have mem := Store.mem_list_iff.mpr ⟨stored, label⟩
  rw [none] at mem
  contradiction

/-- The deletion of the volume is acknowledged. -/
abbrev deletedVolume : Request × Answer :=
  (.deleteVolume { volumeId := "v" }, .deleteVolume (.ok ()))

/-- The deletion of a snapshot is acknowledged. -/
abbrev deletedSnapshot (id : String) : Request × Answer :=
  (.deleteSnapshot { snapshotId := id }, .deleteSnapshot (.ok ()))

theorem deferred_deletion_completes_snapshotCluster :
    ∃ config vol, (cluster noRegexp).Reaches RememberingStep (idle (snapshotCluster ["s"])) config ∧
      deletedVolume ∈ config.shared.answered ∧
      (∀ id, config.shared.inFlight id = none) ∧
      (∀ name snap, config.shared.snapshots.get name = some snap →
        snap.labels.lookup ZFSVolKey ≠ some "v") ∧
      config.shared.volumes.get "v" = some vol ∧ vol.deletionTimestamp = true := by
  have ran : ((cluster noRegexp).run RememberingStep followingRun
      (idle (snapshotCluster ["s"]))).any (fun config =>
        decide (deletedVolume ∈ config.shared.answered ∧
          (∀ id ∈ ([0, 1] : List Nat), config.shared.inFlight id = none) ∧
          config.shared.snapshots.store.list ZFSVolKey "v" = []) &&
        (config.shared.volumes.get "v").isSome) = true := by
    decide +kernel
  obtain ⟨config, last, checked⟩ := (Option.any_eq_true _ _).mp ran
  obtain ⟨holds, present⟩ := Bool.and_eq_true_iff.mp checked
  obtain ⟨acknowledged, answered, none⟩ := of_decide_eq_true holds
  obtain ⟨vol, stored⟩ := Option.isSome_iff_exists.mp present
  have reached := System.reaches_of_run last
  have quiet := quiet_of_run [0, 1] reached (fun _ => rfl) (by
    simp [followingRun, servedSteps, dropSteps, calls]
    omega) answered
  have reached := reached.mono fun step => step.1
  have deleted := deferred_deletion_completes (undeferred_snapshotCluster ["s"]) reached
    acknowledged quiet (gone_of_list none) stored
  exact ⟨config, vol, reached, acknowledged, quiet, gone_of_list none, stored, deleted⟩

/-- Each of the two DeleteSnapshot requests finds both snapshots in its list, and the
volume stays. -/
theorem deferred_deletion_forgotten :
    ∃ config vol, (cluster noRegexp).Reaches
        (fun action config => DeletionStep action config ∧ Faultless action config)
        (idle (snapshotCluster ["s", "t"])) config ∧
      deletedVolume ∈ config.shared.answered ∧
      (∀ id ∈ ["v@s", "v@t"], deletedSnapshot id ∈ config.shared.answered) ∧
      (∀ id, config.shared.inFlight id = none) ∧
      (∀ name snap, config.shared.snapshots.get name = some snap →
        snap.labels.lookup ZFSVolKey ≠ some "v") ∧
      config.shared.volumes.get "v" = some vol ∧ vol.deletionTimestamp = false := by
  have ran : ((cluster noRegexp).run
      (fun action config => DeletionStep action config ∧ Faultless action config) forgettingRun
      (idle (snapshotCluster ["s", "t"]))).any (fun config =>
        decide (deletedVolume ∈ config.shared.answered ∧
          (∀ id ∈ ["v@s", "v@t"], deletedSnapshot id ∈ config.shared.answered) ∧
          (∀ id ∈ ([0, 1, 2] : List Nat), config.shared.inFlight id = none) ∧
          config.shared.snapshots.store.list ZFSVolKey "v" = []) &&
        (config.shared.volumes.get "v").any fun vol =>
          decide (vol.deletionTimestamp = false)) = true := by
    decide +kernel
  obtain ⟨config, last, checked⟩ := (Option.any_eq_true _ _).mp ran
  obtain ⟨holds, present⟩ := Bool.and_eq_true_iff.mp checked
  obtain ⟨acknowledged, snapshots, answered, none⟩ := of_decide_eq_true holds
  obtain ⟨vol, stored, live⟩ := (Option.any_eq_true _ _).mp present
  have reached := System.reaches_of_run last
  have quiet := quiet_of_run [0, 1, 2] reached (fun _ => rfl) (by
    simp [forgettingRun, servedSteps, dropSteps, calls]
    omega) answered
  exact ⟨config, vol, reached.mono fun step => step.1, acknowledged, snapshots, quiet,
    gone_of_list none, stored, of_decide_eq_true live⟩

end Runs

end ZfsLocalPv.Properties

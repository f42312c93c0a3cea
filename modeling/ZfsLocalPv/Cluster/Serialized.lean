import ZfsLocalPv.Cluster.Locks

/-!
# The requests that the lock serializes

CreateSnapshot, DeleteSnapshot, DeleteVolume and ControllerExpandVolume keep the contract of the
volume lock. The interesting one is DeleteSnapshot, which deletes the volume when the list it
took before the deletion of its own snapshot has one entry: its own snapshot is in that list, no
other can have appeared since, and it cannot have come back to life.
-/

namespace ZfsLocalPv.Cluster

open Api ApiServer Driver Interaction Zfs

variable {compile : Compile} {id : Nat} {req : Request} {keys : Set String}
  {shared now : Shared} {α : Type}

/-! ## Facts about the snapshots under a key -/

section Facts

variable {snapshots next : Resource VolumeInfo State} {volume snapName : String}
  {snapList : List ZFSSnapshot}

theorem AllDeleted.kept (deleted : AllDeleted snapshots volume)
    (kept : KeptUnder volume snapshots next) : AllDeleted next volume := by
  intro name snap found label
  obtain ⟨old, stored, volumeEq, live⟩ := kept name snap found (.inr label)
  have gone := deleted name old stored (volumeEq.trans label)
  exact not_live_iff.mp fun isLive => not_live_iff.mpr gone (live isLive)

theorem LabelledWith.kept (labelled : LabelledWith volume snapName snapshots)
    (kept : KeptUnder snapName snapshots next) : LabelledWith volume snapName next := by
  intro snap found
  obtain ⟨old, stored, volumeEq, _⟩ := kept snapName snap found (.inl rfl)
  exact volumeEq.symm.trans (labelled old stored)

/-- The list has all snapshots of the volume. -/
def ListedIn (snapList : List ZFSSnapshot) (volume : String)
    (snapshots : Resource VolumeInfo State) : Prop :=
  ∀ name snap, snapshots.get name = some snap → volumeOf snap = some volume →
    ∃ listed ∈ snapList, listed.name = name

theorem ListedIn.kept (listed : ListedIn snapList volume snapshots)
    (kept : KeptUnder volume snapshots next) : ListedIn snapList volume next := by
  intro name snap found label
  obtain ⟨old, stored, volumeEq, _⟩ := kept name snap found (.inr label)
  exact listed name old stored (volumeEq.trans label)

theorem listedIn_list (snapshots : Resource VolumeInfo State) (volume : String) :
    ListedIn (snapshots.store.list ZFSVolKey volume) volume snapshots := by
  intro name snap found label
  obtain rfl := Resource.name_of_get found
  exact ⟨snap, Store.mem_list_iff.mpr ⟨found, label⟩, rfl⟩

/-- A snapshot of the name, if there is one, is deleted. -/
def NameDeleted (snapName : String) (snapshots : Resource VolumeInfo State) : Prop :=
  ∀ snap, snapshots.get snapName = some snap → snap.deletionTimestamp = true

theorem NameDeleted.kept (deleted : NameDeleted snapName snapshots)
    (kept : KeptUnder snapName snapshots next) : NameDeleted snapName next := by
  intro snap found
  obtain ⟨old, stored, _, live⟩ := kept snapName snap found (.inl rfl)
  exact not_live_iff.mp fun isLive => not_live_iff.mpr (deleted old stored) (live isLive)

/-- An empty list leaves nothing to be deleted. -/
theorem allDeleted_of_listedIn_nil (listed : ListedIn [] volume snapshots) :
    AllDeleted snapshots volume := by
  intro name snap found label
  obtain ⟨old, mem, _⟩ := listed name snap found label
  contradiction

/-- When the deleted snapshot is the only one in the list, all are deleted. -/
theorem allDeleted_of_listedIn_single (listed : ListedIn snapList volume snapshots)
    (mem : ∃ own ∈ snapList, own.name = snapName) (single : snapList.length = 1)
    (deleted : NameDeleted snapName snapshots) : AllDeleted snapshots volume := by
  obtain ⟨only, rfl⟩ := List.length_eq_one_iff.mp single
  obtain ⟨own, ownMem, rfl⟩ := mem
  intro name snap found label
  obtain ⟨old, oldMem, rfl⟩ := listed name snap found label
  rw [List.mem_singleton] at ownMem oldMem
  subst ownMem oldMem
  exact deleted snap found

end Facts

/-! ## Calls under the lock -/

/-- A call that neither takes nor releases a key. -/
def Op.Calm : Op → Prop
  | .lock _ | .unlock _ => False
  | _ => True

theorem Holding.effect {thread : Tid} {op : Op} {after : Shared}
    (holding : Holding id req keys shared) (effect : Effect thread shared op after)
    (calm : op.Calm) : Holding id req keys after := by
  rcases effect.locked_cases with same | ⟨key, rfl, _, _⟩ | ⟨key, rfl, _⟩
  · constructor
    · rw [effect.inFlight]
      exact holding.serving
    · rw [same]
      exact holding.held
  · exact calm.elim
  · exact calm.elim

theorem keeps_write {op : Op} (holding : Holding id req keys shared) (calm : op.Calm)
    (owed : ∀ now, Spared id shared now → Holding id req keys now →
      Owed (.request id) op now) :
    (locking compile).Keeps (.request id) (call op) (fun _ => Holding id req keys) shared := by
  intro now moved _
  have holding := holding.rely moved
  constructor
  · exact owed now (moved id rfl) holding
  · intro choice answer after _ executed later moved' _
    exact (holding.effect (exec_effect executed) calm).rely moved'

theorem keeps_return (value : α) (holding : Holding id req keys shared) :
    (locking compile).Keeps (.request id) (pure value : Routine α)
      (fun _ => Holding id req keys) shared :=
  keeps_lasting_return value lasts_holding holding

theorem keeps_zfsDeleteVolume {volume : String} (holding : Holding id req keys shared)
    (mem : volume ∈ keys) (deleted : AllDeleted shared.snapshots volume) :
    (locking compile).Keeps (.request id) (Zfs.deleteVolume volume)
      (fun _ => Holding id req keys) shared := by
  unfold Zfs.deleteVolume
  split
  · exact keeps_return _ holding
  · apply keeps_write holding
    · trivial
    · intro now spared later
      have held := (holding.held volume).mpr mem
      exact ⟨(later.held volume).mpr mem, deleted.kept (spared.kept volume held)⟩

/-! ## DeleteVolume and ControllerExpandVolume -/

theorem keeps_markForDeletion {volume : String} (holding : Holding id req keys shared)
    (mem : volume ∈ keys) :
    (locking compile).Keeps (.request id) (markForDeletion volume)
      (fun _ => Holding id req keys) shared := by
  apply keeps_getZFSVolume_bind
  · intro now _ _
    trivial
  · intro err now moved _ _
    exact keeps_return _ (holding.rely moved)
  · intro vol choice now moved _ _ stored
    obtain rfl := Resource.name_of_get stored
    dsimp only
    rw [updateZFSVolumeAnnotation_eq]
    apply keeps_write (holding.rely moved)
    · trivial
    · intro later _ holding
      exact (holding.held vol.name).mpr mem

theorem keeps_deleteVolumeLocked (request : DeleteVolumeRequest) {volume : String}
    (holding : Holding id req {volume} shared) :
    (locking compile).Keeps (.request id) (deleteVolumeLocked request volume)
      (fun _ => Holding id req {volume}) shared := by
  apply (promise_of_lasts lasts_holding).deleteVolumeLocked Op.Reads.owed lasts_holding
    (fun holding => holding) (fun holding _ => holding) _ _ holding
  · intro now holding empty
    have listed := listedIn_list now.snapshots volume
    rw [empty] at listed
    exact keeps_zfsDeleteVolume holding rfl (allDeleted_of_listedIn_nil listed)
  · intro choice now holding _ _
    exact keeps_markForDeletion holding rfl

theorem keeps_expandVolumeLocked {volume : String} (updatedSize : Int)
    (holding : Holding id req {volume} shared) :
    (locking compile).Keeps (.request id) (expandVolumeLocked volume updatedSize)
      (fun _ => Holding id req {volume}) shared := by
  apply keeps_getZFSVolume_bind
  · intro now _ _
    trivial
  · intro err now moved _ _
    exact keeps_return _ (holding.rely moved)
  · intro vol choice now moved _ _ stored
    obtain rfl := Resource.name_of_get stored
    have holding := holding.rely moved
    dsimp only
    split
    · exact keeps_return _ holding
    · split
      · exact keeps_return _ holding
      · apply Contract.Keeps.bind
        apply Contract.Keeps.mono
        · apply keeps_write holding
          · trivial
          · intro later _ holding
            exact (holding.held vol.name).mpr rfl
        · intro answer later _ holding
          cases answer with
          | error err => exact keeps_return _ holding
          | ok done => exact keeps_return _ holding

/-! ## CreateSnapshot -/

theorem keeps_createSnapshotLocked (polls : Nat) (time : Int) (request : CreateSnapshotRequest)
    {volume : String} (holding : Holding id req {Go.toLower request.name, volume} shared) :
    (locking compile).Keeps (.request id)
      (createSnapshotLocked polls time request volume (Go.toLower request.name))
      (fun _ => Holding id req {Go.toLower request.name, volume}) shared := by
  apply (promise_of_lasts lasts_holding).createSnapshotLocked Op.Reads.owed lasts_holding
    (fun holding => holding) (fun _ holding _ => holding) _ holding
  intro snap spec now _ holding built
  obtain ⟨named, label⟩ := name_snapshotObject built
  constructor
  · refine ⟨?_, volume, label, (holding.held volume).mpr (.inr rfl)⟩
    exact (holding.held snap.name).mpr (.inl named)
  · intro choice answer after _ executed
    exact holding.effect (exec_effect executed) trivial

/-! ## DeleteSnapshot -/

/-- An accepted deletion of a snapshot under the lock. -/
theorem exec_deleteSnapshot_ok {thread : Tid} {choice : Choice} {snapName : String}
    {after : Shared}
    (executed : exec thread (.deleteSnapshot snapName) choice shared = some (.ok (), after)) :
    ∃ next, shared.snapshots.delete snapName = .ok next ∧ after = shared.setSnapshots next := by
  rcases writeAnswer_cases (Option.some.inj executed) with ⟨_, refused⟩ | accepted
  · exact absurd rfl refused
  · exact accepted

/-- What is known about the snapshots once the own one is deleted. -/
structure OwnDeleted (snapList : List ZFSSnapshot) (volume snapName : String)
    (snapshots : Resource VolumeInfo State) : Prop where
  listed : ListedIn snapList volume snapshots
  mem : ∃ own ∈ snapList, own.name = snapName
  deleted : NameDeleted snapName snapshots

theorem OwnDeleted.kept {snapList : List ZFSSnapshot} {volume snapName : String}
    {snapshots next : Resource VolumeInfo State}
    (own : OwnDeleted snapList volume snapName snapshots)
    (underVolume : KeptUnder volume snapshots next)
    (underSnapshot : KeptUnder snapName snapshots next) :
    OwnDeleted snapList volume snapName next :=
  ⟨own.listed.kept underVolume, own.mem, own.deleted.kept underSnapshot⟩

theorem ownDeleted_of_delete {snapList : List ZFSSnapshot} {volume snapName : String}
    {snapshots next : Resource VolumeInfo State}
    (labelled : LabelledWith volume snapName snapshots)
    (listed : ListedIn snapList volume snapshots)
    (deleted : snapshots.delete snapName = .ok next) :
    OwnDeleted snapList volume snapName next := by
  have change : SnapshotChange snapshots (some (.request 0, .deleteSnapshot snapName)) next :=
    Resource.change_of_delete rfl deleted
  have kept : KeptUnder volume snapshots next := by
    apply keptUnder_of_change change
    intro creator snap isCaller
    cases isCaller
  obtain ⟨⟨old, stored⟩, nowDeleted⟩ := Resource.deleted_of_delete deleted
  exact ⟨listed.kept kept, listed snapName old stored (labelled old stored), nowDeleted⟩

/-- After the deletion of its own snapshot the request looks whether the volume has to
follow. -/
theorem keeps_deleteFollowing {volume snapName : String} {snapList : List ZFSSnapshot}
    (holding : Holding id req {snapName, volume} shared)
    (own : OwnDeleted snapList volume snapName shared.snapshots) :
    (locking compile).Keeps (.request id) (deleteFollowing volume snapList)
      (fun _ => Holding id req {snapName, volume}) shared := by
  have lasts : Lasts (locking compile) (.request id) (fun now =>
      Holding id req {snapName, volume} now ∧
        OwnDeleted snapList volume snapName now.snapshots) := by
    rintro before after moved ⟨holding, own⟩
    refine ⟨holding.rely moved, own.kept ?_ ?_⟩
    · exact (moved id rfl).kept volume ((holding.held volume).mpr (.inr rfl))
    · exact (moved id rfl).kept snapName ((holding.held snapName).mpr (.inl rfl))
  apply (promise_of_lasts lasts_holding).deleteFollowing
    (keeps_lasting_reads (calls_isVolumeEligibleForDeletion volume) Op.Reads.owed lasts
      ⟨holding, own⟩)
  · exact fun looked => looked.1
  · exact fun looked _ => looked.1
  · rintro now ⟨holding, own⟩ single
    apply keeps_zfsDeleteVolume holding (.inr rfl)
    exact allDeleted_of_listedIn_single own.listed own.mem single own.deleted

/-- Before the deletion of its own snapshot, the request knows whose it is. -/
structure OwnLabelled (id : Nat) (request : DeleteSnapshotRequest) (volume snapName : String)
    (shared : Shared) : Prop where
  holding : Holding id (.deleteSnapshot request) {snapName, volume} shared
  labelled : LabelledWith volume snapName shared.snapshots

theorem OwnLabelled.held {request : DeleteSnapshotRequest} {volume snapName : String}
    (own : OwnLabelled id request volume snapName shared) :
    shared.locked volume = some (.request id) ∧ shared.locked snapName = some (.request id) :=
  ⟨(own.holding.held volume).mpr (.inr rfl), (own.holding.held snapName).mpr (.inl rfl)⟩

theorem lasts_ownLabelled {request : DeleteSnapshotRequest} {volume snapName : String} :
    Lasts (locking compile) (.request id) (OwnLabelled id request volume snapName) := by
  intro before after moved own
  exact ⟨own.holding.rely moved, own.labelled.kept ((moved id rfl).kept snapName own.held.2)⟩

theorem keeps_deleteSnapshotLocked {request : DeleteSnapshotRequest} {volume snapName : String}
    (names : Go.split '@' request.snapshotId = [volume, snapName])
    (holding : Holding id (.deleteSnapshot request) {snapName, volume} shared) :
    (locking compile).Keeps (.request id) (deleteSnapshotLocked request volume snapName)
      (fun _ => Holding id (.deleteSnapshot request) {snapName, volume}) shared := by
  apply (promise_of_lasts lasts_holding).deleteSnapshotLocked Op.Reads.owed lasts_holding
    (OwnLabelled id request volume snapName)
    (fun snapList now => OwnLabelled id request volume snapName now ∧
      ListedIn snapList volume now.snapshots) lasts_ownLabelled _
    (fun holding => holding) (fun own => own.holding) (fun own => own.1.holding) _ _ _ holding
  · rintro snapList before after moved ⟨own, listed⟩
    exact ⟨lasts_ownLabelled before after moved own,
      listed.kept ((moved id rfl).kept volume own.held.1)⟩
  · intro choice now holding guard
    have labelled : LabelledWith volume snapName now.snapshots :=
      guard.2 _ holding.serving _ (snapshotNames_deleteSnapshot names) snapName rfl
    exact ⟨holding, labelled⟩
  · intro choice now own _
    exact ⟨own, listedIn_list now.snapshots volume⟩
  · rintro snapList now ⟨own, listed⟩
    constructor
    · exact ⟨volume, ⟨request, own.holding.serving, names⟩, own.held.1, own.labelled⟩
    · intro choice answer after _ executed
      have holding := own.holding.effect (exec_effect executed) trivial
      cases answer with
      | error err => exact holding
      | ok done =>
          obtain ⟨next, deleted, rfl⟩ := exec_deleteSnapshot_ok executed
          exact keeps_deleteFollowing holding (ownDeleted_of_delete own.labelled listed deleted)

/-! ## Every run -/

/-- The requests that the lock serializes. -/
def Request.Serialized : Request → Prop
  | .deleteVolume _ | .controllerExpandVolume _ | .createSnapshot _ _ _ | .deleteSnapshot _ => True
  | .createVolume _ _ | .nodeExpandVolume _ _ => False

theorem keeps_serve (serialized : req.Serialized) (holding : Holding id req ∅ shared) :
    (locking compile).Keeps (.request id) (serve compile req)
      ((locking compile).Post (.request id)) shared := by
  have answer {γ : Type} {program : Routine γ} (wrap : γ → Answer)
      (keeps : (locking compile).Keeps (.request id) program
        (fun _ => Holding id req ∅) shared) :
      (locking compile).Keeps (.request id) (program >>= fun result => pure (wrap result))
        ((locking compile).Post (.request id)) shared := by
    apply Contract.Keeps.bind
    apply keeps.mono
    intro result now _ holding later moved _ key held
    exact ((holding.rely moved).held key).mp held
  cases req with
  | createVolume | nodeExpandVolume => exact serialized.elim
  | deleteVolume request =>
      apply answer
      unfold Driver.deleteVolume
      split
      · exact keeps_return _ holding
      · exact keeps_lockVolume holding fun now holding => keeps_deleteVolumeLocked request holding
  | controllerExpandVolume request =>
      apply answer
      unfold controllerExpandVolume
      dsimp only
      split
      · exact keeps_return _ holding
      · exact keeps_lockVolume holding fun now holding => keeps_expandVolumeLocked _ holding
  | createSnapshot polls time request =>
      apply answer
      apply Contract.Keeps.bind
      apply (keeps_lasting_reads (calls_verifySnapshotRequest _ _) Op.Reads.owed lasts_holding
        holding).mono
      intro verified now _ holding
      cases verified with
      | error err => exact keeps_return _ holding
      | ok done =>
          exact keeps_lockVolumeWithSnapshot holding fun now holding =>
            keeps_createSnapshotLocked polls time request holding
  | deleteSnapshot request =>
      apply answer
      unfold Driver.deleteSnapshot
      split
      · exact keeps_return _ holding
      · split
        · rename_i volume snapName names
          exact keeps_lockVolumeWithSnapshot holding fun now holding =>
            keeps_deleteSnapshotLocked names holding
        · exact keeps_return _ holding

/-- Only serialized requests arrive, and each DeleteSnapshot names the volume of its
snapshot. -/
structure SerializedStep (action : Action Tid Choice Move Arrival)
    (config : Config sig Shared Tid Answer) : Prop where
  arrives : Arrives Request.Serialized action config
  names : System.AtCalls (fun thread op _ shared => NamesItsVolume thread op shared) action config

instance : DecidablePred Request.Serialized
  | .createVolume _ _ | .deleteVolume _ | .controllerExpandVolume _ | .createSnapshot _ _ _
  | .deleteSnapshot _ | .nodeExpandVolume _ _ => by
      dsimp only [Request.Serialized]
      infer_instance

instance (thread : Tid) (op : Op) (shared : Shared) :
    Decidable (NamesItsVolume thread op shared) :=
  match thread with
  | .request _ | .volume _ _ | .snapshot _ _ | .backup _ _ => by
      dsimp only [NamesItsVolume]
      infer_instance

instance (action : Action Tid Choice Move Arrival) (config : Config sig Shared Tid Answer) :
    Decidable (SerializedStep action config) :=
  decidable_of_iff (Arrives Request.Serialized action config ∧
      System.AtCalls (fun thread op _ shared => NamesItsVolume thread op shared) action config)
    ⟨fun both => ⟨both.1, both.2⟩, fun step => ⟨step.arrives, step.names⟩⟩

variable {Meets : Action Tid Choice Move Arrival → Config sig Shared Tid Answer → Prop}
  {start config : Config sig Shared Tid Answer}

theorem locking_sound
    (serialized : ∀ {action config}, Meets action config → SerializedStep action config)
    (disciplined : ∀ {action config}, Meets action config →
      System.AtCalls (fun thread op _ shared => Disciplined (fun _ _ => True) thread op shared)
        action config) :
    (locking compile).Sound Meets where
  guard := fun meets atCall =>
    ⟨disciplined meets _ _ atCall, (serialized meets).names _ _ atCall⟩
  call := by
    intro thread op choice before answer after served owed guard executed
    have effect := exec_effect executed
    constructor
    · exact effect.ownersServed owed guard.1 served
    · rintro other differs id rfl
      exact effect.spared owed guard.1 differs
  env := by
    intro config move after _ served moved
    have effect := env_effect moved
    constructor
    · intro key owner held
      rw [effect.inFlight]
      rw [effect.drift.locked] at held
      exact served key owner held
    · rintro other id rfl
      exact effect.drift.spared (by rw [effect.inFlight])
  arrive := by
    intro config arrival thread program after meets served arrived _
    have effect := arrive_effect arrived
    refine ⟨effect.ownersServed served, ?_, ?_⟩
    · rintro other differs id rfl
      exact effect.drift.spared (effect.inFlight differs)
    · cases effect with
      | request id req unused =>
          exact keeps_serve (serialized meets).arrives (holding_of_arrival served unused req)
      | syncVolume | syncSnapshot | syncBackup =>
          apply keeps_work
          · exact fun _ _ _ => trivial
          · intro answer now served key held
            obtain ⟨id, req, isRequest, _⟩ := served key _ held
            contradiction
  leave := by
    intro config thread answer _ served released _
    have effect := leave_effect thread answer config.shared
    constructor
    · exact effect.ownersServed released served
    · rintro other differs id rfl
      exact effect.drift.spared (effect.inFlight differs)

/-- Nobody is running and no key is taken. -/
structure Unlocked (start : Config sig Shared Tid Answer) : Prop where
  idle : ∀ thread, start.threads thread = none
  free : ∀ key, start.shared.locked key = none

theorem locking_of_reaches (unlocked : Unlocked start)
    (serialized : ∀ {action config}, Meets action config → SerializedStep action config)
    (reached : (cluster compile).Reaches Meets start config) :
    (locking compile).Holds config := by
  have served : OwnersServed start.shared := by
    intro key owner held
    rw [unlocked.free key] at held
    contradiction
  have disciplined := reaches_disciplined provisionsOnly_true unlocked.idle reached
  apply Contract.Sound.reaches _ served unlocked.idle disciplined
  exact locking_sound (fun meets => serialized meets.1) fun meets => meets.2

/-- What every step of a run of serialized requests respects. -/
structure Orderly (action : Action Tid Choice Move Arrival)
    (config : Config sig Shared Tid Answer) : Prop where
  disciplined : System.AtCalls
    (fun thread op _ shared => Disciplined (fun _ _ => True) thread op shared) action config
  owed : System.AtCalls (fun thread op _ shared => Owed thread op shared) action config
  served : OwnersServed config.shared
  released : ∀ thread, action = .leave thread → ∀ key, config.shared.locked key ≠ some thread

/-- Every step of a run of serialized requests may be taken to be orderly. -/
theorem reaches_orderly (unlocked : Unlocked start)
    (serialized : ∀ {action config}, Meets action config → SerializedStep action config)
    (reached : (cluster compile).Reaches Meets start config) :
    (cluster compile).Reaches (fun action config => Meets action config ∧ Orderly action config)
      start config := by
  apply reached.strengthen
  intro config action next reached _ stepped
  have holds := locking_of_reaches unlocked serialized reached
  refine ⟨?_, ?_, holds.1, ?_⟩
  · cases action with
    | call thread choice =>
        intro op next atCall
        exact disciplined_of_reaches provisionsOnly_true unlocked.idle reached atCall
    | env | arrive | leave => trivial
  · cases action with
    | call thread choice =>
        intro op next atCall
        exact holds.ok_of_call atCall
    | env | arrive | leave => trivial
  · rintro thread rfl
    rcases System.step_cases stepped with
      ⟨_, _, _, _, _, isCall, _⟩ | ⟨_, isEnv, _⟩ | ⟨_, _, _, isArrival, _⟩ |
      ⟨leaving, answer, isLeave, finished, _⟩
    · contradiction
    · contradiction
    · contradiction
    · cases isLeave
      exact holds.post_of_ret finished

end ZfsLocalPv.Cluster

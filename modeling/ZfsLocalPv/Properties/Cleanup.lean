import ZfsLocalPv.Cluster.Commands
import ZfsLocalPv.Cluster.Creation
import ZfsLocalPv.Cluster.Serialized

/-!
# What CreateVolume leaves behind

`DeleteVolume` refuses a volume that is neither Ready nor deleted, on the ground that the
`CreateVolume` request at work on it will delete it. A plain request does so on every exit: it
answers with a Ready volume or it deletes the resource. The two clone paths return the error of
`ProvisionVolume` and leave the resource behind.

The lock of a volume carries the argument. While a `CreateVolume` request holds it the volume may
be in any state; when the lock is free, or held by another kind of request, the volume is absent,
Ready or deleted. Agents keep that: they report on a volume only from a copy that is not Ready
and not deleted, and the API server takes the report only if the copy is current.
-/

namespace ZfsLocalPv.Properties

open Api ApiServer Driver Interaction Zfs Cluster

/-- A volume that `DeleteVolume` does not refuse: it is Ready or deleted already. -/
def Settled (vol : ZFSVolume) : Prop :=
  vol.status = .ready ∨ vol.deletionTimestamp = true

/-- The volume of a name is absent or settled. -/
def SettledAt (volumes : Resource VolumeInfo State) (name : String) : Prop :=
  ∀ vol ∈ volumes.get name, Settled vol

instance (vol : ZFSVolume) : Decidable (Settled vol) :=
  inferInstanceAs (Decidable (_ ∨ _))

instance (volumes : Resource VolumeInfo State) (name : String) :
    Decidable (SettledAt volumes name) :=
  inferInstanceAs (Decidable (∀ vol ∈ volumes.get name, Settled vol))

theorem not_settled_of_missing {vol : ZFSVolume} (missing : isVolumeReady vol = false)
    (live : vol.deletionTimestamp = false) : ¬ Settled vol := by
  rintro (ready | deleted)
  · simp [isVolumeReady, ready] at missing
  · simp [live] at deleted

/-- The volume of a clone that its agent has not reported on yet. -/
structure Cloning (vol : ZFSVolume) : Prop where
  pending : vol.status = .pending
  isClone : vol.spec.snapName ≠ ""

/-- The volume of a name is absent or settled or, if that is allowed, a clone at work. -/
def FineAt (cloning : Prop) (volumes : Resource VolumeInfo State) (name : String) : Prop :=
  ∀ vol ∈ volumes.get name, Settled vol ∨ cloning ∧ Cloning vol

theorem fineAt_false_iff {volumes : Resource VolumeInfo State} {name : String} :
    FineAt False volumes name ↔ SettledAt volumes name := by
  simp [FineAt, SettledAt]

theorem SettledAt.fineAt {volumes : Resource VolumeInfo State} {name : String}
    (settled : SettledAt volumes name) (cloning : Prop) : FineAt cloning volumes name :=
  fun vol stored => .inl (settled vol stored)

/-! ## One step -/

section Steps

variable {volumes next : Resource VolumeInfo State} {caller : Option (Tid × Op)} {name : String}
  {cloning : Prop}

/-- A volume stays settled, or a clone at work, unless a request creates it anew or
overwrites it with one that is not, or an agent reports another end of a clone than
Ready. -/
theorem fineAt_of_change {Allowed : ZFSVolume → ZFSVolume → Prop}
    (change : VolumeChange Allowed volumes caller next)
    (created : ∀ thread vol, caller = some (thread, .createVolume vol) → vol.name = name →
      cloning ∧ vol.spec.snapName ≠ "")
    (rewritten : ∀ id vol, caller = some (.request id, .updateVolume vol) → vol.name = name →
      Settled vol ∨ cloning ∧ Cloning vol)
    (reported : ∀ node key vol, caller = some (.volume node key, .updateVolume vol) →
      vol.deletionTimestamp = false → vol.spec.snapName ≠ "" → vol.status = .ready)
    (fine : FineAt cloning volumes name) : FineAt cloning next name := by
  intro vol found
  cases change.origin found with
  | kept stored shows => exact fine vol stored
  | created creator new isClient fresh absent objectEq =>
      obtain ⟨thread, op⟩ := creator
      obtain rfl : op = .createVolume new := fresh.2
      have nameEq := Resource.name_of_get found
      subst objectEq
      obtain ⟨allowed, isClone⟩ := created thread new isClient nameEq
      exact .inr ⟨allowed, fresh.1.pending, isClone⟩
  | written writer base new isClient write stored rewrites held objectEq shows =>
      obtain ⟨writer, op⟩ := writer
      obtain rfl : op = .updateVolume new := write.2
      have nameEq := Resource.name_of_get found
      have before := fine base stored
      subst objectEq
      have request (id : Nat) (isRequest : writer = .request id) :
          Settled new ∨ cloning ∧ Cloning new := by
        subst isRequest
        exact rewritten id new isClient nameEq
      cases write.1 with
      | provision id | mark id | resize id =>
          rcases request id rfl with settled | ⟨allowed, atWork⟩
          · exact .inl settled
          · exact .inr ⟨allowed, atWork.pending, atWork.isClone⟩
      | settle node name base status _ live missing =>
          rcases before with settled | ⟨_, atWork⟩
          · exact absurd settled (not_settled_of_missing missing live)
          · have ready : (settledVolume node base status).status = .ready :=
              reported node name _ isClient live atWork.isClone
            exact .inl (.inl ready)
      | release node name base _ deleted => exact .inl (.inr deleted)
  | deleted deleter old isClient deletes stored live objectEq =>
      subst objectEq
      exact .inl (.inr rfl)
  | collected old stored deleted objectEq =>
      subst objectEq
      exact .inl (.inr deleted)

end Steps

/-! ## The contract -/

/-- The request in flight under an identifier creates a volume. -/
def Creates (id : Nat) (shared : Shared) : Prop :=
  ∃ polls req, shared.inFlight id = some (.createVolume polls req)

/-- The request in flight under an identifier creates a clone. -/
def Clones (id : Nat) (shared : Shared) : Prop :=
  ∃ polls req, shared.inFlight id = some (.createVolume polls req) ∧ req.contentSource ≠ none

/-- Only a `CreateVolume` request may hold the lock of a volume that is not settled,
and it holds no lock but the one of its volume. -/
structure TidyState (shared : Shared) : Prop where
  served : OwnersServed shared
  own : ∀ {key id polls req}, shared.locked key = some (.request id) →
    shared.inFlight id = some (.createVolume polls req) → Go.toLower req.name = key
  settled : ∀ name, (∀ id, shared.locked name = some (.request id) → ¬ Creates id shared) →
    SettledAt shared.volumes name

/-- What a request can count on while others move. -/
structure LeftAlone (id : Nat) (shared after : Shared) : Prop where
  serving : after.inFlight id = shared.inFlight id
  locked : ∀ key, after.locked key = some (.request id) ↔ shared.locked key = some (.request id)
  fine : ∀ {cloning key}, shared.locked key = some (.request id) →
    FineAt cloning shared.volumes key → FineAt cloning after.volumes key

theorem LeftAlone.refl (id : Nat) (shared : Shared) : LeftAlone id shared shared where
  serving := rfl
  locked := fun _ => .rfl
  fine := fun _ fine => fine

theorem LeftAlone.trans {id : Nat} {first second third : Shared}
    (one : LeftAlone id first second) (two : LeftAlone id second third) :
    LeftAlone id first third where
  serving := two.serving.trans one.serving
  locked := fun key => (two.locked key).trans (one.locked key)
  fine := fun held fine => two.fine ((one.locked _).mpr held) (one.fine held fine)

/-- What a request owes at a call: it writes what it has locked, and it releases
the lock of a settled volume, or that of a clone at work. -/
def TidyCall (thread : Tid) (op : Op) (shared : Shared) : Prop :=
  match thread, op with
  | .request id, .lock key => ∃ req, shared.inFlight id = some req ∧
      ∀ polls request, req = .createVolume polls request → Go.toLower request.name = key
  | .request id, .unlock key => shared.locked key = some (.request id) ∧
      (SettledAt shared.volumes key ∨ Clones id shared ∧ FineAt True shared.volumes key)
  | .request id, .createVolume vol => shared.locked vol.name = some (.request id) ∧
      Creates id shared
  | .request id, .updateVolume vol => shared.locked vol.name = some (.request id) ∧
      (Creates id shared ∨ Settled vol)
  | _, _ => True

/-- The calls that go to the API server. -/
def Op.toApi : Op → Bool
  | .getVolume _ _ | .listVolumes | .createVolume _ | .updateVolume _ | .deleteVolume _
  | .getSnapshot _ | .listSnapshots _ | .createSnapshot _ | .updateSnapshot _
  | .deleteSnapshot _ | .updateBackup _ | .getNode _ | .getZFSNode _ | .listZFSNodes => true
  | _ => false

/-- Clones come to a good end: what an agent reports on a clone is that it is Ready, and
the request for it does not give up, by a timeout or a cancelled context, while the
volume is Pending. -/
def CloneSucceeds (thread : Tid) (op : Op) (shared : Shared) : Prop :=
  match thread with
  | .volume _ _ => ∀ vol ∈ op.updatedVolume, vol.deletionTimestamp = false →
      vol.spec.snapName ≠ "" → vol.status = .ready
  | .request id => ∀ req ∈ shared.inFlight id, req.clones = true → ∀ key ∈ op.unlockedKey,
      ∀ vol ∈ shared.volumes.get key, vol.status = .pending → vol.deletionTimestamp = true
  | _ => True

theorem CloneSucceeds.settledAt {id : Nat} {key : String} {shared : Shared}
    (succeeds : CloneSucceeds (.request id) (.unlock key) shared) (clones : Clones id shared)
    (fine : FineAt True shared.volumes key) : SettledAt shared.volumes key := by
  obtain ⟨polls, req, serving, source⟩ := clones
  intro vol stored
  rcases fine vol stored with settled | ⟨_, atWork⟩
  · exact settled
  · exact .inr (succeeds _ serving (decide_eq_true source) key rfl vol stored atWork.pending)

/-- Cleaning up as a contract. -/
def tidying (compile : Compile) : Contract (cluster compile) where
  Inv := TidyState
  Rely := fun thread shared after => ∀ id, thread = .request id → LeftAlone id shared after
  Guard := fun thread op choice shared => Disciplined (fun _ _ => True) thread op shared ∧
    (Op.toApi op = true → choice.outcome = .ok) ∧ CloneSucceeds thread op shared
  Ok := TidyCall
  Post := fun thread _ shared => ∀ key, shared.locked key ≠ some thread
  rely_refl := fun _ shared id _ => .refl id shared
  rely_trans := fun first second id isRequest => (first id isRequest).trans (second id isRequest)

section Sound

variable {compile : Compile} {thread : Tid} {op : Op} {shared after : Shared} {id : Nat}

/-- A call changes only the volumes whose lock its request holds. -/
theorem fineAt_of_effect {cloning : Prop} {key : String} (effect : Effect thread shared op after)
    (owed : TidyCall thread op shared)
    (disciplined : Disciplined (fun _ _ => True) thread op shared)
    (succeeds : CloneSucceeds thread op shared)
    (spared : ∀ id, thread = .request id → shared.locked key = some thread →
      ¬ Creates id shared) (fine : FineAt cloning shared.volumes key) :
    FineAt cloning after.volumes key := by
  apply fineAt_of_change (effect.volumeChange disciplined) _ _ _ fine
  · rintro creator vol isCaller rfl
    cases isCaller
    obtain ⟨id, rfl⟩ := disciplined.request
    exact absurd owed.2 (spared id rfl owed.1)
  · rintro id vol isCaller rfl
    cases isCaller
    exact .inl (owed.2.resolve_left (spared id rfl owed.1))
  · rintro node name vol isCaller
    cases isCaller
    exact succeeds vol rfl

theorem creates_of_inFlight {before : Shared} (serving : after.inFlight id = before.inFlight id) :
    Creates id after ↔ Creates id before := by
  unfold Creates
  rw [serving]

/-- A call spares the requests that hold other locks. -/
theorem leftAlone_of_effect (effect : Effect thread shared op after)
    (owed : TidyCall thread op shared)
    (disciplined : Disciplined (fun _ _ => True) thread op shared)
    (succeeds : CloneSucceeds thread op shared)
    (other : Tid.request id ≠ thread) : LeftAlone id shared after where
  serving := by rw [effect.inFlight]
  locked := by
    intro key
    apply effect.locked_iff _ other
    rintro released rfl
    obtain ⟨owner, rfl⟩ := disciplined
    exact owed.1
  fine := by
    intro cloning key held fine
    apply fineAt_of_effect effect owed disciplined succeeds _ fine
    intro owner _ own
    exact absurd (Option.some.inj (held.symm.trans own)) other

theorem fineAt_of_drift {cloning : Prop} {key : String} (drift : Drift shared after)
    (fine : FineAt cloning shared.volumes key) : FineAt cloning after.volumes key := by
  apply fineAt_of_change (drift.volumes fun _ _ => True) _ _ _ fine
  · intro creator vol isCaller
    contradiction
  · intro id vol isCaller
    contradiction
  · intro node name vol isCaller
    contradiction

theorem settledAt_of_drift {key : String} (drift : Drift shared after)
    (settled : SettledAt shared.volumes key) : SettledAt after.volumes key :=
  fineAt_false_iff.mp (fineAt_of_drift drift (settled.fineAt False))

theorem leftAlone_of_drift (drift : Drift shared after)
    (serving : after.inFlight id = shared.inFlight id) : LeftAlone id shared after where
  serving := serving
  locked := by
    intro key
    rw [drift.locked]
  fine := fun _ => fineAt_of_drift drift

theorem inFlight_of_held {arrival : Arrival} {program : Routine Answer} {key : String}
    (effect : ArriveEffect compile shared arrival thread program after)
    (served : OwnersServed shared) (held : shared.locked key = some (.request id)) :
    after.inFlight id = shared.inFlight id := by
  apply effect.inFlight
  rintro rfl
  obtain ⟨_, req, isRequest, serving⟩ := served key _ held
  cases isRequest
  cases effect with
  | request arriving req unused =>
      rw [unused] at serving
      contradiction

theorem TidyState.effect (tidy : TidyState shared) (effect : Effect thread shared op after)
    (owed : TidyCall thread op shared)
    (disciplined : Disciplined (fun _ _ => True) thread op shared)
    (succeeds : CloneSucceeds thread op shared) : TidyState after where
  served := by
    intro key owner held
    rw [effect.inFlight]
    rcases effect.locked_after held with before | ⟨rfl, rfl⟩
    · exact tidy.served key owner before
    · obtain ⟨id, rfl⟩ := disciplined
      obtain ⟨req, serving, _⟩ := owed
      exact ⟨id, req, rfl, serving⟩
  own := by
    intro key id polls req held serving
    rw [effect.inFlight] at serving
    rcases effect.locked_after held with before | ⟨rfl, rfl⟩
    · exact tidy.own before serving
    · obtain ⟨found, serving', named⟩ := owed
      cases serving.symm.trans serving'
      exact named polls req rfl
  settled := by
    intro name spared
    by_cases released : op = .unlock name
    · -- the lock that is released is the one of a settled volume
      subst released
      obtain ⟨id, rfl⟩ := disciplined
      have same : after.volumes = shared.volumes := by
        cases effect with
        | same | unlock => rfl
      rw [same]
      rcases owed.2 with settled | ⟨clones, fine⟩
      · exact settled
      · exact succeeds.settledAt clones fine
    · have stillSpared : ∀ id, shared.locked name = some (.request id) → ¬ Creates id shared := by
        intro id held creates
        exact spared id (effect.locked_before released held)
          ((creates_of_inFlight (congrFun effect.inFlight id)).mpr creates)
      have settled := tidy.settled name stillSpared
      apply fineAt_false_iff.mp
      apply fineAt_of_effect effect owed disciplined succeeds _ (settled.fineAt False)
      rintro id rfl held
      exact stillSpared id held

theorem TidyState.env (tidy : TidyState shared) {move : Move}
    (effect : EnvEffect shared move after) : TidyState after where
  served := by
    intro key owner held
    rw [effect.inFlight]
    rw [effect.drift.locked] at held
    exact tidy.served key owner held
  own := by
    intro key id polls req held serving
    rw [effect.drift.locked] at held
    rw [effect.inFlight] at serving
    exact tidy.own held serving
  settled := by
    intro name spared
    apply settledAt_of_drift effect.drift
    apply tidy.settled
    intro id held creates
    rw [← effect.drift.locked] at held
    exact spared id held ((creates_of_inFlight (congrFun effect.inFlight id)).mpr creates)

/-- A request that arrives holds no lock yet. -/
theorem TidyState.arrive (tidy : TidyState shared) {arrival : Arrival}
    {program : Routine Answer}
    (effect : ArriveEffect compile shared arrival thread program after) : TidyState after where
  served := effect.ownersServed tidy.served
  own := by
    intro key id polls req held serving
    rw [effect.drift.locked] at held
    rw [inFlight_of_held effect tidy.served held] at serving
    exact tidy.own held serving
  settled := by
    intro name spared
    apply settledAt_of_drift effect.drift
    apply tidy.settled
    intro id held creates
    apply spared id (by rwa [effect.drift.locked])
    exact (creates_of_inFlight (inFlight_of_held effect tidy.served held)).mpr creates

/-- A request that leaves holds no lock any more. -/
theorem TidyState.leave (tidy : TidyState shared) {answer : Answer}
    (effect : LeaveEffect shared thread answer after)
    (released : ∀ key, shared.locked key ≠ some thread) : TidyState after where
  served := effect.ownersServed released tidy.served
  own := by
    intro key id polls req held serving
    rw [effect.drift.locked] at held
    rw [effect.inFlight fun same => released key (same ▸ held)] at serving
    exact tidy.own held serving
  settled := by
    intro name spared
    apply settledAt_of_drift effect.drift
    apply tidy.settled
    intro id held creates
    apply spared id (by rwa [effect.drift.locked])
    exact (creates_of_inFlight
      (effect.inFlight fun same => released name (same ▸ held))).mpr creates

end Sound

/-! ## Programs under the lock of a volume -/

section Programs

variable {compile : Compile} {id : Nat} {req : Request} {keys : Set String} {volume : String}
  {shared now : Shared} {α : Type} {Fact : Shared → Prop}

theorem lasting_holding : Lasts (tidying compile) (.request id) (Holding id req keys) := by
  intro before after moved holding
  constructor
  · exact (moved id rfl).serving.trans holding.serving
  · exact fun key => ((moved id rfl).locked key).trans (holding.held key)

/-- The request holds the lock of its volume, which is settled. -/
structure Tidied (id : Nat) (req : Request) (volume : String) (shared : Shared) : Prop where
  holding : Holding id req {volume} shared
  settled : SettledAt shared.volumes volume

theorem lasting_tidied : Lasts (tidying compile) (.request id) (Tidied id req volume) := by
  intro before after moved tidied
  constructor
  · exact lasting_holding before after moved tidied.holding
  · have held := (tidied.holding.held volume).mpr rfl
    exact fineAt_false_iff.mp ((moved id rfl).fine held (tidied.settled.fineAt False))

/-- The request holds the lock of its volume and, if it makes a clone, the volume is
settled or that clone at work. -/
structure Provisioning (cloning : Prop) (id : Nat) (req : Request) (volume : String)
    (shared : Shared) : Prop where
  holding : Holding id req {volume} shared
  fine : cloning → FineAt True shared.volumes volume

theorem lasting_provisioning {cloning : Prop} :
    Lasts (tidying compile) (.request id) (Provisioning cloning id req volume) := by
  intro before after moved provisioning
  constructor
  · exact lasting_holding before after moved provisioning.holding
  · intro isClone
    have held := (provisioning.holding.held volume).mpr rfl
    exact (moved id rfl).fine held (provisioning.fine isClone)

theorem Tidied.provisioning (tidied : Tidied id req volume shared) (cloning : Prop) :
    Provisioning cloning id req volume shared where
  holding := tidied.holding
  fine := fun _ => tidied.settled.fineAt True

theorem Op.Reads.tidyCall {thread : Tid} {op : Op} (reads : op.Reads) :
    TidyCall thread op shared := by
  unfold Op.Reads at reads
  split at reads <;> first | exact reads.elim | (cases thread <;> trivial)

/-- A write keeps the locks of its request. -/
theorem tidies_write {op : Op} (holding : Holding id req keys shared) (calm : op.Calm)
    (owed : ∀ now, Holding id req keys now → TidyCall (.request id) op now) :
    (tidying compile).Keeps (.request id) (call op) (fun _ => Holding id req keys) shared := by
  intro now moved _
  have holding := lasting_holding shared now moved holding
  constructor
  · exact owed now holding
  · intro choice answer after _ executed later moved _
    exact lasting_holding after later moved (holding.effect (exec_effect executed) calm)

/-! ### Provisioning -/

/-- A write of its volume keeps a clone at work. -/
theorem Provisioning.effect {cloning : Prop} {op : Op} {after : Shared}
    (provisioning : Provisioning cloning id req volume shared)
    (effect : Effect (.request id) shared op after) (calm : op.Calm)
    (disciplined : Disciplined (fun _ _ => True) (.request id) op shared)
    (writes : ∀ vol, op = .createVolume vol ∨ op = .updateVolume vol → cloning → Cloning vol) :
    Provisioning cloning id req volume after where
  holding := provisioning.holding.effect effect calm
  fine := by
    intro isClone
    apply fineAt_of_change (effect.volumeChange disciplined) _ _ _ (provisioning.fine isClone)
    · intro creator vol isCaller _
      cases isCaller
      exact ⟨trivial, (writes vol (.inl rfl) isClone).isClone⟩
    · intro writer vol isCaller _
      cases isCaller
      exact .inr ⟨trivial, writes vol (.inr rfl) isClone⟩
    · intro node name vol isCaller
      cases isCaller

theorem tidies_provisioningWrite {cloning : Prop} {op : Op}
    (provisioning : Provisioning cloning id req volume shared) (calm : op.Calm)
    (owed : ∀ now, Holding id req {volume} now → TidyCall (.request id) op now)
    (writes : ∀ vol, op = .createVolume vol ∨ op = .updateVolume vol → cloning → Cloning vol) :
    (tidying compile).Keeps (.request id) (call op)
      (fun _ => Provisioning cloning id req volume) shared := by
  intro now moved _
  have provisioning := lasting_provisioning shared now moved provisioning
  constructor
  · exact owed now provisioning.holding
  · intro choice answer after guard executed later moved _
    apply lasting_provisioning after later moved
    exact provisioning.effect (exec_effect executed) calm guard.1 writes

/-- The lock of its volume lets a `CreateVolume` request write it. -/
theorem tidies_updateOrCreate {cloning : Prop} {polls : Nat} {request : CreateVolumeRequest}
    {vol : ZFSVolume} {found : Except Err ZFSVolume}
    (named : ∀ zv, found = .ok zv → zv.name = vol.name) (isClone : cloning → Cloning vol)
    (provisioning : Provisioning cloning id (.createVolume polls request) vol.name shared) :
    (tidying compile).Keeps (.request id) (updateOrCreate vol found)
      (fun _ => Provisioning cloning id (.createVolume polls request) vol.name) shared := by
  cases found with
  | ok zv =>
      apply tidies_provisioningWrite provisioning
      · trivial
      · intro now holding
        exact ⟨(holding.held _).mpr (named zv rfl), .inl ⟨polls, request, holding.serving⟩⟩
      · rintro new (isCreate | isUpdate) cloning
        · contradiction
        · cases isUpdate
          exact ⟨(isClone cloning).pending, (isClone cloning).isClone⟩
  | error err =>
      apply tidies_provisioningWrite provisioning
      · trivial
      · intro now holding
        exact ⟨(holding.held _).mpr rfl, polls, request, holding.serving⟩
      · rintro new (isCreate | isUpdate) cloning
        · cases isCreate
          exact isClone cloning
        · contradiction

/-- A delete that the API server answers leaves nothing behind or a deleted volume. -/
theorem settledAt_of_delete {thread : Tid} {choice : Choice} {answer : Except Err Unit}
    {after : Shared} (answered : choice.outcome = .ok)
    (executed : exec thread (.deleteVolume volume) choice shared = some (answer, after)) :
    SettledAt after.volumes volume := by
  rcases writeAnswer_effective (Option.some.inj executed) with
    ⟨failed, _⟩ | ⟨reason, refused, rfl, _⟩ | ⟨next, accepted, rfl, _⟩
  · rw [answered] at failed
    contradiction
  · intro vol stored
    have absent := Resource.absent_of_delete_eq_error refused
    rw [absent] at stored
    contradiction
  · intro vol stored
    exact .inr ((Resource.deleted_of_delete accepted).2 vol stored)

theorem tidies_cleanup (named : volume ≠ "") (holding : Holding id req {volume} shared) :
    (tidying compile).Keeps (.request id) (Zfs.deleteVolume volume)
      (fun _ => Tidied id req volume) shared := by
  unfold Zfs.deleteVolume
  rw [if_neg named]
  intro now moved _
  have holding := lasting_holding shared now moved holding
  constructor
  · trivial
  · intro choice answer after guard executed later moved _
    have effect : Effect (.request id) now (.deleteVolume volume) after := exec_effect executed
    apply lasting_tidied after later moved
    constructor
    · exact holding.effect effect trivial
    · exact @settledAt_of_delete volume now (.request id) choice answer after (guard.2.1 rfl)
        executed

/-- The stages of a `CreateVolume` request that leaves nothing unsettled behind. -/
def cleaningStages (cloning : Prop) (id polls : Nat) (request : CreateVolumeRequest) : Stages where
  before := Tidied id (.createVolume polls request) (Go.toLower request.name)
  writing := Provisioning cloning id (.createVolume polls request) (Go.toLower request.name)
  waiting := Provisioning cloning id (.createVolume polls request) (Go.toLower request.name)
  made := Tidied id (.createVolume polls request) (Go.toLower request.name)
  cleaned := Tidied id (.createVolume polls request) (Go.toLower request.name)

theorem cleaningStages_kept (cloning : Prop) {polls : Nat} {request : CreateVolumeRequest}
    (given : Go.toLower request.name ≠ "") :
    (cleaningStages cloning id polls request).Kept (tidying compile) (.request id)
      (Go.toLower request.name)
      (fun vol => vol.name = Go.toLower request.name ∧ (cloning → Cloning vol)) where
  named := fun placed => placed.1
  before_lasts := lasting_tidied
  writing_lasts := lasting_provisioning
  waiting_lasts := lasting_provisioning
  made_lasts := lasting_tidied
  cleaned_lasts := lasting_tidied
  reads := Op.Reads.tidyCall
  begins := fun tidied => tidied.provisioning cloning
  waits := fun provisioning => provisioning
  writes := by
    rintro vol found now ⟨named, isClone⟩ stored provisioning
    simp only [cleaningStages, ← named] at provisioning stored ⊢
    apply (tidies_updateOrCreate _ isClone provisioning).mono
    · exact fun _ _ _ provisioning => ⟨provisioning, fun _ => provisioning⟩
    · exact fun zv isOk => Resource.name_of_get (stored zv isOk)
  existing := fun tidied _ _ _ => tidied
  polled := by
    intro vol now provisioning stored ready
    constructor
    · exact provisioning.holding
    · intro found same
      cases stored.symm.trans same
      exact .inl ready
  cleans := fun provisioning => tidies_cleanup given provisioning.holding

/-! ### Clones -/

theorem cloning_cloneOf {request : CreateVolumeRequest} {labels : Go.StringMap}
    {volObj : ZFSVolume} {source : VolumeInfo} {snapName : String}
    (built : cloneObject request labels = .ok volObj) (given : snapName ≠ "") :
    Cloning (cloneOf volObj source snapName) where
  pending := (provisional_cloneOf built source snapName).pending
  isClone := given

theorem tidies_createVolClone {polls : Nat} {request : CreateVolumeRequest} (rounds : Nat)
    (srcVol : String) (given : Go.toLower request.name ≠ "")
    (provisioning : Provisioning True id (.createVolume polls request)
      (Go.toLower request.name) shared) :
    (tidying compile).Keeps (.request id) (createVolClone compile rounds request srcVol)
      (fun _ => Provisioning True id (.createVolume polls request) (Go.toLower request.name))
      shared := by
  unfold createVolClone
  split
  · exact keeps_panic Op.Reads.tidyCall
  · dsimp only
    split
    · exact keeps_lasting_return _ lasting_provisioning provisioning
    · apply keeps_getZFSVolume_bind
      · intro now _ _
        trivial
      · intro err now moved _ _
        exact keeps_lasting_return _ lasting_provisioning
          (lasting_provisioning shared now moved provisioning)
      · intro vol choice now moved _ _ _
        have provisioning := lasting_provisioning shared now moved provisioning
        dsimp only
        split
        · exact keeps_lasting_return _ lasting_provisioning provisioning
        · split
          · exact keeps_lasting_return _ lasting_provisioning provisioning
          · split
            · exact keeps_lasting_return _ lasting_provisioning provisioning
            · rename_i volObj built
              apply Contract.Keeps.bind
              apply ((cleaningStages_kept True given).provisionVolume rounds
                ⟨name_cloneOf built _ _, fun _ => cloning_cloneOf built (by simp)⟩
                provisioning).mono
              rintro ⟨timeout, provisioned⟩ later _ reached
              cases provisioned with
              | error err => exact keeps_lasting_return _ lasting_provisioning reached
              | ok done =>
                  exact keeps_lasting_return _ lasting_provisioning (reached.provisioning True)

theorem tidies_createSnapClone {polls : Nat} {request : CreateVolumeRequest} (rounds : Nat)
    (snapshot : String) (given : Go.toLower request.name ≠ "")
    (provisioning : Provisioning True id (.createVolume polls request)
      (Go.toLower request.name) shared) :
    (tidying compile).Keeps (.request id) (createSnapClone compile rounds request snapshot)
      (fun _ => Provisioning True id (.createVolume polls request) (Go.toLower request.name))
      shared := by
  unfold createSnapClone
  split
  · exact keeps_panic Op.Reads.tidyCall
  · dsimp only
    split
    · exact keeps_lasting_return _ lasting_provisioning provisioning
    · split
      · rename_i snapID parts
        have cloned : Go.toLower snapshot ≠ "" := by
          apply Go.toLower_ne_empty
          rintro rfl
          simp [Go.split, Go.splitChars] at parts
        apply keeps_getZFSSnapshot_bind
        · intro now _ _
          trivial
        · intro err now moved _ _
          exact keeps_lasting_return _ lasting_provisioning
            (lasting_provisioning shared now moved provisioning)
        · intro snap choice now moved _ _ _
          have provisioning := lasting_provisioning shared now moved provisioning
          dsimp only
          split
          · exact keeps_lasting_return _ lasting_provisioning provisioning
          · split
            · exact keeps_lasting_return _ lasting_provisioning provisioning
            · split
              · exact keeps_lasting_return _ lasting_provisioning provisioning
              · rename_i volObj built
                apply Contract.Keeps.bind
                apply ((cleaningStages_kept True given).provisionVolume rounds
                  ⟨name_cloneOf built _ _, fun _ => cloning_cloneOf built cloned⟩
                  provisioning).mono
                rintro ⟨timeout, provisioned⟩ later _ reached
                cases provisioned with
                | error err => exact keeps_lasting_return _ lasting_provisioning reached
                | ok done =>
                    exact keeps_lasting_return _ lasting_provisioning (reached.provisioning True)
      · exact keeps_lasting_return _ lasting_provisioning provisioning

/-! ### Requests -/

/-- The body runs with the lock of a volume that is settled when the lock is taken and,
but for clones at work, when it is released. -/
theorem tidies_lockVolume {body : Routine α} (holding : Holding id req ∅ shared)
    (ownName : ∀ polls request, req = .createVolume polls request →
      Go.toLower request.name = volume)
    (keeps : ∀ now, Tidied id req volume now → (tidying compile).Keeps (.request id) body
      (fun _ now => Tidied id req volume now ∨
        Provisioning True id req volume now ∧ Clones id now) now) :
    (tidying compile).Keeps (.request id) (lockVolume volume body)
      (fun _ => Holding id req ∅) shared := by
  apply keeps_call_bind
  intro now moved tidy
  have holding := lasting_holding shared now moved holding
  constructor
  · exact ⟨req, holding.serving, ownName⟩
  · intro choice answer after _ executed
    obtain ⟨free, rfl⟩ := exec_lock executed
    have settled : SettledAt now.volumes volume := by
      apply tidy.settled
      intro holder held
      rw [free] at held
      contradiction
    have locked := holding.lock volume
    rw [insert_empty_eq] at locked
    apply Contract.Keeps.bind
    apply (keeps _ ⟨locked, settled⟩).mono
    intro result later _ ended
    apply keeps_call_bind
    intro last moved _
    have owed : Holding id req {volume} last ∧
        (SettledAt last.volumes volume ∨ Clones id last ∧ FineAt True last.volumes volume) := by
      rcases ended with tidied | ⟨provisioning, polls, request, serving, source⟩
      · have tidied := lasting_tidied later last moved tidied
        exact ⟨tidied.holding, .inl tidied.settled⟩
      · have provisioning := lasting_provisioning later last moved provisioning
        have serving := (moved id rfl).serving.trans serving
        exact ⟨provisioning.holding,
          .inr ⟨⟨polls, request, serving, source⟩, provisioning.fine trivial⟩⟩
    constructor
    · exact ⟨(owed.1.held volume).mpr rfl, owed.2⟩
    · intro choice answer after _ executed
      cases executed
      have holding := owed.1.unlock volume
      rw [Set.sdiff_self] at holding
      exact keeps_lasting_return _ lasting_holding holding

theorem tidies_createVolume {polls : Nat} {request : CreateVolumeRequest}
    (holding : Holding id (.createVolume polls request) ∅ shared) :
    (tidying compile).Keeps (.request id) (Driver.createVolume compile polls request)
      (fun _ => Holding id (.createVolume polls request) ∅) shared := by
  unfold Driver.createVolume
  split
  · exact keeps_lasting_return _ lasting_holding holding
  · rename_i valid
    have given : Go.toLower request.name ≠ "" := by
      apply Go.toLower_ne_empty
      intro missing
      simp [validateVolumeCreateReq, missing] at valid
    apply Contract.Keeps.bind
    refine (tidies_lockVolume holding ?_ ?_).mono ?_
    · intro polls' request' isRequest
      cases isRequest
      rfl
    · intro now tidied
      have clones (source : request.contentSource ≠ none) {body : Routine (Except Err ZFSVolume)}
          (keeps : (tidying compile).Keeps (.request id) body
            (fun _ => Provisioning True id (.createVolume polls request)
              (Go.toLower request.name)) now) :
          (tidying compile).Keeps (.request id) body (fun _ now =>
            Tidied id (.createVolume polls request) (Go.toLower request.name) now ∨
              Provisioning True id (.createVolume polls request) (Go.toLower request.name) now ∧
                Clones id now) now :=
        keeps.mono fun _ later _ provisioning =>
          .inr ⟨provisioning, polls, request, provisioning.holding.serving, source⟩
      unfold createByKind
      split
      · rename_i snapshotID source
        exact clones (by simp [source])
          (tidies_createSnapClone polls snapshotID given (tidied.provisioning True))
      · rename_i srcVol source
        exact clones (by simp [source])
          (tidies_createVolClone polls srcVol given (tidied.provisioning True))
      · refine (keeps_createZFSVolume polls (cleaningStages_kept False given) ?_ tidied).mono ?_
        · exact fun placed => ⟨placed.name, False.elim⟩
        · intro result later _ ended
          cases result with
          | ok vol => exact .inl ended
          | error err => exact .inl (or_self_iff.mp ended)
    · intro created later _ holding
      exact keeps_lasting_return _ lasting_holding holding

/-- `DeleteVolume` writes back only what it has read under the lock. -/
theorem tidies_markForDeletion {request : DeleteVolumeRequest}
    (holding : Holding id (.deleteVolume request) {volume} shared) :
    (tidying compile).Keeps (.request id) (markForDeletion volume)
      (fun _ => Holding id (.deleteVolume request) {volume}) shared := by
  apply keeps_getZFSVolume_bind
  · intro now _ _
    trivial
  · intro err now moved _ _
    exact keeps_lasting_return _ lasting_holding (lasting_holding shared now moved holding)
  · intro vol choice now moved tidy _ stored
    have holding := lasting_holding shared now moved holding
    have settled : Settled vol := by
      apply tidy.settled volume _ vol stored
      rintro holder held ⟨polls, request, serving⟩
      cases held.symm.trans ((holding.held volume).mpr rfl)
      cases holding.serving.symm.trans serving
    dsimp only
    rw [updateZFSVolumeAnnotation_eq]
    apply tidies_write holding
    · trivial
    · intro later holding
      have named : vol.name = volume := Resource.name_of_get stored
      exact ⟨(holding.held _).mpr named, .inr settled⟩

theorem tidies_zfsDeleteVolume (holding : Holding id req {volume} shared) :
    (tidying compile).Keeps (.request id) (Zfs.deleteVolume volume)
      (fun _ => Holding id req {volume}) shared := by
  unfold Zfs.deleteVolume
  split
  · exact keeps_lasting_return _ lasting_holding holding
  · apply tidies_write holding
    · trivial
    · exact fun _ _ => trivial

theorem tidies_deleteVolumeLocked {request : DeleteVolumeRequest}
    (holding : Holding id (.deleteVolume request) {volume} shared) :
    (tidying compile).Keeps (.request id) (deleteVolumeLocked request volume)
      (fun _ => Holding id (.deleteVolume request) {volume}) shared := by
  apply (promise_of_lasts lasting_holding).deleteVolumeLocked Op.Reads.tidyCall lasting_holding
    (fun holding => holding) (fun holding _ => holding) _ _ holding
  · exact fun holding _ => tidies_zfsDeleteVolume holding
  · exact fun holding _ _ => tidies_markForDeletion holding

/-- The requests for volumes. -/
def Request.OfVolumes : Request → Prop
  | .createVolume _ _ | .deleteVolume _ => True
  | _ => False

instance : DecidablePred Request.OfVolumes
  | .createVolume _ _ | .deleteVolume _ | .controllerExpandVolume _ | .createSnapshot _ _ _
  | .deleteSnapshot _ | .nodeExpandVolume _ _ => by
      dsimp only [Request.OfVolumes]
      infer_instance

theorem tidies_serve (ofVolumes : Request.OfVolumes req) (holding : Holding id req ∅ shared) :
    (tidying compile).Keeps (.request id) (serve compile req)
      ((tidying compile).Post (.request id)) shared := by
  have answer {γ : Type} {program : Routine γ} (wrap : γ → Answer)
      (keeps : (tidying compile).Keeps (.request id) program
        (fun _ => Holding id req ∅) shared) :
      (tidying compile).Keeps (.request id) (program >>= fun result => pure (wrap result))
        ((tidying compile).Post (.request id)) shared := by
    apply Contract.Keeps.bind
    apply keeps.mono
    intro result now _ holding later moved _ key held
    exact ((lasting_holding now later moved holding).held key).mp held
  cases req with
  | createVolume polls request => exact answer _ (tidies_createVolume holding)
  | deleteVolume request =>
      apply answer
      unfold Driver.deleteVolume
      split
      · exact keeps_lasting_return _ lasting_holding holding
      · apply tidies_lockVolume holding
        · intro polls other isRequest
          contradiction
        · intro now tidied
          apply (tidies_deleteVolumeLocked tidied.holding).mono
          intro result later tidy holding
          left
          constructor
          · exact holding
          · apply tidy.settled
            rintro holder held ⟨polls, other, serving⟩
            cases held.symm.trans ((holding.held _).mpr rfl)
            cases holding.serving.symm.trans serving
  | controllerExpandVolume | createSnapshot | deleteSnapshot | nodeExpandVolume =>
      exact ofVolumes.elim

end Programs

/-! ## Every run -/

section Runs

variable {compile : Compile} {start config : Config sig Shared Tid Answer}
  {Meets : Action Tid Choice Move Arrival → Config sig Shared Tid Answer → Prop}

/-- A step of a run of `CreateVolume` and `DeleteVolume` requests in which the API
server answers every call and clones come to a good end. -/
structure TidyStep (action : Action Tid Choice Move Arrival)
    (config : Config sig Shared Tid Answer) : Prop where
  arrives : Arrives Request.OfVolumes action config
  answered : System.AtCalls
    (fun _ op choice _ => Op.toApi op = true → choice.outcome = .ok) action config
  succeeds : System.AtCalls (fun thread op _ shared => CloneSucceeds thread op shared)
    action config

theorem tidying_sound (tidy : ∀ {action config}, Meets action config → TidyStep action config)
    (disciplined : ∀ {action config}, Meets action config →
      System.AtCalls (fun thread op _ shared => Disciplined (fun _ _ => True) thread op shared)
        action config) :
    (tidying compile).Sound Meets where
  guard := fun meets atCall =>
    ⟨disciplined meets _ _ atCall, (tidy meets).answered _ _ atCall,
      (tidy meets).succeeds _ _ atCall⟩
  call := by
    intro thread op choice before answer after inv owed guard executed
    have effect := exec_effect executed
    constructor
    · exact inv.effect effect owed guard.1 guard.2.2
    · rintro other differs id rfl
      exact leftAlone_of_effect effect owed guard.1 guard.2.2 differs
  env := by
    intro config move after _ inv moved
    have effect := env_effect moved
    constructor
    · exact inv.env effect
    · rintro other id rfl
      exact leftAlone_of_drift effect.drift (by rw [effect.inFlight])
  arrive := by
    intro config arrival thread program after meets inv arrived _
    have effect := arrive_effect arrived
    refine ⟨inv.arrive effect, ?_, ?_⟩
    · rintro other differs id rfl
      exact leftAlone_of_drift effect.drift (effect.inFlight differs)
    · cases effect with
      | request id req unused =>
          exact tidies_serve (tidy meets).arrives (holding_of_arrival inv.served unused req)
      | syncVolume | syncSnapshot | syncBackup =>
          apply keeps_work
          · exact fun _ _ _ => trivial
          · intro answer now tidy key held
            obtain ⟨id, req, isRequest, _⟩ := tidy.served key _ held
            contradiction
  leave := by
    intro config thread answer _ inv released _
    have effect := leave_effect thread answer config.shared
    constructor
    · exact inv.leave effect released
    · rintro other differs id rfl
      exact leftAlone_of_drift effect.drift (effect.inFlight differs)

/-- Nobody is running, no lock is taken and every volume is Ready or deleted. -/
structure TidyStart (start : Config sig Shared Tid Answer) : Prop extends Unlocked start where
  settled : ∀ name, SettledAt start.shared.volumes name

theorem tidying_of_reaches (tidy : TidyStart start)
    (reached : (cluster compile).Reaches TidyStep start config) :
    (tidying compile).Holds config := by
  have initially : TidyState start.shared := by
    constructor
    · intro key owner held
      rw [tidy.free key] at held
      contradiction
    · intro key id polls req held
      rw [tidy.free key] at held
      contradiction
    · exact fun name _ => tidy.settled name
  have disciplined := reaches_disciplined provisionsOnly_true tidy.idle reached
  apply Contract.Sound.reaches _ initially tidy.idle disciplined
  exact tidying_sound (fun meets => meets.1) fun meets => meets.2

/-- The error of `DeleteVolume` about a volume that is neither Ready nor deleted. -/
def creationInProgress : Err :=
  .status .internal "can not delete, volume creation is in progress"

theorem ensures_deleteVolumeLocked {thread : Tid} {shared : Shared} {req : DeleteVolumeRequest}
    {volume : String} (settled : SettledAt shared.volumes volume) :
    Prog.Ensures (exec thread) (deleteVolumeLocked req volume) shared
      fun result _ => result ≠ .error creationInProgress := by
  unfold deleteVolumeLocked
  apply ensures_getZFSVolume.bind
  rintro (err | vol) now ⟨_, read⟩
  · dsimp only
    split
    · exact Prog.ensures_ret (by simp)
    · exact Prog.ensures_ret (by simp [creationInProgress, Err.wrap])
  have ended := settled vol (read vol rfl)
  dsimp only
  split
  · exact Prog.ensures_ret (by simp)
  rename_i live
  have ready : ¬ vol.status ≠ .ready := not_not.mpr (ended.resolve_right live)
  rw [if_neg ready]
  apply Prog.ensures_lift_bind
  rintro choice (err | snapList) now _
  · exact Prog.ensures_ret (by simp [creationInProgress])
  dsimp only
  split
  · apply Prog.Ensures.bind
    · exact Prog.ensures_true _
    rintro (err | done) now _
    · exact Prog.ensures_ret (by simp [creationInProgress, Err.wrap])
    · exact Prog.ensures_ret (by simp)
  · apply Prog.Ensures.bind
    · exact Prog.ensures_true _
    rintro (err | done) now _
    · exact Prog.ensures_ret (by simp [creationInProgress, Err.wrap])
    · exact Prog.ensures_ret (by simp)

/-- `DeleteVolume`, run alone, does not refuse a settled volume. -/
theorem ensures_deleteVolume {thread : Tid} {shared : Shared} {req : DeleteVolumeRequest}
    (settled : SettledAt shared.volumes (Go.toLower req.volumeId)) :
    Prog.Ensures (exec thread) (Driver.deleteVolume req) shared
      fun result _ => result ≠ .error creationInProgress := by
  unfold Driver.deleteVolume
  split
  · exact Prog.ensures_ret (by simp [creationInProgress])
  apply ensures_lockVolume
  have settled : SettledAt (shared.setLocked (Go.toLower req.volumeId) (some thread)).volumes _ :=
    settled
  exact ensures_deleteVolumeLocked settled

/-- Along every run of `CreateVolume` and `DeleteVolume` requests, with every outcome of
provisioning plain volumes, in which clones come to a good end: while no `CreateVolume`
request for a name is in flight, the volume of that name is absent, Ready or deleted,
and `DeleteVolume` does not refuse it. -/
theorem no_unsettled_volume_left (tidy : TidyStart start)
    (reached : (cluster compile).Reaches TidyStep start config) {name : String}
    (notCreating : ∀ id polls req, config.shared.inFlight id = some (.createVolume polls req) →
      Go.toLower req.name ≠ name) :
    SettledAt config.shared.volumes name ∧
      ∀ thread req result after, Go.toLower req.volumeId = name →
        Prog.Returns (exec thread) (Driver.deleteVolume req) config.shared result after →
        result ≠ .error creationInProgress := by
  have inv : TidyState config.shared := (tidying_of_reaches tidy reached).1
  have settled : SettledAt config.shared.volumes name := by
    apply inv.settled
    rintro id held ⟨polls, req, serving⟩
    exact notCreating id polls req serving (inv.own held serving)
  constructor
  · exact settled
  · rintro thread req result after rfl returned
    exact (ensures_deleteVolume settled).of_returns returned

/-- A volume that is not settled is refused. -/
theorem returns_creationInProgress {shared : Shared} (thread : Tid) {req : DeleteVolumeRequest}
    {vol : ZFSVolume} (named : req.volumeId ≠ "")
    (stored : shared.volumes.get (Go.toLower req.volumeId) = some vol) (unsettled : ¬ Settled vol)
    (free : shared.locked (Go.toLower req.volumeId) = none) :
    ∃ after, Prog.Returns (exec thread) (Driver.deleteVolume req) shared
      (.error creationInProgress) after := by
  obtain ⟨unready, live⟩ := not_or.mp unsettled
  have read : Prog.Returns (exec thread) (getZFSVolume (Go.toLower req.volumeId))
      (shared.setLocked (Go.toLower req.volumeId) (some thread)) (.ok vol)
      (shared.setLocked (Go.toLower req.volumeId) (some thread)) := by
    unfold getZFSVolume getNamed
    rw [if_neg (Go.toLower_ne_empty named)]
    refine Prog.returns_call_iff.mpr ⟨{}, .ok vol, _, ?_, Prog.returns_ret_iff.mpr ⟨rfl, rfl⟩⟩
    simp [exec, readAnswer, Shared.setLocked, stored]
  have refused : Prog.Returns (exec thread) (deleteVolumeLocked req (Go.toLower req.volumeId))
      (shared.setLocked (Go.toLower req.volumeId) (some thread)) (.error creationInProgress)
      (shared.setLocked (Go.toLower req.volumeId) (some thread)) := by
    refine Prog.returns_bind_iff.mpr ⟨_, _, read, ?_⟩
    dsimp only
    rw [if_neg live, if_pos unready]
    exact Prog.returns_ret_iff.mpr ⟨rfl, rfl⟩
  have released : Prog.Returns (exec thread)
      (call (.unlock (Go.toLower req.volumeId)) >>= fun _ => pure (.error creationInProgress))
      (shared.setLocked (Go.toLower req.volumeId) (some thread))
      (.error creationInProgress : Except Err Unit)
      ((shared.setLocked (Go.toLower req.volumeId) (some thread)).setLocked
        (Go.toLower req.volumeId) none) :=
    Prog.returns_call_iff.mpr ⟨{}, (), _, rfl, Prog.returns_ret_iff.mpr ⟨rfl, rfl⟩⟩
  unfold Driver.deleteVolume
  rw [if_neg named]
  use (shared.setLocked (Go.toLower req.volumeId) (some thread)).setLocked
    (Go.toLower req.volumeId) none
  apply Prog.returns_call_iff.mpr
  refine ⟨{}, (), _, if_pos free, ?_⟩
  refine Prog.returns_bind_iff.mpr ⟨(), _, Prog.returns_ret_iff.mpr ⟨rfl, rfl⟩, ?_⟩
  exact Prog.returns_bind_iff.mpr ⟨_, _, refused, released⟩

instance (thread : Tid) (op : Op) (shared : Shared) :
    Decidable (CloneSucceeds thread op shared) :=
  match thread with
  | .request _ | .volume _ _ | .snapshot _ _ | .backup _ _ => by
      dsimp only [CloneSucceeds]
      infer_instance

instance (action : Action Tid Choice Move Arrival) (config : Config sig Shared Tid Answer) :
    Decidable (TidyStep action config) :=
  decidable_of_iff (Arrives Request.OfVolumes action config ∧
      System.AtCalls (fun _ op choice _ => Op.toApi op = true → choice.outcome = .ok)
        action config ∧
      System.AtCalls (fun thread op _ shared => CloneSucceeds thread op shared) action config)
    ⟨fun all => ⟨all.1, all.2.1, all.2.2⟩, fun step => ⟨step.arrives, step.answered, step.succeeds⟩⟩

/-- A plain request whose volume the agent of the only node fails to create. -/
def failedRun : List (Action Tid Choice Move Arrival) :=
  provisionSteps 0 ["a"] ++
    [.env (.deliverVolume "a" "v"), .env (.handleVolume "a"), .arrive (.syncVolume "a" "v")] ++
    calls (.volume "a" "v") 2 ++ [.call (.volume "a" "v") { outcome := .fail }] ++
    calls (.volume "a" "v") 1 ++ calls (.request 0) 4 ++ [.leave (.request 0)]

/-- The failed plain request has deleted its volume. -/
theorem no_unsettled_volume_left_failedRun :
    ∃ config vol, (cluster noRegexp).Reaches TidyStep twoNodes config ∧
      (∀ id, config.shared.inFlight id = none) ∧ config.shared.volumes.get "v" = some vol ∧
      vol.status = .failed ∧ Settled vol := by
  have ran : ((cluster noRegexp).run TidyStep failedRun twoNodes).any (fun config =>
      decide (∀ id ∈ ([0] : List Nat), config.shared.inFlight id = none) &&
      (config.shared.volumes.get "v").any fun vol => decide (vol.status = .failed)) = true := by
    decide +kernel
  obtain ⟨config, last, checked⟩ := (Option.any_eq_true _ _).mp ran
  obtain ⟨answered, present⟩ := Bool.and_eq_true_iff.mp checked
  obtain ⟨vol, stored, failed⟩ := (Option.any_eq_true _ _).mp present
  have reached := System.reaches_of_run last
  have quiet := quiet_of_run [0] reached (fun _ => rfl) (by
    simp [failedRun, provisionSteps, calls]) (of_decide_eq_true answered)
  have reached := reached.mono fun step => step.1
  have start : TidyStart twoNodes :=
    ⟨⟨fun _ => rfl, fun _ => rfl⟩, fun _ _ stored => nomatch stored⟩
  have settled : SettledAt config.shared.volumes "v" := by
    apply (no_unsettled_volume_left start reached _).1
    intro id polls req serving
    cases (quiet id).symm.trans serving
  exact ⟨config, vol, reached, quiet, stored, of_decide_eq_true failed, settled vol stored⟩

/-- A request for a clone of the snapshot of the Ready volume. -/
def cloneRequest : CreateVolumeRequest where
  name := "w"
  capacityRange := some Mi
  parameters := [("poolname", "p"), ("fstype", "zfs")]
  contentSource := some (.snapshot "v@s")

/-- A clone request whose volume the agent fails to create. -/
def failedCloneRun : List (Action Tid Choice Move Arrival) :=
  .arrive (.request 0 (.createVolume 1 cloneRequest)) :: calls (.request 0) 4 ++
    [.env (.deliverVolume "a" "w"), .env (.handleVolume "a"), .arrive (.syncVolume "a" "w")] ++
    calls (.volume "a" "w") 2 ++ [.call (.volume "a" "w") { outcome := .fail }] ++
    calls (.volume "a" "w") 1 ++ calls (.request 0) 3 ++ [.leave (.request 0)]

/-- The failed clone request has left its volume behind, which is neither Ready nor
deleted, and `DeleteVolume` refuses it. -/
theorem failed_clone_left_behind :
    ∃ config vol, (cluster noRegexp).Reaches (fun action config =>
        Arrives Request.OfVolumes action config ∧
        System.AtCalls (fun _ op choice _ => Op.toApi op = true → choice.outcome = .ok)
          action config) (idle (snapshotCluster ["s"])) config ∧
      (∀ id, config.shared.inFlight id = none) ∧ config.shared.volumes.get "w" = some vol ∧
      vol.status = .failed ∧ ¬ Settled vol ∧
      ∀ thread, ∃ after, Prog.Returns (exec thread) (Driver.deleteVolume ⟨"w"⟩) config.shared
        (.error creationInProgress) after := by
  have ran : ((cluster noRegexp).run (fun action config =>
      Arrives Request.OfVolumes action config ∧
      System.AtCalls (fun _ op choice _ => Op.toApi op = true → choice.outcome = .ok)
        action config) failedCloneRun (idle (snapshotCluster ["s"]))).any (fun config =>
      decide (∀ id ∈ ([0] : List Nat), config.shared.inFlight id = none) &&
      (decide (config.shared.locked (Go.toLower "w") = none) &&
      (config.shared.volumes.get (Go.toLower "w")).any fun vol =>
        decide (vol.status = .failed ∧ ¬ Settled vol))) = true := by
    decide +kernel
  obtain ⟨config, last, checked⟩ := (Option.any_eq_true _ _).mp ran
  obtain ⟨answered, checked⟩ := Bool.and_eq_true_iff.mp checked
  obtain ⟨free, present⟩ := Bool.and_eq_true_iff.mp checked
  obtain ⟨vol, stored, unsettled⟩ := (Option.any_eq_true _ _).mp present
  obtain ⟨failed, unsettled⟩ := of_decide_eq_true unsettled
  have reached := System.reaches_of_run last
  have quiet := quiet_of_run [0] reached (fun _ => rfl) (by
    simp [failedCloneRun, calls]) (of_decide_eq_true answered)
  refine ⟨config, vol, reached.mono fun step => step.1, quiet, stored, failed, unsettled, ?_⟩
  intro thread
  exact returns_creationInProgress thread (by decide) stored unsettled (of_decide_eq_true free)

end Runs

end ZfsLocalPv.Properties

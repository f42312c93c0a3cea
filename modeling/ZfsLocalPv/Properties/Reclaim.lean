import ZfsLocalPv.Cluster.Creation
import ZfsLocalPv.Properties.DeferredDeletion

/-!
# Volumes that are reclaimed by an old delete

`DeleteVolume` only marks a volume that has snapshots, and the `DeleteSnapshot` that takes the
last one deletes the volume. The mark outlives the request. It also outlives a later
`CreateVolume` for the name, which answers for the marked volume as it is, so that a volume in
use is deleted together with its last snapshot.

Requests are handled one after another here, with the agents at work in between. As long as no
`CreateVolume` finds a marked volume, the mark of a volume tells that the last acknowledged
request for it was a `DeleteVolume`.
-/

namespace ZfsLocalPv.Properties

open Api ApiServer Driver Interaction Zfs Cluster

/-! ## Acknowledged requests -/

/-- What a request wants done with a volume. -/
inductive Intent
  | keep
  | reclaim
  deriving DecidableEq

/-- The intent of an acknowledged request about the volume of a name. -/
def intent (name : String) : Request × Answer → Option Intent
  | (.createVolume _ req, .createVolume (.ok _)) =>
      if Go.toLower req.name = name then some .keep else none
  | (.deleteVolume req, .deleteVolume (.ok _)) =>
      if Go.toLower req.volumeId = name then some .reclaim else none
  | _ => none

/-- The most recent acknowledged intent about the volume of a name. -/
def lastIntent (answered : List (Request × Answer)) (name : String) : Option Intent :=
  (answered.filterMap (intent name)).getLast?

theorem lastIntent_append (answered : List (Request × Answer)) (last : Request × Answer)
    (name : String) :
    lastIntent (answered ++ [last]) name = (intent name last).or (lastIntent answered name) := by
  unfold lastIntent
  cases wanted : intent name last with
  | none => simp [wanted]
  | some found => simp [wanted]

/-- A `DeleteVolume` for the name is in flight. -/
def Deleting (id : Nat) (name : String) (shared : Shared) : Prop :=
  ∃ req, shared.inFlight id = some (.deleteVolume req) ∧ Go.toLower req.volumeId = name

/-! ## Marks -/

/-- The volume of the name is marked for deletion. -/
def MarkedAt (volumes : Resource VolumeInfo State) (name : String) : Prop :=
  ∃ vol ∈ volumes.get name, Marked vol

/-- If the volume of the name is marked then it is deleted already. -/
def MarkSpent (volumes : Resource VolumeInfo State) (name : String) : Prop :=
  ∀ vol ∈ volumes.get name, Marked vol → vol.deletionTimestamp = true

/-- If the volume of the name is Ready then it is not marked. -/
def ReadyUnmarked (volumes : Resource VolumeInfo State) (name : String) : Prop :=
  ∀ vol ∈ volumes.get name, vol.status = .ready → ¬ Marked vol

/-- A volume made from a copy without marking it. -/
def AddsNoMark (volumes : Resource VolumeInfo State) (vol : ZFSVolume) : Prop :=
  ∃ base, volumes.Known base ∧ Rewrites base vol ∧ (Marked vol → Marked base)

/-- The call marks no volume of the name. -/
structure MarksNothing (volumes : Resource VolumeInfo State) (caller : Option (Tid × Op))
    (name : String) : Prop where
  created : ∀ thread vol, caller = some (thread, .createVolume vol) → vol.name = name →
    ¬ Marked vol
  updated : ∀ id vol, caller = some (.request id, .updateVolume vol) → vol.name = name →
    AddsNoMark volumes vol

section Changes

variable {Allowed : ZFSVolume → ZFSVolume → Prop} {volumes next : Resource VolumeInfo State}
  {caller : Option (Tid × Op)} {name : String} {vol base : ZFSVolume}

theorem not_marked_of_bare (bare : vol.annotations = []) : ¬ Marked vol := by
  simp [Marked, bare, Go.StringMap.get]

/-- A write that adds no mark was made from the stored volume. -/
theorem AddsNoMark.stored (adds : AddsNoMark volumes vol) (rewrites : Rewrites base vol)
    (stored : volumes.get base.name = some base) (marked : Marked vol) : Marked base := by
  obtain ⟨copy, known, copied, kept⟩ := adds
  have sameName : base.name = copy.name := rewrites.name.symm.trans copied.name
  have sameVersion : base.resourceVersion = copy.resourceVersion :=
    rewrites.version.symm.trans copied.version
  rw [sameName] at stored
  rw [known.current base stored sameVersion]
  exact kept marked

/-- Where the mark of a volume comes from. -/
theorem marked_origin (change : VolumeChange Allowed volumes caller next)
    (nothing : MarksNothing volumes caller name) (found : next.get name = some vol)
    (marked : Marked vol) :
    ∃ old, volumes.get name = some old ∧ Marked old ∧
      (old.deletionTimestamp = true → vol.deletionTimestamp = true) ∧
      (vol.status = .ready → old.status = .ready ∨ old.deletionTimestamp = false) := by
  cases change.origin found with
  | kept stored shows => exact ⟨vol, stored, marked, fun deleted => deleted, .inl⟩
  | created creator new isClient fresh absent objectEq =>
      obtain ⟨thread, op⟩ := creator
      obtain rfl : op = .createVolume new := fresh.2
      have nameEq := Resource.name_of_get found
      subst objectEq
      exact absurd marked (nothing.created thread new isClient nameEq)
  | written writer base new isClient write stored rewrites held objectEq shows =>
      obtain ⟨writer, op⟩ := writer
      obtain rfl : op = .updateVolume new := write.2
      have nameEq := Resource.name_of_get found
      subst objectEq
      have before : Marked base := by
        rcases VolumeWrite.marks write.1 marked with before | ⟨id, rfl⟩
        · exact before
        · have stored : volumes.get base.name = some base := by
            rw [Resource.name_of_get stored]
            exact stored
          exact (nothing.updated id new isClient nameEq).stored rewrites stored marked
      refine ⟨base, stored, before, ?_, ?_⟩
      · exact fun deleted => rewrites.deletion.trans deleted
      · intro ready
        cases write.1 with
        | provision id base vol _ pending => cases pending.symm.trans ready
        | mark | resize | release => exact .inl ready
        | settle node name base status _ live missing => exact .inr live
  | deleted deleter old isClient deletes stored live objectEq =>
      subst objectEq
      exact ⟨old, stored, marked, fun _ => rfl, .inl⟩
  | collected old stored deleted objectEq =>
      subst objectEq
      exact ⟨old, stored, marked, fun deleted => deleted, .inl⟩

theorem markedAt_of_change (change : VolumeChange Allowed volumes caller next)
    (nothing : MarksNothing volumes caller name) (marked : MarkedAt next name) :
    MarkedAt volumes name := by
  obtain ⟨vol, found, marked⟩ := marked
  obtain ⟨old, stored, marked, _⟩ := marked_origin change nothing found marked
  exact ⟨old, stored, marked⟩

theorem markSpent_of_change (change : VolumeChange Allowed volumes caller next)
    (nothing : MarksNothing volumes caller name) (spent : MarkSpent volumes name) :
    MarkSpent next name := by
  intro vol found marked
  obtain ⟨old, stored, marked, deleted, _⟩ := marked_origin change nothing found marked
  exact deleted (spent old stored marked)

/-- An agent makes only a volume Ready that is not deleted. -/
theorem readyUnmarked_of_change (change : VolumeChange Allowed volumes caller next)
    (nothing : MarksNothing volumes caller name) (spent : MarkSpent volumes name)
    (unmarked : ReadyUnmarked volumes name) : ReadyUnmarked next name := by
  intro vol found ready marked
  obtain ⟨old, stored, marked, _, origin⟩ := marked_origin change nothing found marked
  rcases origin ready with ready | live
  · exact unmarked old stored ready marked
  · cases live.symm.trans (spent old stored marked)

end Changes

/-! ## The contract -/

/-- Requests are handled one after another, and every mark goes back to a `DeleteVolume`
that is the last acknowledged request for its volume or is being handled. -/
structure Mindful (shared : Shared) : Prop where
  alone : ∀ {id other req otherReq}, shared.inFlight id = some req →
    shared.inFlight other = some otherReq → id = other
  wanted : ∀ name, MarkedAt shared.volumes name →
    lastIntent shared.answered name = some .reclaim ∨ ∃ id, Deleting id name shared

/-- What others do to the volumes while a request is being handled. -/
structure Tended (volumes next : Resource VolumeInfo State) : Prop where
  marked : ∀ name, MarkedAt next name → MarkedAt volumes name
  spent : ∀ name, MarkSpent volumes name → MarkSpent next name
  unmarked : ∀ name, MarkSpent volumes name → ReadyUnmarked volumes name → ReadyUnmarked next name

/-- What a request can count on while others move. -/
structure Undisturbed (id : Nat) (shared after : Shared) : Prop where
  serving : after.inFlight id = shared.inFlight id
  known : ∀ vol, shared.volumes.Known vol → after.volumes.Known vol
  tended : shared.inFlight id ≠ none →
    after.answered = shared.answered ∧ Tended shared.volumes after.volumes

theorem Tended.refl (volumes : Resource VolumeInfo State) : Tended volumes volumes where
  marked := fun _ marked => marked
  spent := fun _ spent => spent
  unmarked := fun _ _ unmarked => unmarked

theorem Undisturbed.refl (id : Nat) (shared : Shared) : Undisturbed id shared shared where
  serving := rfl
  known := fun _ known => known
  tended := fun _ => ⟨rfl, .refl _⟩

theorem Undisturbed.trans {id : Nat} {first second third : Shared}
    (one : Undisturbed id first second) (two : Undisturbed id second third) :
    Undisturbed id first third where
  serving := two.serving.trans one.serving
  known := fun vol known => two.known vol (one.known vol known)
  tended := by
    intro inFlight
    obtain ⟨answeredOne, tendedOne⟩ := one.tended inFlight
    obtain ⟨answeredTwo, tendedTwo⟩ := two.tended (by rwa [one.serving])
    refine ⟨answeredTwo.trans answeredOne, ?_, ?_, ?_⟩
    · exact fun name marked => tendedOne.marked name (tendedTwo.marked name marked)
    · exact fun name spent => tendedTwo.spent name (tendedOne.spent name spent)
    · exact fun name spent unmarked => tendedTwo.unmarked name (tendedOne.spent name spent)
        (tendedOne.unmarked name spent unmarked)

/-- The delete of a volume is asked for by the last acknowledged request or by the one
being handled, or it is the clean-up of a `CreateVolume`. -/
def OnDemand (id : Nat) (name : String) (shared : Shared) : Prop :=
  lastIntent shared.answered name = some .reclaim ∨ Deleting id name shared ∨
    ∃ polls req, shared.inFlight id = some (.createVolume polls req)

/-- What a request owes at a call: it marks volumes only in `DeleteVolume` and deletes
them only on demand. -/
def MindfulCall (thread : Tid) (op : Op) (shared : Shared) : Prop :=
  match thread, op with
  | .request _, .createVolume vol => ¬ Marked vol
  | .request id, .updateVolume vol => Deleting id vol.name shared ∨ AddsNoMark shared.volumes vol
  | .request id, .deleteVolume name => OnDemand id name shared
  | _, _ => True

/-- The answer to the update by which `DeleteVolume` marks its volume is not lost. -/
def MarkAnswered (thread : Tid) (op : Op) (choice : Choice) (shared : Shared) : Prop :=
  match thread with
  | .request id => ∀ req ∈ shared.inFlight id, req.isDeleteVolume = true →
      ∀ _ ∈ op.updatedVolume, choice.outcome ≠ .lost
  | _ => True

/-- What is recorded when a request is answered is in keeping with the marks. -/
def InKeeping (id : Nat) (answer : Answer) (shared : Shared) : Prop :=
  ∃ req, shared.inFlight id = some req ∧ ∀ name, MarkedAt shared.volumes name →
    lastIntent (shared.answered ++ [(req, answer)]) name = some .reclaim

/-- Reclaiming volumes as a contract. -/
def reclaiming (compile : Compile) : Contract (cluster compile) where
  Inv := Mindful
  Rely := fun thread shared after => ∀ id, thread = .request id → Undisturbed id shared after
  Guard := fun thread op choice shared => Disciplined (fun _ _ => True) thread op shared ∧
    MarkAnswered thread op choice shared
  Ok := MindfulCall
  Post := fun thread answer shared => ∀ id, thread = .request id → InKeeping id answer shared
  rely_refl := fun _ shared id _ => .refl id shared
  rely_trans := fun first second id isRequest => (first id isRequest).trans (second id isRequest)

section Sound

variable {compile : Compile} {thread : Tid} {op : Op} {shared after : Shared} {id : Nat}
  {name : String}

theorem marksNothing_none (volumes : Resource VolumeInfo State) (name : String) :
    MarksNothing volumes none name where
  created := fun _ _ isCaller => nomatch isCaller
  updated := fun _ _ isCaller => nomatch isCaller

/-- A call marks nothing unless it is the one of a `DeleteVolume` on its volume. -/
theorem marksNothing_of_call (owed : MindfulCall thread op shared)
    (disciplined : Disciplined (fun _ _ => True) thread op shared) (name : String) :
    MarksNothing shared.volumes (some (thread, op)) name ∨
      ∃ id, thread = .request id ∧ Deleting id name shared := by
  by_cases marking : ∃ id vol, thread = .request id ∧ op = .updateVolume vol ∧ vol.name = name ∧
      Deleting id vol.name shared
  · obtain ⟨id, vol, isRequest, _, rfl, deleting⟩ := marking
    exact .inr ⟨id, isRequest, deleting⟩
  · left
    constructor
    · rintro creator vol isCaller _
      cases isCaller
      obtain ⟨id, rfl⟩ := disciplined.request
      exact owed
    · rintro id vol isCaller nameEq
      cases isCaller
      exact owed.resolve_left fun deleting => marking ⟨id, vol, rfl, rfl, nameEq, deleting⟩

theorem tended_of_change {Allowed : ZFSVolume → ZFSVolume → Prop} {caller : Option (Tid × Op)}
    {volumes next : Resource VolumeInfo State}
    (change : VolumeChange Allowed volumes caller next)
    (nothing : ∀ name, MarksNothing volumes caller name) : Tended volumes next where
  marked := fun name => markedAt_of_change change (nothing name)
  spent := fun name => markSpent_of_change change (nothing name)
  unmarked := fun name => readyUnmarked_of_change change (nothing name)

theorem undisturbed_of_effect (mindful : Mindful shared) (effect : Effect thread shared op after)
    (owed : MindfulCall thread op shared)
    (disciplined : Disciplined (fun _ _ => True) thread op shared)
    (other : Tid.request id ≠ thread) : Undisturbed id shared after where
  serving := by rw [effect.inFlight]
  known := effect.advances.volumes.known
  tended := by
    intro inFlight
    obtain ⟨req, serving⟩ := Option.ne_none_iff_exists'.mp inFlight
    refine ⟨effect.answered, tended_of_change (effect.volumeChange disciplined) fun name => ?_⟩
    rcases marksNothing_of_call owed disciplined name with nothing | ⟨marker, rfl, deleting⟩
    · exact nothing
    · obtain ⟨otherReq, otherServing, _⟩ := deleting
      exact absurd (congrArg Tid.request (mindful.alone serving otherServing)) other

theorem undisturbed_of_drift (drift : Drift shared after)
    (known : ∀ vol, shared.volumes.Known vol → after.volumes.Known vol)
    (serving : after.inFlight id = shared.inFlight id)
    (answered : shared.inFlight id ≠ none → after.answered = shared.answered) :
    Undisturbed id shared after where
  serving := serving
  known := known
  tended := fun inFlight => ⟨answered inFlight,
    tended_of_change (drift.volumes fun _ _ => True) (marksNothing_none _)⟩

theorem Mindful.effect (mindful : Mindful shared) (effect : Effect thread shared op after)
    (owed : MindfulCall thread op shared)
    (disciplined : Disciplined (fun _ _ => True) thread op shared) : Mindful after where
  alone := by
    rw [effect.inFlight]
    exact mindful.alone
  wanted := by
    intro name marked
    unfold Deleting
    rw [effect.inFlight, effect.answered]
    rcases marksNothing_of_call owed disciplined name with nothing | ⟨id, _, deleting⟩
    · exact mindful.wanted name
        (markedAt_of_change (effect.volumeChange disciplined) nothing marked)
    · exact .inr ⟨id, deleting⟩

/-- A step that is no call and answers no request. -/
theorem Mindful.drift (mindful : Mindful shared) (drift : Drift shared after)
    (inFlight : after.inFlight = shared.inFlight) (answered : after.answered = shared.answered) :
    Mindful after where
  alone := by
    rw [inFlight]
    exact mindful.alone
  wanted := by
    intro name marked
    unfold Deleting
    rw [inFlight, answered]
    exact mindful.wanted name (markedAt_of_change (drift.volumes fun _ _ => True)
      (marksNothing_none _ _) marked)

/-- Nothing is in flight when a request arrives. -/
def Alone : Action Tid Choice Move Arrival → Config sig Shared Tid Answer → Prop :=
  ArrivesTo fun _ shared => ∀ other, shared.inFlight other = none

theorem Mindful.settled (mindful : Mindful shared) (quiet : ∀ other, shared.inFlight other = none)
    (name : String) (marked : MarkedAt shared.volumes name) :
    lastIntent shared.answered name = some .reclaim := by
  rcases mindful.wanted name marked with wanted | ⟨id, req, serving, _⟩
  · exact wanted
  · rw [quiet id] at serving
    contradiction

theorem Mindful.arrive (mindful : Mindful shared) {arrival : Arrival} {program : Routine Answer}
    (effect : ArriveEffect compile shared arrival thread program after)
    (quiet : ∀ id req, arrival = .request id req → ∀ other, shared.inFlight other = none) :
    Mindful after := by
  have drift := effect.drift
  cases effect with
  | request id req unused =>
      have quiet := quiet id req rfl
      have served {other : Nat} {otherReq : Request}
          (serving : Function.update shared.inFlight id (some req) other = some otherReq) :
          other = id := by
        by_contra differs
        rw [Function.update_of_ne differs, quiet other] at serving
        contradiction
      constructor
      · intro one other _ _ serving otherServing
        rw [served serving, served otherServing]
      · exact fun name marked => .inl (mindful.settled quiet name marked)
  | syncVolume | syncSnapshot | syncBackup => exact mindful.drift drift rfl rfl

theorem Mindful.leave (mindful : Mindful shared) {answer : Answer}
    (effect : LeaveEffect shared thread answer after)
    (inKeeping : ∀ id, thread = .request id → InKeeping id answer shared) : Mindful after := by
  have drift := effect.drift
  have served {other : Nat} {otherReq : Request} (serving : after.inFlight other = some otherReq) :
      shared.inFlight other = some otherReq := effect.served serving
  cases effect with
  | request id req answer serving =>
      obtain ⟨found, serving', marks⟩ := inKeeping id rfl
      cases serving.symm.trans serving'
      constructor
      · exact fun serving otherServing => mindful.alone (served serving) (served otherServing)
      · exact fun name marked => .inl (marks name marked)
  | same | volumes | snapshots | backups => exact mindful.drift drift rfl rfl

theorem undisturbed_of_leave (mindful : Mindful shared) {answer : Answer}
    (effect : LeaveEffect shared thread answer after) (other : Tid.request id ≠ thread) :
    Undisturbed id shared after := by
  apply undisturbed_of_drift effect.drift effect.advances.volumes.known (effect.inFlight other)
  intro inFlight
  obtain ⟨req, serving⟩ := Option.ne_none_iff_exists'.mp inFlight
  rcases effect.answered with same | ⟨leaving, otherReq, rfl, otherServing, _⟩
  · exact same
  · exact absurd (congrArg Tid.request (mindful.alone serving otherServing)) other

end Sound

/-! ## Programs -/

section Programs

variable {compile : Compile} {id : Nat} {req : Request} {shared after : Shared} {op : Op}
  {α : Type} {Fact : Shared → Prop}

theorem Op.Reads.mindfulCall {thread : Tid} (reads : op.Reads) : MindfulCall thread op shared := by
  unfold Op.Reads at reads
  split at reads <;> first | exact reads.elim | (cases thread <;> trivial)

/-- The calls that write no volume, deletions apart. -/
def Op.MarksNone : Op → Prop
  | .createVolume _ | .updateVolume _ => False
  | _ => True

theorem marksNothing_of_marksNone {thread : Tid} (none : Op.MarksNone op)
    (volumes : Resource VolumeInfo State) (name : String) :
    MarksNothing volumes (some (thread, op)) name := by
  constructor
  · rintro creator vol isCaller _
    cases isCaller
    exact none.elim
  · rintro writer vol isCaller _
    cases isCaller
    exact none.elim

/-- The request is being served and all marks are those of acknowledged deletes. -/
structure Remembered (id : Nat) (req : Request) (shared : Shared) : Prop where
  serving : shared.inFlight id = some req
  marks : ∀ name, MarkedAt shared.volumes name →
    lastIntent shared.answered name = some .reclaim

theorem lasts_remembered : Lasts (reclaiming compile) (.request id) (Remembered id req) := by
  intro before now moved remembered
  have undisturbed := moved id rfl
  obtain ⟨answered, tended⟩ := undisturbed.tended (by simp [remembered.serving])
  constructor
  · exact undisturbed.serving.trans remembered.serving
  · intro name marked
    rw [answered]
    exact remembered.marks name (tended.marked name marked)

theorem Remembered.effect (remembered : Remembered id req shared)
    (effect : Effect (.request id) shared op after)
    (disciplined : Disciplined (fun _ _ => True) (.request id) op shared)
    (nothing : ∀ name, MarksNothing shared.volumes (some (.request id, op)) name) :
    Remembered id req after where
  serving := by
    rw [effect.inFlight]
    exact remembered.serving
  marks := by
    intro name marked
    rw [effect.answered]
    exact remembered.marks name
      (markedAt_of_change (effect.volumeChange disciplined) (nothing name) marked)

theorem ignoresLock_remembered : IgnoresLock (Remembered id req) :=
  fun _ _ _ remembered => ⟨remembered.serving, remembered.marks⟩

/-- A call that marks nothing. -/
theorem Remembered.exec {choice : Choice} {answer : op.Res}
    (remembered : Remembered id req shared)
    (executed : exec (.request id) op choice shared = some (answer, after))
    (disciplined : Disciplined (fun _ _ => True) (.request id) op shared)
    (none : Op.MarksNone op) : Remembered id req after :=
  remembered.effect (exec_effect executed) disciplined (marksNothing_of_marksNone none _)

/-! ### CreateVolume -/

/-- A plain `CreateVolume` is being served, and the volume of its name, if marked, is on
its way out. -/
structure Creating (id polls : Nat) (request : CreateVolumeRequest) (shared : Shared) : Prop where
  remembered : Remembered id (.createVolume polls request) shared
  spent : MarkSpent shared.volumes (Go.toLower request.name)

variable {polls : Nat} {request : CreateVolumeRequest}

theorem lasts_creating :
    Lasts (reclaiming compile) (.request id) (Creating id polls request) := by
  intro before now moved creating
  obtain ⟨_, tended⟩ := (moved id rfl).tended (by simp [creating.remembered.serving])
  constructor
  · exact lasts_remembered before now moved creating.remembered
  · exact tended.spent _ creating.spent

theorem Creating.effect (creating : Creating id polls request shared)
    (effect : Effect (.request id) shared op after)
    (disciplined : Disciplined (fun _ _ => True) (.request id) op shared)
    (nothing : ∀ name, MarksNothing shared.volumes (some (.request id, op)) name) :
    Creating id polls request after where
  remembered := creating.remembered.effect effect disciplined nothing
  spent := markSpent_of_change (effect.volumeChange disciplined) (nothing _) creating.spent

/-- What an accepted write has stored is not Ready yet. -/
theorem readyUnmarked_of_pending {volumes : Resource VolumeInfo State} {name : String}
    (pending : ∀ vol, volumes.get name = some vol → vol.status = .pending) :
    ReadyUnmarked volumes name := by
  intro vol stored ready
  cases (pending vol stored).symm.trans ready

/-- The stages of a `CreateVolume` that is acknowledged for an unmarked volume. -/
def reclaimStages (id polls : Nat) (request : CreateVolumeRequest) : Stages where
  before := Creating id polls request
  writing := Creating id polls request
  waiting := fun shared => Creating id polls request shared ∧
    ReadyUnmarked shared.volumes (Go.toLower request.name)
  made := fun shared => Remembered id (.createVolume polls request) shared ∧
    ¬ MarkedAt shared.volumes (Go.toLower request.name)
  cleaned := Creating id polls request

theorem lasts_waiting :
    Lasts (reclaiming compile) (.request id) (reclaimStages id polls request).waiting := by
  rintro before now moved ⟨creating, unmarked⟩
  obtain ⟨_, tended⟩ := (moved id rfl).tended (by simp [creating.remembered.serving])
  exact ⟨lasts_creating before now moved creating, tended.unmarked _ creating.spent unmarked⟩

theorem lasts_made :
    Lasts (reclaiming compile) (.request id) (reclaimStages id polls request).made := by
  rintro before now moved ⟨remembered, unmarked⟩
  obtain ⟨_, tended⟩ := (moved id rfl).tended (by simp [remembered.serving])
  exact ⟨lasts_remembered before now moved remembered, mt (tended.marked _) unmarked⟩

/-- The volumes a plain request writes: Pending and without annotations. -/
structure PlainVolume (name : String) (vol : ZFSVolume) : Prop where
  named : vol.name = name
  pending : vol.status = .pending
  bare : vol.annotations = []

/-- A write of the request keeps the stage, and an accepted one leaves a Pending volume. -/
theorem Creating.written {op : Op} {after later : Shared} {answer : Except Err Unit}
    (creating : Creating id polls request shared) (effect : Effect (.request id) shared op after)
    (disciplined : Disciplined (fun _ _ => True) (.request id) op shared)
    (moved : (reclaiming compile).Rely (.request id) after later)
    (nothing : ∀ name, MarksNothing shared.volumes (some (.request id, op)) name)
    (pending : answer = .ok () → ∀ stored, after.volumes.get (Go.toLower request.name) =
      some stored → stored.status = .pending) :
    Creating id polls request later ∧
      (answer = .ok () → (reclaimStages id polls request).waiting later) := by
  have creating := creating.effect effect disciplined nothing
  constructor
  · exact lasts_creating after later moved creating
  · intro accepted
    exact lasts_waiting after later moved ⟨creating, readyUnmarked_of_pending (pending accepted)⟩

/-- `ProvisionVolume` updates the volume it has read or creates a new one. -/
theorem reclaims_updateOrCreate {vol : ZFSVolume} {found : Except Err ZFSVolume}
    (plain : PlainVolume (Go.toLower request.name) vol)
    (stored : ∀ zv, found = .ok zv → shared.volumes.get (Go.toLower request.name) = some zv)
    (creating : Creating id polls request shared) :
    (reclaiming compile).Keeps (.request id) (updateOrCreate vol found)
      (fun answer now => Creating id polls request now ∧
        (answer = .ok () → (reclaimStages id polls request).waiting now)) shared := by
  cases found with
  | ok zv =>
      intro now moved _
      have creating := lasts_creating shared now moved creating
      have known : now.volumes.Known zv :=
        (moved id rfl).known zv (Resource.known_of_get (stored zv rfl))
      have adds : AddsNoMark now.volumes { zv with spec := vol.spec, status := vol.status } :=
        ⟨zv, known, ⟨rfl, rfl, rfl⟩, fun marked => marked⟩
      constructor
      · exact .inr adds
      · intro choice answer after guard executed later moved _
        have effect : Effect (.request id) now
            (.updateVolume { zv with spec := vol.spec, status := vol.status }) after :=
          exec_effect executed
        apply creating.written effect guard.1 moved
        · intro name
          constructor
          · intro creator new isCaller
            cases isCaller
          · intro writer new isCaller _
            cases isCaller
            exact adds
        · rintro rfl found inStore
          obtain ⟨next, accepted, rfl⟩ :=
            @exec_updateVolume_ok (.request id) choice now after _ executed
          have nameEq : zv.name = Go.toLower request.name :=
            Resource.name_of_get (stored zv rfl)
          rw [← nameEq] at inStore
          rw [Resource.stored_of_update accepted inStore]
          exact plain.pending
  | error err =>
      intro now moved _
      have creating := lasts_creating shared now moved creating
      constructor
      · exact not_marked_of_bare plain.bare
      · intro choice answer after guard executed later moved _
        have effect : Effect (.request id) now (.createVolume vol) after := exec_effect executed
        apply creating.written effect guard.1 moved
        · intro name
          constructor
          · intro creator new isCaller _
            cases isCaller
            exact not_marked_of_bare plain.bare
          · intro writer new isCaller
            cases isCaller
        · rintro rfl found inStore
          obtain ⟨next, accepted, rfl⟩ :=
            @exec_createVolume_ok (.request id) choice now after _ executed
          rw [← plain.named] at inStore
          rw [Resource.stored_of_create accepted inStore]
          exact plain.pending

theorem plainVolume_of_placedFor {params : VolumeParams} {vol : ZFSVolume}
    (placed : PlacedFor request params vol) : PlainVolume params.volName vol where
  named := placed.name
  pending := placed.provisional.pending
  bare := by
    obtain ⟨volObj, nodeid, pool, built, placed⟩ := placed
    obtain rfl := Builder.build_eq_ok placed
    obtain rfl := Builder.build_eq_ok built
    simp [VolBuilder.withQuotaType, VolBuilder.withPVName, VolBuilder.withPVCName,
      VolBuilder.withPVCNamespace, VolBuilder.withReservedUserProp, VolBuilder.withName,
      VolBuilder.withOwnerNodeID, Builder.buildFrom, Builder.newBuilder]

theorem reclaimStages_kept : (reclaimStages id polls request).Kept (reclaiming compile)
    (.request id) (Go.toLower request.name) (PlainVolume (Go.toLower request.name)) where
  named := fun plain => plain.named
  before_lasts := lasts_creating
  writing_lasts := lasts_creating
  waiting_lasts := lasts_waiting
  made_lasts := lasts_made
  cleaned_lasts := lasts_creating
  reads := Op.Reads.mindfulCall
  begins := fun creating => creating
  waits := fun waiting => waiting.1
  writes := fun plain stored creating => reclaims_updateOrCreate plain stored creating
  existing := by
    rintro vol now creating stored live ready
    refine ⟨creating.remembered, ?_⟩
    rintro ⟨found, same, marked⟩
    cases stored.symm.trans same
    exact live (creating.spent vol stored marked)
  polled := by
    rintro vol now ⟨creating, unmarked⟩ stored ready
    refine ⟨creating.remembered, ?_⟩
    rintro ⟨found, same, marked⟩
    cases stored.symm.trans same
    exact unmarked vol stored ready marked
  cleans := by
    intro now creating
    unfold Zfs.deleteVolume
    split
    · exact keeps_lasting_return _ lasts_creating creating
    · intro later moved _
      have creating := lasts_creating now later moved creating
      constructor
      · exact .inr (.inr ⟨polls, request, creating.remembered.serving⟩)
      · intro choice answer after guard executed last moved _
        apply lasts_creating after last moved
        have effect : Effect (.request id) later (.deleteVolume (Go.toLower request.name)) after :=
          exec_effect executed
        have none : Op.MarksNone (.deleteVolume (Go.toLower request.name)) := trivial
        exact creating.effect effect guard.1 (marksNothing_of_marksNone none _)

/-- A `CreateVolume` that succeeds answers for an unmarked volume. -/
structure Vouches {ε α : Type} (id polls : Nat) (request : CreateVolumeRequest)
    (result : Except ε α) (shared : Shared) : Prop where
  remembered : Remembered id (.createVolume polls request) shared
  unmarked : ∀ value, result = .ok value → ¬ MarkedAt shared.volumes (Go.toLower request.name)

theorem lasts_vouches {ε : Type} (result : Except ε α) :
    Lasts (reclaiming compile) (.request id) (Vouches id polls request result) := by
  intro before now moved vouches
  obtain ⟨_, tended⟩ := (moved id rfl).tended (by simp [vouches.remembered.serving])
  constructor
  · exact lasts_remembered before now moved vouches.remembered
  · exact fun value isOk => mt (tended.marked _) (vouches.unmarked value isOk)

theorem reclaims_createVolume (plain : request.contentSource = none)
    (creating : Creating id polls request shared) :
    (reclaiming compile).Keeps (.request id) (Driver.createVolume compile polls request)
      (Vouches id polls request) shared := by
  unfold Driver.createVolume
  split
  · intro now moved _
    exact ⟨lasts_remembered shared now moved creating.remembered, fun _ isOk => nomatch isOk⟩
  · apply Contract.Keeps.bind
    apply Contract.Keeps.mono
    · apply keeps_free_lockVolume ⟨trivial, trivial⟩ lasts_creating _ lasts_vouches _ creating
      · intro now creating
        unfold createByKind
        rw [plain]
        apply (keeps_createZFSVolume polls reclaimStages_kept plainVolume_of_placedFor
          creating).mono
        intro result later _ ended
        cases result with
        | ok vol => exact ⟨ended.1, fun _ _ => ended.2⟩
        | error err => exact ⟨(or_self_iff.mp ended).remembered, fun _ isOk => nomatch isOk⟩
      · exact fun _ _ _ creating =>
          ⟨ignoresLock_remembered _ _ _ creating.remembered, creating.spent⟩
      · exact fun _ _ _ _ vouches =>
          ⟨ignoresLock_remembered _ _ _ vouches.remembered, vouches.unmarked⟩
    · intro created later _ vouches
      cases created with
      | ok vol =>
          exact fun last moved _ => lasts_vouches (.ok (createVolumeResponse request vol)) later
            last moved ⟨vouches.remembered, fun _ _ => vouches.unmarked vol rfl⟩
      | error err =>
          exact fun last moved _ =>
            ⟨lasts_remembered later last moved vouches.remembered, fun _ isOk => nomatch isOk⟩

/-! ### DeleteVolume -/

/-- A `DeleteVolume` that has marked its volume succeeds. -/
structure Settles {ε α : Type} (id : Nat) (request : DeleteVolumeRequest) (result : Except ε α)
    (shared : Shared) : Prop where
  serving : shared.inFlight id = some (.deleteVolume request)
  marks : ∀ name, MarkedAt shared.volumes name →
    lastIntent shared.answered name = some .reclaim ∨
      Go.toLower request.volumeId = name ∧ ∃ value, result = .ok value

variable {deletion : DeleteVolumeRequest}

theorem Remembered.settles {ε : Type} (remembered : Remembered id (.deleteVolume deletion) shared)
    (result : Except ε α) : Settles id deletion result shared where
  serving := remembered.serving
  marks := fun name marked => .inl (remembered.marks name marked)

theorem lasts_settles {ε : Type} (result : Except ε α) :
    Lasts (reclaiming compile) (.request id) (Settles id deletion result) := by
  intro before now moved settles
  have undisturbed := moved id rfl
  obtain ⟨answered, tended⟩ := undisturbed.tended (by simp [settles.serving])
  constructor
  · exact undisturbed.serving.trans settles.serving
  · intro name marked
    rw [answered]
    exact settles.marks name (tended.marked name marked)

theorem settles_return {ε : Type} (result : Except ε α)
    (remembered : Remembered id (.deleteVolume deletion) shared) :
    (reclaiming compile).Keeps (.request id) (pure result : Routine (Except ε α))
      (Settles id deletion) shared :=
  fun now moved _ => (lasts_remembered shared now moved remembered).settles result

/-- Only the mark of the request's own volume is new, and its update has succeeded. -/
theorem settles_markForDeletion (remembered : Remembered id (.deleteVolume deletion) shared) :
    (reclaiming compile).Keeps (.request id) (markForDeletion (Go.toLower deletion.volumeId))
      (Settles id deletion) shared := by
  apply keeps_getZFSVolume_bind
  · intro now _ _
    trivial
  · intro err now moved _ _
    exact settles_return _ (lasts_remembered shared now moved remembered)
  · intro vol choice now moved _ _ stored
    have named : vol.name = Go.toLower deletion.volumeId := Resource.name_of_get stored
    have remembered := lasts_remembered shared now moved remembered
    dsimp only
    rw [updateZFSVolumeAnnotation_eq]
    intro later moved _
    have remembered := lasts_remembered now later moved remembered
    constructor
    · exact .inl ⟨deletion, remembered.serving, named.symm⟩
    · intro choice answer after guard executed last moved _
      apply lasts_settles answer after last moved
      have effect : Effect (.request id) later (.updateVolume (markedVolume vol)) after :=
        exec_effect executed
      rcases writeAnswer_effective (Option.some.inj executed) with
        ⟨_, rfl, _⟩ | ⟨reason, _, rfl, _⟩ | ⟨next, accepted, _, told⟩
      · exact remembered.settles answer
      · exact remembered.settles answer
      · have succeeded : answer = .ok () := by
          apply told.resolve_right
          exact guard.2 _ remembered.serving rfl _ rfl
        constructor
        · rw [effect.inFlight]
          exact remembered.serving
        · intro name marked
          by_cases own : Go.toLower deletion.volumeId = name
          · exact .inr ⟨own, (), succeeded⟩
          · left
            rw [effect.answered]
            apply remembered.marks name
            apply markedAt_of_change (effect.volumeChange guard.1) _ marked
            constructor
            · intro creator new isCaller
              cases isCaller
            · intro writer new isCaller nameEq
              cases isCaller
              exact absurd (named.symm.trans nameEq) own

theorem reclaims_zfsDeleteVolume {name : String} (remembered : Remembered id req shared)
    (owed : ∀ now, Undisturbed id shared now → Remembered id req now → OnDemand id name now) :
    (reclaiming compile).Keeps (.request id) (Zfs.deleteVolume name)
      (fun _ => Remembered id req) shared := by
  unfold Zfs.deleteVolume
  split
  · exact keeps_lasting_return _ lasts_remembered remembered
  · intro now moved _
    have remembered := lasts_remembered shared now moved remembered
    constructor
    · exact owed now (moved id rfl) remembered
    · intro choice answer after guard executed later moved _
      have executed : exec (.request id) (.deleteVolume name) choice now = some (answer, after) :=
        executed
      exact lasts_remembered after later moved (remembered.exec executed guard.1 trivial)

theorem promise_settles : Promise (reclaiming compile) (.request id)
    (Settles id deletion : Except Err Unit → Shared → Prop) where
  lasts := lasts_settles
  anyText := by
    intro err other now settles
    refine ⟨settles.serving, fun name marked => ?_⟩
    rcases settles.marks name marked with wanted | ⟨_, _, isOk⟩
    · exact .inl wanted
    · contradiction

theorem settles_deleteVolumeLocked (remembered : Remembered id (.deleteVolume deletion) shared) :
    (reclaiming compile).Keeps (.request id)
      (deleteVolumeLocked deletion (Go.toLower deletion.volumeId)) (Settles id deletion)
      shared := by
  apply promise_settles.deleteVolumeLocked Op.Reads.mindfulCall lasts_remembered
    (fun remembered => remembered.settles _) (fun remembered _ => remembered.settles _) _ _
    remembered
  · intro now remembered _
    apply Contract.Keeps.mono
    · apply reclaims_zfsDeleteVolume remembered
      exact fun now _ remembered => .inr (.inl ⟨deletion, remembered.serving, rfl⟩)
    · exact fun answer later _ remembered => remembered.settles answer
  · exact fun remembered _ _ => settles_markForDeletion remembered

/-! ### Snapshots -/

/-- A marked volume has been asked to be deleted. -/
theorem reclaims_isVolumeEligibleForDeletion (volume : String)
    (remembered : Remembered id req shared) :
    (reclaiming compile).Keeps (.request id) (isVolumeEligibleForDeletion volume)
      (fun result now => Remembered id req now ∧
        (result = .ok true → lastIntent now.answered volume = some .reclaim)) shared := by
  apply keeps_getZFSVolume_bind
  · intro now _ _
    trivial
  · intro err now moved _ _ later moved' _
    have remembered := lasts_remembered shared now moved remembered
    exact ⟨lasts_remembered now later moved' remembered, fun isOk => nomatch isOk⟩
  · intro vol choice now moved _ _ stored later moved' _
    have remembered := lasts_remembered shared now moved remembered
    refine ⟨lasts_remembered now later moved' remembered, fun eligible => ?_⟩
    obtain ⟨answered, _⟩ := (moved' id rfl).tended (by simp [remembered.serving])
    rw [answered]
    apply remembered.marks
    exact ⟨vol, stored, of_decide_eq_true (Except.ok.inj eligible)⟩

theorem reclaims_deleteFollowing (volume : String) (snapList : List ZFSSnapshot)
    (remembered : Remembered id req shared) :
    (reclaiming compile).Keeps (.request id) (deleteFollowing volume snapList)
      (fun _ => Remembered id req) shared := by
  apply (promise_of_lasts lasts_remembered).deleteFollowing
    (reclaims_isVolumeEligibleForDeletion volume remembered)
  · exact fun looked => looked.1
  · exact fun looked _ => looked.1
  · rintro now ⟨remembered, wanted⟩ _
    apply reclaims_zfsDeleteVolume remembered
    intro later undisturbed _
    -- nobody is answered while the request is being handled
    obtain ⟨answered, _⟩ := undisturbed.tended (by simp [remembered.serving])
    left
    rw [answered]
    exact wanted rfl

theorem reclaims_deleteSnapshotLocked {deletion : DeleteSnapshotRequest} {volume snapName : String}
    (remembered : Remembered id req shared) :
    (reclaiming compile).Keeps (.request id) (deleteSnapshotLocked deletion volume snapName)
      (fun _ => Remembered id req) shared := by
  apply (promise_of_lasts lasts_remembered).deleteSnapshotLocked Op.Reads.mindfulCall
    lasts_remembered (Remembered id req) (fun _ => Remembered id req) lasts_remembered
    (fun _ => lasts_remembered) (fun remembered => remembered) (fun remembered => remembered)
    (fun remembered => remembered) (fun remembered _ => remembered)
    (fun remembered _ => remembered) _ remembered
  intro snapList now remembered
  constructor
  · trivial
  · intro choice answer after guard executed
    have remembered := remembered.exec executed guard.1 trivial
    cases answer with
    | error err => exact remembered
    | ok done => exact reclaims_deleteFollowing volume snapList remembered

theorem reclaims_createSnapshotLocked (rounds : Nat) (time : Int)
    (snapshot : CreateSnapshotRequest) (volume snapName : String)
    (remembered : Remembered id req shared) :
    (reclaiming compile).Keeps (.request id)
      (createSnapshotLocked rounds time snapshot volume snapName)
      (fun _ => Remembered id req) shared := by
  apply (promise_of_lasts lasts_remembered).createSnapshotLocked Op.Reads.mindfulCall
    lasts_remembered (fun remembered => remembered) (fun _ remembered _ => remembered) _ remembered
  intro snap spec now _ remembered _
  constructor
  · trivial
  · intro choice answer after guard executed
    exact remembered.exec executed guard.1 trivial

/-! ### Requests -/

/-- The requests of the life cycle of plain volumes and their snapshots. -/
def Request.OfLifeCycle : Request → Prop
  | .createVolume _ req => req.contentSource = none
  | .deleteVolume _ | .createSnapshot _ _ _ | .deleteSnapshot _ => True
  | _ => False

/-- A `CreateVolume` request does not find its volume marked for deletion and undeleted. -/
def FindsUnmarked (req : Request) (shared : Shared) : Prop :=
  match req with
  | .createVolume _ request => MarkSpent shared.volumes (Go.toLower request.name)
  | _ => True

theorem Remembered.inKeeping {answer : Answer} (remembered : Remembered id req shared)
    (kept : ∀ name, MarkedAt shared.volumes name → intent name (req, answer) ≠ some .keep) :
    InKeeping id answer shared := by
  refine ⟨req, remembered.serving, fun name marked => ?_⟩
  rw [lastIntent_append]
  cases wanted : intent name (req, answer) with
  | none => simpa using remembered.marks name marked
  | some found =>
      cases found with
      | keep => exact absurd wanted (kept name marked)
      | reclaim => rfl

/-- A request that wants nothing of a volume. -/
theorem reclaims_indifferent {γ : Type} {program : Routine γ} (wrap : γ → Answer)
    (wantsNothing : ∀ result name, intent name (req, wrap result) = none)
    (keeps : (reclaiming compile).Keeps (.request id) program (fun _ => Remembered id req)
      shared) :
    (reclaiming compile).Keeps (.request id) (program >>= fun result => pure (wrap result))
      ((reclaiming compile).Post (.request id)) shared := by
  apply Contract.Keeps.bind
  apply keeps.mono
  rintro result now _ remembered later moved _ _ ⟨⟩
  apply (lasts_remembered now later moved remembered).inKeeping
  intro name _
  simp [wantsNothing]

theorem Vouches.inKeeping {result : Except Err CreateVolumeResponse}
    (vouches : Vouches id polls request result shared) :
    InKeeping id (.createVolume result) shared := by
  apply vouches.remembered.inKeeping
  intro name marked
  cases result with
  | error err => simp [intent]
  | ok response =>
      have differs : Go.toLower request.name ≠ name := by
        rintro rfl
        exact vouches.unmarked response rfl marked
      simp [intent, differs]

theorem Settles.inKeeping {request : DeleteVolumeRequest} {result : Except Err Unit}
    (settles : Settles id request result shared) :
    InKeeping id (.deleteVolume result) shared := by
  refine ⟨.deleteVolume request, settles.serving, fun name marked => ?_⟩
  rw [lastIntent_append]
  rcases settles.marks name marked with wanted | ⟨own, done, isOk⟩
  · cases result with
    | error err => simpa [intent] using wanted
    | ok done =>
        by_cases own : Go.toLower request.volumeId = name
        · simp [intent, own]
        · simpa [intent, own] using wanted
  · subst isOk
    simp [intent, own]

theorem settles_deleteVolume {request : DeleteVolumeRequest}
    (remembered : Remembered id (.deleteVolume request) shared) :
    (reclaiming compile).Keeps (.request id) (Driver.deleteVolume request) (Settles id request)
      shared := by
  unfold Driver.deleteVolume
  split
  · exact settles_return _ remembered
  · apply keeps_free_lockVolume ⟨trivial, trivial⟩ lasts_remembered ignoresLock_remembered
      lasts_settles _ remembered
    · exact fun now remembered => settles_deleteVolumeLocked remembered
    · exact fun _ _ _ _ settles => ⟨settles.serving, settles.marks⟩

theorem reclaims_createSnapshot {request : CreateSnapshotRequest} {time : Int}
    (remembered : Remembered id (.createSnapshot polls time request) shared) :
    (reclaiming compile).Keeps (.request id) (Driver.createSnapshot polls time request)
      (fun _ => Remembered id (.createSnapshot polls time request)) shared := by
  apply Contract.Keeps.bind
  apply (keeps_lasting_reads (calls_verifySnapshotRequest _ _) Op.Reads.mindfulCall
    lasts_remembered remembered).mono
  intro answer later _ remembered
  cases answer with
  | error err => exact keeps_lasting_return _ lasts_remembered remembered
  | ok done =>
      apply keeps_free_lockVolumeWithSnapshot ⟨trivial, trivial⟩ lasts_remembered
        ignoresLock_remembered (fun _ => lasts_remembered) (fun _ => ignoresLock_remembered)
        remembered
      exact fun now remembered => reclaims_createSnapshotLocked _ _ _ _ _ remembered

theorem reclaims_deleteSnapshot {request : DeleteSnapshotRequest}
    (remembered : Remembered id (.deleteSnapshot request) shared) :
    (reclaiming compile).Keeps (.request id) (Driver.deleteSnapshot request)
      (fun _ => Remembered id (.deleteSnapshot request)) shared := by
  unfold Driver.deleteSnapshot
  split
  · exact keeps_lasting_return _ lasts_remembered remembered
  · split
    · apply keeps_free_lockVolumeWithSnapshot ⟨trivial, trivial⟩ lasts_remembered
        ignoresLock_remembered (fun _ => lasts_remembered) (fun _ => ignoresLock_remembered)
        remembered
      exact fun now remembered => reclaims_deleteSnapshotLocked remembered
    · exact keeps_lasting_return _ lasts_remembered remembered

theorem reclaims_serve (lifeCycle : Request.OfLifeCycle req) (unmarked : FindsUnmarked req shared)
    (remembered : Remembered id req shared) :
    (reclaiming compile).Keeps (.request id) (serve compile req)
      ((reclaiming compile).Post (.request id)) shared := by
  cases req with
  | createVolume polls request =>
      apply Contract.Keeps.bind
      apply (reclaims_createVolume lifeCycle ⟨remembered, unmarked⟩).mono
      rintro result now _ vouches later moved _ _ ⟨⟩
      exact (lasts_vouches result now later moved vouches).inKeeping
  | deleteVolume request =>
      apply Contract.Keeps.bind
      apply (settles_deleteVolume remembered).mono
      rintro result now _ settles later moved _ _ ⟨⟩
      exact (lasts_settles result now later moved settles).inKeeping
  | createSnapshot polls time request =>
      apply reclaims_indifferent _ _ (reclaims_createSnapshot remembered)
      exact fun _ _ => rfl
  | deleteSnapshot request =>
      apply reclaims_indifferent _ _ (reclaims_deleteSnapshot remembered)
      exact fun _ _ => rfl
  | controllerExpandVolume | nodeExpandVolume => exact lifeCycle.elim

end Programs

/-! ## Every run -/

section Runs

variable {compile : Compile} {start config : Config sig Shared Tid Answer}
  {Meets : Action Tid Choice Move Arrival → Config sig Shared Tid Answer → Prop}

/-- A step of a run in which requests of the life cycle are handled one after another. -/
structure OneByOne (action : Action Tid Choice Move Arrival)
    (config : Config sig Shared Tid Answer) : Prop where
  arrives : Arrives Request.OfLifeCycle action config
  alone : Alone action config

/-- The clean-up of a failed `CreateVolume` does not hit a Ready volume. -/
def CleansUnready (thread : Tid) (op : Op) (shared : Shared) : Prop :=
  match thread with
  | .request id => ∀ req ∈ shared.inFlight id, req.isCreateVolume = true →
      ∀ name ∈ op.deletedVolume, ∀ vol ∈ shared.volumes.get name, vol.status ≠ .ready
  | _ => True

/-- A request that arrives does not find its volume marked for deletion. -/
abbrev ArrivesUnmarked : Action Tid Choice Move Arrival → Config sig Shared Tid Answer → Prop :=
  ArrivesTo FindsUnmarked

/-- A step at which no `CreateVolume` finds its volume marked, the answer to a mark is not
lost and no clean-up hits a Ready volume. -/
structure KeepsIntent (action : Action Tid Choice Move Arrival)
    (config : Config sig Shared Tid Answer) : Prop where
  unmarked : ArrivesUnmarked action config
  answered : System.AtCalls MarkAnswered action config
  cleans : System.AtCalls (fun thread op _ shared => CleansUnready thread op shared) action config

/-- A step of the runs in which volumes are deleted on demand only. -/
structure ReclaimStep (action : Action Tid Choice Move Arrival)
    (config : Config sig Shared Tid Answer) : Prop extends
  OneByOne action config, KeepsIntent action config

theorem reclaiming_sound (step : ∀ {action config}, Meets action config → ReclaimStep action config)
    (disciplined : ∀ {action config}, Meets action config →
      System.AtCalls (fun thread op _ shared => Disciplined (fun _ _ => True) thread op shared)
        action config) :
    (reclaiming compile).Sound Meets where
  guard := fun meets atCall =>
    ⟨disciplined meets _ _ atCall, (step meets).answered _ _ atCall⟩
  call := by
    intro thread op choice before answer after mindful owed guard executed
    have effect := exec_effect executed
    constructor
    · exact mindful.effect effect owed guard.1
    · rintro other differs id rfl
      exact undisturbed_of_effect mindful effect owed guard.1 differs
  env := by
    intro config move after _ mindful moved
    have effect := env_effect moved
    constructor
    · exact mindful.drift effect.drift effect.inFlight effect.answered
    · rintro other id rfl
      exact undisturbed_of_drift effect.drift effect.advances.volumes.known
        (congrFun effect.inFlight id) fun _ => effect.answered
  arrive := by
    intro config arrival thread program after meets mindful arrived _
    have effect := arrive_effect arrived
    refine ⟨?_, ?_, ?_⟩
    · apply mindful.arrive effect
      rintro id req rfl
      exact (step meets).alone
    · rintro other differs id rfl
      exact undisturbed_of_drift effect.drift effect.advances.volumes.known
        (effect.inFlight differs) fun _ => effect.answered
    · cases effect with
      | request id req unused =>
          apply reclaims_serve (step meets).arrives
          · have unmarked : FindsUnmarked req config.shared := (step meets).unmarked
            cases req with
            | createVolume | deleteVolume | controllerExpandVolume | createSnapshot
            | deleteSnapshot | nodeExpandVolume => exact unmarked
          · exact ⟨Function.update_self .., mindful.settled (step meets).alone⟩
      | syncVolume | syncSnapshot | syncBackup =>
          apply keeps_work
          · exact fun _ _ _ => trivial
          · exact fun _ _ _ id isRequest => nomatch isRequest
  leave := by
    intro config thread answer _ mindful inKeeping _
    have effect := leave_effect thread answer config.shared
    constructor
    · exact mindful.leave effect inKeeping
    · rintro other differs id rfl
      exact undisturbed_of_leave mindful effect differs

/-- Nobody is running or in flight, and the marks are those of acknowledged deletes. -/
structure ReclaimStart (start : Config sig Shared Tid Answer) : Prop where
  idle : ∀ thread, start.threads thread = none
  quiet : ∀ id, start.shared.inFlight id = none
  marks : ∀ name, MarkedAt start.shared.volumes name →
    lastIntent start.shared.answered name = some .reclaim

theorem reclaiming_of_reaches (begins : ReclaimStart start)
    (reached : (cluster compile).Reaches ReclaimStep start config) :
    (reclaiming compile).Holds config := by
  have initially : Mindful start.shared := by
    constructor
    · intro id other req otherReq serving
      rw [begins.quiet id] at serving
      contradiction
    · exact fun name marked => .inl (begins.marks name marked)
  have disciplined := reaches_disciplined provisionsOnly_true begins.idle reached
  apply Contract.Sound.reaches _ initially begins.idle disciplined
  exact reclaiming_sound (fun meets => meets.1) fun meets => meets.2

/-- Along every run of requests handled one after another in which no `CreateVolume` finds
its volume marked, the answer to a mark is not lost and no clean-up hits a Ready volume:
when the controller issues the delete of a Ready volume, the last acknowledged request to
create or delete it is a `DeleteVolume`, or one is being handled. -/
theorem ready_volume_deleted_on_demand (begins : ReclaimStart start)
    (reached : (cluster compile).Reaches ReclaimStep start config) {id : Nat} {choice : Choice}
    {name : String} {next : Except Err Unit → Routine Answer} {vol : ZFSVolume}
    (meets : ReclaimStep (.call (.request id) choice) config)
    (issues : config.threads (.request id) = some (.call (.deleteVolume name) next))
    (stored : config.shared.volumes.get name = some vol) (ready : vol.status = .ready) :
    lastIntent config.shared.answered name = some .reclaim ∨ Deleting id name config.shared := by
  have holds := reclaiming_of_reaches begins reached
  have onDemand : OnDemand id name config.shared := holds.ok_of_call issues
  rcases onDemand with wanted | deleting | ⟨polls, req, serving⟩
  · exact .inl wanted
  · exact .inr deleting
  · have cleans := meets.cleans _ _ issues _ serving rfl
    exact absurd ready (cleans name rfl vol stored)

/-! ## Runs that are executed -/

instance (volumes : Resource VolumeInfo State) (name : String) :
    Decidable (MarkSpent volumes name) :=
  inferInstanceAs (Decidable (∀ vol ∈ volumes.get name, Marked vol → vol.deletionTimestamp = true))

instance : DecidablePred Request.OfLifeCycle
  | .createVolume _ _ | .deleteVolume _ | .controllerExpandVolume _ | .createSnapshot _ _ _
  | .deleteSnapshot _ | .nodeExpandVolume _ _ => by
      dsimp only [Request.OfLifeCycle]
      infer_instance

instance (req : Request) (shared : Shared) : Decidable (FindsUnmarked req shared) :=
  match req with
  | .createVolume _ _ | .deleteVolume _ | .controllerExpandVolume _ | .createSnapshot _ _ _
  | .deleteSnapshot _ | .nodeExpandVolume _ _ => by
      dsimp only [FindsUnmarked]
      infer_instance

instance (thread : Tid) (op : Op) (choice : Choice) (shared : Shared) :
    Decidable (MarkAnswered thread op choice shared) :=
  match thread with
  | .request _ | .volume _ _ | .snapshot _ _ | .backup _ _ => by
      dsimp only [MarkAnswered]
      infer_instance

instance (thread : Tid) (op : Op) (shared : Shared) :
    Decidable (CleansUnready thread op shared) :=
  match thread with
  | .request _ | .volume _ _ | .snapshot _ _ | .backup _ _ => by
      dsimp only [CleansUnready]
      infer_instance

instance (action : Action Tid Choice Move Arrival) (config : Config sig Shared Tid Answer) :
    Decidable (KeepsIntent action config) :=
  decidable_of_iff (ArrivesUnmarked action config ∧ System.AtCalls MarkAnswered action config ∧
      System.AtCalls (fun thread op _ shared => CleansUnready thread op shared) action config)
    ⟨fun all => ⟨all.1, all.2.1, all.2.2⟩,
      fun keeps => ⟨keeps.unmarked, keeps.answered, keeps.cleans⟩⟩

/-- None of the given requests is in flight when one arrives. -/
abbrev AloneAmong (ids : List Nat) :
    Action Tid Choice Move Arrival → Config sig Shared Tid Answer → Prop :=
  ArrivesTo fun _ shared => ∀ other ∈ ids, shared.inFlight other = none

/-- Only the requests that arrive can be in flight. -/
theorem reaches_alone {actions : List (Action Tid Choice Move Arrival)} (ids : List Nat)
    (reached : (cluster compile).Reaches (fun action config =>
      (Meets action config ∧ AloneAmong ids action config) ∧ action ∈ actions) start config)
    (fresh : ∀ id, start.shared.inFlight id = none)
    (only : ∀ id req, .arrive (.request id req) ∈ actions → id ∈ ids) :
    (cluster compile).Reaches (fun action config => Meets action config ∧ Alone action config)
      start config := by
  have alone : (cluster compile).Reaches (fun action config =>
      ((Meets action config ∧ AloneAmong ids action config) ∧ action ∈ actions) ∧
        Alone action config) start config := by
    apply reached.strengthen
    intro config action next reached meets _
    exact meets.1.2.mono fun _ quiet => quiet_of_run ids reached fresh only quiet
  exact alone.mono fun step => ⟨step.1.1.1, step.2⟩

/-- The request is about to delete the volume of the name. -/
def issuesDelete (config : Config sig Shared Tid Answer) (id : Nat) (name : String) : Bool :=
  match config.threads (.request id) with
  | some (.call (.deleteVolume other) _) => decide (other = name)
  | _ => false

theorem exists_of_issuesDelete {id : Nat} {name : String}
    (issues : issuesDelete config id name = true) :
    ∃ next, config.threads (.request id) = some (.call (.deleteVolume name) next) := by
  unfold issuesDelete at issues
  split at issues
  · rename_i other next atCall
    obtain rfl := of_decide_eq_true issues
    exact ⟨next, atCall⟩
  · contradiction

/-- The volume is created and made Ready, a snapshot of it is taken, and the volume is
marked for deletion. -/
def markedRun : List (Action Tid Choice Move Arrival) :=
  settledRun ++ snapshotSteps 1 ++ takeSteps ++
    servedSteps 2 (.deleteVolume { volumeId := "v" }) 6

/-- The snapshot is deleted, up to the delete of the volume. -/
def lastSnapshotSteps (id : Nat) : List (Action Tid Choice Move Arrival) :=
  .arrive (.request id (.deleteSnapshot { snapshotId := "v@s" })) :: calls (.request id) 6

/-- The volume follows its last snapshot after the `DeleteVolume`. -/
theorem ready_volume_deleted_on_demand_markedRun :
    ∃ config next vol, (cluster noRegexp).Reaches ReclaimStep twoNodes config ∧
      config.threads (.request 3) = some (.call (.deleteVolume "v") next) ∧
      config.shared.volumes.get "v" = some vol ∧ vol.status = .ready ∧
      (lastIntent config.shared.answered "v" = some .reclaim ∨ Deleting 3 "v" config.shared) := by
  have only : ∀ id req, .arrive (.request id req) ∈
      markedRun ++ lastSnapshotSteps 3 → id ∈ [0, 1, 2, 3] := by
    intro id req
    simp only [markedRun, settledRun, provisionedRun, provisionSteps, snapshotSteps, servedSteps,
      takeSteps, lastSnapshotSteps, calls]
    simp
    tauto
  have ran : ((cluster noRegexp).run (fun action config =>
      (Arrives Request.OfLifeCycle action config ∧ KeepsIntent action config) ∧
      AloneAmong [0, 1, 2, 3] action config) (markedRun ++ lastSnapshotSteps 3) twoNodes).any
      (fun config => issuesDelete config 3 "v" &&
        (decide (KeepsIntent (.call (.request 3) {}) config) &&
        (config.shared.volumes.get "v").any fun vol => decide (vol.status = .ready))) = true := by
    decide +kernel
  obtain ⟨config, last, checked⟩ := (Option.any_eq_true _ _).mp ran
  obtain ⟨issues, checked⟩ := Bool.and_eq_true_iff.mp checked
  obtain ⟨keeps, present⟩ := Bool.and_eq_true_iff.mp checked
  obtain ⟨next, atCall⟩ := exists_of_issuesDelete issues
  obtain ⟨vol, stored, ready⟩ := (Option.any_eq_true _ _).mp present
  have ready := of_decide_eq_true ready
  have reached := reaches_alone [0, 1, 2, 3] (System.reaches_of_run last) (fun _ => rfl) only
  have reached : (cluster noRegexp).Reaches ReclaimStep twoNodes config :=
    reached.mono fun step => ⟨⟨step.1.1, step.2⟩, step.1.2⟩
  have begins : ReclaimStart twoNodes := by
    refine ⟨fun _ => rfl, fun _ => rfl, ?_⟩
    rintro name ⟨vol, stored, _⟩
    cases stored
  have meets : ReclaimStep (.call (.request 3) {}) config :=
    ⟨⟨trivial, trivial⟩, of_decide_eq_true keeps⟩
  exact ⟨config, next, vol, reached, atCall, stored, ready,
    ready_volume_deleted_on_demand begins reached meets atCall stored ready⟩

/-- The marked volume is asked for again and acknowledged, and is then deleted with its
last snapshot, in a run in which no call fails. -/
theorem ready_volume_deleted_by_old_mark :
    ∃ config next vol, (cluster noRegexp).Reaches
        (fun action config => OneByOne action config ∧ Faultless action config) twoNodes config ∧
      config.threads (.request 4) = some (.call (.deleteVolume "v") next) ∧
      config.shared.volumes.get "v" = some vol ∧ vol.status = .ready ∧
      lastIntent config.shared.answered "v" = some .keep ∧
      ¬ Deleting 4 "v" config.shared := by
  have only : ∀ id req, .arrive (.request id req) ∈
      markedRun ++ servedSteps 3 (.createVolume 1 plainRequest) 3 ++ lastSnapshotSteps 4 →
      id ∈ [0, 1, 2, 3, 4] := by
    intro id req
    simp only [markedRun, settledRun, provisionedRun, provisionSteps, snapshotSteps, servedSteps,
      takeSteps, lastSnapshotSteps, calls]
    simp
    tauto
  have ran : ((cluster noRegexp).run (fun action config =>
      (Arrives Request.OfLifeCycle action config ∧ Faultless action config) ∧
      AloneAmong [0, 1, 2, 3, 4] action config)
      (markedRun ++ servedSteps 3 (.createVolume 1 plainRequest) 3 ++ lastSnapshotSteps 4)
      twoNodes).any (fun config => issuesDelete config 4 "v" &&
        (decide (lastIntent config.shared.answered "v" = some .keep) &&
        (decide (config.shared.inFlight 4 = some (.deleteSnapshot { snapshotId := "v@s" })) &&
        (config.shared.volumes.get "v").any fun vol => decide (vol.status = .ready)))) = true := by
    decide +kernel
  obtain ⟨config, last, checked⟩ := (Option.any_eq_true _ _).mp ran
  obtain ⟨issues, checked⟩ := Bool.and_eq_true_iff.mp checked
  obtain ⟨kept, checked⟩ := Bool.and_eq_true_iff.mp checked
  obtain ⟨serving, present⟩ := Bool.and_eq_true_iff.mp checked
  obtain ⟨next, atCall⟩ := exists_of_issuesDelete issues
  obtain ⟨vol, stored, ready⟩ := (Option.any_eq_true _ _).mp present
  have reached := reaches_alone [0, 1, 2, 3, 4] (System.reaches_of_run last) (fun _ => rfl) only
  refine ⟨config, next, vol, reached.mono fun step => ⟨⟨step.1.1, step.2⟩, step.1.2⟩, atCall,
    stored, of_decide_eq_true ready, of_decide_eq_true kept, ?_⟩
  rintro ⟨req, deleting, _⟩
  cases (of_decide_eq_true serving).symm.trans deleting

end Runs

end ZfsLocalPv.Properties

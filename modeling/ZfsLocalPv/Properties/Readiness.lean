import ZfsLocalPv.Cluster.Changes
import ZfsLocalPv.Cluster.Requests

/-!
# Ready volumes have their data

A volume that is Ready and not deleted should have its dataset on its owner node. The agents
compare the owner with their node when an event is queued, but act later on whatever the cache
then holds. So an agent may build the dataset of a volume that has meanwhile been created anew
for another node, and report it Ready there.

The property holds in every run in which the agents sync only volumes of their own node and no
volume lies below a volume that is destroyed. The argument: the Ready write of an agent follows
its own `zfs create`; the agent that destroys the dataset later has been shown the deletion, so
the volume is not Ready again by then.
-/

namespace ZfsLocalPv.Properties

open Api ApiServer Driver Interaction Zfs Cluster

/-! ## Ready volumes -/

section Changes

variable {volumes next : Resource VolumeInfo State} {Allowed : ZFSVolume → ZFSVolume → Prop}
  {caller : Option (Tid × Op)} {node name : String} {vol : ZFSVolume}

/-- A Ready volume was Ready before, on the same node and pool, or it is made so
by the volume agent of a node. -/
inductive BecameReady (volumes : Resource VolumeInfo State) (caller : Option (Tid × Op))
    (next : Resource VolumeInfo State) (node name : String) (vol : ZFSVolume) : Prop
  | before (old : ZFSVolume) (readyOn : ReadyOn volumes node name old)
      (pool : old.spec.poolName = vol.spec.poolName)
      (shows : volumes.Shows node name Live → next.Shows node name Live)
  | settled (agent : String) (base : ZFSVolume)
      (worker : caller = some (.volume agent name, .updateVolume (settledVolume agent base .ready)))
      (held : volumes.Held agent name base) (stored : volumes.get name = some base)
      (live : Live base) (specEq : vol.spec = base.spec)
      (shows : volumes.Shows node name Live → next.Shows node name Live)

theorem becameReady_of_change (change : VolumeChange Allowed volumes caller next)
    (readyOn : ReadyOn next node name vol) :
    BecameReady volumes caller next node name vol := by
  obtain ⟨found, ready, live, owner⟩ := readyOn
  cases change.origin found with
  | kept stored shows => exact .before vol ⟨stored, ready, live, owner⟩ rfl shows
  | created creator new isClient fresh absent objectEq =>
      subst objectEq
      have pending : State.pending = .ready := fresh.1.pending.symm.trans ready
      contradiction
  | written writer base new isClient write stored rewrites still objectEq shows =>
      obtain ⟨thread, op⟩ := writer
      obtain ⟨write, opEq⟩ := write
      dsimp only at write opEq
      subst isClient opEq objectEq
      cases write with
      | provision id base wanted allowed pending =>
          have pending : State.pending = .ready := pending.symm.trans ready
          contradiction
      | mark id base => exact .before base ⟨stored, ready, live, owner⟩ rfl (shows live)
      | resize id base capacity => exact .before base ⟨stored, ready, live, owner⟩ rfl (shows live)
      | release agent other base held deleted =>
          have notDeleted : true = false := deleted.symm.trans live
          contradiction
      | settle agent other base status held liveBase missing =>
          obtain rfl : status = .ready := ready
          obtain rfl : other = name := held.nameEq.symm.trans (Resource.name_of_get stored)
          exact .settled agent base rfl held stored liveBase rfl (shows live)
  | deleted deleter old isClient deletes stored liveOld objectEq =>
      subst objectEq
      have notDeleted : true = false := live
      contradiction
  | collected old stored deleted objectEq =>
      subst objectEq
      have notDeleted : true = false := deleted.symm.trans live
      contradiction

end Changes

/-! ## The contract of the volume agents -/

/-- At the start of a sync of a volume that is neither deleted nor Ready, the
volume in the cache is owned by the node of the agent. -/
def SyncsOwned (op : Op) (shared : Shared) : Prop :=
  match op with
  | .cachedVolume node name => ∀ vol ∈ (shared.volumes.informers node).cache name,
      Live vol → isVolumeReady vol = false → vol.spec.ownerNodeID = node
  | _ => True

instance (op : Op) (shared : Shared) : Decidable (SyncsOwned op shared) := by
  apply @Op.casesOn _ op <;> intros <;> dsimp only [SyncsOwned] <;> infer_instance

/-- At a recursive destroy, no other dataset lies below the destroyed one. -/
def DestroysAlone (op : Op) (shared : Shared) : Prop :=
  match op with
  | .zfs node (.destroy root) => ∀ entry ∈ (shared.storage node).datasets,
      Storage.takes root entry.dataset = true → entry.dataset = root
  | _ => True

instance (op : Op) (shared : Shared) : Decidable (DestroysAlone op shared) := by
  apply @Op.casesOn _ op
  case zfs =>
    intro node command
    apply @Command.casesOn _ command <;> intros <;> dsimp only [DestroysAlone] <;> infer_instance
  all_goals intros; dsimp only [DestroysAlone]; infer_instance

/-- Ready volumes have their data, and their owner is not about to learn of a
deletion. -/
def ReadyHasData (shared : Shared) : Prop :=
  ∀ node name vol, ReadyOn shared.volumes node name vol →
    (shared.storage node).hasDataset ⟨vol.spec.poolName, name⟩ = true ∧
      shared.volumes.Shows node name Live

/-- What the volume agent of a node counts on while it syncs a name. -/
structure VolumeRely (node name : String) (shared after : Shared) : Prop where
  datasets : ∀ pool, (shared.storage node).hasDataset ⟨pool, name⟩ = true →
    (after.storage node).hasDataset ⟨pool, name⟩ = true
  notReady : NotReadyOn shared.volumes node name → NotReadyOn after.volumes node name

theorem VolumeRely.refl (node name : String) (shared : Shared) :
    VolumeRely node name shared shared :=
  ⟨fun _ present => present, fun notReady => notReady⟩

theorem VolumeRely.trans {node name : String} {shared middle after : Shared}
    (first : VolumeRely node name shared middle) (second : VolumeRely node name middle after) :
    VolumeRely node name shared after :=
  ⟨fun pool present => second.datasets pool (first.datasets pool present),
    fun notReady => second.notReady (first.notReady notReady)⟩

/-- Before it writes Ready an agent has the dataset, and it destroys the dataset
of a volume that is not Ready. -/
def ReadyOk (thread : Tid) (op : Op) (shared : Shared) : Prop :=
  match thread, op with
  | .volume node _, .updateVolume vol => vol.status = .ready → Live vol →
      (shared.storage node).hasDataset (datasetOf vol) = true ∧ vol.spec.ownerNodeID = node
  | .volume node name, .zfs _ (.destroy _) => NotReadyOn shared.volumes node name
  | _, _ => True

def readiness (compile : Compile) : Contract (cluster compile) where
  Inv := ReadyHasData
  Rely := fun thread shared after =>
    match thread with
    | .volume node name => VolumeRely node name shared after
    | _ => True
  Guard := fun thread op _ shared => Disciplined (fun _ _ => True) thread op shared ∧
    SyncsOwned op shared ∧ DestroysAlone op shared
  Ok := ReadyOk
  Post := fun _ _ _ => True
  rely_refl := by
    intro thread state
    cases thread with
    | volume node name => exact .refl node name state
    | request | snapshot | backup => trivial
  rely_trans := by
    intro thread first second third one two
    cases thread with
    | volume node name => exact VolumeRely.trans one two
    | request | snapshot | backup => trivial

/-! ## The agent keeps its contract -/

section Agent

variable {compile : Compile} {node name : String} {base : ZFSVolume} {shared : Shared}
  {α : Type}

/-- Commands do not make a volume Ready. -/
theorem notReadyOn_of_zfs {thread : Tid} {command : Command} {choice : Choice}
    {answer : Except String String} {after : Shared} {target : String}
    (executed : exec thread (.zfs target command) choice shared = some (answer, after))
    (notReady : NotReadyOn shared.volumes node name) : NotReadyOn after.volumes node name := by
  cases exec_effect executed with
  | same => exact notReady
  | zfs target command effect => exact notReady

/-- A deleted volume may be destroyed if it is not Ready again. -/
theorem keeps_destroyVolume (notReady : NotReadyOn shared.volumes node name) :
    (readiness compile).Keeps (.volume node name) (destroyVolume node base)
      (fun _ now => NotReadyOn now.volumes node name) shared := by
  apply Contract.keeps_of_stable (calls_destroyVolume node base)
  · intro before after rely
    exact rely.notReady
  · rintro op now ⟨command, rfl⟩ _ notReady
    cases command with
    | destroy root => exact notReady
    | list | create | clone | snapshot | destroySnapshot | set | get => trivial
  · rintro op choice now answer after ⟨command, rfl⟩ _ _ notReady executed
    have ran : exec (.volume node name) (.zfs node command) choice now = some (answer, after) :=
      executed
    exact notReadyOn_of_zfs ran notReady
  · exact notReady

/-- The dataset of the held copy is there. -/
def HasData (node : String) (base : ZFSVolume) (shared : Shared) : Prop :=
  (shared.storage node).hasDataset (datasetOf base) = true

theorem HasData.rely {after : Shared} (named : base.name = name)
    (rely : VolumeRely node name shared after) (has : HasData node base shared) :
    HasData node base after := by
  subst named
  exact rely.datasets _ has

/-- Once the dataset is there, the rest of the creation leaves it. -/
theorem keeps_generateUUID (named : base.name = name) (has : HasData node base shared) :
    (readiness compile).Keeps (.volume node name) (generateUUID node base)
      (fun result now => result = .ok () → HasData node base now) shared := by
  unfold generateUUID
  split
  · apply keeps_call_bind
    intro now rely _
    constructor
    · trivial
    · intro choice answer after _ executed
      obtain ⟨_, rfl⟩ := Prod.mk.inj (Option.some.inj executed)
      have has := has.rely named rely
      cases answer with
      | error message => exact fun later rely _ _ => has.rely named rely
      | ok done => exact fun later rely _ _ => has.rely named rely
  · exact fun now rely _ _ => has.rely named rely

/-- A failed part ends the creation without a claim. -/
theorem keeps_error (err : Err) :
    (readiness compile).Keeps (.volume node name)
      (pure (.error err) : Routine (Except Err Unit))
      (fun result now => result = .ok () → HasData node base now) shared := by
  intro now _ _ succeeded
  contradiction

theorem keeps_createVolume (named : base.name = name) :
    (readiness compile).Keeps (.volume node name) (Zfs.createVolume node base)
      (fun result now => result = .ok () → HasData node base now) shared := by
  apply keeps_getVolume_bind
  · intro now _ _
    trivial
  · intro err now _ _
    apply keeps_runCmd_bind
    · intro now _ _
      trivial
    · intro out choice now after _ _ _ _
      exact keeps_error _
    · intro out choice now storage _ _ _ ran
      have created := (Storage.run_effect ran).created
      intro later rely _ _
      apply HasData.rely named rely
      simpa [HasData, Shared.setStorage] using created
  · intro now _ _ present later rely _ _
    exact HasData.rely named rely present

theorem keeps_createCloneSnapshot :
    (readiness compile).Keeps (.volume node name) (createCloneSnapshot node base)
      (fun _ _ => True) shared := by
  unfold createCloneSnapshot
  split
  · exact fun _ _ _ => trivial
  · apply keeps_getVolume_bind
    · intro now _ _
      trivial
    · intro err now _ _
      apply keeps_runCmd_bind
      · intro now _ _
        trivial
      · exact fun _ _ _ _ _ _ _ _ _ _ _ => trivial
      · exact fun _ _ _ _ _ _ _ _ _ _ _ => trivial
    · exact fun _ _ _ _ _ _ _ => trivial

theorem keeps_createClone (named : base.name = name) :
    (readiness compile).Keeps (.volume node name) (createClone node base)
      (fun result now => result = .ok () → HasData node base now) shared := by
  apply Contract.Keeps.bind
  apply keeps_createCloneSnapshot.mono
  intro answer now _ _
  cases answer with
  | error err => exact keeps_error err
  | ok taken =>
      apply keeps_getVolume_bind
      · intro now _ _
        trivial
      · intro err now _ _
        apply keeps_runCmd_bind
        · intro now _ _
          trivial
        · intro out choice now after _ _ _ _
          exact keeps_error _
        · intro out choice now storage _ _ _ ran
          have cloned := (Storage.run_effect ran).cloned
          apply keeps_generateUUID named
          simpa [HasData, Shared.setStorage] using cloned
      · intro now _ _ present
        exact keeps_generateUUID named present

theorem keeps_createZV (named : base.name = name) :
    (readiness compile).Keeps (.volume node name) (Mgmt.createZV node base)
      (fun result now => result = .ok () → HasData node base now) shared := by
  unfold Mgmt.createZV
  split
  · exact keeps_createClone named
  · exact keeps_createVolume named

theorem keeps_setVolumeProp :
    (readiness compile).Keeps (.volume node name) (setVolumeProp node base)
      (fun _ _ => True) shared := by
  unfold setVolumeProp
  split
  · exact fun _ _ _ => trivial
  · apply keeps_runCmd_bind
    · intro now _ _
      trivial
    · exact fun _ _ _ _ _ _ _ _ _ _ _ => trivial
    · exact fun _ _ _ _ _ _ _ _ _ _ _ => trivial

theorem readiness_syncVolume :
    (readiness compile).Keeps (.volume node name) (Mgmt.syncVolume node name)
      (fun _ _ => True) shared := by
  apply keeps_syncVolume
  · exact fun _ _ => trivial
  · exact fun _ _ _ _ _ => trivial
  · intro base choice now inv guard cached
    obtain ⟨_, owned, _⟩ := guard
    have named := (Resource.held_of_cached cached).nameEq
    apply keeps_syncZV fun _ _ _ _ _ => trivial
    · intro deleted
      have mortal (live : base.deletionTimestamp = false) : False := by
        rw [deleted] at live
        contradiction
      -- a Ready volume would not be shown as deleted
      have notReady : NotReadyOn now.volumes node name := fun vol readyOn =>
        mortal ((inv node name vol readyOn).2.of_cached cached)
      apply (keeps_destroyVolume notReady).mono
      intro answer later _ _ _
      apply keeps_call_true
      exact fun _ _ _ _ live => (mortal live).elim
    · exact fun _ _ _ => keeps_setVolumeProp
    · intro live missing
      have owner := owned base cached live missing
      apply (keeps_createZV named).mono
      intro answer later _ has
      rw [updateZvolInfo_eq]
      apply keeps_call_true
      intro last rely _
      cases answer with
      | ok done => exact fun _ _ => ⟨(has rfl).rely named rely, owner⟩
      | error err => exact fun ready _ => nomatch ready

end Agent

/-! ## Every step keeps the invariant -/

section Steps

variable {compile : Compile} {thread : Tid} {op : Op} {shared after : Shared}

/-- A dataset on a node is spared by the call of a thread. -/
def Spares (op : Op) (shared : Shared) (node : String) (dataset : Dataset) : Prop :=
  ∀ root, op = .zfs node (.destroy root) → (shared.storage node).hasDataset dataset = true →
    Storage.takes root dataset = false

theorem Spares.kept {node : String} {dataset : Dataset} (spares : Spares op shared node dataset)
    (effect : Effect thread shared op after)
    (present : (shared.storage node).hasDataset dataset = true) :
    (after.storage node).hasDataset dataset = true := by
  rcases effect.storage node with same | ⟨command, rfl, changed⟩
  · rw [same]
    exact present
  · apply changed.keeps_dataset present
    rintro root rfl
    exact spares root rfl present

/-- The only dataset a volume agent destroys is the one of its name, on its
node. -/
theorem spares_of_other {node name pool : String}
    (disciplined : Disciplined (fun _ _ => True) thread op shared)
    (alone : DestroysAlone op shared) (other : thread ≠ .volume node name) :
    Spares op shared node ⟨pool, name⟩ := by
  rintro root rfl present
  apply Bool.eq_false_iff.mpr
  intro taken
  obtain ⟨entry, mem, entryEq⟩ := Storage.hasDataset_iff.mp present
  rw [← entryEq] at taken
  have equal := alone entry mem taken
  rw [entryEq] at equal
  cases disciplined with
  | destroy node name' base held deleted =>
      apply other
      obtain rfl := held.nameEq
      have nameEq : name = base.name := congrArg Dataset.name equal
      rw [nameEq]

theorem readyHasData_of_call (inv : ReadyHasData shared) (ok : ReadyOk thread op shared)
    (disciplined : Disciplined (fun _ _ => True) thread op shared)
    (alone : DestroysAlone op shared) (effect : Effect thread shared op after) :
    ReadyHasData after := by
  intro node name vol readyOn
  cases becameReady_of_change (effect.volumeChange disciplined) readyOn with
  | before old readyBefore pool shows =>
      obtain ⟨present, shown⟩ := inv node name old readyBefore
      rw [pool] at present
      constructor
      · apply Spares.kept ?_ effect present
        by_cases own : thread = .volume node name
        · subst own
          rintro root rfl
          exact absurd readyBefore (ok old)
        · exact spares_of_other disciplined alone own
      · exact shows shown
  | settled agent base worker held stored live specEq shows =>
      obtain ⟨rfl, rfl⟩ := Prod.mk.inj (Option.some.inj worker)
      have liveSettled : Live (settledVolume agent base .ready) := live
      obtain ⟨present, owner⟩ := ok rfl liveSettled
      obtain rfl : agent = node := by
        rw [← readyOn.owner, specEq]
        exact owner.symm
      obtain rfl := held.nameEq
      constructor
      · apply Spares.kept ?_ effect
        · rw [specEq]
          exact present
        · intro root destroys
          contradiction
      · exact shows (Resource.shows_of_passed held.passed stored (Nat.le_refl _) live)

theorem volumeRely_of_call {node name : String} (ok : ReadyOk thread op shared)
    (disciplined : Disciplined (fun _ _ => True) thread op shared)
    (alone : DestroysAlone op shared) (effect : Effect thread shared op after)
    (other : thread ≠ .volume node name) : VolumeRely node name shared after where
  datasets := by
    intro pool present
    exact (spares_of_other disciplined alone other).kept effect present
  notReady := by
    intro notReady vol readyOn
    cases becameReady_of_change (effect.volumeChange disciplined) readyOn with
    | before old readyBefore _ _ => exact notReady old readyBefore
    | settled agent base worker held stored live specEq shows =>
        -- the agent that writes Ready is the owner, so it is this one
        obtain ⟨rfl, rfl⟩ := Prod.mk.inj (Option.some.inj worker)
        have liveSettled : Live (settledVolume agent base .ready) := live
        obtain ⟨_, owner⟩ := ok rfl liveSettled
        apply other
        have ownerEq : base.spec.ownerNodeID = node := by
          rw [← specEq]
          exact readyOn.owner
        rw [← ownerEq, ← owner]
        rfl

/-- A step that is no call of a thread makes nothing Ready. -/
theorem readiness_of_drift (inv : ReadyHasData shared) (drift : Drift shared after) :
    ReadyHasData after ∧ ∀ other, (readiness compile).Rely other shared after := by
  constructor
  · intro node name vol readyOn
    cases becameReady_of_change (drift.volumes fun _ _ => True) readyOn with
    | before old readyBefore pool shows =>
        obtain ⟨present, shown⟩ := inv node name old readyBefore
        rw [drift.storage, ← pool]
        exact ⟨present, shows shown⟩
    | settled agent base worker => contradiction
  · intro other
    cases other with
    | request | snapshot | backup => trivial
    | volume node name =>
        constructor
        · intro pool present
          rw [drift.storage]
          exact present
        · intro notReady vol readyOn
          cases becameReady_of_change (drift.volumes fun _ _ => True) readyOn with
          | before old readyBefore _ _ => exact notReady old readyBefore
          | settled agent base worker => contradiction

end Steps

/-! ## Runs -/

section Runs

variable {compile : Compile} {start config : Config sig Shared Tid Answer}

/-- The condition under which Ready volumes keep their data. -/
def OwnersOnly : Action Tid Choice Move Arrival → Config sig Shared Tid Answer → Prop :=
  System.AtCalls fun _ op _ shared => SyncsOwned op shared ∧ DestroysAlone op shared

instance (action : Action Tid Choice Move Arrival) (config : Config sig Shared Tid Answer) :
    Decidable (OwnersOnly action config) :=
  inferInstanceAs (Decidable (System.AtCalls _ action config))

theorem readiness_sound : (readiness compile).Sound fun action config =>
    OwnersOnly action config ∧
      System.AtCalls (fun thread op _ shared =>
        Disciplined (fun _ _ => True) thread op shared) action config where
  guard := by
    intro config thread choice op next meets atCall
    obtain ⟨owned, alone⟩ := meets.1 op next atCall
    exact ⟨meets.2 op next atCall, owned, alone⟩
  call := by
    rintro thread op choice before answer after inv ok ⟨disciplined, _, alone⟩ executed
    have effect := exec_effect executed
    constructor
    · exact readyHasData_of_call inv ok disciplined alone effect
    · intro other differs
      cases other with
      | volume node name => exact volumeRely_of_call ok disciplined alone effect differs.symm
      | request | snapshot | backup => trivial
  env := fun _ inv moved => readiness_of_drift inv (env_effect moved).drift
  arrive := by
    intro config arrival thread program after _ inv arrived _
    have effect := arrive_effect arrived
    obtain ⟨invAfter, rely⟩ := readiness_of_drift inv effect.drift
    refine ⟨invAfter, fun other _ => rely other, ?_⟩
    cases effect with
    | syncVolume node name quiet =>
        apply Contract.Keeps.bind
        apply readiness_syncVolume.mono
        exact fun _ _ _ _ _ _ _ => trivial
    | request | syncSnapshot | syncBackup =>
        exact Contract.keeps_of_no_obligation _ (fun _ _ _ => trivial) _
  leave := by
    intro config thread answer _ inv _ _
    have drift := (leave_effect thread answer config.shared).drift
    obtain ⟨invAfter, rely⟩ := readiness_of_drift inv drift
    exact ⟨invAfter, fun other _ => rely other⟩

/-- No volumes, no datasets and nobody running. -/
structure Unused (start : Config sig Shared Tid Answer) : Prop where
  volumes : start.shared.volumes = .empty
  datasets : ∀ node, (start.shared.storage node).datasets = []
  idle : ∀ thread, start.threads thread = none

/-- Along every run in which agents sync only volumes of their node and volumes
are not nested, a volume that is Ready and not deleted has its dataset on its
owner node. -/
theorem ready_volume_has_dataset (unused : Unused start)
    (reached : (cluster compile).Reaches OwnersOnly start config) {name : String}
    {vol : ZFSVolume} (stored : config.shared.volumes.get name = some vol)
    (ready : vol.status = .ready) (live : vol.deletionTimestamp = false) :
    (config.shared.storage vol.spec.ownerNodeID).hasDataset (datasetOf vol) = true := by
  have initially : ReadyHasData start.shared := by
    intro node name vol readyOn
    have found := readyOn.stored
    rw [unused.volumes] at found
    contradiction
  have disciplined := reaches_disciplined provisionsOnly_true unused.idle reached
  have holds := readiness_sound.reaches initially unused.idle disciplined
  obtain rfl := Resource.name_of_get stored
  exact (holds.1 _ vol.name vol ⟨stored, ready, live, rfl⟩).1

theorem unused_twoNodes : Unused twoNodes :=
  ⟨rfl, fun _ => rfl, fun _ => rfl⟩

theorem ready_volume_has_dataset_twoNodes :
    ∃ config vol, (cluster noRegexp).Reaches OwnersOnly twoNodes config ∧
      config.shared.volumes.get "v" = some vol ∧ vol.status = .ready ∧
      vol.deletionTimestamp = false ∧
      (config.shared.storage vol.spec.ownerNodeID).hasDataset (datasetOf vol) = true := by
  have ran : ((cluster noRegexp).run OwnersOnly provisionedRun twoNodes).any (fun config =>
      (config.shared.volumes.get "v").any fun vol =>
        decide (vol.status = .ready ∧ vol.deletionTimestamp = false)) = true := by
    decide +kernel
  obtain ⟨config, reached, checked⟩ := System.exists_reaches_of_run ran
  obtain ⟨vol, stored, holds⟩ := (Option.any_eq_true _ _).mp checked
  obtain ⟨ready, live⟩ := of_decide_eq_true holds
  exact ⟨config, vol, reached, stored, ready, live,
    ready_volume_has_dataset unused_twoNodes reached stored ready live⟩

/-- Plain CreateVolume and DeleteVolume requests and the volume agents. -/
def PlainSystem :
    Action Tid Choice Move Arrival → Config sig Shared Tid Answer → Prop
  | .arrive (.request _ (.createVolume _ req)), _ => req.contentSource = none
  | .arrive (.request _ (.deleteVolume _)), _ => True
  | .arrive (.syncVolume _ _), _ => True
  | .arrive _, _ => False
  | .call _ choice, _ => choice.outcome = .ok
  | _, _ => True

instance (action : Action Tid Choice Move Arrival) (config : Config sig Shared Tid Answer) :
    Decidable (PlainSystem action config) :=
  match action with
  | .arrive (.request _ (.createVolume _ _)) | .arrive (.request _ (.deleteVolume _))
  | .arrive (.request _ (.controllerExpandVolume _))
  | .arrive (.request _ (.createSnapshot _ _ _)) | .arrive (.request _ (.deleteSnapshot _))
  | .arrive (.request _ (.nodeExpandVolume _ _))
  | .arrive (.syncVolume _ _) | .arrive (.syncSnapshot _ _) | .arrive (.syncBackup _ _)
  | .call _ _ | .env _ | .leave _ => by
      dsimp only [PlainSystem]
      infer_instance

/-- The first attempt times out and its CR is deleted while its name is still on
the queue of the first node; a retry then places the volume on the second node. -/
def retargetedRun : List (Action Tid Choice Move Arrival) :=
  provisionSteps 0 ["a", "b"] ++ .call (.request 0) { branch := .timeout } ::
    calls (.request 0) 2 ++
    [.leave (.request 0), .env (.deliverVolume "a" "v"), .env (.handleVolume "a"),
      .env (.collectVolume "v")] ++
    provisionSteps 1 ["b", "a"] ++
    [.env (.deliverVolume "a" "v"), .env (.deliverVolume "a" "v"), .env (.deliverVolume "a" "v"),
      .arrive (.syncVolume "a" "v")] ++
    calls (.volume "a" "v") 4

/-- The agent of the first node makes the dataset there and reports the volume of
the second node Ready. -/
theorem ready_volume_without_dataset :
    ∃ config vol, (cluster noRegexp).Reaches PlainSystem twoNodes config ∧
      config.shared.volumes.get "v" = some vol ∧ vol.status = .ready ∧
      vol.deletionTimestamp = false ∧
      (config.shared.storage vol.spec.ownerNodeID).hasDataset (datasetOf vol) = false := by
  have ran : ((cluster noRegexp).run PlainSystem retargetedRun twoNodes).any (fun config =>
      (config.shared.volumes.get "v").any fun vol =>
        decide (vol.status = .ready ∧ vol.deletionTimestamp = false ∧
          (config.shared.storage vol.spec.ownerNodeID).hasDataset (datasetOf vol) = false)) =
        true := by
    decide +kernel
  obtain ⟨config, reached, checked⟩ := System.exists_reaches_of_run ran
  obtain ⟨vol, stored, holds⟩ := (Option.any_eq_true _ _).mp checked
  exact ⟨config, vol, reached, stored, of_decide_eq_true holds⟩

end Runs

end ZfsLocalPv.Properties

import ZfsLocalPv.Cluster.Changes
import ZfsLocalPv.Cluster.Requests

/-!
# Placement of provisioned volumes

Owner node and pool of a volume should not change once the volume carries the driver's finalizer.
All writes but one keep them: `ProvisionVolume` puts a new specification over whatever CR of that
name it finds. `CreateZFSVolume` goes there with a name that is being deleted, and the two clone
paths do not look for an existing volume at all.

So the placement is kept exactly by not letting `ProvisionVolume` find a provisioned volume with
another placement. An object keeps its identity as long as it exists, and the finalizer stays on
it until it is removed; both are needed to say what happens to one and the same CR along a run.
-/

namespace ZfsLocalPv.Properties

open Api ApiServer Driver Interaction Zfs Cluster

/-- Owner node and pool are the same. -/
structure SamePlace (first second : VolumeInfo) : Prop where
  owner : first.ownerNodeID = second.ownerNodeID
  pool : first.poolName = second.poolName

theorem SamePlace.refl (info : VolumeInfo) : SamePlace info info :=
  ⟨rfl, rfl⟩

theorem SamePlace.trans {first second third : VolumeInfo} (one : SamePlace first second)
    (two : SamePlace second third) : SamePlace first third :=
  ⟨one.owner.trans two.owner, one.pool.trans two.pool⟩

/-- What `ProvisionVolume` may put over an existing volume: a volume that carries the
driver's finalizer keeps its place. -/
def KeepsPlace (base wanted : ZFSVolume) : Prop :=
  ZFSFinalizer ∈ base.finalizers → SamePlace wanted.spec base.spec

/-! ## One step -/

section Steps

variable {volumes next : Resource VolumeInfo State} {caller : Option (Tid × Op)} {name : String}
  {uid : Nat} {place : VolumeInfo}

/-- The volume of a name, as long as it has the given identity, carries the driver's
finalizer and is in its place. The identity is not given away again. -/
structure Placed (volumes : Resource VolumeInfo State) (name : String) (uid : Nat)
    (place : VolumeInfo) : Prop where
  given : uid ≤ volumes.revision
  settled : ∀ vol, volumes.get name = some vol → vol.uid = uid →
    ZFSFinalizer ∈ vol.finalizers ∧ SamePlace vol.spec place

/-- No write but the one of `ProvisionVolume` moves a volume, and only the last write
drops the finalizer. -/
theorem VolumeWrite.keepsPlace {thread : Tid} {base vol : ZFSVolume}
    (write : VolumeWrite KeepsPlace volumes thread base vol) (held : StillHeld base vol)
    (carries : ZFSFinalizer ∈ base.finalizers) :
    ZFSFinalizer ∈ vol.finalizers ∧ SamePlace vol.spec base.spec := by
  cases write with
  | provision id base wanted allowed pending => exact ⟨carries, allowed carries⟩
  | mark id base => exact ⟨carries, .refl _⟩
  | resize id base capacity => exact ⟨carries, rfl, rfl⟩
  | settle node name base status _ live missing =>
      exact ⟨List.mem_append_left _ carries, .refl _⟩
  | release node name base _ deleted => exact absurd rfl (held deleted).2

theorem placed_of_change (change : VolumeChange KeepsPlace volumes caller next)
    (advances : volumes.Advances next) (placed : Placed volumes name uid place) :
    Placed next name uid place where
  given := Nat.le_trans placed.given advances.revision
  settled := by
    intro vol found uidEq
    cases change.origin found with
    | kept stored shows => exact placed.settled vol stored uidEq
    | created creator new isClient fresh absent objectEq =>
        -- a new object has a new identity
        subst objectEq
        have given := placed.given
        rw [← uidEq] at given
        exact absurd given (Nat.not_succ_le_self _)
    | written writer base new isClient write stored rewrites held objectEq shows =>
        subst objectEq
        have old := placed.settled base stored (rewrites.uid.symm.trans uidEq)
        obtain ⟨carries, place⟩ := VolumeWrite.keepsPlace write.1 held old.1
        exact ⟨carries, place.trans old.2⟩
    | deleted deleter old isClient deletes stored live objectEq =>
        subst objectEq
        obtain ⟨carries, place⟩ := placed.settled old stored uidEq
        exact ⟨List.mem_insert_of_mem carries, place⟩
    | collected old stored deleted objectEq =>
        subst objectEq
        obtain ⟨carries, place⟩ := placed.settled old stored uidEq
        refine ⟨List.mem_filter.mpr ⟨carries, ?_⟩, place⟩
        decide

/-- Identities are given out in order. -/
def UidsGiven (volumes : Resource VolumeInfo State) : Prop :=
  ∀ name vol, volumes.get name = some vol → vol.uid ≤ volumes.revision

theorem uidsGiven_of_change {Allowed : ZFSVolume → ZFSVolume → Prop}
    (change : VolumeChange Allowed volumes caller next) (advances : volumes.Advances next)
    (given : UidsGiven volumes) : UidsGiven next := by
  intro name vol found
  have later (uid : Nat) (bound : uid ≤ volumes.revision) : uid ≤ next.revision :=
    Nat.le_trans bound advances.revision
  cases change.origin found with
  | kept stored shows => exact later _ (given name vol stored)
  | created creator new isClient fresh absent objectEq =>
      have versionEq : vol.uid = vol.resourceVersion := by rw [objectEq]
      rw [versionEq]
      exact next.versions name vol found
  | written writer base new isClient write stored rewrites held objectEq shows =>
      subst objectEq
      rw [show new.uid = base.uid from rewrites.uid]
      exact later _ (given name base stored)
  | deleted deleter old isClient deletes stored live objectEq =>
      subst objectEq
      exact later _ (given name old stored)
  | collected old stored deleted objectEq =>
      subst objectEq
      exact later _ (given name old stored)

end Steps

/-! ## Runs -/

section Runs

variable {compile : Compile} {start middle last : Config sig Shared Tid Answer}

/-- The condition under which provisioned volumes stay in their place. -/
def ProvisionsInPlace : Action Tid Choice Move Arrival → Config sig Shared Tid Answer → Prop :=
  System.AtCalls fun _ op _ shared => ProvisionAllowed KeepsPlace op shared

theorem provisionsOnly_inPlace : ProvisionsOnly KeepsPlace ProvisionsInPlace := by
  intro config thread choice op next meets atCall
  exact meets op next atCall

/-- An invariant of the volumes that every disciplined change keeps holds along
every run. -/
theorem volumes_invariant (Inv : Resource VolumeInfo State → Prop)
    (kept : ∀ {volumes next caller}, VolumeChange KeepsPlace volumes caller next →
      volumes.Advances next → Inv volumes → Inv next)
    (reached : (cluster compile).Reaches (fun action config => ProvisionsInPlace action config ∧
      System.AtCalls (fun thread op _ shared => Disciplined KeepsPlace thread op shared)
        action config) middle last)
    (inv : Inv middle.shared.volumes) : Inv last.shared.volumes := by
  apply reached.shared_invariant (fun shared => Inv shared.volumes) inv
  · intro config thread choice op next answer after meets atCall inv executed
    have effect := exec_effect executed
    exact kept (effect.volumeChange (meets.2 op next atCall)) effect.advances.volumes inv
  · intro config move after _ inv moved
    have effect := env_effect moved
    exact kept (effect.drift.volumes KeepsPlace) effect.advances.volumes inv
  · intro config arrival thread program after _ inv arrived
    have effect := arrive_effect arrived
    exact kept (effect.drift.volumes KeepsPlace) effect.advances.volumes inv
  · intro config thread answer _ inv
    have effect := leave_effect thread answer config.shared
    exact kept (effect.drift.volumes KeepsPlace) effect.advances.volumes inv

/-- Nobody is running and no identity is out that was not given. -/
structure Fair (start : Config sig Shared Tid Answer) : Prop where
  uids : UidsGiven start.shared.volumes
  idle : ∀ thread, start.threads thread = none

/-- Along every run in which `ProvisionVolume` finds a volume with the driver's
finalizer only in the place that is asked for, a volume that carries the finalizer
keeps its owner node and its pool until it is removed. -/
theorem placement_immutable (fair : Fair start)
    (before : (cluster compile).Reaches ProvisionsInPlace start middle)
    (reached : (cluster compile).Reaches ProvisionsInPlace middle last) {name : String}
    {vol later : ZFSVolume} (stored : middle.shared.volumes.get name = some vol)
    (provisioned : ZFSFinalizer ∈ vol.finalizers)
    (storedLater : last.shared.volumes.get name = some later) (same : later.uid = vol.uid) :
    later.spec.ownerNodeID = vol.spec.ownerNodeID ∧ later.spec.poolName = vol.spec.poolName := by
  have given : UidsGiven middle.shared.volumes :=
    volumes_invariant UidsGiven uidsGiven_of_change
      (reaches_disciplined provisionsOnly_inPlace fair.idle before) fair.uids
  have initially : Placed middle.shared.volumes name vol.uid vol.spec := by
    constructor
    · exact given name vol stored
    · intro other found _
      rw [stored] at found
      obtain rfl := Option.some.inj found
      exact ⟨provisioned, .refl _⟩
  have placed : Placed last.shared.volumes name vol.uid vol.spec :=
    volumes_invariant (fun volumes => Placed volumes name vol.uid vol.spec)
      placed_of_change
      (reaches_disciplined_after provisionsOnly_inPlace fair.idle before reached) initially
  obtain ⟨_, place⟩ := placed.settled later storedLater same
  exact ⟨place.owner, place.pool⟩

instance (base wanted : ZFSVolume) : Decidable (KeepsPlace base wanted) :=
  decidable_of_iff (ZFSFinalizer ∈ base.finalizers →
      wanted.spec.ownerNodeID = base.spec.ownerNodeID ∧
        wanted.spec.poolName = base.spec.poolName)
    ⟨fun same carries => ⟨(same carries).1, (same carries).2⟩,
      fun same carries => ⟨(same carries).owner, (same carries).pool⟩⟩

instance (action : Action Tid Choice Move Arrival) (config : Config sig Shared Tid Answer) :
    Decidable (ProvisionsInPlace action config) :=
  inferInstanceAs (Decidable (System.AtCalls _ action config))

theorem fair_twoNodes : Fair twoNodes := by
  constructor
  · intro name vol stored
    contradiction
  · intro thread
    rfl

theorem placement_immutable_twoNodes :
    ∃ middle last vol later, (cluster noRegexp).Reaches ProvisionsInPlace twoNodes middle ∧
      (cluster noRegexp).Reaches ProvisionsInPlace middle last ∧
      middle.shared.volumes.get "v" = some vol ∧ ZFSFinalizer ∈ vol.finalizers ∧
      last.shared.volumes.get "v" = some later ∧ later.uid = vol.uid ∧
      later.spec.ownerNodeID = vol.spec.ownerNodeID ∧
      later.spec.poolName = vol.spec.poolName := by
  have ran : ((cluster noRegexp).run ProvisionsInPlace settledRun twoNodes).any (fun middle =>
      ((cluster noRegexp).run ProvisionsInPlace (deleteSteps 1) middle).any fun last =>
        (middle.shared.volumes.get "v").any fun vol =>
          (last.shared.volumes.get "v").any fun later =>
            decide (ZFSFinalizer ∈ vol.finalizers ∧ later.uid = vol.uid)) = true := by
    decide +kernel
  obtain ⟨middle, before, rest⟩ := System.exists_reaches_of_run ran
  obtain ⟨last, reached, checked⟩ := System.exists_reaches_of_run rest
  obtain ⟨vol, stored, checked⟩ := (Option.any_eq_true _ _).mp checked
  obtain ⟨later, storedLater, holds⟩ := (Option.any_eq_true _ _).mp checked
  obtain ⟨provisioned, same⟩ := of_decide_eq_true holds
  exact ⟨middle, last, vol, later, before, reached, stored, provisioned, storedLater, same,
    placement_immutable fair_twoNodes before reached stored provisioned storedLater same⟩

/-- A volume that is being deleted is asked for again and placed on the other node:
its CR, still with the finalizer, is moved there. -/
theorem placement_changed :
    ∃ middle last vol later, (cluster noRegexp).Reaches Faultless twoNodes middle ∧
      (cluster noRegexp).Reaches Faultless middle last ∧
      middle.shared.volumes.get "v" = some vol ∧ ZFSFinalizer ∈ vol.finalizers ∧
      last.shared.volumes.get "v" = some later ∧ later.uid = vol.uid ∧
      later.spec.ownerNodeID ≠ vol.spec.ownerNodeID := by
  have ran : ((cluster noRegexp).run Faultless (settledRun ++ deleteSteps 1) twoNodes).any
      (fun middle => ((cluster noRegexp).run Faultless (provisionSteps 2 ["b", "a"]) middle).any
        fun last => (middle.shared.volumes.get "v").any fun vol =>
          (last.shared.volumes.get "v").any fun later =>
            decide (ZFSFinalizer ∈ vol.finalizers ∧ later.uid = vol.uid ∧
              later.spec.ownerNodeID ≠ vol.spec.ownerNodeID)) = true := by
    decide +kernel
  obtain ⟨middle, before, rest⟩ := System.exists_reaches_of_run ran
  obtain ⟨last, reached, checked⟩ := System.exists_reaches_of_run rest
  obtain ⟨vol, stored, checked⟩ := (Option.any_eq_true _ _).mp checked
  obtain ⟨later, storedLater, holds⟩ := (Option.any_eq_true _ _).mp checked
  obtain ⟨provisioned, same, moved⟩ := of_decide_eq_true holds
  exact ⟨middle, last, vol, later, before, reached, stored, provisioned, storedLater, same, moved⟩

end Runs

end ZfsLocalPv.Properties

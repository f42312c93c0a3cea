import ZfsLocalPv.Cluster.Programs
import ZfsLocalPv.Properties.PropertyEdits

/-!
# Runs with edits

The syncs of a volume under a contract: they may count on users and informers not to disturb what
the agent sees of a Ready volume, and owe that the dataset is created from a copy that is
current. A sync that does not fail leaves everything the agent sees on the dataset or queued; one
that fails is queued again.
-/

namespace ZfsLocalPv.Properties

open Api ApiServer Driver Interaction Zfs Cluster

variable {base copy : ZFSVolume} {shared after : Shared} {thread : Tid} {op : Op}
  {compile : Compile}

/-! ## The calls of a sync -/

/-- The worker that syncs the volume. -/
def syncer (base : ZFSVolume) : Tid :=
  .volume base.spec.ownerNodeID base.name

/-- The options with which a call creates a dataset. -/
def creationArgs (node : String) (volume : Dataset) : Op → Option (List Arg)
  | .zfs other (.create args dataset) =>
      if other = node ∧ dataset = volume then some args else none
  | .zfs other (.clone args _ dataset) =>
      if other = node ∧ dataset = volume then some args else none
  | _ => none

instance (properties : Go.StringMap) (vol : ZFSVolume) : Decidable (Applied properties vol) :=
  decidable_of_iff (∀ entry ∈ editableProperties vol, properties.lookup entry.1 = some entry.2)
    ⟨fun all property value mem => all (property, value) mem,
      fun applied entry mem => applied entry.1 entry.2 mem⟩

/-- The dataset is created with the values that the volume has at the API server. -/
def CurrentCopy (base : ZFSVolume) (op : Op) (shared : Shared) : Prop :=
  ∀ args ∈ creationArgs base.spec.ownerNodeID (datasetOf base) op,
    ∀ vol ∈ shared.volumes.get base.name, Applied (propertiesOf args) vol

instance (base : ZFSVolume) (op : Op) (shared : Shared) : Decidable (CurrentCopy base op shared) :=
  inferInstanceAs (Decidable (∀ args ∈ creationArgs _ _ op, _))

/-- The calls that may create the dataset, and the reads. -/
inductive MakeCall (base : ZFSVolume) : Op → Prop
  | reads {op : Op} (reads : op.Reads) : MakeCall base op
  | list (node : String) (target : Target) : MakeCall base (.zfs node (.list target))
  | snapshot (args : List Arg) (snapshot : Snapshot) :
      MakeCall base (.zfs base.spec.ownerNodeID (.snapshot args snapshot))
  | create (args : List Arg) :
      MakeCall base (.zfs base.spec.ownerNodeID (.create args (datasetOf base)))
  | clone (args : List Arg) (source : String) :
      MakeCall base (.zfs base.spec.ownerNodeID (.clone args source (datasetOf base)))

/-- The calls of a sync of the volume. -/
inductive EditCall (base : ZFSVolume) (shared : Shared) : Op → Prop
  | make {op : Op} (make : MakeCall base op) : EditCall base shared op
  | set (assignments : Go.StringMap) {vol : ZFSVolume}
      (cached : (seen base shared).cache base.name = some vol) (ready : vol.status = .ready) :
      EditCall base shared (.zfs base.spec.ownerNodeID (.set assignments (datasetOf base)))
  | settle {copy : ZFSVolume} {status : State} (known : status ≠ .unset)
      (held : shared.volumes.Held base.spec.ownerNodeID base.name copy)
      (same : SameVolume base copy) (unready : copy.status ≠ .ready)
      (made : status = .ready → OnDisk base shared) :
      EditCall base shared (.updateVolume (settledVolume base.spec.ownerNodeID copy status))

/-! ## What the calls keep -/

@[simp]
theorem diskProperties_setStorage (storage : Storage) :
    diskProperties base (shared.setStorage base.spec.ownerNodeID storage) =
      storage.propertiesAt (datasetOf base) := by
  simp [diskProperties, Shared.setStorage]

@[simp]
theorem onDisk_setStorage (storage : Storage) :
    OnDisk base (shared.setStorage base.spec.ownerNodeID storage) ↔
      storage.hasDataset (datasetOf base) = true := by
  simp [OnDisk, Shared.setStorage]

theorem EditInv.setStorage (inv : EditInv base shared) {storage : Storage}
    (lineage : shared.volumes.Lineage (Becomes base (storage.propertiesAt (datasetOf base)))
      base.spec.ownerNodeID)
    (unready : ∀ vol, shared.volumes.get base.name = some vol → vol.status ≠ .ready →
      storage.hasDataset (datasetOf base) = true →
      Applied (storage.propertiesAt (datasetOf base)) vol)
    (kept : OnDisk base shared → storage.hasDataset (datasetOf base) = true) :
    EditInv base (shared.setStorage base.spec.ownerNodeID storage) := by
  constructor
  · exact inv.stored
  · exact inv.cached
  · exact inv.pending
  · rw [diskProperties_setStorage]
    exact lineage
  · intro vol stored isUnready
    obtain ⟨cached, pending⟩ := (inv.unready vol stored isUnready).1
    rw [diskProperties_setStorage, onDisk_setStorage]
    exact ⟨⟨cached, pending⟩, unready vol stored isUnready⟩
  · intro vol stored ready
    rw [onDisk_setStorage]
    exact kept (inv.ready vol stored ready)

/-- While the volume is not Ready, the dataset may get any properties. -/
theorem EditInv.lineage_of_unready (inv : EditInv base shared) (unseen : SeenUnready base shared)
    (properties : Go.StringMap) :
    shared.volumes.Lineage (Becomes base properties) base.spec.ownerNodeID := by
  apply Lineage.mono inv.lineage
  intro change mem old becomes
  refine ⟨becomes.ready, fun named _ ready => ?_⟩
  rw [Watch.name_object] at named
  obtain ⟨vol, rfl, same⟩ := inv.pending change mem named
  exact absurd ready (unseen.pending vol mem same.name)

/-- So it may once the agent has seen the volume Ready. -/
theorem EditInv.lineage_of_ready (inv : EditInv base shared) {vol : ZFSVolume}
    (cached : (seen base shared).cache base.name = some vol) (ready : vol.status = .ready)
    (properties : Go.StringMap) :
    shared.volumes.Lineage (Becomes base properties) base.spec.ownerNodeID := by
  have puts (change) (mem : change ∈ (seen base shared).pending)
      (named : change.name = base.name) : ∃ object, change = .put object := by
    obtain ⟨object, isPut, _⟩ := inv.pending change mem named
    exact ⟨object, isPut⟩
  have shown : ∃ old, (seen base shared).cache base.name = some old ∧ old.status = .ready :=
    ⟨vol, cached, ready⟩
  apply Lineage.carry inv.lineage shown puts
  · intro old new named becomes wasReady
    have isReady : new.status = .ready := becomes.ready named wasReady
    exact ⟨⟨fun _ _ => isReady, fun _ unready => absurd wasReady unready⟩, isReady⟩
  · intro old new other _
    exact ⟨fun named => absurd named other, fun named => absurd named other⟩

theorem EditInv.unseen_of_absent (inv : EditInv base shared) (absent : ¬ OnDisk base shared) :
    SeenUnready base shared := by
  obtain ⟨vol, stored, _⟩ := inv.stored
  exact (inv.unready vol stored fun ready => absent (inv.ready vol stored ready)).1

theorem SeenUnready.fine (unseen : SeenUnready base shared) : Fine base shared :=
  fun vol cached ready => absurd ready (unseen.cached vol cached)

/-- What the calls that may create the dataset do to it. -/
inductive MakesDataset (base : ZFSVolume) (shared : Shared) (op : Op) : Shared → Prop
  | same : MakesDataset base shared op shared
  | kept {storage : Storage}
      (hasEq : storage.hasDataset (datasetOf base) =
        (shared.storage base.spec.ownerNodeID).hasDataset (datasetOf base))
      (propertiesEq : storage.propertiesAt (datasetOf base) = diskProperties base shared) :
      MakesDataset base shared op (shared.setStorage base.spec.ownerNodeID storage)
  | created {storage : Storage} {args : List Arg} (absent : ¬ OnDisk base shared)
      (given : args ∈ creationArgs base.spec.ownerNodeID (datasetOf base) op)
      (propertiesEq : storage.propertiesAt (datasetOf base) = propertiesOf args) :
      MakesDataset base shared op (shared.setStorage base.spec.ownerNodeID storage)

theorem makes_add {entry : Entry} {args : List Arg}
    (absent : (shared.storage base.spec.ownerNodeID).hasDataset entry.dataset = false)
    (given : entry.properties = propertiesOf args) (named : entry.dataset = datasetOf base)
    (isCreation : args ∈ creationArgs base.spec.ownerNodeID (datasetOf base) op) :
    MakesDataset base shared op (shared.setStorage base.spec.ownerNodeID
      ((shared.storage base.spec.ownerNodeID).add entry)) := by
  apply MakesDataset.created _ isCreation
  · rw [← named, Storage.propertiesAt_add_self absent, given]
  · unfold OnDisk
    rw [← named, absent]
    simp

theorem MakeCall.makes (call : MakeCall base op) (effect : Effect thread shared op after) :
    MakesDataset base shared op after := by
  cases effect with
  | same => exact .same
  | zfs node command effect =>
      cases effect with
      | none =>
          rw [Shared.setStorage_self]
          exact .same
      | partly => cases call with | reads reads => exact reads.elim
      | ran effect =>
          cases call with
          | reads reads => exact reads.elim
          | list =>
              cases effect with
              | list =>
                  rw [Shared.setStorage_self]
                  exact .same
          | snapshot =>
              cases effect with
              | snapshot => exact .kept rfl rfl
          | create args =>
              generalize named : datasetOf base = volume at effect
              cases effect with
              | create args entry absent given =>
                  exact makes_add absent given named.symm (by simp [creationArgs, named])
          | clone args source =>
              generalize named : datasetOf base = volume at effect
              cases effect with
              | clone args source entry absent given =>
                  exact makes_add absent given named.symm (by simp [creationArgs, named])
  | lock | unlock | createVolume | updateVolume | deleteVolume | createSnapshot | updateSnapshot
  | deleteSnapshot | updateBackup => cases call with | reads reads => exact reads.elim

theorem MakesDataset.inv (makes : MakesDataset base shared op after) (inv : EditInv base shared)
    (current : CurrentCopy base op shared) : EditInv base after := by
  cases makes with
  | same => exact inv
  | kept hasEq propertiesEq =>
      apply inv.setStorage
      · rw [propertiesEq]
        exact inv.lineage
      · rw [hasEq, propertiesEq]
        exact fun vol stored unready => (inv.unready vol stored unready).2
      · rw [hasEq]
        exact fun onDisk => onDisk
  | created absent given propertiesEq =>
      apply inv.setStorage
      · exact inv.lineage_of_unready (inv.unseen_of_absent absent) _
      · rw [propertiesEq]
        exact fun vol stored _ _ => current _ given vol stored
      · exact fun onDisk => absurd onDisk absent

theorem MakesDataset.fine (makes : MakesDataset base shared op after) (inv : EditInv base shared)
    (fine : Fine base shared) : Fine base after := by
  cases makes with
  | same => exact fine
  | kept _ propertiesEq =>
      intro vol cached ready
      rw [diskProperties_setStorage, propertiesEq]
      exact fine vol cached ready
  | created absent =>
      have unseen := inv.unseen_of_absent absent
      exact SeenUnready.fine ⟨unseen.cached, unseen.pending⟩

/-- The status is written into the copy that is still stored. -/
theorem EditInv.settle {status : State} {next : Resource VolumeInfo State}
    (inv : EditInv base shared) (known : status ≠ .unset)
    (held : shared.volumes.Held base.spec.ownerNodeID base.name copy)
    (same : SameVolume base copy) (unready : copy.status ≠ .ready)
    (made : status = .ready → OnDisk base shared)
    (accepted : shared.volumes.update (settledVolume base.spec.ownerNodeID copy status) =
      .ok next) :
    EditInv base (shared.setVolumes next) ∧
      (Fine base shared → Fine base (shared.setVolumes next)) := by
  obtain ⟨old, stored, version, outcome⟩ := Resource.update_eq_ok accepted
  obtain rfl : old = copy := held.known.current old stored version
  have stored : shared.volumes.get base.name = some old := same.name ▸ stored
  have applied := (inv.unready old stored unready).2
  rcases outcome with ⟨rfl, _⟩ | ⟨_, deleted, _⟩ | ⟨rfl, _⟩
  · exact ⟨inv, fun fine => fine⟩
  · rw [same.live] at deleted
    contradiction
  · refine ⟨?_, (respects_commit base shared _).fine⟩
    apply inv.commit_put stored
    · exact ⟨same.name, same.owner, same.pool, same.kind, same.live,
        fun unset => absurd unset known⟩
    · exact ⟨fun _ ready => absurd ready unready, fun _ _ ready => applied (made ready)⟩
    · exact fun _ => applied
    · exact made

theorem EditCall.inv (call : EditCall base shared op) (inv : EditInv base shared)
    (current : CurrentCopy base op shared) (effect : Effect thread shared op after) :
    EditInv base after := by
  cases call with
  | make call => exact (call.makes effect).inv inv current
  | set assignments cached ready =>
      have assigned (made : Go.StringMap) : EditInv base (shared.setStorage base.spec.ownerNodeID
          ((shared.storage base.spec.ownerNodeID).assign made (datasetOf base))) := by
        apply inv.setStorage (inv.lineage_of_ready cached ready _)
        · intro vol stored unready
          exact absurd ready ((inv.unready vol stored unready).1.cached _ cached)
        · rw [Storage.hasDataset_assign]
          exact fun onDisk => onDisk
      cases effect with
      | same => exact inv
      | zfs node command effect =>
          cases effect with
          | none =>
              rw [Shared.setStorage_self]
              exact inv
          | partly => exact assigned _
          | ran effect => cases effect with | set => exact assigned _
  | settle known held same unready made =>
      cases effect with
      | same => exact inv
      | updateVolume vol accepted => exact (inv.settle known held same unready made accepted).1

/-! ## The contract -/

/-- A sync has failed, or what the agent sees is on the dataset or queued. -/
def Ends (base : ZFSVolume) (result : Except Err Unit) (shared : Shared) : Prop :=
  (∃ err, result = .error err) ∨ Fine base shared

def editing (compile : Compile) (base : ZFSVolume) : Contract (editedCluster compile) where
  Inv := EditInv base
  Rely := fun thread shared after => thread = syncer base → Respects base shared after
  Guard := fun _ op _ shared => CurrentCopy base op shared
  Ok := fun thread op shared => thread = syncer base ∧ EditCall base shared op
  Post := fun thread answer shared =>
    thread = syncer base ∧ ∃ result, answer = .sync result ∧ Ends base result shared
  rely_refl := fun _ shared _ => .refl base shared
  rely_trans := fun first second isSyncer => (first isSyncer).trans (second isSyncer)

theorem Respects.onDisk (respects : Respects base shared after) (onDisk : OnDisk base shared) :
    OnDisk base after := by
  unfold OnDisk
  rw [respects.storage]
  exact onDisk

theorem Ends.respects {result : Except Err Unit} (ends : Ends base result shared)
    (respects : Respects base shared after) : Ends base result after :=
  ends.imp_right respects.fine

section Syncs

variable {result : Except Err Unit}

theorem editing_failed (err : Err) :
    (editing compile base).Keeps (syncer base) (pure (.error err) : Routine (Except Err Unit))
      (Ends base) shared :=
  fun _ _ _ => .inl ⟨err, rfl⟩

theorem editing_ended (ends : Ends base result shared) :
    (editing compile base).Keeps (syncer base) (pure result : Routine (Except Err Unit))
      (Ends base) shared :=
  fun _ moved _ => ends.respects (moved rfl)

/-! ### A Ready volume -/

/-- A copy that is applied stands for what the agent sees. -/
theorem Matches.fine (isMatch : Matches base shared copy)
    (applied : Applied (diskProperties base shared) copy) : Fine base shared := by
  obtain ⟨vol, cached, ready, same⟩ := isMatch
  intro other shown _
  cases cached.symm.trans shown
  exact same.imp_left fun same => applied.congr same.symm

theorem Matches.setStorage (isMatch : Matches base shared copy) (node : String)
    (storage : Storage) : Matches base (shared.setStorage node storage) copy :=
  isMatch

theorem editing_setVolumeProp (isMatch : Matches base shared copy) (same : SameVolume base copy)
    (valid : copy.spec.validate = .ok ()) :
    (editing compile base).Keeps (syncer base) (setVolumeProp base.spec.ownerNodeID copy)
      (Ends base) shared := by
  unfold setVolumeProp
  split
  · -- there is nothing to set
    rename_i none
    apply editing_ended
    right
    apply isMatch.fine
    intro property value mem
    simp only [mem_editableProperties, mem_assignment] at mem
    grind
  · rw [same.datasetOf_eq]
    apply keeps_runCmd_bind
    · intro now moved _
      obtain ⟨vol, cached, ready, _⟩ := (moved rfl).isMatch isMatch
      exact ⟨rfl, .set _ cached ready⟩
    · intro out choice now after _ _ _ _
      exact editing_failed _
    · intro out choice now storage moved _ _ ran
      obtain ⟨present, rfl⟩ := Storage.run_set_eq_some ran
      apply editing_ended
      right
      apply (((moved rfl).isMatch isMatch).setStorage ..).fine
      rw [diskProperties_setStorage, Storage.propertiesAt_assign_self present]
      exact applied_merge valid

/-! ### A volume that is not Ready -/

/-- The agent works on a copy of the volume that is not Ready. -/
structure Making (base copy : ZFSVolume) (shared : Shared) : Prop where
  held : shared.volumes.Held base.spec.ownerNodeID base.name copy
  fine : Fine base shared

theorem Making.respects (making : Making base copy shared) (respects : Respects base shared after) :
    Making base copy after :=
  ⟨making.held.advance respects.advances, respects.fine making.fine⟩

theorem Making.step (making : Making base copy shared) (inv : EditInv base shared)
    (call : MakeCall base op) (effect : Effect thread shared op after) : Making base copy after :=
  ⟨making.held.advance effect.advances.volumes, (call.makes effect).fine inv making.fine⟩

/-- The dataset is made if this succeeds. -/
def MadeIf (base copy : ZFSVolume) (result : Except Err Unit) (shared : Shared) : Prop :=
  Making base copy shared ∧ (result = .ok () → OnDisk base shared)

theorem editing_madeIf (made : MadeIf base copy result shared) :
    (editing compile base).Keeps (syncer base) (pure result : Routine (Except Err Unit))
      (MadeIf base copy) shared :=
  fun _ moved _ => ⟨made.1.respects (moved rfl), fun isOk => (moved rfl).onDisk (made.2 isOk)⟩

theorem madeIf_error (making : Making base copy shared) (err : Err) :
    MadeIf base copy (.error err) shared :=
  ⟨making, nofun⟩

theorem calls_createCloneSnapshot (base copy : ZFSVolume) :
    (createCloneSnapshot base.spec.ownerNodeID copy).Calls (MakeCall base) := by
  unfold createCloneSnapshot
  split
  · trivial
  · exact calls_createSnapshot (.list ..) fun _ => .snapshot ..

theorem editing_making {α : Type} {program : Routine α} (calls : program.Calls (MakeCall base))
    (making : Making base copy shared) :
    (editing compile base).Keeps (syncer base) program (fun _ => Making base copy) shared := by
  apply Contract.keeps_of_stable calls
  · exact fun moved making => making.respects (moved rfl)
  · exact fun call _ _ => ⟨rfl, .make call⟩
  · exact fun call inv _ making executed => making.step inv call (exec_effect executed)
  · exact making

/-- The listing before a dataset is created, and its creation. -/
theorem editing_makeUnlessPresent {op dataset : String} {command : Command}
    {rest : Except Err Unit → Routine (Except Err Unit)}
    {more : Except Err String → Routine (Except Err Unit)}
    (made : Routine (Except Err Unit)) (making : Making base copy shared)
    (call : MakeCall base (.zfs base.spec.ownerNodeID command))
    (creates : ∀ {storage next : Storage}, storage.Effect command next →
      next.hasDataset (datasetOf base) = true)
    (onPresent : rest (.ok ()) = made)
    (onMissing : ∀ err, rest (.error err) =
      runCmd base.spec.ownerNodeID op dataset command >>= more)
    (onFailed : ∀ err, more (.error err) = pure (.error err))
    (onMade : ∀ out, more (.ok out) = made)
    (ends : ∀ now, MadeIf base copy (.ok ()) now →
      (editing compile base).Keeps (syncer base) made (MadeIf base copy) now) :
    (editing compile base).Keeps (syncer base)
      (getVolume base.spec.ownerNodeID (.dataset (datasetOf base)) >>= rest)
      (MadeIf base copy) shared := by
  apply keeps_getVolume_bind
  · exact fun _ _ _ => ⟨rfl, .make (.list ..)⟩
  · intro err now moved _
    have making := making.respects (moved rfl)
    rw [onMissing]
    apply keeps_runCmd_bind
    · exact fun _ _ _ => ⟨rfl, .make call⟩
    · intro out choice now after moved inv _ executed
      rw [onFailed]
      apply editing_madeIf
      exact madeIf_error ((making.respects (moved rfl)).step inv call (exec_effect executed)) _
    · intro out choice now storage moved inv _ ran
      have created := Storage.run_effect ran
      have effect : Effect (syncer base) now (.zfs base.spec.ownerNodeID command)
          (now.setStorage base.spec.ownerNodeID storage) := .zfs _ _ (.ran created)
      rw [onMade]
      apply ends
      exact ⟨(making.respects (moved rfl)).step inv call effect,
        fun _ => (onDisk_setStorage storage).mpr (creates created)⟩
  · intro now moved _ present
    rw [onPresent]
    exact ends _ ⟨making.respects (moved rfl), fun _ => present⟩

theorem editing_createVolume (making : Making base copy shared) (same : SameVolume base copy) :
    (editing compile base).Keeps (syncer base) (Zfs.createVolume base.spec.ownerNodeID copy)
      (MadeIf base copy) shared := by
  unfold Zfs.createVolume
  rw [same.datasetOf_eq]
  apply editing_makeUnlessPresent (pure (.ok ())) making (.create _) fun effect => effect.created
  · rfl
  · exact fun _ => rfl
  · exact fun _ => rfl
  · exact fun _ => rfl
  · exact fun now made => editing_madeIf made

theorem editing_generateUUID (made : MadeIf base copy (.ok ()) shared) :
    (editing compile base).Keeps (syncer base) (generateUUID base.spec.ownerNodeID copy)
      (MadeIf base copy) shared := by
  unfold generateUUID
  split
  · apply keeps_call_bind
    intro now moved _
    have made : MadeIf base copy (.ok ()) now :=
      ⟨made.1.respects (moved rfl), fun _ => (moved rfl).onDisk (made.2 rfl)⟩
    refine ⟨⟨rfl, .make (.reads trivial)⟩, ?_⟩
    intro choice answer after _ executed
    obtain ⟨_, rfl⟩ := Prod.mk.inj (Option.some.inj executed)
    cases answer with
    | error message => exact editing_madeIf (madeIf_error made.1 _)
    | ok done => exact editing_madeIf made
  · exact editing_madeIf made

theorem editing_createClone (making : Making base copy shared) (same : SameVolume base copy) :
    (editing compile base).Keeps (syncer base) (createClone base.spec.ownerNodeID copy)
      (MadeIf base copy) shared := by
  unfold createClone
  rw [same.datasetOf_eq]
  apply Contract.Keeps.bind
  apply (editing_making (calls_createCloneSnapshot base copy) making).mono
  intro snapped now _ making
  cases snapped with
  | error err => exact editing_madeIf (madeIf_error making err)
  | ok done =>
      apply editing_makeUnlessPresent (generateUUID base.spec.ownerNodeID copy) making
        (.clone _ _) fun effect => effect.cloned
      · rfl
      · exact fun _ => rfl
      · exact fun _ => rfl
      · exact fun _ => rfl
      · exact fun now made => editing_generateUUID made

theorem editing_createZV (making : Making base copy shared) (same : SameVolume base copy) :
    (editing compile base).Keeps (syncer base) (Mgmt.createZV base.spec.ownerNodeID copy)
      (MadeIf base copy) shared := by
  unfold Mgmt.createZV
  split
  · exact editing_createClone making same
  · exact editing_createVolume making same

theorem editing_updateZvolInfo {status : State} (known : status ≠ .unset)
    (making : Making base copy shared) (same : SameVolume base copy)
    (unready : copy.status ≠ .ready) (made : status = .ready → OnDisk base shared) :
    (editing compile base).Keeps (syncer base)
      (updateZvolInfo base.spec.ownerNodeID copy status) (Ends base) shared := by
  rw [updateZvolInfo_eq, ← Prog.bind_ret_eq (call _)]
  apply keeps_call_bind
  intro now moved inv
  have making := making.respects (moved rfl)
  have made (ready : status = .ready) : OnDisk base now := (moved rfl).onDisk (made ready)
  refine ⟨⟨rfl, .settle known making.held same unready made⟩, ?_⟩
  intro choice answer after _ executed
  have fine : Fine base after := by
    cases exec_effect executed with
    | same => exact making.fine
    | updateVolume vol accepted =>
        exact (inv.settle known making.held same unready made accepted).2 making.fine
  exact editing_ended (.inr fine)

/-! ### The sync -/

theorem editing_syncZV (inv : EditInv base shared)
    (cached : (seen base shared).cache base.name = some copy) :
    (editing compile base).Keeps (syncer base) (Mgmt.syncZV base.spec.ownerNodeID copy)
      (Ends base) shared := by
  have same := inv.cached copy cached
  apply keeps_syncZV fun err _ => editing_failed err
  · intro deleted
    have live := same.live
    rw [deleted] at live
    contradiction
  · intro _ valid ready
    rw [same.isVolumeReady_iff] at ready
    exact editing_setVolumeProp ⟨copy, cached, ready, .inl rfl⟩ same valid
  · intro _ missing
    have unready : copy.status ≠ .ready :=
      mt same.isVolumeReady_iff.mpr (Bool.eq_false_iff.mp missing)
    have fine : Fine base shared := by
      intro vol shown ready
      cases cached.symm.trans shown
      exact absurd ready unready
    apply (editing_createZV ⟨Resource.held_of_cached cached, fine⟩ same).mono
    rintro result now _ ⟨making, made⟩
    cases result with
    | error err => exact editing_updateZvolInfo nofun making same unready nofun
    | ok done => exact editing_updateZvolInfo nofun making same unready fun _ => made rfl

theorem editing_syncVolume :
    (editing compile base).Keeps (syncer base)
      (Mgmt.syncVolume base.spec.ownerNodeID base.name) (Ends base) shared := by
  apply keeps_syncVolume
  · exact fun _ _ => ⟨rfl, .make (.reads trivial)⟩
  · intro now cached
    apply editing_ended
    right
    intro vol shown _
    cases cached.symm.trans shown
  · exact fun _ _ _ inv _ cached => editing_syncZV inv cached

theorem editing_work :
    (editing compile base).Keeps (syncer base)
      (work (Mgmt.syncVolume base.spec.ownerNodeID base.name))
      ((editing compile base).Post (syncer base)) shared := by
  unfold work
  apply Contract.Keeps.bind
  apply editing_syncVolume.mono
  intro result now _ ends
  exact fun later moved _ => ⟨rfl, result, rfl, ends.respects (moved rfl)⟩

end Syncs

/-! ## Steps -/

/-- Users edit the editable properties of the volume, and the agent of its node syncs it. -/
def UserStep (base : ZFSVolume) :
    Action Tid Choice EditMove Arrival → Config sig Shared Tid Answer → Prop
  | .env (.edit vol), config => vol.name = base.name →
      ∀ stored ∈ config.shared.volumes.get base.name, Edits stored vol
  | .arrive (.syncVolume node name), _ => node = base.spec.ownerNodeID ∧ name = base.name
  | .arrive _, _ => False
  | _, _ => True

/-- The dataset is created from a copy that is current, and the volume is not edited between
the creation of the dataset and the volume being Ready. -/
def EditsInTime (base : ZFSVolume) :
    Action Tid Choice EditMove Arrival → Config sig Shared Tid Answer → Prop
  | .env (.edit vol), config => vol.name = base.name → OnDisk base config.shared →
      ∀ stored ∈ config.shared.volumes.get base.name, stored.status = .ready
  | action, config => System.AtCalls (fun _ op _ shared => CurrentCopy base op shared) action config

theorem SameVolume.edited {stored vol : ZFSVolume} (same : SameVolume base stored)
    (edits : Edits stored vol) : SameVolume base vol := by
  rw [edits]
  exact ⟨same.name, same.owner, same.pool, same.kind, same.live, same.plain⟩

theorem Edits.status_eq {stored vol : ZFSVolume} (edits : Edits stored vol) :
    vol.status = stored.status := by
  rw [edits]

theorem Edits.merged_eq {stored vol : ZFSVolume} (edits : Edits stored vol) :
    merged stored vol = vol := by
  rw [edits]
  rfl

/-- An edit of the volume. -/
theorem EditInv.edit {vol : ZFSVolume} {next : Resource VolumeInfo State}
    (inv : EditInv base shared) (named : vol.name = base.name)
    (edits : ∀ stored ∈ shared.volumes.get base.name, Edits stored vol)
    (inTime : OnDisk base shared → ∀ stored ∈ shared.volumes.get base.name,
      stored.status = .ready)
    (accepted : shared.volumes.update vol = .ok next) :
    EditInv base (shared.setVolumes next) ∧ Respects base shared (shared.setVolumes next) := by
  obtain ⟨old, stored, _, outcome⟩ := Resource.update_eq_ok accepted
  rw [named] at stored
  obtain ⟨vol', stored', same⟩ := inv.stored
  cases stored.symm.trans stored'
  have edits := edits old stored
  rcases outcome with ⟨rfl, _⟩ | ⟨_, deleted, _⟩ | ⟨rfl, _⟩
  · exact ⟨inv, .refl base shared⟩
  · rw [same.live] at deleted
    contradiction
  · rw [edits.merged_eq]
    refine ⟨inv.commit_put stored (same.edited edits) ⟨?_, ?_⟩ ?_ ?_, respects_commit ..⟩
    · exact fun _ ready => edits.status_eq.trans ready
    · exact fun _ unready ready => absurd (edits.status_eq.symm.trans ready) unready
    · intro unready onDisk
      exact absurd (edits.status_eq.trans (inTime onDisk old stored)) unready
    · exact fun ready => inv.ready old stored (edits.status_eq.symm.trans ready)

/-- An edit of another volume. -/
theorem EditInv.edit_other {vol : ZFSVolume} {next : Resource VolumeInfo State}
    (inv : EditInv base shared) (differs : vol.name ≠ base.name)
    (accepted : shared.volumes.update vol = .ok next) :
    EditInv base (shared.setVolumes next) ∧ Respects base shared (shared.setVolumes next) := by
  obtain ⟨old, stored, _, ⟨rfl, _⟩ | ⟨rfl, _, _⟩ | ⟨rfl, _⟩⟩ := Resource.update_eq_ok accepted
  · exact ⟨inv, .refl base shared⟩
  · exact ⟨inv.commit_other differs, respects_commit ..⟩
  · exact ⟨inv.commit_other differs, respects_commit ..⟩

theorem editEnv_keeps {move : EditMove} {config : Config sig Shared Tid Answer}
    (user : UserStep base (.env move) config) (inTime : EditsInTime base (.env move) config)
    (inv : EditInv base config.shared) (moved : editEnv move config.shared = some after) :
    EditInv base after ∧ Respects base config.shared after := by
  cases move with
  | edit vol =>
      obtain ⟨next, accepted, rfl⟩ := Option.map_eq_some_iff.mp moved
      cases updated : config.shared.volumes.update vol with
      | error refusal =>
          rw [updated] at accepted
          cases accepted
      | ok volumes =>
          rw [updated] at accepted
          cases accepted
          by_cases named : vol.name = base.name
          · exact inv.edit named (user named) (inTime named) updated
          · exact inv.edit_other named updated
  | other move =>
      have step := envStep_of_env inv moved
      exact ⟨step.inv inv, step.respects inv (env_effect moved).advances.volumes⟩

/-- The worker takes the name off its queue. -/
theorem steady_take {volumes : Resource VolumeInfo State}
    (taken : shared.volumes.take base.spec.ownerNodeID base.name = some volumes) :
    Steady base shared (shared.setVolumes volumes) := by
  obtain ⟨getEq, seenEq | ⟨_, stepped⟩⟩ := seen_of_move taken base
  · exact steady_of_seen getEq (by rw [seenEq]) (by rw [seenEq])
  · obtain ⟨cacheEq, pendingEq⟩ := Informer.take_eq_some stepped
    exact steady_of_seen getEq cacheEq pendingEq

/-- A failed sync is queued again. -/
theorem steady_requeue (base : ZFSVolume) (shared : Shared) :
    Steady base shared (shared.setVolumes
      (shared.volumes.requeue base.spec.ownerNodeID base.name)) ∧
    Queued base (shared.setVolumes (shared.volumes.requeue base.spec.ownerNodeID base.name)) := by
  constructor
  · apply steady_of_seen
    · rfl
    · simp [seen, Shared.setVolumes, Resource.requeue, Informer.enqueue]
    · simp [seen, Shared.setVolumes, Resource.requeue, Informer.enqueue]
  · left
    simp [seen, Shared.setVolumes, Resource.requeue, Informer.enqueue]

theorem sound_editing (compile : Compile) (base : ZFSVolume) :
    (editing compile base).Sound fun action config =>
      UserStep base action config ∧ EditsInTime base action config where
  guard := fun meets atCall => meets.2 _ _ atCall
  call := by
    rintro thread op choice before answer after inv ⟨isSyncer, call⟩ current executed
    refine ⟨call.inv inv current (exec_effect executed), ?_⟩
    intro other differs isOther
    exact absurd (isOther.trans isSyncer.symm) differs
  env := by
    intro config move after meets inv moved
    obtain ⟨invAfter, respects⟩ := editEnv_keeps meets.1 meets.2 inv moved
    exact ⟨invAfter, fun other _ => respects⟩
  arrive := by
    intro config arrival thread program after meets inv arrived _
    cases arrival with
    | syncVolume node name =>
        obtain ⟨rfl, rfl⟩ := meets.1
        obtain ⟨volumes, taken, equal⟩ := Option.map_eq_some_iff.mp arrived
        cases equal
        refine ⟨(steady_take taken).inv inv, ?_, editing_work⟩
        exact fun other differs isOther => absurd isOther differs
    | request | syncSnapshot | syncBackup => exact meets.1.elim
  leave := by
    rintro config thread answer _ inv ⟨rfl, result, rfl, _⟩ _
    refine ⟨?_, fun other differs isOther => absurd isOther differs⟩
    cases result with
    | error err => exact (steady_requeue base config.shared).1.inv inv
    | ok done => exact inv

/-! ## Runs -/

/-- The agent has not seen the volume, which is not Ready and has no dataset. -/
structure EditStart (base : ZFSVolume) (start : Config sig Shared Tid Answer) : Prop where
  idle : ∀ thread, start.threads thread = none
  stored : start.shared.volumes.get base.name = some base
  live : base.deletionTimestamp = false
  unready : isVolumeReady base = false
  absent : ¬ OnDisk base start.shared
  unseen : (seen base start.shared).cache base.name = none
  pending : ∀ change ∈ (seen base start.shared).pending, change.name = base.name →
    change = .put base

/-- The agent has seen the volume as it is, and neither syncs it nor will. -/
structure EditQuiet (base : ZFSVolume) (config : Config sig Shared Tid Answer) : Prop where
  idle : config.threads (syncer base) = none
  cache : (seen base config.shared).cache base.name = config.shared.volumes.get base.name
  queue : ¬ Queued base config.shared

section Runs

variable {start config : Config sig Shared Tid Answer}

theorem becomes_of_unready {properties : Go.StringMap} {view : View VolumeInfo State}
    {changes : List (Watch VolumeInfo State)}
    (shown : ∀ old, view base.name = some old → old.status ≠ .ready)
    (changed : ∀ change ∈ changes, change.name = base.name → change.object.status ≠ .ready) :
    Lineage (Becomes base properties) view changes := by
  induction changes generalizing view with
  | nil => trivial
  | cons change changes ih =>
      have first := changed change (.head _)
      refine ⟨fun old found => ⟨fun named ready => ?_, fun named _ ready => ?_⟩, ih ?_ ?_⟩
      · rw [Watch.name_object] at named
        rw [named] at found
        exact absurd ready (shown old found)
      · rw [Watch.name_object] at named
        exact absurd ready (first named)
      · intro old found
        rcases Watch.applyTo_eq_some found with ⟨found, _⟩ | ⟨rfl, named⟩
        · exact shown old found
        · exact first named
      · exact fun later mem => changed later (.tail _ mem)

theorem EditStart.inv (starts : EditStart base start) : EditInv base start.shared := by
  have same : SameVolume base base := by
    refine ⟨rfl, rfl, rfl, rfl, starts.live, fun unset marked => ?_⟩
    simpa [isVolumeReady, unset, marked] using starts.unready
  have unready : base.status ≠ .ready := by
    intro ready
    simpa [same.isVolumeReady_iff.mpr ready] using starts.unready
  constructor
  · exact ⟨base, starts.stored, same⟩
  · intro vol cached
    rw [starts.unseen] at cached
    cases cached
  · exact fun change mem named => ⟨base, starts.pending change mem named, same⟩
  · apply becomes_of_unready
    · intro old cached
      cases starts.unseen.symm.trans cached
    · intro change mem named
      rw [starts.pending change mem named]
      exact unready
  · intro vol stored _
    cases starts.stored.symm.trans stored
    refine ⟨⟨?_, ?_⟩, fun onDisk => absurd onDisk starts.absent⟩
    · intro vol cached
      rw [starts.unseen] at cached
      cases cached
    · intro vol mem named
      cases starts.pending _ mem named
      exact unready
  · intro vol stored ready
    cases starts.stored.symm.trans stored
    exact absurd ready unready

/-- While no sync is running, what the agent sees is on the dataset or queued. -/
def Rests (compile : Compile) (base : ZFSVolume) (config : Config sig Shared Tid Answer) : Prop :=
  (editing compile base).Holds config ∧
    (config.threads (syncer base) = none → Fine base config.shared)

theorem Rests.step {next : Config sig Shared Tid Answer}
    {action : Action Tid Choice EditMove Arrival} (rests : Rests compile base config)
    (meets : UserStep base action config ∧ EditsInTime base action config)
    (stepped : (editedCluster compile).step action config = some next) :
    Rests compile base next := by
  obtain ⟨holds, fine⟩ := rests
  refine ⟨(sound_editing compile base).step holds meets stepped, fun idle => ?_⟩
  rcases System.step_cases stepped with
    ⟨thread, choice, op, rest, answer, rfl, atCall, _, threadsEq⟩ |
    ⟨move, rfl, moved, threadsEq⟩ |
    ⟨arrival, thread, program, rfl, arrived, _, threadsEq⟩ |
    ⟨thread, answer, rfl, finished, sharedEq, threadsEq⟩
  · obtain ⟨rfl, _⟩ := holds.ok_of_call atCall
    rw [threadsEq, Function.update_self] at idle
    cases idle
  · rw [threadsEq] at idle
    exact (editEnv_keeps meets.1 meets.2 holds.1 moved).2.fine (fine idle)
  · cases arrival with
    | syncVolume node name =>
        obtain ⟨rfl, rfl⟩ := meets.1
        obtain ⟨volumes, _, equal⟩ := Option.map_eq_some_iff.mp arrived
        obtain ⟨isThread, _⟩ := Prod.mk.inj equal
        rw [threadsEq, ← isThread] at idle
        cases (Function.update_self ..).symm.trans idle
    | request | syncSnapshot | syncBackup => exact meets.1.elim
  · obtain ⟨rfl, result, rfl, ends⟩ := holds.post_of_ret finished
    rw [sharedEq]
    cases result with
    | error err => exact fun _ _ _ => .inr (steady_requeue base config.shared).2
    | ok done =>
        rcases ends with ⟨err, isError⟩ | fine
        · cases isError
        · exact fine

theorem EditStart.rests (starts : EditStart base start)
    (reached : (editedCluster compile).Reaches (fun action config =>
      UserStep base action config ∧ EditsInTime base action config) start config) :
    Rests compile base config := by
  apply reached.invariant (Rests compile base)
  · refine ⟨⟨starts.inv, ?_⟩, fun _ vol cached _ => ?_⟩
    · intro thread program running
      rw [starts.idle] at running
      cases running
    · rw [starts.unseen] at cached
      cases cached
  · intro middle last action _ rests meets stepped
    exact rests.step meets stepped

end Runs

/-- No edit is lost if the dataset is created from a copy that is current and nobody edits the
volume from then on until it is Ready. -/
theorem property_edits_applied (compile : Compile) {base vol : ZFSVolume}
    {start config : Config sig Shared Tid Answer} (starts : EditStart base start)
    (reached : (editedCluster compile).Reaches (fun action config =>
      UserStep base action config ∧ EditsInTime base action config) start config)
    (quiescent : EditQuiet base config)
    (stored : config.shared.volumes.get base.name = some vol) (ready : isVolumeReady vol = true) :
    OnDisk base config.shared ∧
      ∀ property value, (property, value) ∈ editableProperties vol →
        (diskProperties base config.shared).lookup property = some value := by
  obtain ⟨⟨inv, _⟩, fine⟩ := starts.rests reached
  obtain ⟨other, stored', same⟩ := inv.stored
  cases stored.symm.trans stored'
  rw [same.isVolumeReady_iff] at ready
  refine ⟨inv.ready vol stored ready, ?_⟩
  rcases fine quiescent.idle vol (quiescent.cache.trans stored) ready with applied | queued
  · exact applied
  · exact absurd queued quiescent.queue

/-! ## An edit that is lost -/

instance (base : ZFSVolume) (shared : Shared) : Decidable (OnDisk base shared) :=
  inferInstanceAs (Decidable (_ = true))

instance (stored vol : ZFSVolume) : Decidable (Edits stored vol) :=
  inferInstanceAs (Decidable (vol = _))

instance (base : ZFSVolume) (action : Action Tid Choice EditMove Arrival)
    (config : Config sig Shared Tid Answer) : Decidable (UserStep base action config) :=
  match action with
  | .env (.edit _) | .env (.other _) | .arrive (.request _ _) | .arrive (.syncVolume _ _)
  | .arrive (.syncSnapshot _ _) | .arrive (.syncBackup _ _) | .call _ _ | .leave _ => by
      dsimp only [UserStep]
      infer_instance

instance (base : ZFSVolume) (action : Action Tid Choice EditMove Arrival)
    (config : Config sig Shared Tid Answer) : Decidable (EditsInTime base action config) :=
  match action with
  | .env (.edit _) | .env (.other _) | .call _ _ | .arrive _ | .leave _ => by
      dsimp only [EditsInTime]
      infer_instance

/-- A volume whose creation has been asked for. -/
def pendingVolume : ZFSVolume :=
  { readyVolume with
    finalizers := []
    spec := { readyVolume.spec with compression := "off" }
    status := .pending }

def pendingStart : Config sig Shared Tid Answer :=
  idle
    { volumes := Resource.empty.commit (.put pendingVolume)
      storage := fun _ => { parents := ["p"] } }

theorem editStart_pendingStart : EditStart pendingVolume pendingStart where
  idle := fun _ => rfl
  stored := by decide
  live := rfl
  unready := by decide
  absent := by decide
  unseen := rfl
  pending := by
    intro change mem _
    exact List.mem_singleton.mp mem

/-- The agent sees the last change of the volume. -/
def seeChange : List (Action Tid Choice EditMove Arrival) :=
  [.env (.other (.deliverVolume "a" "v")), .env (.other (.handleVolume "a"))]

/-- The worker makes a number of calls. -/
def workerCalls (count : Nat) : List (Action Tid Choice EditMove Arrival) :=
  List.replicate count (.call (.volume "a" "v") {})

/-- A whole sync. -/
def wholeSync (count : Nat) : List (Action Tid Choice EditMove Arrival) :=
  .arrive (.syncVolume "a" "v") :: workerCalls count ++ [.leave (.volume "a" "v")]

/-- A user turns compression on. -/
def turnOn (stored : ZFSVolume) : Action Tid Choice EditMove Arrival :=
  .env (.edit { stored with spec := { stored.spec with compression := "on" } })

/-- The edit is made when the dataset exists and the volume is not Ready. The status update
is refused, and the next sync finds the dataset. -/
def lostEditRun : List (Action Tid Choice EditMove Arrival) :=
  seeChange ++ [.arrive (.syncVolume "a" "v")] ++ workerCalls 3 ++ [turnOn pendingVolume] ++
    workerCalls 1 ++ [.leave (.volume "a" "v")] ++ seeChange ++ wholeSync 3 ++ seeChange

/-- The agent is at rest and the volume is Ready with compression turned on. -/
def restsWith (onDisk : String) (config : Config sig Shared Tid Answer) : Bool :=
  (config.threads (.volume "a" "v")).isNone &&
  decide ((seen pendingVolume config.shared).cache "v" = config.shared.volumes.get "v" ∧
    (seen pendingVolume config.shared).queue = [] ∧
    (seen pendingVolume config.shared).events = [] ∧
    OnDisk pendingVolume config.shared ∧
    (diskProperties pendingVolume config.shared).lookup "compression" = some onDisk) &&
  (config.shared.volumes.get "v").any fun vol =>
    isVolumeReady vol && decide (("compression", "on") ∈ editableProperties vol)

theorem rests_of_restsWith {onDisk : String} {config : Config sig Shared Tid Answer}
    (rests : restsWith onDisk config = true) :
    EditQuiet pendingVolume config ∧ OnDisk pendingVolume config.shared ∧
      (diskProperties pendingVolume config.shared).lookup "compression" = some onDisk ∧
      ∃ vol, config.shared.volumes.get pendingVolume.name = some vol ∧
        isVolumeReady vol = true ∧ ("compression", "on") ∈ editableProperties vol := by
  simp only [restsWith, Bool.and_eq_true, Option.isNone_iff_eq_none, decide_eq_true_eq,
    Option.any_eq_true] at rests
  obtain ⟨⟨idle, cache, queue, events, present, disk⟩, vol, stored, ready, edited⟩ := rests
  refine ⟨⟨idle, cache, ?_⟩, present, disk, vol, stored, ready, edited⟩
  unfold Queued
  simp [queue, events]

/-- The volume is Ready with the edit, and the dataset has the old value. -/
theorem property_edit_lost :
    EditStart pendingVolume pendingStart ∧
    ∃ config, (editedCluster noRegexp).Reaches (UserStep pendingVolume) pendingStart config ∧
      EditQuiet pendingVolume config ∧ OnDisk pendingVolume config.shared ∧
      (diskProperties pendingVolume config.shared).lookup "compression" = some "off" ∧
      ∃ vol, config.shared.volumes.get pendingVolume.name = some vol ∧
        isVolumeReady vol = true ∧ ("compression", "on") ∈ editableProperties vol := by
  refine ⟨editStart_pendingStart, ?_⟩
  have ran : ((editedCluster noRegexp).run (UserStep pendingVolume) lostEditRun pendingStart).any
      (restsWith "off") = true := by
    decide +kernel
  obtain ⟨config, reached, rests⟩ := System.exists_reaches_of_run ran
  exact ⟨config, reached, rests_of_restsWith rests⟩

/-- The edit is made when the volume is Ready. -/
def settledEditRun : List (Action Tid Choice EditMove Arrival) :=
  seeChange ++ wholeSync 4 ++ seeChange ++
    [turnOn (settledVolume "a" { pendingVolume with resourceVersion := 2 } .ready)] ++
    seeChange ++ wholeSync 2

theorem property_edits_applied_settled :
    EditStart pendingVolume pendingStart ∧
    ∃ config, (editedCluster noRegexp).Reaches (fun action config =>
        UserStep pendingVolume action config ∧ EditsInTime pendingVolume action config)
        pendingStart config ∧
      EditQuiet pendingVolume config ∧
      (diskProperties pendingVolume config.shared).lookup "compression" = some "on" := by
  refine ⟨editStart_pendingStart, ?_⟩
  have ran : ((editedCluster noRegexp).run (fun action config =>
      UserStep pendingVolume action config ∧ EditsInTime pendingVolume action config)
      settledEditRun pendingStart).any (restsWith "on") = true := by
    decide +kernel
  obtain ⟨config, reached, rests⟩ := System.exists_reaches_of_run ran
  obtain ⟨quiescent, _, _, vol, stored, ready, edited⟩ := rests_of_restsWith rests
  exact ⟨config, reached, quiescent,
    (property_edits_applied noRegexp editStart_pendingStart reached quiescent stored ready).2
      _ _ edited⟩

end ZfsLocalPv.Properties

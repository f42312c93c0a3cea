import ZfsLocalPv.ApiServer.Lineage
import ZfsLocalPv.Cluster.Rules

/-!
# Edits of volume properties

A user may edit some properties of a ZFSVolume at any time. A dataset is created with the values
of the agent's copy, and a change of a Ready volume is set on the dataset. An agent that finds
the dataset of a volume that is not yet Ready takes it as it is, so an edit made after the copy
was read is lost.

If the dataset is created from a current copy and nobody edits the volume until it is Ready, a
cached Ready volume has its values on the dataset, or a notification, a queued name or a running
sync is left that will set them.
-/

namespace ZfsLocalPv.Properties

open Api ApiServer Driver Interaction Zfs Cluster

/-! ## Editable properties -/

section Editable

variable {vol other : ZFSVolume} {property value : String}

/-- The editable properties that have a value. -/
def editableProperties (vol : ZFSVolume) : Go.StringMap :=
  (if vol.spec.volumeType = .dataset then
    assignment "recordsize" vol.spec.recordSize ++ assignment "atime" vol.spec.aTime
  else
    []) ++
  assignment "dedup" vol.spec.dedup ++
  assignment "compression" vol.spec.compression ++
  assignment "logbias" vol.spec.logBias

/-- Every editable property that has a value is set to it. -/
def Applied (properties : Go.StringMap) (vol : ZFSVolume) : Prop :=
  ∀ property value, (property, value) ∈ editableProperties vol →
    properties.lookup property = some value

theorem buildVolumeSetArgs_eq (vol : ZFSVolume) :
    buildVolumeSetArgs vol = editableProperties vol ++ vol.spec.userProperties :=
  rfl

@[simp]
theorem mem_assignment {name given : String} :
    (property, value) ∈ assignment name given ↔ given ≠ "" ∧ property = name ∧ value = given := by
  unfold assignment
  split <;> simp_all

theorem mem_editableProperties : (property, value) ∈ editableProperties vol ↔
    (vol.spec.volumeType = .dataset ∧
      ((property, value) ∈ assignment "recordsize" vol.spec.recordSize ∨
        (property, value) ∈ assignment "atime" vol.spec.aTime)) ∨
    (property, value) ∈ assignment "dedup" vol.spec.dedup ∨
    (property, value) ∈ assignment "compression" vol.spec.compression ∨
    (property, value) ∈ assignment "logbias" vol.spec.logBias := by
  unfold editableProperties
  split <;> simp_all [or_assoc]

/-- A property has one value. -/
theorem editableProperties_unique {given : String}
    (mem : (property, value) ∈ editableProperties vol)
    (otherMem : (property, given) ∈ editableProperties vol) : given = value := by
  simp only [mem_editableProperties, mem_assignment] at mem otherMem
  grind

/-- No editable property is a user property. -/
theorem not_reserved_of_editable (mem : (property, value) ∈ editableProperties vol) :
    Go.startsWith property "openebs.io:" = false := by
  simp only [mem_editableProperties, mem_assignment] at mem
  rcases mem with ⟨_, ⟨_, rfl, _⟩ | ⟨_, rfl, _⟩⟩ | ⟨_, rfl, _⟩ | ⟨_, rfl, _⟩ | ⟨_, rfl, _⟩ <;>
    decide +kernel

theorem reserved_of_validate {properties : Go.StringMap}
    (valid : VolumeInfo.validate.go properties = .ok ()) :
    ∀ entry ∈ properties, Go.startsWith entry.1 "openebs.io:" = true := by
  induction properties with
  | nil => simp
  | cons entry properties ih =>
      obtain ⟨name, given⟩ := entry
      simp only [VolumeInfo.validate.go] at valid
      split at valid
      · contradiction
      · split at valid
        · rename_i reserved
          intro entry mem
          rcases List.mem_cons.mp mem with rfl | mem
          · exact reserved
          · exact ih valid entry mem
        · contradiction

/-- `zfs set` applies the editable properties. -/
theorem applied_merge {properties : Go.StringMap} (valid : vol.spec.validate = .ok ()) :
    Applied (Go.StringMap.merge properties (buildVolumeSetArgs vol)) vol := by
  intro property value mem
  rw [buildVolumeSetArgs_eq]
  apply Go.StringMap.lookup_merge_of_agree
  · rintro ⟨_, given⟩ entryMem rfl
    rcases List.mem_append.mp entryMem with editable | user
    · exact editableProperties_unique mem editable
    · have reserved := reserved_of_validate valid _ user
      rw [not_reserved_of_editable mem] at reserved
      contradiction
  · exact .inr ⟨(property, value), List.mem_append_left _ mem, rfl⟩

theorem Applied.congr {properties : Go.StringMap} (applied : Applied properties vol)
    (same : editableProperties other = editableProperties vol) : Applied properties other := by
  unfold Applied
  rw [same]
  exact applied

/-- An update that the event filter drops changes no editable property. -/
theorem editableProperties_eq_of_not_changed (kind : other.spec.volumeType = vol.spec.volumeType)
    (unchanged : propertyChanged vol other = false) :
    editableProperties other = editableProperties vol := by
  unfold propertyChanged at unchanged
  unfold editableProperties
  rw [kind] at unchanged ⊢
  simp only [Bool.or_eq_false_iff, decide_eq_false_iff_not, not_or, not_and, not_not,
    and_self_left] at unchanged
  obtain ⟨⟨ofDataset, compression, dedup, logBias⟩, _⟩ := unchanged
  rw [compression, dedup, logBias]
  split
  · rename_i isDataset
    rw [(ofDataset isDataset).1, (ofDataset isDataset).2]
  · rfl

theorem mem_iff_of_mapsEqual {first second : Go.StringMap} (firstUnique : first.HasUniqueKeys)
    (secondUnique : second.HasUniqueKeys) (equal : mapsEqual first second = true) :
    (property, value) ∈ first ↔ (property, value) ∈ second := by
  simp only [mapsEqual, Bool.and_eq_true, List.all_eq_true, decide_eq_true_eq] at equal
  constructor
  · intro mem
    have read := equal.1 (property, value) mem
    rw [Go.StringMap.mem_iff_lookup secondUnique, read]
    exact (Go.StringMap.mem_iff_lookup firstUnique).mp mem
  · intro mem
    have read := equal.2 (property, value) mem
    rw [Go.StringMap.mem_iff_lookup firstUnique, read]
    exact (Go.StringMap.mem_iff_lookup secondUnique).mp mem

theorem mapsEqual_of_not_changed (unchanged : propertyChanged vol other = false) :
    mapsEqual vol.spec.userProperties other.spec.userProperties = true := by
  simp only [propertyChanged, Bool.or_eq_false_iff, Bool.not_eq_false'] at unchanged
  exact unchanged.2

/-- `SetVolumeProp` returns early if there is nothing to set. -/
theorem setVolumeProp_returns_iff (node : String) (vol : ZFSVolume) :
    setVolumeProp node vol = .ret (.ok ()) ↔ buildVolumeSetArgs vol = [] := by
  have empty : buildVolumeSetArgs vol = [] ↔ vol.spec.compression = "" ∧ vol.spec.dedup = "" ∧
      vol.spec.logBias = "" ∧ vol.spec.userProperties = [] ∧
      (vol.spec.volumeType ≠ .dataset ∨ (vol.spec.recordSize = "" ∧ vol.spec.aTime = "")) := by
    simp only [buildVolumeSetArgs, assignment, List.append_eq_nil_iff]
    by_cases isDataset : vol.spec.volumeType = .dataset
    · simp [isDataset]
      tauto
    · simp [isDataset]
      tauto
  rw [empty, setVolumeProp]
  split
  · rename_i nothing
    exact iff_of_true rfl nothing
  · rename_i something
    exact iff_of_false nofun something

/-- What an update may change without being noticed is not set, and nothing is set exactly if
there is nothing to set. -/
theorem watched_guarded_applied {old new : ZFSVolume} (name : new.name = old.name)
    (pool : new.spec.poolName = old.spec.poolName)
    (kind : new.spec.volumeType = old.spec.volumeType)
    (oldUnique : old.spec.userProperties.HasUniqueKeys)
    (newUnique : new.spec.userProperties.HasUniqueKeys) :
    (propertyChanged old new = false → datasetOf new = datasetOf old ∧
      ∀ assigned, assigned ∈ buildVolumeSetArgs old ↔ assigned ∈ buildVolumeSetArgs new) ∧
    ∀ node vol, setVolumeProp node vol = .ret (.ok ()) ↔ buildVolumeSetArgs vol = [] := by
  refine ⟨fun unchanged => ⟨?_, ?_⟩, setVolumeProp_returns_iff⟩
  · unfold datasetOf
    rw [name, pool]
  · rintro ⟨property, value⟩
    rw [buildVolumeSetArgs_eq, buildVolumeSetArgs_eq, List.mem_append, List.mem_append,
      editableProperties_eq_of_not_changed kind unchanged,
      mem_iff_of_mapsEqual oldUnique newUnique (mapsEqual_of_not_changed unchanged)]

/-- Two user properties in another order. -/
theorem watched_guarded_applied_reordered :
    let first : ZFSVolume := { name := "v", status := .ready, spec := {
      volumeType := .dataset, compression := "on", recordSize := "4k"
      userProperties := [("openebs.io:a", "1"), ("openebs.io:b", "2")] } }
    let second : ZFSVolume := { first with spec := { first.spec with
      capacity := "1", userProperties := [("openebs.io:b", "2"), ("openebs.io:a", "1")] } }
    propertyChanged first second = false ∧
      ∀ assigned, assigned ∈ buildVolumeSetArgs first ↔ assigned ∈ buildVolumeSetArgs second := by
  intro first second
  have unchanged : propertyChanged first second = false := by decide
  have firstUnique : first.spec.userProperties.HasUniqueKeys := by
    unfold Go.StringMap.HasUniqueKeys
    decide
  have secondUnique : second.spec.userProperties.HasUniqueKeys := by
    unfold Go.StringMap.HasUniqueKeys
    decide
  have name : second.name = first.name := rfl
  exact ⟨unchanged,
    ((watched_guarded_applied name rfl rfl firstUnique secondUnique).1 unchanged).2⟩

end Editable

/-! ## The cluster with a user -/

/-- A user edits a volume, or something else moves. -/
inductive EditMove
  | edit (vol : ZFSVolume)
  | other (move : Move)

def editEnv : EditMove → Shared → Option Shared
  | .edit vol, shared => (shared.volumes.update vol).toOption.map shared.setVolumes
  | .other move, shared => env move shared

/-- The cluster in which users edit volumes. -/
def editedCluster (compile : Compile) : System sig Shared Tid Choice Answer EditMove Arrival where
  exec := exec
  env := editEnv
  arrive := arrive compile
  leave := leave

instance (compile : Compile) : Executes (editedCluster compile) :=
  ⟨rfl⟩

/-- The user changes editable properties and nothing else. -/
def Edits (stored vol : ZFSVolume) : Prop :=
  vol = { stored with
    spec := { stored.spec with
      recordSize := vol.spec.recordSize
      aTime := vol.spec.aTime
      dedup := vol.spec.dedup
      compression := vol.spec.compression
      logBias := vol.spec.logBias } }

/-! ## What is known of the volume -/

/-- The volume is where it was and is not deleted, and its status says whether it is
Ready. -/
structure SameVolume (base vol : ZFSVolume) : Prop where
  name : vol.name = base.name
  owner : vol.spec.ownerNodeID = base.spec.ownerNodeID
  pool : vol.spec.poolName = base.spec.poolName
  kind : vol.spec.volumeType = base.spec.volumeType
  live : vol.deletionTimestamp = false
  plain : vol.status = .unset → ZFSFinalizer ∉ vol.finalizers

theorem SameVolume.isVolumeReady_iff {base vol : ZFSVolume} (same : SameVolume base vol) :
    isVolumeReady vol = true ↔ vol.status = .ready := by
  unfold isVolumeReady
  split
  · exact decide_eq_true_iff
  · rename_i unset
    rw [not_not] at unset
    simp [unset, same.plain unset]

theorem SameVolume.datasetOf_eq {base vol : ZFSVolume} (same : SameVolume base vol) :
    datasetOf vol = datasetOf base := by
  unfold datasetOf
  rw [same.name, same.pool]

section Known

variable (base : ZFSVolume) (shared : Shared)

/-- What the agent of the owner sees. -/
def seen : Informer VolumeInfo State :=
  shared.volumes.informers base.spec.ownerNodeID

/-- The dataset exists. -/
def OnDisk : Prop :=
  (shared.storage base.spec.ownerNodeID).hasDataset (datasetOf base) = true

def diskProperties : Go.StringMap :=
  (shared.storage base.spec.ownerNodeID).propertiesAt (datasetOf base)

/-- The agent has not seen and will not see the volume Ready. -/
structure SeenUnready : Prop where
  cached : ∀ vol, (seen base shared).cache base.name = some vol → vol.status ≠ .ready
  pending : ∀ vol, .put vol ∈ (seen base shared).pending → vol.name = base.name →
    vol.status ≠ .ready

/-- The volume stays Ready, and when it becomes Ready its properties are on the dataset. -/
structure Becomes (properties : Go.StringMap) (old new : ZFSVolume) : Prop where
  ready : new.name = base.name → old.status = .ready → new.status = .ready
  applied : new.name = base.name → old.status ≠ .ready → new.status = .ready →
    Applied properties new

structure EditInv : Prop where
  stored : ∃ vol, shared.volumes.get base.name = some vol ∧ SameVolume base vol
  cached : ∀ vol, (seen base shared).cache base.name = some vol → SameVolume base vol
  pending : ∀ change ∈ (seen base shared).pending, change.name = base.name →
    ∃ vol, change = .put vol ∧ SameVolume base vol
  lineage : shared.volumes.Lineage (Becomes base (diskProperties base shared))
    base.spec.ownerNodeID
  unready : ∀ vol, shared.volumes.get base.name = some vol → vol.status ≠ .ready →
    SeenUnready base shared ∧ (OnDisk base shared → Applied (diskProperties base shared) vol)
  ready : ∀ vol, shared.volumes.get base.name = some vol → vol.status = .ready →
    OnDisk base shared

/-- The name is queued, or a notification will queue it. -/
def Queued : Prop :=
  base.name ∈ (seen base shared).queue ∨
    ∃ event ∈ (seen base shared).events,
      Mgmt.wantsVolume base.spec.ownerNodeID event = true ∧ event.name = base.name

/-- What the agent sees of a Ready volume is on the dataset, or the agent will look again. -/
def Fine : Prop :=
  ∀ vol, (seen base shared).cache base.name = some vol → vol.status = .ready →
    Applied (diskProperties base shared) vol ∨ Queued base shared

/-- A copy of the Ready volume has the properties the agent sees, or the agent will look
again. -/
def Matches (copy : ZFSVolume) : Prop :=
  ∃ vol, (seen base shared).cache base.name = some vol ∧ vol.status = .ready ∧
    (editableProperties copy = editableProperties vol ∨ Queued base shared)

end Known

/-! ## Steps of the volumes -/

section Steps

variable {base copy : ZFSVolume} {shared after : Shared}
  {change : Watch VolumeInfo State} {earlier later : List (Watch VolumeInfo State)}

/-- Neither the volume, nor what the agent sees and will see of it, nor the dataset has
changed, and the agent will look if it would have. -/
structure Steady (base : ZFSVolume) (shared after : Shared) : Prop where
  get : after.volumes.get base.name = shared.volumes.get base.name
  cache : (seen base after).cache = (seen base shared).cache
  pending : (seen base after).pending = (seen base shared).pending
  storage : after.storage base.spec.ownerNodeID = shared.storage base.spec.ownerNodeID

theorem Steady.inv (steady : Steady base shared after) (inv : EditInv base shared) :
    EditInv base after := by
  have properties : diskProperties base after = diskProperties base shared := by
    unfold diskProperties
    rw [steady.storage]
  have onDisk : OnDisk base after ↔ OnDisk base shared := by
    unfold OnDisk
    rw [steady.storage]
  constructor
  · rw [steady.get]
    exact inv.stored
  · rw [steady.cache]
    exact inv.cached
  · rw [steady.pending]
    exact inv.pending
  · have lineage : Lineage (Becomes base (diskProperties base shared)) (seen base shared).cache
        (seen base shared).pending := inv.lineage
    rw [← steady.cache, ← steady.pending, ← properties] at lineage
    exact lineage
  · intro vol stored unready
    rw [steady.get] at stored
    obtain ⟨⟨cached, pending⟩, applied⟩ := inv.unready vol stored unready
    rw [properties, onDisk]
    rw [← steady.cache] at cached
    rw [← steady.pending] at pending
    exact ⟨⟨cached, pending⟩, applied⟩
  · intro vol stored ready
    rw [steady.get] at stored
    exact onDisk.mpr (inv.ready vol stored ready)

theorem Steady.fine (steady : Steady base shared after)
    (queued : Queued base shared → Queued base after) (fine : Fine base shared) :
    Fine base after := by
  intro vol cached ready
  rw [steady.cache] at cached
  unfold diskProperties
  rw [steady.storage]
  exact (fine vol cached ready).imp_right queued

theorem Steady.matches (steady : Steady base shared after)
    (queued : Queued base shared → Queued base after) (isMatch : Matches base shared copy) :
    Matches base after copy := by
  obtain ⟨vol, cached, ready, same⟩ := isMatch
  rw [← steady.cache] at cached
  exact ⟨vol, cached, ready, same.imp_right queued⟩

/-! ### Writes -/

/-- A write of another volume. -/
theorem EditInv.commit_other (inv : EditInv base shared) (differs : change.name ≠ base.name) :
    EditInv base (shared.setVolumes (shared.volumes.commit change)) := by
  have getEq : (shared.volumes.commit change).get base.name = shared.volumes.get base.name :=
    Resource.get_commit_of_ne (Ne.symm differs)
  constructor
  · exact getEq ▸ inv.stored
  · exact inv.cached
  · intro other mem named
    rcases List.mem_append.mp mem with mem | mem
    · exact inv.pending other mem named
    · rw [List.mem_singleton.mp mem, Watch.name_stamp] at named
      exact absurd named differs
  · apply Resource.Lineage.commit inv.lineage
    intro old _
    have other : (change.stamp (shared.volumes.revision + 1)).object.name ≠ base.name := by
      rwa [Watch.name_object, Watch.name_stamp]
    exact ⟨fun named => absurd named other, fun named => absurd named other⟩
  · intro vol stored unready
    have stored : shared.volumes.get base.name = some vol := getEq ▸ stored
    obtain ⟨unseen, applied⟩ := inv.unready vol stored unready
    refine ⟨⟨unseen.cached, fun put mem named => ?_⟩, applied⟩
    rcases List.mem_append.mp mem with mem | mem
    · exact unseen.pending put mem named
    · have isChange := congrArg Watch.name (List.mem_singleton.mp mem)
      rw [Watch.name_stamp, Watch.name_put, named] at isChange
      exact absurd isChange.symm differs
  · intro vol stored ready
    have stored : shared.volumes.get base.name = some vol := getEq ▸ stored
    exact inv.ready vol stored ready

/-- A write of the volume. -/
theorem EditInv.commit_put (inv : EditInv base shared) {old new : ZFSVolume}
    (stored : shared.volumes.get base.name = some old) (same : SameVolume base new)
    (becomes : Becomes base (diskProperties base shared) old new)
    (unready : new.status ≠ .ready → OnDisk base shared → Applied (diskProperties base shared) new)
    (ready : new.status = .ready → OnDisk base shared) :
    EditInv base (shared.setVolumes (shared.volumes.commit (.put new))) := by
  have getEq : (shared.volumes.commit (.put new)).get base.name =
      some { new with resourceVersion := shared.volumes.revision + 1 } := by
    rw [← same.name]
    exact Resource.get_commit_put ..
  have restamped (version : Nat) : SameVolume base { new with resourceVersion := version } :=
    ⟨same.name, same.owner, same.pool, same.kind, same.live, same.plain⟩
  constructor
  · exact ⟨_, getEq, restamped _⟩
  · exact inv.cached
  · intro other mem named
    rcases List.mem_append.mp mem with mem | mem
    · exact inv.pending other mem named
    · exact ⟨_, List.mem_singleton.mp mem, restamped _⟩
  · apply Resource.Lineage.commit inv.lineage
    intro other found
    rw [Watch.name_stamp, Watch.name_put, same.name, stored] at found
    cases found
    exact ⟨becomes.ready, becomes.applied⟩
  · intro vol found isUnready
    cases getEq.symm.trans found
    have before : old.status ≠ .ready := fun isReady => isUnready (becomes.ready same.name isReady)
    refine ⟨⟨(inv.unready old stored before).1.cached, fun put mem named => ?_⟩, unready isUnready⟩
    rcases List.mem_append.mp mem with mem | mem
    · exact (inv.unready old stored before).1.pending put mem named
    · cases List.mem_singleton.mp mem
      exact isUnready
  · intro vol found isReady
    cases getEq.symm.trans found
    exact ready isReady

/-! ### Deliveries -/

/-- The agent has seen one more change and its handlers are notified of it. -/
structure Delivers (base : ZFSVolume) (shared after : Shared) (change : Watch VolumeInfo State)
    (earlier later : List (Watch VolumeInfo State)) : Prop where
  get : after.volumes.get = shared.volumes.get
  storage : after.storage = shared.storage
  replayed : (seen base shared).Replayed (seen base after) change earlier later
  events : (seen base after).events = (seen base shared).events ++
    [Informer.notification (seen base shared).cache change]
  queue : (seen base after).queue = (seen base shared).queue

theorem Delivers.queued (delivers : Delivers base shared after change earlier later)
    (queued : Queued base shared) : Queued base after := by
  unfold Queued
  rw [delivers.queue, delivers.events]
  rcases queued with inQueue | ⟨event, mem, wanted, named⟩
  · exact .inl inQueue
  · exact .inr ⟨event, List.mem_append_left _ mem, wanted, named⟩

/-- The handlers want the notification. -/
theorem Delivers.queued_of_wanted (delivers : Delivers base shared after change earlier later)
    (wanted : Mgmt.wantsVolume base.spec.ownerNodeID
      (Informer.notification (seen base shared).cache change) = true)
    (named : (Informer.notification (seen base shared).cache change).name = base.name) :
    Queued base after := by
  refine .inr ⟨_, ?_, wanted, named⟩
  rw [delivers.events]
  exact List.mem_append_right _ (List.mem_singleton_self _)

theorem Delivers.cached_of_ne (delivers : Delivers base shared after change earlier later)
    (differs : change.name ≠ base.name) :
    (seen base after).cache base.name = (seen base shared).cache base.name := by
  rw [delivers.replayed.cacheEq]
  exact Watch.applyTo_of_ne (Ne.symm differs) _

theorem Delivers.inv (delivers : Delivers base shared after change earlier later)
    (inv : EditInv base shared) : EditInv base after := by
  have properties : diskProperties base after = diskProperties base shared := by
    unfold diskProperties
    rw [delivers.storage]
  have onDisk : OnDisk base after ↔ OnDisk base shared := by
    unfold OnDisk
    rw [delivers.storage]
  have shown {vol : ZFSVolume} (cached : (seen base after).cache base.name = some vol) :
      (seen base shared).cache base.name = some vol ∨
        (.put vol ∈ (seen base shared).pending ∧ vol.name = base.name) := by
    rw [delivers.replayed.cacheEq] at cached
    rcases Watch.applyTo_eq_some cached with ⟨cached, _⟩ | ⟨rfl, named⟩
    · exact .inl cached
    · exact .inr ⟨delivers.replayed.change_mem, named⟩
  constructor
  · rw [delivers.get]
    exact inv.stored
  · intro vol cached
    rcases shown cached with cached | ⟨mem, named⟩
    · exact inv.cached vol cached
    · obtain ⟨put, isPut, same⟩ := inv.pending _ mem named
      cases isPut
      exact same
  · exact fun other mem named => inv.pending other (delivers.replayed.mem_pending mem) named
  · rw [properties]
    exact (inv.lineage.replayed delivers.replayed).2
  · intro vol stored unready
    rw [delivers.get] at stored
    obtain ⟨unseen, applied⟩ := inv.unready vol stored unready
    rw [properties, onDisk]
    refine ⟨⟨fun vol cached => ?_, fun vol mem named => ?_⟩, applied⟩
    · rcases shown cached with cached | ⟨mem, named⟩
      · exact unseen.cached vol cached
      · exact unseen.pending vol mem named
    · exact unseen.pending vol (delivers.replayed.mem_pending mem) named
  · intro vol stored ready
    rw [delivers.get] at stored
    exact onDisk.mpr (inv.ready vol stored ready)

/-- The volume as it is seen next: a notification is wanted, or no editable property has
changed and the volume was Ready or its properties are on the dataset. -/
theorem Delivers.next (delivers : Delivers base shared after change earlier later)
    (inv : EditInv base shared) (named : change.name = base.name) :
    ∃ new, (seen base after).cache base.name = some new ∧
      (Queued base after ∨ ∃ old, (seen base shared).cache base.name = some old ∧
        editableProperties new = editableProperties old) ∧
      ∀ old, (seen base shared).cache base.name = some old →
        Becomes base (diskProperties base shared) old new := by
  obtain ⟨new, rfl, same⟩ := inv.pending change delivers.replayed.change_mem named
  have continues := (inv.lineage.replayed delivers.replayed).1
  have shown : (seen base after).cache base.name = some new := by
    rw [delivers.replayed.cacheEq, ← same.name]
    exact Watch.applyTo_self ..
  refine ⟨new, shown, ?_, fun old cached => continues old (by rwa [Watch.name_put, same.name])⟩
  cases cached : (seen base shared).cache base.name with
  | none =>
      left
      apply delivers.queued_of_wanted
      · simp [Informer.notification, same.name, cached, Mgmt.wantsVolume, Mgmt.addZV, same.owner]
      · simp [Informer.notification, same.name, cached, Event.name]
  | some old =>
      cases changed : propertyChanged old new with
      | true =>
          left
          apply delivers.queued_of_wanted
          · simp [Informer.notification, same.name, cached, Mgmt.wantsVolume, Mgmt.updateZV,
              same.owner, changed]
          · simp [Informer.notification, same.name, cached, Event.name]
      | false =>
          refine .inr ⟨old, rfl, editableProperties_eq_of_not_changed ?_ changed⟩
          rw [same.kind, (inv.cached old cached).kind]

theorem Delivers.fine (delivers : Delivers base shared after change earlier later)
    (inv : EditInv base shared) (fine : Fine base shared) : Fine base after := by
  have properties : diskProperties base after = diskProperties base shared := by
    unfold diskProperties
    rw [delivers.storage]
  intro vol cached ready
  rw [properties]
  by_cases named : change.name = base.name
  · obtain ⟨new, shown, queued | ⟨old, before, sameProperties⟩, becomes⟩ := delivers.next inv named
    · exact .inr queued
    · cases shown.symm.trans cached
      have becomes := becomes old before
      by_cases wasReady : old.status = .ready
      · rcases fine old before wasReady with applied | queued
        · exact .inl (applied.congr sameProperties)
        · exact .inr (delivers.queued queued)
      · exact .inl (becomes.applied ((delivers.inv inv).cached _ cached).name wasReady ready)
  · rw [delivers.cached_of_ne named] at cached
    exact (fine vol cached ready).imp_right delivers.queued

theorem Delivers.matches (delivers : Delivers base shared after change earlier later)
    (inv : EditInv base shared) (isMatch : Matches base shared copy) : Matches base after copy := by
  obtain ⟨vol, cached, ready, same⟩ := isMatch
  by_cases named : change.name = base.name
  · obtain ⟨new, shown, next, becomes⟩ := delivers.next inv named
    have isReady := (becomes vol cached).ready ((delivers.inv inv).cached _ shown).name ready
    refine ⟨new, shown, isReady, ?_⟩
    rcases next with queued | ⟨old, before, sameProperties⟩
    · exact .inr queued
    · cases cached.symm.trans before
      exact same.imp (fun same => same.trans sameProperties.symm) delivers.queued
  · rw [← delivers.cached_of_ne named] at cached
    exact ⟨vol, cached, ready, same.imp_right delivers.queued⟩

/-! ### The environment -/

/-- What a move of the environment can do to the volume. -/
inductive EnvStep (base : ZFSVolume) (shared after : Shared) : Prop
  | steady (steady : Steady base shared after) (queued : Queued base shared → Queued base after)
  | delivers (change : Watch VolumeInfo State) (earlier later : List (Watch VolumeInfo State))
      (delivers : Delivers base shared after change earlier later)
  | writes (change : Watch VolumeInfo State) (differs : change.name ≠ base.name)
      (afterEq : after = shared.setVolumes (shared.volumes.commit change))

/-- An informer moves: that of the owner or another one. -/
theorem seen_of_move {node : String}
    {step : Informer VolumeInfo State → Option (Informer VolumeInfo State)}
    {keeps : Informer.KeepsTrack step} {volumes : Resource VolumeInfo State}
    (moved : shared.volumes.move node step keeps = some volumes) (base : ZFSVolume) :
    volumes.get = shared.volumes.get ∧
      (seen base (shared.setVolumes volumes) = seen base shared ∨
        (node = base.spec.ownerNodeID ∧
          step (seen base shared) = some (seen base (shared.setVolumes volumes)))) := by
  obtain ⟨_, storeEq, _, informer, stepped, informersEq⟩ := Resource.move_eq_some moved
  constructor
  · unfold Resource.get
    rw [storeEq]
  · by_cases isOwner : base.spec.ownerNodeID = node
    · subst isOwner
      have nextEq : seen base (shared.setVolumes volumes) = informer := by
        simp [seen, Shared.setVolumes, informersEq]
      rw [nextEq]
      exact .inr ⟨rfl, stepped⟩
    · left
      simp [seen, Shared.setVolumes, informersEq, isOwner]

theorem steady_of_seen {volumes : Resource VolumeInfo State}
    (getEq : volumes.get = shared.volumes.get)
    (cacheEq : (seen base (shared.setVolumes volumes)).cache = (seen base shared).cache)
    (pendingEq : (seen base (shared.setVolumes volumes)).pending = (seen base shared).pending) :
    Steady base shared (shared.setVolumes volumes) where
  get := congrFun getEq base.name
  cache := cacheEq
  pending := pendingEq
  storage := rfl

theorem Queued.congr (queued : Queued base shared) (seenEq : seen base after = seen base shared) :
    Queued base after := by
  unfold Queued
  rw [seenEq]
  exact queued

theorem Queued.resync {name : String} (queued : Queued base shared)
    (resynced : (seen base shared).resync name = some (seen base after)) : Queued base after := by
  obtain ⟨object, _, nextEq⟩ := Option.map_eq_some_iff.mp resynced
  unfold Queued
  rw [← nextEq]
  rcases queued with inQueue | ⟨event, mem, wanted, named⟩
  · exact .inl inQueue
  · exact .inr ⟨event, List.mem_append_left _ mem, wanted, named⟩

/-- A notification that is wanted puts the name on the queue. -/
theorem Queued.handle (queued : Queued base shared)
    (handled : (seen base shared).handle (Mgmt.wantsVolume base.spec.ownerNodeID) =
      some (seen base after)) : Queued base after := by
  unfold Informer.handle at handled
  split at handled
  · contradiction
  · rename_i first rest eventsEq
    have nextEq := Option.some.inj handled
    unfold Queued
    rw [← nextEq]
    rcases queued with inQueue | ⟨event, mem, wanted, named⟩
    · left
      split
      · exact List.mem_insert_of_mem inQueue
      · exact inQueue
    · rw [eventsEq] at mem
      rcases List.mem_cons.mp mem with rfl | mem
      · left
        rw [if_pos wanted, ← named]
        exact List.mem_insert_self
      · right
        refine ⟨event, ?_, wanted, named⟩
        split
        · exact mem
        · exact mem

/-- The volumes are not touched. -/
theorem envStep_same (volumesEq : after.volumes = shared.volumes)
    (storageEq : after.storage = shared.storage) : EnvStep base shared after := by
  have seenEq : seen base after = seen base shared := by
    unfold seen
    rw [volumesEq]
  refine .steady ⟨?_, ?_, ?_, ?_⟩ fun queued => queued.congr seenEq
  · rw [volumesEq]
  · rw [seenEq]
  · rw [seenEq]
  · rw [storageEq]

theorem envStep_of_env {move : Move} (inv : EditInv base shared)
    (moved : env move shared = some after) : EnvStep base shared after := by
  cases move with
  | deliverVolume node name =>
      obtain ⟨volumes, delivered, rfl⟩ := Option.map_eq_some_iff.mp moved
      obtain ⟨getEq, seenEq | ⟨_, stepped⟩⟩ := seen_of_move delivered base
      · exact .steady (steady_of_seen getEq (by rw [seenEq]) (by rw [seenEq]))
          fun queued => queued.congr seenEq
      · obtain ⟨change, earlier, later, replayed, eventsEq, queueEq⟩ :=
          Informer.deliver_notifies stepped
        exact .delivers change earlier later ⟨getEq, rfl, replayed, eventsEq, queueEq⟩
  | resyncVolume node name =>
      obtain ⟨volumes, resynced, rfl⟩ := Option.map_eq_some_iff.mp moved
      obtain ⟨getEq, seenEq | ⟨_, stepped⟩⟩ := seen_of_move resynced base
      · exact .steady (steady_of_seen getEq (by rw [seenEq]) (by rw [seenEq]))
          fun queued => queued.congr seenEq
      · obtain ⟨cacheEq, pendingEq⟩ := Informer.resync_eq_some stepped
        exact .steady (steady_of_seen getEq cacheEq pendingEq) fun queued => queued.resync stepped
  | handleVolume node =>
      obtain ⟨volumes, handled, rfl⟩ := Option.map_eq_some_iff.mp moved
      obtain ⟨getEq, seenEq | ⟨isOwner, stepped⟩⟩ := seen_of_move handled base
      · exact .steady (steady_of_seen getEq (by rw [seenEq]) (by rw [seenEq]))
          fun queued => queued.congr seenEq
      · obtain ⟨cacheEq, pendingEq⟩ := Informer.handle_eq_some stepped
        subst isOwner
        exact .steady (steady_of_seen getEq cacheEq pendingEq) fun queued => queued.handle stepped
  | collectVolume name =>
      obtain ⟨volumes, collected, rfl⟩ := Option.map_eq_some_iff.mp moved
      obtain ⟨old, stored, deleted, outcome⟩ := Resource.collect_eq_some collected
      -- the volume is not deleted
      have differs : old.name ≠ base.name := by
        intro same
        obtain ⟨vol, found, sameVolume⟩ := inv.stored
        rw [← same, Resource.name_of_get stored, stored] at found
        cases found
        exact absurd deleted (by simp [sameVolume.live])
      rcases outcome with ⟨rfl, _⟩ | rfl
      · exact .writes (.remove old) differs rfl
      · exact .writes (.put (uncollected old)) differs rfl
  | deliverSnapshot | resyncSnapshot | handleSnapshot | deliverBackup | resyncBackup
  | handleBackup | collectSnapshot | collectBackup | createBackup | deleteBackup =>
      obtain ⟨next, _, rfl⟩ := Option.map_eq_some_iff.mp moved
      exact envStep_same rfl rfl
  | report nodes zfsNodes =>
      cases moved
      exact envStep_same rfl rfl

theorem EnvStep.inv (step : EnvStep base shared after) (inv : EditInv base shared) :
    EditInv base after := by
  rcases step with ⟨steady, _⟩ | ⟨change, earlier, later, delivers⟩ | ⟨change, differs, rfl⟩
  · exact steady.inv inv
  · exact delivers.inv inv
  · exact inv.commit_other differs

/-- What others leave to the sync of the volume. -/
structure Respects (base : ZFSVolume) (shared after : Shared) : Prop where
  advances : shared.volumes.Advances after.volumes
  storage : after.storage base.spec.ownerNodeID = shared.storage base.spec.ownerNodeID
  fine : Fine base shared → Fine base after
  isMatch : ∀ {copy}, Matches base shared copy → Matches base after copy

theorem Respects.refl (base : ZFSVolume) (shared : Shared) : Respects base shared shared where
  advances := .refl _
  storage := rfl
  fine := fun fine => fine
  isMatch := fun isMatch => isMatch

theorem Respects.trans {first second third : Shared} (one : Respects base first second)
    (two : Respects base second third) : Respects base first third where
  advances := one.advances.trans two.advances
  storage := two.storage.trans one.storage
  fine := fun fine => two.fine (one.fine fine)
  isMatch := fun isMatch => two.isMatch (one.isMatch isMatch)

/-- A write is not seen before it is delivered. -/
theorem respects_commit (base : ZFSVolume) (shared : Shared) (change : Watch VolumeInfo State) :
    Respects base shared (shared.setVolumes (shared.volumes.commit change)) where
  advances := Resource.advances_commit ..
  storage := rfl
  fine := fun fine => fine
  isMatch := fun isMatch => isMatch

theorem EnvStep.respects (step : EnvStep base shared after) (inv : EditInv base shared)
    (advances : shared.volumes.Advances after.volumes) : Respects base shared after := by
  rcases step with ⟨steady, queued⟩ | ⟨change, earlier, later, delivers⟩ | ⟨change, _, rfl⟩
  · exact ⟨advances, steady.storage, steady.fine queued, steady.matches queued⟩
  · exact ⟨advances, congrFun delivers.storage _, delivers.fine inv, delivers.matches inv⟩
  · exact respects_commit base shared change

end Steps

end ZfsLocalPv.Properties

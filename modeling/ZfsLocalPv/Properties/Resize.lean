import ZfsLocalPv.Cluster.Commands

/-!
# Reverting a failed resize

`ResizeZFSVolume` reads the reservation before it sets the new size. If the set fails, it sets
everything it has tried to set to that one value: the quota of a dataset or the size of a zvol
becomes what the reservation was. A volume without reservation loses its quota that way, and the
revert of such a zvol is refused, so that whatever the failed command has done stays.
-/

namespace ZfsLocalPv.Properties

open Api Go Zfs Cluster Interaction

/-- The properties that say how large a volume is. -/
def sizeProperties : List String :=
  ["quota", "refquota", "volsize", "reservation", "refreservation"]

/-- The properties a resize sets. -/
def resizedProperties (vol : ZFSVolume) : List String :=
  (if vol.spec.volumeType = .dataset then [quotaProperty vol.spec.quotaType] else ["volsize"]) ++
    if vol.spec.thinProvision = "no" then [reservationPropertyName vol.spec.quotaType] else []

theorem quotaProperty_mem (quotaType : String) : quotaProperty quotaType ∈ sizeProperties := by
  unfold quotaProperty
  split <;> decide

theorem reservationPropertyName_mem (quotaType : String) :
    reservationPropertyName quotaType ∈ sizeProperties := by
  unfold reservationPropertyName
  split <;> decide

theorem resizedProperties_subset (vol : ZFSVolume) : resizedProperties vol ⊆ sizeProperties := by
  intro property mem
  simp only [resizedProperties, List.mem_append] at mem
  rcases mem with mem | mem
  · split at mem
    · rw [List.mem_singleton.mp mem]
      exact quotaProperty_mem _
    · rw [List.mem_singleton.mp mem]
      decide
  · split at mem
    · rw [List.mem_singleton.mp mem]
      exact reservationPropertyName_mem _
    · contradiction

/-- All of them are set to the capacity. -/
theorem buildVolumeResizeArgs_eq (vol : ZFSVolume) :
    buildVolumeResizeArgs vol =
      (resizedProperties vol).map fun property => (property, vol.spec.capacity) := by
  unfold buildVolumeResizeArgs resizedProperties
  split <;> split <;> rfl

theorem buildVolumeResizeArgs_revertedVol (vol : ZFSVolume) (oldReservation : String) :
    buildVolumeResizeArgs (revertedVol vol oldReservation) =
      (resizedProperties vol).map fun property => (property, oldReservation) :=
  buildVolumeResizeArgs_eq _

/-! ## The commands -/

/-- Values that `zfs set` takes: a zvol has a size. -/
def ValidSizes (assignments : StringMap) : Prop :=
  ∀ entry ∈ assignments, entry.1 = "volsize" → entry.2 ≠ "0"

instance (assignments : StringMap) : Decidable (ValidSizes assignments) :=
  inferInstanceAs (Decidable (∀ entry ∈ assignments, _))

/-- A revert is accepted if its values are valid and refused otherwise. -/
def AcceptedIfValid (assignments : StringMap) (choice : Choice) : Prop :=
  if ValidSizes assignments then choice.outcome = .ok
  else choice.outcome = .fail ∧ choice.applied = []

section

variable {storage : Storage} {volume : Dataset} {choice : Choice} {assignments : StringMap}

theorem zfsAnswer_get {property : String} (present : storage.hasDataset volume = true)
    (got : choice.outcome = .ok) :
    zfsAnswer choice storage (.get property volume) =
      (.ok (storage.valueOf property volume), storage) := by
  simp [zfsAnswer, got, Storage.run, present]

theorem zfsAnswer_set (present : storage.hasDataset volume = true)
    (accepted : choice.outcome = .ok) :
    zfsAnswer choice storage (.set assignments volume) =
      (.ok "", storage.assign assignments volume) := by
  simp [zfsAnswer, accepted, Storage.run, present]

theorem zfsAnswer_set_fail (failed : choice.outcome = .fail) :
    zfsAnswer choice storage (.set assignments volume) =
      (.error choice.text, storage.assign (madeAssignments choice.applied assignments) volume) := by
  simp [zfsAnswer, failed, failedStorage]

@[simp]
theorem madeAssignments_nil (assignments : StringMap) : madeAssignments [] assignments = [] := by
  simp [madeAssignments]

theorem madeAssignments_subset (applied : List Bool) (assignments : StringMap) :
    madeAssignments applied assignments ⊆ assignments := by
  intro entry mem
  obtain ⟨chosen, isChosen, rfl⟩ := List.mem_map.mp mem
  exact (List.of_mem_zip (List.mem_filter.mp isChosen).1).1

theorem zfsAnswer_set_lost (present : storage.hasDataset volume = true)
    (lost : choice.outcome = .lost) :
    zfsAnswer choice storage (.set assignments volume) =
      (.error choice.text, storage.assign assignments volume) := by
  simp [zfsAnswer, lost, Storage.run, present]

/-- A failed set has made some of its assignments. -/
theorem zfsAnswer_set_failed (present : storage.hasDataset volume = true)
    (failed : choice.outcome ≠ .ok) :
    ∃ made, made ⊆ assignments ∧ zfsAnswer choice storage (.set assignments volume) =
      (.error choice.text, storage.assign made volume) := by
  cases outcome : choice.outcome with
  | ok => contradiction
  | fail => exact ⟨_, madeAssignments_subset _ _, zfsAnswer_set_fail outcome⟩
  | lost => exact ⟨assignments, List.Subset.refl _, zfsAnswer_set_lost present outcome⟩

end

variable {thread : Tid} {node mountpath : String} {vol : ZFSVolume} {resizefs : Bool}
  {shared : Shared}

/-- The reservation that `ResizeZFSVolume` reads. -/
def oldReservation (vol : ZFSVolume) (storage : Storage) : String :=
  storage.valueOf (reservationPropertyName vol.spec.quotaType) (datasetOf vol)

/-- What the revert sets. -/
def revertArgs (vol : ZFSVolume) (storage : Storage) : StringMap :=
  buildVolumeResizeArgs (revertedVol vol (oldReservation vol storage))

/-- The storage after the failed set and the revert. -/
def storageAfter (vol : ZFSVolume) (failed reverted : Choice) (storage : Storage) : Storage :=
  (zfsAnswer reverted
    (zfsAnswer failed storage (.set (buildVolumeResizeArgs vol) (datasetOf vol))).2
    (.set (revertArgs vol storage) (datasetOf vol))).2

/-- The three commands of a resize whose set fails. -/
theorem eval_failed_resize (present : (shared.storage node).hasDataset (datasetOf vol) = true)
    {got failed : Choice} (gotOk : got.outcome = .ok) (setFailed : failed.outcome ≠ .ok)
    (reverted : Choice) :
    Prog.eval (exec thread) [got, failed, reverted]
        (resizeZFSVolume node vol mountpath resizefs) shared =
      some (.error (.zfs "zfs set quota" (datasetOf vol).path failed.text),
        shared.setStorage node (storageAfter vol failed reverted (shared.storage node))) := by
  obtain ⟨made, _, answered⟩ : ∃ made, made ⊆ buildVolumeResizeArgs vol ∧ _ :=
    zfsAnswer_set_failed present setFailed
  rw [resizeZFSVolume, getVolumeProperty, eval_runCmd_bind, zfsAnswer_get present gotOk,
    Shared.setStorage_self]
  change Prog.eval (exec thread) [failed, reverted] (runCmd node "zfs set quota" _ _ >>= _) _ = _
  rw [eval_runCmd_bind, answered]
  change Prog.eval (exec thread) [reverted] (runCmd node "zfs set quota (revert)" _ _ >>= _) _ = _
  rw [eval_runCmd_bind, storageAfter, answered]
  simp [Shared.setStorage, Prog.eval, revertArgs, oldReservation]

/-! ## The sizes afterwards -/

variable {storage : Storage} {failed reverted : Choice}

/-- The properties of the volume's size have the same values. -/
def SizesKept (vol : ZFSVolume) (before after : Storage) : Prop :=
  ∀ property ∈ sizeProperties,
    after.valueOf property (datasetOf vol) = before.valueOf property (datasetOf vol)

/-- Values that are given again are kept. -/
theorem sizesKept_assign (present : storage.hasDataset (datasetOf vol) = true)
    {assignments : StringMap}
    (same : ∀ entry ∈ assignments, storage.valueOf entry.1 (datasetOf vol) = entry.2) :
    SizesKept vol storage (storage.assign assignments (datasetOf vol)) := by
  intro property _
  by_cases assigned : ∃ entry ∈ assignments, entry.1 = property
  · apply Storage.valueOf_assign_of_agree present _ assigned
    rintro entry mem rfl
    exact (same entry mem).symm
  · apply Storage.valueOf_assign_of_notMem present
    intro entry mem isProperty
    exact assigned ⟨entry, mem, isProperty⟩

/-- A resize that keeps the sizes asks for nothing new. -/
theorem resized_of_sizesKept (present : storage.hasDataset (datasetOf vol) = true)
    (kept : SizesKept vol storage (storage.assign (buildVolumeResizeArgs vol) (datasetOf vol))) :
    ∀ entry ∈ buildVolumeResizeArgs vol, storage.valueOf entry.1 (datasetOf vol) = entry.2 := by
  rw [buildVolumeResizeArgs_eq] at kept ⊢
  intro entry mem
  obtain ⟨property, resized, rfl⟩ := List.mem_map.mp mem
  rw [← kept property (resizedProperties_subset vol resized)]
  apply Storage.valueOf_assign_of_agree present
  · intro other isOther _
    obtain ⟨_, _, rfl⟩ := List.mem_map.mp isOther
    rfl
  · exact ⟨_, mem, rfl⟩

/-- The revert gives all properties of a resize one value and leaves the others as they
were, whatever the failed set has done. -/
theorem valueOf_reverted (present : storage.hasDataset (datasetOf vol) = true)
    {made : StringMap} (isMade : made ⊆ buildVolumeResizeArgs vol) (property : String) :
    ((storage.assign made (datasetOf vol)).assign (revertArgs vol storage)
        (datasetOf vol)).valueOf property (datasetOf vol) =
      if property ∈ resizedProperties vol then oldReservation vol storage
      else storage.valueOf property (datasetOf vol) := by
  have stillPresent : (storage.assign made (datasetOf vol)).hasDataset (datasetOf vol) = true := by
    rw [Storage.hasDataset_assign, present]
  have argsEq : revertArgs vol storage =
      (resizedProperties vol).map fun property => (property, oldReservation vol storage) :=
    buildVolumeResizeArgs_revertedVol _ _
  split
  · rename_i resized
    apply Storage.valueOf_assign_of_agree stillPresent
    · rw [argsEq]
      intro entry mem _
      obtain ⟨_, _, rfl⟩ := List.mem_map.mp mem
      rfl
    · rw [argsEq]
      exact ⟨_, List.mem_map.mpr ⟨property, resized, rfl⟩, rfl⟩
  · rename_i other
    rw [Storage.valueOf_assign_of_notMem stillPresent, Storage.valueOf_assign_of_notMem present]
    · rintro entry mem rfl
      have given := isMade mem
      rw [buildVolumeResizeArgs_eq] at given
      obtain ⟨_, resized, rfl⟩ := List.mem_map.mp given
      exact other resized
    · rw [argsEq]
      rintro entry mem rfl
      obtain ⟨_, resized, rfl⟩ := List.mem_map.mp mem
      exact other resized

/-- So the revert is right if these properties had that value. -/
theorem sizesKept_reverted_iff (present : storage.hasDataset (datasetOf vol) = true)
    {made : StringMap} (isMade : made ⊆ buildVolumeResizeArgs vol) :
    SizesKept vol storage ((storage.assign made (datasetOf vol)).assign (revertArgs vol storage)
        (datasetOf vol)) ↔
      ∀ property ∈ resizedProperties vol,
        storage.valueOf property (datasetOf vol) = oldReservation vol storage := by
  constructor
  · intro kept property resized
    rw [← kept property (resizedProperties_subset vol resized), valueOf_reverted present isMade,
      if_pos resized]
  · intro reserved property _
    rw [valueOf_reverted present isMade]
    split
    · rename_i resized
      exact (reserved property resized).symm
    · rfl

/-- A revert with valid values comes after the failed set. -/
theorem storageAfter_of_valid (present : storage.hasDataset (datasetOf vol) = true)
    (setFailed : failed.outcome ≠ .ok) (valid : ValidSizes (revertArgs vol storage))
    (accepted : AcceptedIfValid (revertArgs vol storage) reverted) :
    ∃ made, made ⊆ buildVolumeResizeArgs vol ∧ storageAfter vol failed reverted storage =
      (storage.assign made (datasetOf vol)).assign (revertArgs vol storage) (datasetOf vol) := by
  obtain ⟨made, isMade, answered⟩ : ∃ made, made ⊆ buildVolumeResizeArgs vol ∧ _ :=
    zfsAnswer_set_failed present setFailed
  have stillPresent : (storage.assign made (datasetOf vol)).hasDataset (datasetOf vol) = true := by
    rw [Storage.hasDataset_assign, present]
  rw [AcceptedIfValid, if_pos valid] at accepted
  exact ⟨made, isMade, by rw [storageAfter, answered, zfsAnswer_set stillPresent accepted]⟩

/-- A revert that is refused leaves what the failed set has done. -/
theorem storageAfter_of_invalid (invalid : ¬ ValidSizes (revertArgs vol storage))
    (accepted : AcceptedIfValid (revertArgs vol storage) reverted) :
    storageAfter vol failed reverted storage =
      (zfsAnswer failed storage (.set (buildVolumeResizeArgs vol) (datasetOf vol))).2 := by
  rw [AcceptedIfValid, if_neg invalid] at accepted
  obtain ⟨refused, nothing⟩ := accepted
  rw [storageAfter, zfsAnswer_set_fail refused, nothing, madeAssignments_nil]
  exact Storage.assign_nil _ _

/-- Only a zvol without reservation has no valid revert. -/
theorem valid_revertArgs_iff :
    ValidSizes (revertArgs vol storage) ↔
      (vol.spec.volumeType = .dataset ∨ oldReservation vol storage ≠ "0") := by
  have notQuota : quotaProperty vol.spec.quotaType ≠ "volsize" := by
    unfold quotaProperty
    split <;> decide
  have notReservation : reservationPropertyName vol.spec.quotaType ≠ "volsize" := by
    unfold reservationPropertyName
    split <;> decide
  rw [revertArgs, buildVolumeResizeArgs_revertedVol]
  by_cases isDataset : vol.spec.volumeType = .dataset
  · by_cases thick : vol.spec.thinProvision = "no" <;>
      simp [ValidSizes, resizedProperties, isDataset, thick, notQuota, notReservation]
  · by_cases thick : vol.spec.thinProvision = "no" <;>
      simp [ValidSizes, resizedProperties, isDataset, thick, notReservation]

/-- The property that holds the size of the volume. -/
def sizeProperty (vol : ZFSVolume) : String :=
  if vol.spec.volumeType = .dataset then quotaProperty vol.spec.quotaType else "volsize"

/-- The reservation has the value that is read of it. -/
theorem resized_reserved_iff :
    (∀ property ∈ resizedProperties vol,
        storage.valueOf property (datasetOf vol) = oldReservation vol storage) ↔
      storage.valueOf (sizeProperty vol) (datasetOf vol) = oldReservation vol storage := by
  by_cases isDataset : vol.spec.volumeType = .dataset <;>
    by_cases thick : vol.spec.thinProvision = "no" <;>
      simp [resizedProperties, sizeProperty, isDataset, thick, oldReservation]

/-- When the revert restores the size: the reservation that was read is the size, or the
volume is a zvol without reservation and the resize asks for nothing new. -/
def RevertKnowsSize (vol : ZFSVolume) (storage : Storage) : Prop :=
  if vol.spec.volumeType = .dataset ∨ oldReservation vol storage ≠ "0" then
    storage.valueOf (sizeProperty vol) (datasetOf vol) = oldReservation vol storage
  else
    ∀ entry ∈ buildVolumeResizeArgs vol, storage.valueOf entry.1 (datasetOf vol) = entry.2

/-- Whatever part of its assignments the failed set has made, the sizes are as before when
`ResizeZFSVolume` returns its error. -/
def FailedResizeChangesNothing (thread : Tid) (node mountpath : String) (vol : ZFSVolume)
    (resizefs : Bool) (shared : Shared) : Prop :=
  ∀ got failed reverted err final, got.outcome = .ok → failed.outcome ≠ .ok →
    AcceptedIfValid (revertArgs vol (shared.storage node)) reverted →
    Prog.eval (exec thread) [got, failed, reverted] (resizeZFSVolume node vol mountpath resizefs)
      shared = some (.error err, final) →
    SizesKept vol (shared.storage node) (final.storage node)

theorem failedResizeChangesNothing_iff
    (present : (shared.storage node).hasDataset (datasetOf vol) = true) :
    FailedResizeChangesNothing thread node mountpath vol resizefs shared ↔
      ∀ failed reverted, failed.outcome ≠ .ok →
        AcceptedIfValid (revertArgs vol (shared.storage node)) reverted →
        SizesKept vol (shared.storage node)
          (storageAfter vol failed reverted (shared.storage node)) := by
  constructor
  · intro nothing failed reverted setFailed accepted
    have kept := nothing {} failed reverted _ _ rfl setFailed accepted
      (eval_failed_resize present rfl setFailed reverted)
    rwa [Shared.storage_setStorage] at kept
  · intro nothing got failed reverted err final gotOk setFailed accepted ran
    rw [eval_failed_resize present gotOk setFailed] at ran
    obtain ⟨_, rfl⟩ := Prod.mk.inj (Option.some.inj ran)
    rw [Shared.storage_setStorage]
    exact nothing failed reverted setFailed accepted

/-- A failed resize changes nothing if and only if the reservation is as large as the
volume, a zvol without reservation apart, where nothing new may be asked for. -/
theorem failed_resize_changes_nothing_iff
    (present : (shared.storage node).hasDataset (datasetOf vol) = true) :
    FailedResizeChangesNothing thread node mountpath vol resizefs shared ↔
      RevertKnowsSize vol (shared.storage node) := by
  rw [failedResizeChangesNothing_iff present, RevertKnowsSize]
  by_cases valid : ValidSizes (revertArgs vol (shared.storage node))
  · rw [if_pos (valid_revertArgs_iff.mp valid), ← resized_reserved_iff]
    constructor
    · intro nothing
      have accepted : AcceptedIfValid (revertArgs vol (shared.storage node)) {} := by
        rw [AcceptedIfValid, if_pos valid]
      have failFails : ({ outcome := .fail } : Choice).outcome ≠ .ok := by decide
      have kept := nothing { outcome := .fail } {} failFails accepted
      obtain ⟨made, isMade, afterEq⟩ := storageAfter_of_valid present failFails valid accepted
      rw [afterEq] at kept
      exact (sizesKept_reverted_iff present isMade).mp kept
    · intro reserved failed reverted setFailed accepted
      obtain ⟨made, isMade, afterEq⟩ := storageAfter_of_valid present setFailed valid accepted
      rw [afterEq]
      exact (sizesKept_reverted_iff present isMade).mpr reserved
  · rw [if_neg fun knows => valid (valid_revertArgs_iff.mpr knows)]
    constructor
    · intro nothing entry mem
      -- the failed command may have made all its assignments
      have accepted : AcceptedIfValid (revertArgs vol (shared.storage node))
          { outcome := .fail } := by
        rw [AcceptedIfValid, if_neg valid]
        exact ⟨rfl, rfl⟩
      have kept := nothing { outcome := .lost } { outcome := .fail } (by decide) accepted
      rw [storageAfter_of_invalid valid accepted, zfsAnswer_set_lost present rfl] at kept
      exact resized_of_sizesKept present kept entry mem
    · intro same failed reverted setFailed accepted
      obtain ⟨made, isMade, answered⟩ : ∃ made, made ⊆ buildVolumeResizeArgs vol ∧ _ :=
        zfsAnswer_set_failed present setFailed
      rw [storageAfter_of_invalid valid accepted, answered]
      exact sizesKept_assign present fun entry mem => same entry (isMade mem)

/-- A dataset that is to grow from one gigabyte to two. -/
def growingDataset (thinProvision : String) : ZFSVolume where
  name := "v"
  spec := {
    ownerNodeID := "n"
    poolName := "p"
    capacity := "2147483648"
    volumeType := .dataset
    quotaType := "quota"
    thinProvision := thinProvision }
  status := .ready

/-- A node that holds it with the given properties. -/
def nodeHolding (properties : StringMap) : Shared where
  storage := fun _ => {
    parents := ["p"]
    datasets := [{ dataset := ⟨"p", "v"⟩, properties := properties }] }

theorem failed_resize_changes_nothing_iff_reserved :
    ((nodeHolding [("quota", "1073741824"), ("reservation", "1073741824")]).storage
        "n").hasDataset (datasetOf (growingDataset "no")) = true ∧
      FailedResizeChangesNothing (.request 0) "n" "/mnt" (growingDataset "no") false
        (nodeHolding [("quota", "1073741824"), ("reservation", "1073741824")]) := by
  refine ⟨by decide, (failed_resize_changes_nothing_iff (by decide)).mpr ?_⟩
  rw [RevertKnowsSize, if_pos (.inl rfl)]
  decide

/-- A thin provisioned dataset loses its quota: nothing of the failed set was made, and the
revert sets the quota to the reservation, which is zero. -/
theorem failed_resize_drops_quota :
    let shared := nodeHolding [("quota", "1073741824")]
    ∃ final err, AcceptedIfValid (revertArgs (growingDataset "yes") (shared.storage "n")) {} ∧
      Prog.eval (exec (.request 0)) [{}, { outcome := .fail }, {}]
        (resizeZFSVolume "n" (growingDataset "yes") "/mnt" false) shared =
          some (.error err, final) ∧
      (shared.storage "n").valueOf "quota" ⟨"p", "v"⟩ = "1073741824" ∧
      (final.storage "n").valueOf "quota" ⟨"p", "v"⟩ = "0" ∧
      ¬ FailedResizeChangesNothing (.request 0) "n" "/mnt" (growingDataset "yes") false shared := by
  intro shared
  have present : (shared.storage "n").hasDataset (datasetOf (growingDataset "yes")) = true := by
    decide
  have failFails : ({ outcome := .fail } : Choice).outcome ≠ .ok := by decide
  have accepted : AcceptedIfValid (revertArgs (growingDataset "yes") (shared.storage "n")) {} := by
    rw [AcceptedIfValid, if_pos (valid_revertArgs_iff.mpr (.inl rfl))]
  have ran : Prog.eval (exec (.request 0)) [{}, { outcome := .fail }, {}]
      (resizeZFSVolume "n" (growingDataset "yes") "/mnt" false) shared =
        some (_, shared.setStorage "n" (storageAfter (growingDataset "yes") { outcome := .fail } {}
          (shared.storage "n"))) :=
    eval_failed_resize present rfl failFails {}
  refine ⟨_, _, accepted, ran, by decide, ?_, fun nothing => ?_⟩
  · rw [Shared.storage_setStorage]
    decide
  · have kept := nothing _ _ _ _ _ rfl failFails accepted ran "quota" (.head _)
    rw [Shared.storage_setStorage] at kept
    exact absurd kept (by decide)

end ZfsLocalPv.Properties

import Mathlib.Data.Set.Basic
import Mathlib.Tactic.Tauto
import ZfsLocalPv.Zfs.Restore

/-!
# The arguments of create, clone and restore

Three builders write the same properties of a dataset in different orders. They agree but for
one: the reservation of a restored volume does not follow its quota type.
-/

namespace ZfsLocalPv.Properties

open Api Go Zfs

/-- The properties a clone inherits and cannot be given. -/
def encryptionProperties : List String :=
  ["encryption", "keylocation", "keyformat"]

/-- The assignments made by `-o`, encryption left out. -/
def assigned (args : List Arg) : Set (String × String) :=
  {entry | .property entry.1 entry.2 ∈ args ∧ entry.1 ∉ encryptionProperties}

/-- The names of these assignments. -/
def assignedNames (args : List Arg) : Set String :=
  Prod.fst '' assigned args

theorem assigned_append (first second : List Arg) :
    assigned (first ++ second) = assigned first ∪ assigned second := by
  ext entry
  simp only [assigned, List.mem_append, Set.mem_union, Set.mem_ofPred_eq]
  tauto

@[simp]
theorem assigned_nil : assigned [] = ∅ := by
  simp [assigned]

theorem assigned_single {name : String} (value : String) (plain : name ∉ encryptionProperties) :
    assigned [.property name value] = {(name, value)} := by
  ext ⟨other, given⟩
  simp only [assigned, List.mem_singleton, Arg.property.injEq, Set.mem_ofPred_eq,
    Set.mem_singleton_iff, Prod.mk.injEq]
  constructor
  · exact fun mem => mem.1
  · rintro ⟨rfl, rfl⟩
    exact ⟨⟨rfl, rfl⟩, plain⟩

theorem name_of_mem_optional {name value other given : String}
    (mem : (other, given) ∈ assigned (Zfs.optional value (.property name))) : other = name := by
  obtain ⟨option, _⟩ := mem
  unfold Zfs.optional at option
  split at option
  · contradiction
  · exact (Arg.property.inj (List.mem_singleton.mp option)).1

/-- Encryption is left out. -/
theorem assigned_optional_encryption {name : String} (value : String)
    (left : name ∈ encryptionProperties) :
    assigned (Zfs.optional value (.property name)) = ∅ := by
  unfold Zfs.optional
  split
  · exact assigned_nil
  · ext entry
    simp only [assigned, List.mem_singleton, Arg.property.injEq, Set.mem_ofPred_eq,
      Set.mem_empty_iff_false, iff_false, not_and, not_not, and_imp]
    rintro rfl _
    exact left

/-- The assignments that all three builders make. -/
def sharedAssignments (info : VolumeInfo) : Set (String × String) :=
  assigned (Zfs.optional info.capacity (.property (quotaProperty info.quotaType))) ∪
  assigned (Zfs.optional info.recordSize (.property "recordsize")) ∪
  assigned (Zfs.optional info.aTime (.property "atime")) ∪
  assigned (Zfs.optional info.dedup (.property "dedup")) ∪
  assigned (Zfs.optional info.compression (.property "compression")) ∪
  assigned (Zfs.optional info.logBias (.property "logbias")) ∪
  {("mountpoint", "legacy")}

section

variable {vol : ZFSVolume}

theorem assigned_buildDatasetCreateArgs (noUser : vol.spec.userProperties = []) :
    assigned (buildDatasetCreateArgs vol) =
      sharedAssignments vol.spec ∪ assigned (reservationArgs vol) := by
  simp only [buildDatasetCreateArgs, noUser, userPropertyArgs, List.map_nil, assigned_append,
    assigned_nil, Set.union_empty,
    assigned_optional_encryption _ (by decide : "encryption" ∈ encryptionProperties),
    assigned_optional_encryption _ (by decide : "keylocation" ∈ encryptionProperties),
    assigned_optional_encryption _ (by decide : "keyformat" ∈ encryptionProperties),
    assigned_single _ (by decide : "mountpoint" ∉ encryptionProperties), sharedAssignments]
  ext entry
  simp only [Set.mem_union]
  tauto

theorem assigned_buildCloneCreateArgs (isDataset : vol.spec.volumeType = .dataset)
    (noUser : vol.spec.userProperties = []) :
    assigned (buildCloneCreateArgs vol) =
      sharedAssignments vol.spec ∪ assigned (reservationArgs vol) := by
  simp only [buildCloneCreateArgs, if_pos isDataset, noUser, userPropertyArgs, List.map_nil,
    assigned_append, assigned_nil, Set.union_empty,
    assigned_single _ (by decide : "mountpoint" ∉ encryptionProperties), sharedAssignments]
  ext entry
  simp only [Set.mem_union]
  tauto

/-- The reservation of a restored volume. -/
def restoredReservation (info : VolumeInfo) : List Arg :=
  if info.thinProvision = "no" then [.property "reservation" info.capacity] else []

theorem assigned_restoreOptions {info : VolumeInfo} (isDataset : info.volumeType = .dataset) :
    assigned (restoreOptions info) =
      sharedAssignments info ∪ assigned (restoredReservation info) := by
  simp only [restoreOptions, if_pos isDataset, assigned_append, Set.union_empty,
    assigned_optional_encryption _ (by decide : "encryption" ∈ encryptionProperties),
    assigned_optional_encryption _ (by decide : "keylocation" ∈ encryptionProperties),
    assigned_optional_encryption _ (by decide : "keyformat" ∈ encryptionProperties),
    assigned_single _ (by decide : "mountpoint" ∉ encryptionProperties), sharedAssignments,
    restoredReservation]
  ext entry
  simp only [Set.mem_union]
  tauto

/-- The reservations are the same unless the quota type is `refquota`. -/
theorem reservationArgs_eq (same : ¬ (vol.spec.thinProvision = "no" ∧
    vol.spec.quotaType = "refquota")) : reservationArgs vol = restoredReservation vol.spec := by
  unfold reservationArgs restoredReservation
  split
  · rename_i thick
    have plain : vol.spec.quotaType ≠ "refquota" := fun isRef => same ⟨thick, isRef⟩
    simp [reservationPropertyName, quotaProperty, plain]
  · rfl

/-- No other property has the name of the reservation of a `refquota` volume. -/
theorem refreservation_not_shared {info : VolumeInfo} {value : String} :
    ("refreservation", value) ∉ sharedAssignments info := by
  have notQuota : "refreservation" ≠ quotaProperty info.quotaType := by
    unfold quotaProperty
    split <;> decide
  simp only [sharedAssignments, Set.mem_union, Set.mem_singleton_iff, Prod.mk.injEq]
  rintro ((((((quota | recordsize) | atime) | dedup) | compression) | logbias) | ⟨mountpoint, _⟩)
  · exact notQuota (name_of_mem_optional quota)
  · exact absurd (name_of_mem_optional recordsize) (by decide)
  · exact absurd (name_of_mem_optional atime) (by decide)
  · exact absurd (name_of_mem_optional dedup) (by decide)
  · exact absurd (name_of_mem_optional compression) (by decide)
  · exact absurd (name_of_mem_optional logbias) (by decide)
  · exact absurd mountpoint (by decide)

/-- A `refquota` volume with a reservation is restored without it. -/
theorem refreservation_lost (thick : vol.spec.thinProvision = "no")
    (isRef : vol.spec.quotaType = "refquota") :
    ("refreservation", vol.spec.capacity) ∈ assigned (reservationArgs vol) ∧
      ("refreservation", vol.spec.capacity) ∉
        sharedAssignments vol.spec ∪ assigned (restoredReservation vol.spec) := by
  constructor
  · rw [reservationArgs, if_pos thick, isRef]
    exact (assigned_single _ (by decide)).ge rfl
  · rintro (shared | restored)
    · exact refreservation_not_shared shared
    · rw [restoredReservation, if_pos thick, assigned_single _ (by decide)] at restored
      exact absurd (Prod.mk.inj (Set.mem_singleton_iff.mp restored)).1 (by decide)

/-- The names that a resize sets are among those set when the dataset is created. -/
theorem resize_names_assigned (isDataset : vol.spec.volumeType = .dataset)
    (noUser : vol.spec.userProperties = []) (sized : vol.spec.capacity ≠ "") :
    ∀ entry ∈ buildVolumeResizeArgs vol, entry.1 ∈ assignedNames (buildDatasetCreateArgs vol) := by
  intro entry mem
  rw [assignedNames, assigned_buildDatasetCreateArgs noUser]
  simp only [buildVolumeResizeArgs, if_pos isDataset, List.mem_append, List.mem_singleton] at mem
  rcases mem with rfl | mem
  · refine ⟨(quotaProperty vol.spec.quotaType, vol.spec.capacity), .inl ?_, rfl⟩
    have plain : quotaProperty vol.spec.quotaType ∉ encryptionProperties := by
      unfold quotaProperty
      split <;> decide
    simp [sharedAssignments, Zfs.optional, sized, assigned_single _ plain]
  · split at mem
    · rename_i thick
      obtain rfl := List.mem_singleton.mp mem
      refine ⟨(reservationPropertyName vol.spec.quotaType, vol.spec.capacity), .inr ?_, rfl⟩
      have plain : reservationPropertyName vol.spec.quotaType ∉ encryptionProperties := by
        unfold reservationPropertyName
        split <;> decide
      rw [reservationArgs, if_pos thick]
      exact (assigned_single _ plain).ge rfl
    · contradiction

end

/-- The three builders set the same properties of a dataset, and a resize sets none
but those. -/
structure BuildersAgree (vol : ZFSVolume) (recvArgs : List Arg) : Prop where
  clone : assigned (buildCloneCreateArgs vol) = assigned (buildDatasetCreateArgs vol)
  restore : assigned recvArgs = assigned (buildDatasetCreateArgs vol)
  resize : vol.spec.capacity ≠ "" → ∀ entry ∈ buildVolumeResizeArgs vol,
    entry.1 ∈ assignedNames (buildDatasetCreateArgs vol)

/-- Creating, cloning and restoring a dataset set the same properties if and only if
the volume does not have both a reservation and the quota type `refquota`. -/
theorem builders_agree_iff {info : VolumeInfo} (isDataset : info.volumeType = .dataset)
    (noUser : info.userProperties = []) {vol : ZFSVolume} (isVol : vol.spec = info)
    {rstr : ZFSRestore} (isRestore : rstr.volSpec = info) {ncArgs : List String}
    {recvArgs : List Arg} (built : buildVolumeRestoreArgs rstr = .ok (ncArgs, recvArgs)) :
    BuildersAgree vol recvArgs ↔
      ¬ (info.thinProvision = "no" ∧ info.quotaType = "refquota") := by
  subst isVol
  have created := assigned_buildDatasetCreateArgs noUser
  have cloned := assigned_buildCloneCreateArgs isDataset noUser
  have restored : assigned recvArgs =
      sharedAssignments vol.spec ∪ assigned (restoredReservation vol.spec) := by
    rw [buildVolumeRestoreArgs_eq_ok built, isRestore, assigned_restoreOptions isDataset]
  constructor
  · rintro agree ⟨thick, isRef⟩
    obtain ⟨given, missing⟩ := refreservation_lost thick isRef
    rw [← restored, agree.restore, created] at missing
    exact missing (.inr given)
  · intro same
    constructor
    · rw [cloned, created]
    · rw [restored, created, reservationArgs_eq same]
    · exact resize_names_assigned isDataset noUser

/-- A dataset of one gigabyte, its quota type and whether it is thin provisioned. -/
def gigabyteDataset (quotaType thinProvision : String) : VolumeInfo where
  capacity := "1073741824"
  volumeType := .dataset
  quotaType := quotaType
  thinProvision := thinProvision

def volumeOf (info : VolumeInfo) : ZFSVolume where
  name := "v"
  spec := info
  status := .ready

def restoreOf (info : VolumeInfo) : ZFSRestore where
  spec := { volumeName := "v", restoreSrc := "10.0.0.1:9000" }
  volSpec := info

theorem builders_agree_iff_quota :
    buildVolumeRestoreArgs (restoreOf (gigabyteDataset "quota" "no")) =
        .ok (["-w", "3", "10.0.0.1", "9000"], restoreOptions (gigabyteDataset "quota" "no")) ∧
      BuildersAgree (volumeOf (gigabyteDataset "quota" "no"))
        (restoreOptions (gigabyteDataset "quota" "no")) := by
  have built : buildVolumeRestoreArgs (restoreOf (gigabyteDataset "quota" "no")) =
      .ok (["-w", "3", "10.0.0.1", "9000"], restoreOptions (gigabyteDataset "quota" "no")) := by
    decide +kernel
  exact ⟨built, (builders_agree_iff rfl rfl rfl rfl built).mpr (by decide)⟩

/-- A `refquota` dataset with a reservation is created with `refreservation` and
restored with `reservation`. -/
theorem builders_disagree_refquota :
    .property "refreservation" "1073741824" ∈
        buildDatasetCreateArgs (volumeOf (gigabyteDataset "refquota" "no")) ∧
      ∃ ncArgs recvArgs,
        buildVolumeRestoreArgs (restoreOf (gigabyteDataset "refquota" "no")) =
          .ok (ncArgs, recvArgs) ∧
        .property "reservation" "1073741824" ∈ recvArgs ∧
        ¬ BuildersAgree (volumeOf (gigabyteDataset "refquota" "no")) recvArgs := by
  refine ⟨by decide, ["-w", "3", "10.0.0.1", "9000"],
    restoreOptions (gigabyteDataset "refquota" "no"), by decide +kernel, by decide, ?_⟩
  intro agree
  have given : ("refreservation", "1073741824") ∈
      assigned (buildDatasetCreateArgs (volumeOf (gigabyteDataset "refquota" "no"))) :=
    ⟨by decide, by decide⟩
  rw [← agree.restore] at given
  exact absurd given.1 (by decide)

end ZfsLocalPv.Properties

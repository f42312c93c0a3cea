import ZfsLocalPv.Api.Types

/-!
# Builders of volumes and snapshots

`volbuilder` and `snapbuilder` collect errors while they fill in an object and report them when
it is built. The two differ in the texts of their errors and in the properties they reserve.
-/

namespace ZfsLocalPv.Api

open ApiServer Go

/-- An object under construction and the errors met so far. -/
structure Builder where
  object : Object VolumeInfo State
  errs : List String := []

namespace Builder

/-- `NewBuilder`. -/
def newBuilder : Builder where
  object := { name := "", spec := {}, status := .unset }

/-- `BuildFrom`, for an object that is present. -/
def buildFrom (object : Object VolumeInfo State) : Builder :=
  { object := object }

def fail (builder : Builder) (message : String) : Builder :=
  { builder with errs := builder.errs ++ [message] }

/-- Change the specification. -/
def withSpec (builder : Builder) (change : VolumeInfo → VolumeInfo) : Builder :=
  { builder with object := { builder.object with spec := change builder.object.spec } }

/-- A name must not be empty; `missing` is the builder's error. -/
def withNameOr (missing name : String) (builder : Builder) : Builder :=
  if name = "" then
    builder.fail missing
  else
    { builder with object := { builder.object with name := name } }

/-- `WithReservedUserProp`: an invalid property is recorded as an error and set
all the same. -/
def withReservedUserPropOr (invalid name value : String) (builder : Builder) : Builder :=
  let checked := match validateUserProperty name value with
    | .error err => builder.fail (invalid ++ ": " ++ err.error)
    | .ok () => builder
  checked.withSpec fun spec =>
    { spec with userProperties := StringMap.insert name value spec.userProperties }

/-- `WithLabels`: merge the given labels with those present. -/
def withLabels (labels : StringMap) (builder : Builder) : Builder :=
  { builder with object := { builder.object with
    labels := StringMap.merge builder.object.labels labels } }

/-- `WithFinalizer`: append. -/
def withFinalizer (finalizers : List String) (builder : Builder) : Builder :=
  { builder with object := { builder.object with
    finalizers := builder.object.finalizers ++ finalizers } }

/-- `WithVolumeStatus`. -/
def withVolumeStatus (status : State) (builder : Builder) : Builder :=
  { builder with object := { builder.object with status := status } }

/-- `WithAnnotation`: mark for deletion. -/
def withAnnotation (builder : Builder) : Builder :=
  { builder with object := { builder.object with
    annotations := StringMap.insert MarkForDeletionAnnotation "true"
      builder.object.annotations } }

/-- `Build`. -/
def build (builder : Builder) : Except String (Object VolumeInfo State) :=
  if builder.errs = [] then .ok builder.object else .error (formatList builder.errs)

theorem build_eq_ok {builder : Builder} {object : Object VolumeInfo State}
    (built : builder.build = .ok object) : object = builder.object := by
  unfold build at built
  split at built
  · exact (Except.ok.inj built).symm
  · contradiction

theorem errs_of_build {builder : Builder} {object : Object VolumeInfo State}
    (built : builder.build = .ok object) : builder.errs = [] := by
  unfold build at built
  split at built
  · assumption
  · contradiction

end Builder

namespace VolBuilder

open Builder

def withName (name : String) (builder : Builder) : Builder :=
  builder.withNameOr "failed to build zfs volume object: missing name" name

def withCapacity (capacity : String) (builder : Builder) : Builder :=
  if capacity = "" then
    builder.fail "failed to build zfs volume object: missing capacity"
  else
    builder.withSpec fun spec => { spec with capacity := capacity }

def withPoolName (pool : String) (builder : Builder) : Builder :=
  if pool = "" then
    builder.fail "failed to build zfs volume object: missing pool name"
  else
    builder.withSpec fun spec => { spec with poolName := pool }

def withOwnerNodeID (nodeid : String) (builder : Builder) : Builder :=
  builder.withSpec fun spec => { spec with ownerNodeID := nodeid }

/-- The quota type defaults to `quota`. -/
def withQuotaType (quotatype : String) (builder : Builder) : Builder :=
  builder.withSpec fun spec =>
    { spec with quotaType := if quotatype ≠ "" then quotatype else "quota" }

def withReservedUserProp (name value : String) (builder : Builder) : Builder :=
  builder.withReservedUserPropOr "failed to build zfs volume object: invalid user property"
    name value

def withPVCName (pvc : String) (builder : Builder) : Builder :=
  withReservedUserProp "openebs.io:pvc-name" pvc builder

def withPVCNamespace (pvc : String) (builder : Builder) : Builder :=
  withReservedUserProp "openebs.io:pvc-namespace" pvc builder

def withPVName (pv : String) (builder : Builder) : Builder :=
  withReservedUserProp "openebs.io:pv-name" pv builder

end VolBuilder

namespace SnapBuilder

open Builder

def withName (name : String) (builder : Builder) : Builder :=
  builder.withNameOr "failed to build csi snap object: missing name" name

def withReservedUserProp (name value : String) (builder : Builder) : Builder :=
  builder.withReservedUserPropOr "failed to build zfs snapshot object: invalid user property"
    name value

def withVSName (vs : String) (builder : Builder) : Builder :=
  withReservedUserProp "openebs.io:vs-name" vs builder

def withVSNamespace (vs : String) (builder : Builder) : Builder :=
  withReservedUserProp "openebs.io:vs-namespace" vs builder

def withVSCName (vsc : String) (builder : Builder) : Builder :=
  withReservedUserProp "openebs.io:vsc-name" vsc builder

end SnapBuilder

/-! ## What the builders leave alone -/

namespace Builder

@[simp]
theorem object_fail (builder : Builder) (message : String) :
    (builder.fail message).object = builder.object :=
  rfl

@[simp]
theorem meta_withSpec (builder : Builder) (change : VolumeInfo → VolumeInfo) :
    (builder.withSpec change).object.toObjectMeta = builder.object.toObjectMeta :=
  rfl

@[simp]
theorem meta_withVolumeStatus (status : State) (builder : Builder) :
    (builder.withVolumeStatus status).object.toObjectMeta = builder.object.toObjectMeta :=
  rfl

@[simp]
theorem meta_withReservedUserPropOr (invalid name value : String) (builder : Builder) :
    (builder.withReservedUserPropOr invalid name value).object.toObjectMeta =
      builder.object.toObjectMeta := by
  unfold withReservedUserPropOr
  dsimp only
  rw [meta_withSpec]
  split
  · rfl
  · rfl

@[simp]
theorem finalizers_withLabels (labels : StringMap) (builder : Builder) :
    (builder.withLabels labels).object.finalizers = builder.object.finalizers :=
  rfl

@[simp]
theorem annotations_withNameOr (missing name : String) (builder : Builder) :
    (builder.withNameOr missing name).object.annotations = builder.object.annotations := by
  unfold withNameOr
  split
  · rfl
  · rfl

@[simp]
theorem finalizers_withNameOr (missing name : String) (builder : Builder) :
    (builder.withNameOr missing name).object.finalizers = builder.object.finalizers := by
  unfold withNameOr
  split
  · rfl
  · rfl

@[simp]
theorem labels_withNameOr (missing name : String) (builder : Builder) :
    (builder.withNameOr missing name).object.labels = builder.object.labels := by
  unfold withNameOr
  split
  · rfl
  · rfl

@[simp]
theorem labels_withLabels (labels : StringMap) (builder : Builder) :
    (builder.withLabels labels).object.labels =
      StringMap.merge builder.object.labels labels :=
  rfl

@[simp]
theorem spec_withSpec (builder : Builder) (change : VolumeInfo → VolumeInfo) :
    (builder.withSpec change).object.spec = change builder.object.spec :=
  rfl

@[simp]
theorem spec_withVolumeStatus (status : State) (builder : Builder) :
    (builder.withVolumeStatus status).object.spec = builder.object.spec :=
  rfl

@[simp]
theorem spec_withNameOr (missing name : String) (builder : Builder) :
    (builder.withNameOr missing name).object.spec = builder.object.spec := by
  unfold withNameOr
  split
  · rfl
  · rfl

@[simp]
theorem snapName_withReservedUserPropOr (invalid name value : String) (builder : Builder) :
    (builder.withReservedUserPropOr invalid name value).object.spec.snapName =
      builder.object.spec.snapName := by
  unfold withReservedUserPropOr
  dsimp only
  rw [spec_withSpec]
  split
  · rfl
  · rfl

/-- An object that is built has the name it was given. -/
theorem name_withNameOr {missing name : String} {builder : Builder}
    (clean : (builder.withNameOr missing name).errs = []) :
    (builder.withNameOr missing name).object.name = name := by
  unfold withNameOr at clean ⊢
  split at clean
  · simp [fail] at clean
  · rename_i given
    rw [if_neg given]

/-- Errors are not forgotten. -/
theorem errs_of_withReservedUserPropOr {invalid name value : String} {builder : Builder}
    (clean : (builder.withReservedUserPropOr invalid name value).errs = []) :
    builder.errs = [] := by
  unfold withReservedUserPropOr withSpec at clean
  dsimp only at clean
  split at clean
  · simp [fail] at clean
  · exact clean

end Builder

namespace VolBuilder

@[simp]
theorem meta_withCapacity (capacity : String) (builder : Builder) :
    (withCapacity capacity builder).object.toObjectMeta = builder.object.toObjectMeta := by
  unfold withCapacity
  split
  · rfl
  · rfl

@[simp]
theorem snapName_withCapacity (capacity : String) (builder : Builder) :
    (withCapacity capacity builder).object.spec.snapName = builder.object.spec.snapName := by
  unfold withCapacity
  split
  · rfl
  · rfl

theorem errs_of_withCapacity {capacity : String} {builder : Builder}
    (clean : (withCapacity capacity builder).errs = []) : builder.errs = [] := by
  unfold withCapacity at clean
  split at clean
  · simp [Builder.fail] at clean
  · exact clean

/-- A volume that is built has the capacity it was given. -/
theorem capacity_withCapacity {capacity : String} {builder : Builder}
    (clean : (withCapacity capacity builder).errs = []) :
    (withCapacity capacity builder).object.spec.capacity = capacity := by
  unfold withCapacity at clean ⊢
  split at clean
  · simp [Builder.fail] at clean
  · rename_i given
    rw [if_neg given]
    rfl

/-- A volume that is built has the pool it was given. -/
theorem spec_withPoolName {pool : String} {builder : Builder}
    (clean : (withPoolName pool builder).errs = []) :
    (withPoolName pool builder).object.spec = { builder.object.spec with poolName := pool } := by
  unfold withPoolName at clean ⊢
  split at clean
  · simp [Builder.fail] at clean
  · rename_i given
    rw [if_neg given]
    rfl

@[simp]
theorem meta_withPoolName (pool : String) (builder : Builder) :
    (withPoolName pool builder).object.toObjectMeta = builder.object.toObjectMeta := by
  unfold withPoolName
  split
  · rfl
  · rfl

@[simp]
theorem snapName_withPoolName (pool : String) (builder : Builder) :
    (withPoolName pool builder).object.spec.snapName = builder.object.spec.snapName := by
  unfold withPoolName
  split
  · rfl
  · rfl

end VolBuilder

end ZfsLocalPv.Api

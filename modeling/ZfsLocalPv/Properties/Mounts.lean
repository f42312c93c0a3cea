import ZfsLocalPv.Driver.Agent
import ZfsLocalPv.Interaction.Triple

/-!
# Mounts of non-shared volumes

What a publish and an unpublish can do to the mount table, whatever their commands answer, and
from it what holds along every sequence of requests: a volume that is not shared is mounted once
at most. `MountBlock` does not look for other mounts, and a dataset whose `mountpoint` is `none`
is mounted by `zfs set` before the publish can still fail; requests that find these states are
left out by a condition.
-/

namespace ZfsLocalPv.Mount

open Api Go Zfs Interaction Prog

section Functions

variable {host : Host} {state : State} {vol : ZFSVolume} {path : String}

/-- What a publish at a path can do. Only for a shared volume, or a dataset whose
`mountpoint` is `none`, can it do more than add one mount when it succeeds. -/
inductive Published (vol : ZFSVolume) (path : String) (before : State) :
    Except Err Unit → State → Prop
  | failed (err : Err) {after : State} (same : after.mounts = before.mounts) :
      Published vol path before (.error err) after
  | already (there : path ∈ before.paths (datasetOf vol)) :
      Published vol path before (.ok ()) before
  | mounted {after : State}
      (free : before.paths (datasetOf vol) = [] ∨ vol.spec.shared = "yes")
      (elsewhere : path ∉ before.paths (datasetOf vol))
      (added : after.mounts = (datasetOf vol, path) :: before.mounts) :
      Published vol path before (.ok ()) after
  | moved {result : Except Err Unit} {after : State}
      (loose : vol.spec.shared = "yes" ∨
        vol.spec.volumeType = .dataset ∧ before.mountpoint (datasetOf vol) = "none")
      (others : ∀ device, device ≠ datasetOf vol → after.paths device = before.paths device) :
      Published vol path before result after

/-- Wrapping the error changes nothing. -/
theorem Published.wrap {result result' : Except Err Unit} {after : State}
    (published : Published vol path state result after)
    (wraps : (∃ err err', result = .error err ∧ result' = .error err') ∨ result' = result) :
    Published vol path state result' after := by
  rcases wraps with ⟨err, err', rfl, rfl⟩ | rfl
  · cases published with
    | failed err same => exact .failed err' same
    | moved loose others => exact .moved loose others
  · exact published

theorem ensures_getVolumeDevPath :
    Ensures (exec host) (getVolumeDevPath vol) state fun result after =>
      after = state ∧ ∀ dev, result = .ok dev → dev = datasetOf vol := by
  unfold getVolumeDevPath
  split
  · apply ensures_ret
    simp
  · apply ensures_lift_bind
    intro choice answer middle executed
    cases exec_reads rfl executed
    cases answer with
    | error message => exact ensures_ret (by simp)
    | ok dev =>
        cases exec_evalSymlinks_ok executed
        exact ensures_ret (by simp)

/-- The check before a mount changes nothing. It passes for a device that is not
mounted at the path and, unless it is shared, nowhere else. -/
theorem ensures_verifyMountRequest {nodeID : String} :
    Ensures (exec host) (verifyMountRequest nodeID vol path) state fun result after =>
      after = state ∧ (result = .ok true → path ∈ state.paths (datasetOf vol)) ∧
        (result = .ok false → path ∉ state.paths (datasetOf vol) ∧
          (state.paths (datasetOf vol) = [] ∨ vol.spec.shared = "yes")) := by
  unfold verifyMountRequest
  split
  · exact ensures_ret (by simp)
  split
  · exact ensures_ret (by simp)
  split
  · exact ensures_ret (by simp)
  apply ensures_getVolumeDevPath.bind
  rintro (err | dev) middle ⟨rfl, device⟩
  · exact ensures_ret (by simp)
  cases device dev rfl
  apply ensures_lift_bind
  rintro choice (message | currentMounts) after executed
  · cases exec_reads rfl executed
    exact ensures_ret (by simp)
  cases exec_reads rfl executed
  cases exec_getMounts_ok executed
  dsimp only
  split
  · rename_i there
    exact ensures_ret (by simp [there])
  split
  · exact ensures_ret (by simp)
  · rename_i away allowed
    apply ensures_ret
    simp only [not_and_or, not_not] at allowed
    simp [away, allowed]

theorem ensures_mountZvol {nodeID : String} {mount : MountInfo} :
    Ensures (exec host) (mountZvol nodeID vol mount) state
      (Published vol mount.mountPath state) := by
  unfold mountZvol
  apply ensures_verifyMountRequest.bind
  rintro (err | mounted) middle ⟨rfl, there, away⟩
  · exact ensures_ret (.failed err rfl)
  cases mounted with
  | true => exact ensures_ret (.already (there rfl))
  | false =>
      obtain ⟨elsewhere, free⟩ := away rfl
      apply ensures_lift_bind
      intro choice answer after executed
      rcases exec_formatAndMount executed with ⟨out, rfl, rfl⟩ | ⟨rfl, rfl⟩
      · exact ensures_ret (.failed _ rfl)
      · exact ensures_ret (.mounted free elsewhere rfl)

theorem ensures_getVolumeProperty {prop : Property} :
    Ensures (exec host) (getVolumeProperty vol prop) state fun result after =>
      after = state ∧ ∀ val, result = .ok val →
        val = match prop with
          | .mountpoint => state.mountpoint (datasetOf vol)
          | .mounted => if state.paths (datasetOf vol) = [] then "no" else "yes" := by
  apply ensures_lift_bind
  rintro choice (out | val) after executed
  · cases exec_reads rfl executed
    exact ensures_ret (by simp)
  cases exec_reads rfl executed
  cases prop with
  | mountpoint =>
      cases exec_zfsGet_mountpoint_ok executed
      exact ensures_ret (by simp)
  | mounted =>
      cases exec_zfsGet_mounted_ok executed
      exact ensures_ret (by simp)

/-- `SetDatasetMountProp` reports what `zfs set` did. -/
theorem ensures_setDatasetMountProp {volume : Dataset} {value : String} :
    Ensures (exec host) (setDatasetMountProp volume value) state fun result after =>
      (∃ err, result = .error err ∧ (after = state ∨ after = state.detach volume value)) ∨
        (result = .ok () ∧ after = state.setMountpoint volume value) := by
  apply ensures_lift_bind
  intro choice answer after executed
  rcases exec_zfsSetMountpoint executed with ⟨out, rfl, left⟩ | ⟨rfl, rfl⟩
  · exact ensures_ret (.inl ⟨_, rfl, left⟩)
  · exact ensures_ret (.inr ⟨rfl, rfl⟩)

/-- Whatever happens to the dataset, other devices keep their mounts. -/
theorem mountZFSDataset_others :
    Ensures (exec host) (mountZFSDataset vol path) state fun _ after =>
      ∀ device, device ≠ datasetOf vol → after.paths device = state.paths device := by
  unfold mountZFSDataset
  apply ensures_setDatasetMountProp.bind
  rintro _ middle (⟨err, rfl, rfl | rfl⟩ | ⟨rfl, rfl⟩)
  · exact ensures_ret fun device _ => rfl
  · exact ensures_ret fun device differs => by simp [differs]
  apply ensures_getVolumeProperty.bind
  rintro (err | mounted) middle ⟨rfl, _⟩
  · exact ensures_ret fun device differs => by simp [differs]
  dsimp only
  split
  · apply ensures_lift_bind
    intro choice answer after executed
    rcases exec_zfsMount executed with ⟨out, rfl, rfl⟩ | ⟨rfl, rfl⟩
    · exact ensures_ret fun device differs => by simp [differs]
    · exact ensures_ret fun device differs => by simp [differs]
  · exact ensures_ret fun device differs => by simp [differs]

/-- A dataset that is mounted nowhere and has a path as its `mountpoint` is not
mounted by `zfs set`, so the last step decides. -/
theorem ensures_mountZFSDataset_of_managed (free : state.paths (datasetOf vol) = [])
    (managed : State.unmanaged (state.mountpoint (datasetOf vol)) = false) :
    Ensures (exec host) (mountZFSDataset vol path) state fun result after =>
      (∃ err, result = .error err ∧ after.mounts = state.mounts) ∨
        (result = .ok () ∧ after.mounts = (datasetOf vol, path) :: state.mounts) := by
  have detached := State.mounts_detach free path
  have set : state.setMountpoint (datasetOf vol) path = state.detach (datasetOf vol) path := by
    simp [State.setMountpoint, free, managed]
  unfold mountZFSDataset
  apply ensures_setDatasetMountProp.bind
  rintro _ middle (⟨err, rfl, rfl | rfl⟩ | ⟨rfl, rfl⟩)
  · exact ensures_ret (.inl ⟨err, rfl, rfl⟩)
  · exact ensures_ret (.inl ⟨err, rfl, detached⟩)
  rw [set]
  apply ensures_getVolumeProperty.bind
  rintro (err | mounted) middle ⟨rfl, known⟩
  · exact ensures_ret (.inl ⟨err, rfl, detached⟩)
  have unmounted : mounted = "no" := by
    simpa [State.paths_congr detached, free] using known mounted rfl
  dsimp only
  rw [if_pos unmounted]
  apply ensures_lift_bind
  intro choice answer after executed
  have taken : (state.detach (datasetOf vol) path).mountpoint (datasetOf vol) = path := by
    simp [State.detach]
  rcases exec_zfsMount executed with ⟨out, rfl, rfl⟩ | ⟨rfl, rfl⟩
  · exact ensures_ret (.inl ⟨_, rfl, detached⟩)
  · exact ensures_ret (.inr ⟨rfl, by simp [State.mount, taken, detached]⟩)

theorem ensures_mountZFSDataset (typed : vol.spec.volumeType = .dataset)
    (free : state.paths (datasetOf vol) = [] ∨ vol.spec.shared = "yes")
    (elsewhere : path ∉ state.paths (datasetOf vol))
    (notLegacy : state.mountpoint (datasetOf vol) ≠ "legacy") :
    Ensures (exec host) (mountZFSDataset vol path) state (Published vol path state) := by
  by_cases loose : vol.spec.shared = "yes" ∨ state.mountpoint (datasetOf vol) = "none"
  · exact mountZFSDataset_others.mono fun _ _ others =>
      .moved (loose.imp_right fun none => ⟨typed, none⟩) others
  · simp only [not_or] at loose
    have nowhere := free.resolve_right loose.1
    apply (ensures_mountZFSDataset_of_managed nowhere (by
      simp [State.unmanaged, notLegacy, loose.2])).mono
    rintro _ after (⟨err, rfl, same⟩ | ⟨rfl, added⟩)
    · exact .failed err same
    · exact .mounted free elsewhere added

theorem ensures_mountDataset {nodeID : String} {mount : MountInfo}
    (typed : vol.spec.volumeType = .dataset) :
    Ensures (exec host) (mountDataset nodeID vol mount) state
      (Published vol mount.mountPath state) := by
  unfold mountDataset
  apply ensures_verifyMountRequest.bind
  rintro (err | mounted) middle ⟨rfl, there, away⟩
  · exact ensures_ret (.failed err rfl)
  cases mounted with
  | true => exact ensures_ret (.already (there rfl))
  | false =>
      obtain ⟨elsewhere, free⟩ := away rfl
      apply ensures_getVolumeProperty.bind
      rintro (err | val) after ⟨rfl, known⟩
      · exact ensures_ret (.failed err rfl)
      cases known val rfl
      dsimp only
      split
      · apply ensures_lift_bind
        intro choice answer after executed
        rcases exec_mountLegacy executed with ⟨out, rfl, rfl⟩ | ⟨rfl, rfl⟩
        · exact ensures_ret (.failed _ rfl)
        · exact ensures_ret (.mounted free elsewhere rfl)
      · rename_i notLegacy
        apply (ensures_mountZFSDataset typed free elsewhere notLegacy).bind
        rintro (err | ⟨⟩) after published
        · exact ensures_ret (published.wrap (.inl ⟨_, _, rfl, rfl⟩))
        · exact ensures_ret published

theorem ensures_mountByType {nodeID : String} {mount : MountInfo} :
    Ensures (exec host) (mountByType nodeID vol mount) state
      (Published vol mount.mountPath state) := by
  unfold mountByType
  split
  · rename_i typed
    exact ensures_mountDataset typed
  · exact ensures_mountZvol

theorem ensures_mountFilesystem {nodeID : String} {mount : MountInfo} :
    Ensures (exec host) (mountFilesystem nodeID vol mount) state
      (Published vol mount.mountPath state) := by
  unfold mountFilesystem
  apply ensures_lift_bind
  rintro choice (message | ⟨⟩) after executed <;> cases exec_reads rfl executed
  · apply ensures_lift_bind
    intro choice broken after executed
    cases exec_reads rfl executed
    split
    · exact ensures_mountByType
    · exact ensures_ret (.failed _ rfl)
  · exact ensures_mountByType

/-- A block publish adds a mount whenever it succeeds, whatever is mounted. -/
theorem ensures_mountBlock {mountinfo : MountInfo} :
    Ensures (exec host) (mountBlock vol mountinfo) state fun result after =>
      (∃ err, result = .error err ∧ after = state) ∨
        (result = .ok () ∧ after = state.mount (datasetOf vol) mountinfo.mountPath) := by
  unfold mountBlock
  apply ensures_lift_bind
  rintro choice (message | ⟨⟩) after executed <;> cases exec_reads rfl executed
  · exact ensures_ret (.inl ⟨_, rfl, rfl⟩)
  apply ensures_lift_bind
  intro choice answer after executed
  rcases exec_bindMount executed with ⟨out, rfl, rfl⟩ | ⟨rfl, rfl⟩
  · apply ensures_lift_bind
    rintro choice (removeErr | ⟨⟩) after executed <;> cases exec_reads rfl executed
    · exact ensures_ret (.inl ⟨_, rfl, rfl⟩)
    · exact ensures_ret (.inl ⟨_, rfl, rfl⟩)
  · exact ensures_ret (.inr ⟨rfl, rfl⟩)

/-! ## Unmounting -/

theorem ensures_setDatasetLegacyMount :
    Ensures (exec host) (setDatasetLegacyMount vol) state fun _ after =>
      after.mounts.Sublist state.mounts := by
  have detached : (state.detach (datasetOf vol) "legacy").mounts.Sublist state.mounts :=
    List.filter_sublist
  have set : state.setMountpoint (datasetOf vol) "legacy" =
      state.detach (datasetOf vol) "legacy" := by
    simp [State.setMountpoint, State.unmanaged]
  unfold setDatasetLegacyMount
  split
  · exact ensures_ret (List.Sublist.refl _)
  apply ensures_getVolumeProperty.bind
  rintro (err | prop) middle ⟨rfl, _⟩
  · exact ensures_ret (List.Sublist.refl _)
  dsimp only
  split
  · apply ensures_setDatasetMountProp.mono
    rintro _ after (⟨err, rfl, rfl | rfl⟩ | ⟨rfl, rfl⟩)
    · exact List.Sublist.refl _
    · exact detached
    · rw [set]
      exact detached
  · exact ensures_ret (List.Sublist.refl _)

theorem ensures_unmountPath :
    Ensures (exec host) (unmountPath vol path) state fun _ after =>
      after.mounts.Sublist state.mounts := by
  unfold unmountPath
  apply ensures_lift_bind
  rintro choice (message | ⟨⟩) middle executed
  · exact ensures_ret (exec_unmount executed)
  apply ensures_setDatasetLegacyMount.bind
  intro result last fewer
  apply ensures_lift_bind
  intro choice answer after removed
  cases exec_reads rfl removed
  exact ensures_ret (fewer.trans (exec_unmount executed))

/-- An unpublish only takes mounts away. -/
theorem ensures_umountVolume :
    Ensures (exec host) (umountVolume vol path) state fun _ after =>
      after.mounts.Sublist state.mounts := by
  unfold umountVolume
  apply ensures_lift_bind
  rintro choice (message | ⟨dev, ref⟩) middle executed <;> cases exec_reads rfl executed
  · exact ensures_ret (List.Sublist.refl _)
  dsimp only
  split
  · exact ensures_ret (List.Sublist.refl _)
  apply ensures_lift_bind
  rintro choice (message | isThere) middle executed <;> cases exec_reads rfl executed
  · apply ensures_lift_bind
    intro choice broken after executed
    cases exec_reads rfl executed
    split
    · exact ensures_unmountPath
    · exact ensures_ret (List.Sublist.refl _)
  cases isThere with
  | false => exact ensures_ret (List.Sublist.refl _)
  | true => exact ensures_unmountPath

end Functions

end ZfsLocalPv.Mount

namespace ZfsLocalPv.Driver

open Api Go Zfs Mount Interaction Prog

/-- The device of a volume with a name and a spec. -/
def deviceOf (name : String) (spec : VolumeInfo) : Dataset :=
  { pool := spec.poolName, name := name }

namespace Publisher

variable {node : Publisher} {state after : Mount.State} {req : NodePublishVolumeRequest}
  {answer : Except Err Unit}

/-- What a publish request can do: it is answered without a mount, or it mounts
the volume it names as a block device or as a file system. -/
inductive Served (node : Publisher) (req : NodePublishVolumeRequest) (state : Mount.State) :
    Except Err Unit → Mount.State → Prop
  | refused (err : Err) : Served node req state (.error err) state
  | unset (capability : req.volumeCapability = some .unset) : Served node req state (.ok ()) state
  | block {vol : ZFSVolume} (capability : req.volumeCapability = some .block)
      (named : vol.name = toLower req.volumeId)
      (known : node.specs (toLower req.volumeId) = some vol.spec) :
      Served node req state (.ok ()) (state.mount (datasetOf vol) req.targetPath)
  | filesystem {vol : ZFSVolume} {answer : Except Err Unit} {after : Mount.State}
      (named : vol.name = toLower req.volumeId)
      (known : node.specs (toLower req.volumeId) = some vol.spec)
      (published : Published vol req.targetPath state answer after) :
      Served node req state answer after

theorem published_publishAnswer {vol : ZFSVolume} {path : String} {mounted : Except Err Unit}
    (published : Published vol path state mounted after) :
    Published vol path state (publishAnswer mounted) after := by
  rcases mounted with err | ⟨⟩
  · exact published.wrap (.inl ⟨_, _, rfl, rfl⟩)
  · exact published

theorem ensures_nodePublishVolume :
    Ensures (exec node.toHost) (nodePublishVolume node.nodeID node.formatDefaults req) state
      (Served node req state) := by
  unfold nodePublishVolume
  split
  · exact ensures_ret (.refused _)
  rename_i access capability
  split
  · exact ensures_ret (.refused _)
  apply ensures_lift_bind
  rintro choice (err | vol) middle executed <;> cases exec_reads rfl executed
  · exact ensures_ret (.refused _)
  obtain ⟨named, known⟩ := exec_getVolume_ok executed
  cases access with
  | unset => exact ensures_ret (.unset capability)
  | block =>
      apply ensures_mountBlock.bind
      rintro _ after (⟨err, rfl, rfl⟩ | ⟨rfl, rfl⟩)
      · exact ensures_ret (.refused _)
      · exact ensures_ret (.block capability named known)
  | mount fsType mountFlags =>
      apply ensures_mountFilesystem.bind
      intro mounted after published
      exact ensures_ret (.filesystem named known (published_publishAnswer published))

theorem served_of_handles (handled : node.Handles (.publish req) state answer after) :
    Served node req state answer after :=
  ensures_nodePublishVolume.of_returns handled

theorem sublist_of_handles {unpublish : NodeUnpublishVolumeRequest}
    (handled : node.Handles (.unpublish unpublish) state answer after) :
    after.mounts.Sublist state.mounts := by
  suffices fewer : Ensures (exec node.toHost) (nodeUnpublishVolume unpublish) state
      fun _ after => after.mounts.Sublist state.mounts from fewer.of_returns handled
  unfold nodeUnpublishVolume
  split
  · exact ensures_ret (List.Sublist.refl _)
  split
  · exact ensures_ret (List.Sublist.refl _)
  apply ensures_lift_bind
  rintro choice (err | vol) middle executed <;> cases exec_reads rfl executed
  · exact ensures_ret (List.Sublist.refl _)
  apply ensures_umountVolume.bind
  rintro (err | ⟨⟩) after fewer
  · exact ensures_ret fewer
  · exact ensures_ret fewer

/-- A publish leaves the mounts of other volumes alone. -/
theorem Served.paths_of_ne (served : Served node req state answer after) {device : Dataset}
    (differs : device.name ≠ toLower req.volumeId) : after.paths device = state.paths device := by
  have apart : ∀ {vol : ZFSVolume}, vol.name = toLower req.volumeId → device ≠ datasetOf vol :=
    fun named same => differs ((congrArg Dataset.name same).trans named)
  cases served with
  | refused err => rfl
  | unset capability => rfl
  | block capability named known => simp [apart named]
  | filesystem named known published =>
      cases published with
      | failed err same => exact congrFun (State.paths_congr same) device
      | already there => rfl
      | mounted free elsewhere added =>
          have paths : after.paths = (state.mount _ req.targetPath).paths :=
            State.paths_congr added
          simp [paths, apart named]
      | moved loose others => exact others device (apart named)

/-- The requests that keep a volume from being mounted twice: a block publish of
a volume that is not shared finds its device mounted nowhere, and no publish
finds the `mountpoint` of its dataset at `none`. -/
def Permitted (node : Publisher) (request : NodeRequest) (state : Mount.State) : Prop :=
  match request with
  | .unpublish _ => True
  | .publish req =>
      ∀ spec ∈ node.specs (toLower req.volumeId), spec.shared ≠ "yes" →
        (req.volumeCapability = some .block →
          state.paths (deviceOf (toLower req.volumeId) spec) = []) ∧
        (spec.volumeType = .dataset →
          state.mountpoint (deviceOf (toLower req.volumeId) spec) ≠ "none")

instance (node : Publisher) (request : NodeRequest) (state : Mount.State) :
    Decidable (node.Permitted request state) :=
  match request with
  | .unpublish _ => inferInstanceAs (Decidable True)
  | .publish req =>
      inferInstanceAs (Decidable (∀ spec ∈ node.specs (toLower req.volumeId),
        spec.shared ≠ "yes" →
          (req.volumeCapability = some .block →
            state.paths (deviceOf (toLower req.volumeId) spec) = []) ∧
          (spec.volumeType = .dataset →
            state.mountpoint (deviceOf (toLower req.volumeId) spec) ≠ "none")))

/-- A permitted publish of a volume that is not shared fails without a trace,
finds the volume mounted at the path, mounts nothing, or adds its only mount. -/
theorem Served.exclusive (served : Served node req state answer after)
    (permitted : node.Permitted (.publish req) state) {spec : VolumeInfo}
    (known : node.specs (toLower req.volumeId) = some spec) (exclusive : spec.shared ≠ "yes") :
    ((∃ err, answer = .error err) ∧ after.mounts = state.mounts) ∨
    (answer = .ok () ∧ after.mounts = state.mounts ∧
      (req.volumeCapability = some .unset ∨
        req.targetPath ∈ state.paths (deviceOf (toLower req.volumeId) spec))) ∨
    (answer = .ok () ∧ state.paths (deviceOf (toLower req.volumeId) spec) = [] ∧
      after.mounts = (deviceOf (toLower req.volumeId) spec, req.targetPath) :: state.mounts) := by
  obtain ⟨unmounted, managed⟩ := permitted spec known exclusive
  have device : ∀ {vol : ZFSVolume}, vol.name = toLower req.volumeId →
      node.specs (toLower req.volumeId) = some vol.spec →
        vol.spec = spec ∧ datasetOf vol = deviceOf (toLower req.volumeId) spec := by
    intro vol named found
    have same : vol.spec = spec := Option.some.inj (found.symm.trans known)
    exact ⟨same, by rw [datasetOf, deviceOf, named, same]⟩
  cases served with
  | refused err => exact .inl ⟨⟨err, rfl⟩, rfl⟩
  | unset capability => exact .inr (.inl ⟨rfl, rfl, .inl capability⟩)
  | block capability named found =>
      rw [(device named found).2]
      exact .inr (.inr ⟨rfl, unmounted capability, rfl⟩)
  | filesystem named found published =>
      obtain ⟨rfl, same⟩ := device named found
      cases published with
      | failed err same => exact .inl ⟨⟨err, rfl⟩, same⟩
      | already there => exact .inr (.inl ⟨rfl, rfl, .inr (same ▸ there)⟩)
      | mounted free elsewhere added =>
          rw [same] at free added
          exact .inr (.inr ⟨rfl, free.resolve_right exclusive, added⟩)
      | moved loose others =>
          rw [same] at loose
          rcases loose with shared | ⟨typed, none⟩
          · exact absurd shared exclusive
          · exact absurd none (managed typed)

/-- Every volume that is not shared is mounted once at most. -/
def MountedOnce (node : Publisher) (state : Mount.State) : Prop :=
  ∀ name spec, node.specs name = some spec → spec.shared ≠ "yes" →
    (state.paths (deviceOf name spec)).length ≤ 1

/-- One permitted request keeps it so. -/
theorem MountedOnce.step {node : Publisher} {before after : Mount.State}
    (once : node.MountedOnce before) (step : node.Step node.Permitted before after) :
    node.MountedOnce after := by
  obtain ⟨request, answer, permitted, handled⟩ := step
  intro name spec known exclusive
  cases request with
  | unpublish req =>
      exact (State.paths_sublist (sublist_of_handles handled) _).length_le.trans
        (once name spec known exclusive)
  | publish req =>
      have served := served_of_handles handled
      by_cases named : name = toLower req.volumeId
      · subst named
        rcases served.exclusive permitted known exclusive with
          ⟨_, same⟩ | ⟨_, same, _⟩ | ⟨_, unmounted, added⟩
        · rw [State.paths_congr same]
          exact once _ spec known exclusive
        · rw [State.paths_congr same]
          exact once _ spec known exclusive
        · have paths : after.paths = (before.mount _ req.targetPath).paths :=
            State.paths_congr added
          simp [paths, unmounted]
      · rw [served.paths_of_ne named]
        exact once name spec known exclusive

theorem MountedOnce.reaches {node : Publisher} {initial state : Mount.State}
    (empty : initial.mounts = []) (reached : node.Reaches node.Permitted initial state) :
    node.MountedOnce state := by
  induction reached with
  | refl =>
      intro name spec _ _
      simp [State.paths, empty]
  | tail _ step ih => exact ih.step step

/-- A node with a zvol `v` and a dataset `d`, neither shared. -/
def twoVolumes : Publisher where
  nodeID := "node"
  specs name :=
    if name = "v" then
      some { ownerNodeID := "node", poolName := "tank", volumeType := .zvol }
    else if name = "d" then
      some { ownerNodeID := "node", poolName := "tank", volumeType := .dataset }
    else
      none
  zvol volume := volume.name = "v"

/-- The volume of a name, as an agent that has made it reports it. -/
def readyVolume (name : String) (volumeType : VolumeType) : ZFSVolume :=
  { name := name
    spec := { ownerNodeID := "node", poolName := "tank", volumeType := volumeType }
    status := .ready }

end Publisher

end ZfsLocalPv.Driver

import ZfsLocalPv.Zfs.Util
import Mathlib.Data.List.Basic

/-!
# Mounts of a node

The functions of `pkg/zfs/mount.go` and their helpers, over the calls they make on their node:
the file system, `mount`, `umount` and `zfs`. A zvol shows up in the mount table under its device
node, a dataset under its name; both are written as the dataset `Spec.PoolName/Name` here, so
that the device of a volume is one value whatever its type.
-/

namespace ZfsLocalPv.Mount

open Api Go Zfs Interaction

structure MountInfo where
  fsType : String := ""
  mountPath : String
  mountOptions : List String := []
  formatOptions : List String := []
  deriving DecidableEq

/-! ## Calls -/

/-- The properties that are read for a mount. -/
inductive Property
  | mountpoint
  | mounted
  deriving DecidableEq

def Property.text : Property → String
  | mountpoint => "mountpoint"
  | mounted => "mounted"

inductive Op
  | getVolume (name : String)
  | mkdirAll (path : String)
  | makeFile (path : String)
  | remove (path : String)
  /-- `os.Stat`, asked for an I/O error only. -/
  | isBrokenMount (path : String)
  | pathExists (path : String)
  /-- The device node behind `/dev/zvol/`. -/
  | evalSymlinks (volume : Dataset)
  | getMounts (device : Dataset)
  | getDeviceNameFromMount (path : String)
  | formatAndMount (volume : Dataset) (mountInfo : MountInfo)
  /-- `mount -t zfs`. -/
  | mountLegacy (options : String) (volume : Dataset) (path : String)
  /-- The bind mount of a node below `/dev/zvol/`. -/
  | bindMount (volume : Dataset) (path : String)
  | unmount (path : String)
  | zfsGet (property : Property) (volume : Dataset)
  | zfsSetMountpoint (value : String) (volume : Dataset)
  | zfsMount (volume : Dataset)

/-- The type of the answer to each call; a failed call answers a text. -/
@[reducible]
def Op.Res : Op → Type
  | getVolume _ => Except Err ZFSVolume
  | mkdirAll _ | makeFile _ | remove _ => Except String Unit
  | isBrokenMount _ => Bool
  | pathExists _ => Except String Bool
  | evalSymlinks _ => Except String Dataset
  | getMounts _ => Except String (List String)
  | getDeviceNameFromMount _ => Except String (Option Dataset × Nat)
  | formatAndMount _ _ | mountLegacy _ _ _ | bindMount _ _ | unmount _ => Except String Unit
  | zfsGet _ _ => Except String String
  | zfsSetMountpoint _ _ | zfsMount _ => Except String Unit

@[reducible]
def signature : Signature where
  Op := Op
  Res := Op.Res

abbrev Routine := Prog signature

@[reducible]
def call (op : Op) : Routine op.Res :=
  Prog.lift (S := signature) op

/-! ## Functions of the agent -/

/-- `GetVolumeDevPath`. -/
def getVolumeDevPath (vol : ZFSVolume) : Routine (Except Err Dataset) := do
  if vol.spec.volumeType = .dataset then
    return .ok (datasetOf vol)
  else
    match ← call (.evalSymlinks (datasetOf vol)) with
    | .error message => return .error (.text message)
    | .ok dev => return .ok dev

/-- `GetVolumeProperty`. -/
def getVolumeProperty (vol : ZFSVolume) (prop : Property) : Routine (Except Err String) := do
  match ← call (.zfsGet prop (datasetOf vol)) with
  | .error out => return .error (.zfs ("zfs get " ++ prop.text) (datasetOf vol).path out)
  | .ok val => return .ok val

/-- `SetDatasetMountProp`. -/
def setDatasetMountProp (volume : Dataset) (mountpath : String) : Routine (Except Err Unit) := do
  match ← call (.zfsSetMountpoint mountpath volume) with
  | .error out => return .error (.zfs "zfs set mountpoint" volume.path out)
  | .ok () => return .ok ()

/-- `SetDatasetLegacyMount`. -/
def setDatasetLegacyMount (vol : ZFSVolume) : Routine (Except Err Unit) := do
  if vol.spec.volumeType ≠ .dataset then
    return .ok ()
  else
    match ← getVolumeProperty vol .mountpoint with
    | .error err => return .error err
    | .ok prop =>
        if prop ≠ "legacy" then
          setDatasetMountProp (datasetOf vol) "legacy"
        else
          return .ok ()

/-- `verifyMountRequest`: whether the volume is mounted at the path already. -/
def verifyMountRequest (nodeID : String) (vol : ZFSVolume) (mountpath : String) :
    Routine (Except Err Bool) := do
  if mountpath = "" then
    return .error (.status .invalidArgument "verifyMount: mount path missing in request")
  else if vol.spec.ownerNodeID ≠ "" ∧ vol.spec.ownerNodeID ≠ nodeID then
    return .error (.status .internal "verifyMount: volume is owned by different node")
  else if ¬ isVolumeReady vol then
    return .error (.status .internal "verifyMount: volume is not ready to be mounted")
  else
    match ← getVolumeDevPath vol with
    | .error err =>
        return .error (.status .internal ("verifyMount: GetVolumePath failed " ++ err.error))
    | .ok devicePath =>
        match ← call (.getMounts devicePath) with
        | .error message =>
            return .error (.status .internal ("verifyMount: Getmounts failed " ++ message))
        | .ok currentMounts =>
            if mountpath ∈ currentMounts then
              return .ok true
            else if currentMounts ≠ [] ∧ vol.spec.shared ≠ "yes" then
              return .error (.status .internal
                ("verifyMount: device already mounted at " ++ formatList currentMounts))
            else
              return .ok false

/-- `MountZvol`. -/
def mountZvol (nodeID : String) (vol : ZFSVolume) (mount : MountInfo) :
    Routine (Except Err Unit) := do
  match ← verifyMountRequest nodeID vol mount.mountPath with
  | .error err => return .error err
  | .ok true => return .ok ()
  | .ok false =>
      match ← call (.formatAndMount (datasetOf vol) mount) with
      | .error _ => return .error (.status .internal "not able to format and mount the zvol")
      | .ok () => return .ok ()

/-- `MountZFSDataset`: setting the mountpoint mounts a dataset only if it has
not been unmounted. -/
def mountZFSDataset (vol : ZFSVolume) (mountpath : String) : Routine (Except Err Unit) := do
  match ← setDatasetMountProp (datasetOf vol) mountpath with
  | .error err => return .error err
  | .ok () =>
      match ← getVolumeProperty vol .mounted with
      | .error err => return .error err
      | .ok mounted =>
          if mounted = "no" then
            match ← call (.zfsMount (datasetOf vol)) with
            | .error out => return .error (.zfs "zfs mount" (datasetOf vol).path out)
            | .ok () => return .ok ()
          else
            return .ok ()

/-- `MountDataset`. -/
def mountDataset (nodeID : String) (vol : ZFSVolume) (mount : MountInfo) :
    Routine (Except Err Unit) := do
  match ← verifyMountRequest nodeID vol mount.mountPath with
  | .error err => return .error err
  | .ok true => return .ok ()
  | .ok false =>
      match ← getVolumeProperty vol .mountpoint with
      | .error err => return .error err
      | .ok val =>
          if val = "legacy" then
            let mntopt :=
              mount.mountOptions.foldl (fun options option => options ++ option ++ ",") ""
            match ← call (.mountLegacy mntopt (datasetOf vol) mount.mountPath) with
            | .error out =>
                return .error (.status .internal ("dataset: mount failed err : " ++ out))
            | .ok () => return .ok ()
          else
            match ← mountZFSDataset vol mount.mountPath with
            | .error err =>
                return .error (.status .internal ("zfs: mount failed err : " ++ err.error))
            | .ok () => return .ok ()

/-- The switch of `MountFilesystem` over the type of the volume. -/
def mountByType (nodeID : String) (vol : ZFSVolume) (mount : MountInfo) :
    Routine (Except Err Unit) :=
  if vol.spec.volumeType = .dataset then
    mountDataset nodeID vol mount
  else
    mountZvol nodeID vol mount

/-- `MountFilesystem`; a broken mount keeps its directory from being made. -/
def mountFilesystem (nodeID : String) (vol : ZFSVolume) (mount : MountInfo) :
    Routine (Except Err Unit) := do
  match ← call (.mkdirAll mount.mountPath) with
  | .ok () => mountByType nodeID vol mount
  | .error message =>
      let broken : Bool ← call (.isBrokenMount mount.mountPath)
      if broken then
        mountByType nodeID vol mount
      else
        return .error (.status .internal
          ("Could not create dir \x7b" ++ quote mount.mountPath ++ "\x7d, err: " ++ message))

/-- `MountBlock`. It does not go through `verifyMountRequest`. -/
def mountBlock (vol : ZFSVolume) (mountinfo : MountInfo) : Routine (Except Err Unit) := do
  let target := mountinfo.mountPath
  match ← call (.makeFile target) with
  | .error message =>
      return .error (.status .internal
        ("Could not create target file " ++ quote target ++ ": " ++ message))
  | .ok () =>
      match ← call (.bindMount (datasetOf vol) target) with
      | .ok () => return .ok ()
      | .error message =>
          match ← call (.remove target) with
          | .error removeErr =>
              return .error (.status .internal
                ("Could not remove mount target " ++ quote target ++ ": " ++ removeErr))
          | .ok () =>
              return .error (.status .internal
                ("mount failed at " ++ target ++ " err : " ++ message))

/-- The end of `UmountVolume`: after the unmount no failure is reported. -/
def unmountPath (vol : ZFSVolume) (targetPath : String) : Routine (Except Err Unit) := do
  match ← call (.unmount targetPath) with
  | .error message => return .error (.text message)
  | .ok () =>
      let _ ← setDatasetLegacyMount vol
      let _ : Except String Unit ← call (.remove targetPath)
      return .ok ()

/-- `UmountVolume`. -/
def umountVolume (vol : ZFSVolume) (targetPath : String) : Routine (Except Err Unit) := do
  match ← call (.getDeviceNameFromMount targetPath) with
  | .error message => return .error (.text message)
  | .ok (dev, ref) =>
      if dev = none ∨ ref = 0 then
        return .ok ()
      else
        match ← call (.pathExists targetPath) with
        | .error message =>
            let broken : Bool ← call (.isBrokenMount targetPath)
            if broken then
              unmountPath vol targetPath
            else
              return .error (.text ("Error checking if path exists: " ++ message))
        | .ok false => return .ok ()
        | .ok true => unmountPath vol targetPath

/-! ## The node -/

/-- What is fixed on a node while requests are handled: its name, the specs of
the volumes, and which datasets are zvols. -/
structure Host where
  nodeID : String
  specs : String → Option VolumeInfo
  zvol : Dataset → Bool

/-- The mount table, newest mount first, and the `mountpoint` properties. -/
structure State where
  mounts : List (Dataset × String)
  mountpoint : Dataset → String

namespace State

/-- The paths a device is mounted at, in the order of the mounts. -/
def paths (state : State) (device : Dataset) : List String :=
  ((state.mounts.filter fun entry => entry.1 = device).map Prod.snd).reverse

def mount (state : State) (device : Dataset) (path : String) : State :=
  { state with mounts := (device, path) :: state.mounts }

/-- The newest mount at a path goes away. -/
def unmount (state : State) (path : String) : State :=
  { state with mounts := state.mounts.eraseP fun entry => entry.2 = path }

/-- The dataset is unmounted everywhere and takes another `mountpoint`. -/
def detach (state : State) (device : Dataset) (value : String) : State :=
  { mounts := state.mounts.filter fun entry => entry.1 ≠ device
    mountpoint := Function.update state.mountpoint device value }

/-- Values of `mountpoint` that leave a dataset to `mount` or to nobody. -/
def unmanaged (value : String) : Bool :=
  value = "legacy" ∨ value = "none"

/-- `zfs set mountpoint`: a dataset that was mounted, or whose `mountpoint` was
`legacy` or `none`, is mounted at the new path. -/
def setMountpoint (state : State) (device : Dataset) (value : String) : State :=
  if unmanaged value = false ∧
      (state.paths device ≠ [] ∨ unmanaged (state.mountpoint device) = true) then
    (state.detach device value).mount device value
  else
    state.detach device value

theorem paths_congr {before after : State} (same : after.mounts = before.mounts) :
    after.paths = before.paths := by
  funext device
  rw [paths, paths, same]

@[simp]
theorem paths_mount_self (state : State) (device : Dataset) (path : String) :
    (state.mount device path).paths device = state.paths device ++ [path] := by
  simp [paths, mount]

@[simp]
theorem paths_mount_of_ne (state : State) {device other : Dataset} (differs : other ≠ device)
    (path : String) : (state.mount device path).paths other = state.paths other := by
  simp [paths, mount, differs.symm]

@[simp]
theorem paths_detach_of_ne (state : State) {device other : Dataset} (differs : other ≠ device)
    (value : String) : (state.detach device value).paths other = state.paths other := by
  have kept : ∀ entry : Dataset × String,
      (decide (entry.1 = other) && decide (entry.1 ≠ device)) = decide (entry.1 = other) := by
    intro entry
    by_cases same : entry.1 = other
    · simp [same, differs]
    · simp [same]
  simp only [paths, detach, List.filter_filter, kept]

@[simp]
theorem paths_setMountpoint_of_ne (state : State) {device other : Dataset}
    (differs : other ≠ device) (value : String) :
    (state.setMountpoint device value).paths other = state.paths other := by
  unfold setMountpoint
  split <;> simp [differs]

theorem paths_eq_nil_iff {state : State} {device : Dataset} :
    state.paths device = [] ↔ ∀ entry ∈ state.mounts, entry.1 ≠ device := by
  simp [paths]

/-- Detaching a dataset that is not mounted leaves the mount table alone. -/
theorem mounts_detach {state : State} {device : Dataset} (free : state.paths device = [])
    (value : String) : (state.detach device value).mounts = state.mounts := by
  simpa [detach] using paths_eq_nil_iff.mp free

theorem paths_sublist {before after : State} (fewer : after.mounts.Sublist before.mounts)
    (device : Dataset) : (after.paths device).Sublist (before.paths device) :=
  ((fewer.filter _).map _).reverse

end State

/-- The outcome of one call: it succeeds, fails with a text, fails after the
first half of its work, or answers a volume or a truth value. -/
inductive Choice
  | ok
  | fail (out : String)
  | halfway (out : String)
  | volume (vol : ZFSVolume)
  | flag (value : Bool)

/-- What a call answers and does. Every command may fail; a failed `zfs set` may have unmounted the
dataset, and a failed mount, which for a bind mount is two commands, has mounted nothing. A volume
is read with the spec it has, its status and its metadata may be any. -/
def exec (host : Host) : (op : Op) → Choice → State → Option (op.Res × State)
  | .getVolume _, .fail out, state => some (.error (.text out), state)
  | .getVolume name, .volume vol, state =>
      if vol.name = name ∧ host.specs name = some vol.spec then some (.ok vol, state) else none
  | .mkdirAll _, .fail out, state => some (.error out, state)
  | .mkdirAll _, .ok, state => some (.ok (), state)
  | .makeFile _, .fail out, state => some (.error out, state)
  | .makeFile _, .ok, state => some (.ok (), state)
  | .remove _, .fail out, state => some (.error out, state)
  | .remove _, .ok, state => some (.ok (), state)
  | .isBrokenMount _, .flag value, state => some (value, state)
  | .pathExists _, .fail out, state => some (.error out, state)
  | .pathExists _, .flag value, state => some (.ok value, state)
  | .evalSymlinks _, .fail out, state => some (.error out, state)
  | .evalSymlinks volume, .ok, state => if host.zvol volume then some (.ok volume, state) else none
  | .getMounts _, .fail out, state => some (.error out, state)
  | .getMounts device, .ok, state => some (.ok (state.paths device), state)
  | .getDeviceNameFromMount _, .fail out, state => some (.error out, state)
  | .getDeviceNameFromMount path, .ok, state =>
      -- the oldest mount at the path, and all mounts of its device
      let device := (state.mounts.reverse.find? fun entry => entry.2 = path).map Prod.fst
      some (.ok (device, (device.map fun dev => (state.paths dev).length).getD 0), state)
  | .formatAndMount _ _, .fail out, state => some (.error out, state)
  | .formatAndMount volume mountInfo, .ok, state =>
      if host.zvol volume then some (.ok (), state.mount volume mountInfo.mountPath) else none
  | .mountLegacy _ _ _, .fail out, state => some (.error out, state)
  | .mountLegacy _ volume path, .ok, state =>
      if state.mountpoint volume = "legacy" then some (.ok (), state.mount volume path) else none
  | .bindMount _ _, .fail out, state => some (.error out, state)
  | .bindMount volume path, .ok, state =>
      if host.zvol volume then some (.ok (), state.mount volume path) else none
  | .unmount _, .fail out, state => some (.error out, state)
  | .unmount path, .ok, state =>
      if path ∈ state.mounts.map Prod.snd then some (.ok (), state.unmount path) else none
  | .zfsGet _ _, .fail out, state => some (.error out, state)
  | .zfsGet .mountpoint volume, .ok, state => some (.ok (state.mountpoint volume), state)
  | .zfsGet .mounted volume, .ok, state =>
      some (.ok (if state.paths volume = [] then "no" else "yes"), state)
  | .zfsSetMountpoint _ _, .fail out, state => some (.error out, state)
  | .zfsSetMountpoint value volume, .halfway out, state =>
      some (.error out, state.detach volume value)
  | .zfsSetMountpoint value volume, .ok, state => some (.ok (), state.setMountpoint volume value)
  | .zfsMount _, .fail out, state => some (.error out, state)
  | .zfsMount volume, .ok, state =>
      if State.unmanaged (state.mountpoint volume) = false ∧ state.paths volume = [] then
        some (.ok (), state.mount volume (state.mountpoint volume))
      else
        none
  | _, _, _ => none

/-! ## What the calls do -/

section Calls

variable {host : Host} {choice : Choice} {state after : State}

/-- The calls that leave the mount table and the properties alone. -/
def Op.reads : Op → Bool
  | getVolume _ | mkdirAll _ | makeFile _ | remove _ | isBrokenMount _ | pathExists _
  | evalSymlinks _ | getMounts _ | getDeviceNameFromMount _ | zfsGet _ _ => true
  | _ => false

theorem exec_reads {op : Op} (reads : op.reads = true) {answer : op.Res}
    (executed : exec host op choice state = some (answer, after)) : after = state := by
  cases op <;> try contradiction
  case zfsGet property volume => cases property <;> cases choice <;> cases executed <;> rfl
  case getVolume name =>
    cases choice <;> try cases executed <;> rfl
    simp only [exec, Option.ite_none_right_eq_some] at executed
    cases executed.2
    rfl
  case evalSymlinks volume =>
    cases choice <;> try cases executed <;> rfl
    simp only [exec, Option.ite_none_right_eq_some] at executed
    cases executed.2
    rfl
  all_goals cases choice <;> cases executed <;> rfl

theorem exec_getVolume_ok {name : String} {vol : ZFSVolume}
    (executed : exec host (.getVolume name) choice state = some (.ok vol, after)) :
    vol.name = name ∧ host.specs name = some vol.spec := by
  cases choice <;> try cases executed
  simp only [exec, Option.ite_none_right_eq_some] at executed
  obtain ⟨known, answered⟩ := executed
  cases answered
  exact known

theorem exec_evalSymlinks_ok {volume dev : Dataset}
    (executed : exec host (.evalSymlinks volume) choice state = some (.ok dev, after)) :
    dev = volume := by
  cases choice <;> try cases executed
  simp only [exec, Option.ite_none_right_eq_some] at executed
  cases executed.2
  rfl

theorem exec_getMounts_ok {device : Dataset} {found : List String}
    (executed : exec host (.getMounts device) choice state = some (.ok found, after)) :
    found = state.paths device := by
  cases choice <;> cases executed
  rfl

theorem exec_zfsGet_mountpoint_ok {volume : Dataset} {val : String}
    (executed : exec host (.zfsGet .mountpoint volume) choice state = some (.ok val, after)) :
    val = state.mountpoint volume := by
  cases choice <;> cases executed
  rfl

theorem exec_zfsGet_mounted_ok {volume : Dataset} {val : String}
    (executed : exec host (.zfsGet .mounted volume) choice state = some (.ok val, after)) :
    val = if state.paths volume = [] then "no" else "yes" := by
  cases choice <;> cases executed
  rfl

/-- What a command that mounts a device at a path can do. -/
def MountsAt (state : State) (device : Dataset) (path : String) (answer : Except String Unit)
    (after : State) : Prop :=
  (∃ out, answer = .error out ∧ after = state) ∨
    (answer = .ok () ∧ after = state.mount device path)

theorem exec_formatAndMount {volume : Dataset} {mountInfo : MountInfo}
    {answer : Except String Unit}
    (executed : exec host (.formatAndMount volume mountInfo) choice state = some (answer, after)) :
    MountsAt state volume mountInfo.mountPath answer after := by
  cases choice <;> simp [exec] at executed
  · exact .inr ⟨executed.2.1.symm, executed.2.2.symm⟩
  · exact .inl ⟨_, executed.1.symm, executed.2.symm⟩

theorem exec_mountLegacy {options : String} {volume : Dataset} {path : String}
    {answer : Except String Unit}
    (executed : exec host (.mountLegacy options volume path) choice state =
      some (answer, after)) : MountsAt state volume path answer after := by
  cases choice <;> simp [exec] at executed
  · exact .inr ⟨executed.2.1.symm, executed.2.2.symm⟩
  · exact .inl ⟨_, executed.1.symm, executed.2.symm⟩

theorem exec_bindMount {volume : Dataset} {path : String} {answer : Except String Unit}
    (executed : exec host (.bindMount volume path) choice state = some (answer, after)) :
    MountsAt state volume path answer after := by
  cases choice <;> simp [exec] at executed
  · exact .inr ⟨executed.2.1.symm, executed.2.2.symm⟩
  · exact .inl ⟨_, executed.1.symm, executed.2.symm⟩

theorem exec_zfsMount {volume : Dataset} {answer : Except String Unit}
    (executed : exec host (.zfsMount volume) choice state = some (answer, after)) :
    MountsAt state volume (state.mountpoint volume) answer after := by
  cases choice <;> simp [exec] at executed
  · exact .inr ⟨executed.2.1.symm, executed.2.2.symm⟩
  · exact .inl ⟨_, executed.1.symm, executed.2.symm⟩

/-- `zfs set mountpoint` fails, fails after the unmount, or succeeds. -/
theorem exec_zfsSetMountpoint {value : String} {volume : Dataset} {answer : Except String Unit}
    (executed : exec host (.zfsSetMountpoint value volume) choice state = some (answer, after)) :
    (∃ out, answer = .error out ∧ (after = state ∨ after = state.detach volume value)) ∨
      (answer = .ok () ∧ after = state.setMountpoint volume value) := by
  cases choice <;> cases executed
  · exact .inr ⟨rfl, rfl⟩
  · exact .inl ⟨_, rfl, .inl rfl⟩
  · exact .inl ⟨_, rfl, .inr rfl⟩

theorem exec_unmount {path : String} {answer : Except String Unit}
    (executed : exec host (.unmount path) choice state = some (answer, after)) :
    after.mounts.Sublist state.mounts := by
  cases choice <;> simp [exec] at executed
  · rw [← executed.2.2]
    exact List.eraseP_sublist
  · rw [← executed.2]

end Calls

end ZfsLocalPv.Mount

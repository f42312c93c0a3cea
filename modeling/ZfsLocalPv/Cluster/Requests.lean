import ZfsLocalPv.Cluster.Locked
import ZfsLocalPv.Cluster.Programs

/-!
# The requests keep the discipline

The controller's requests and the expansion on a node, in the terms of `Cluster.Discipline`, and
with them every thread of the cluster.
-/

namespace ZfsLocalPv.Cluster

open Api ApiServer Driver Interaction Zfs

variable {compile : Compile} {Allowed : ZFSVolume → ZFSVolume → Prop} {id : Nat}
  {shared now : Shared} {α : Type}

/-! ## CreateVolume -/

/-- A volume that `ProvisionVolume` may write. -/
structure Provisional (vol : ZFSVolume) : Prop where
  pending : vol.status = .pending
  bare : vol.finalizers = []

theorem finalizers_volumeObject {req : CreateVolumeRequest} {params : VolumeParams}
    {vol : ZFSVolume} (built : volumeObject req params = .ok vol) : vol.finalizers = [] := by
  obtain rfl := Builder.build_eq_ok built
  simp [VolBuilder.withQuotaType, VolBuilder.withPVName, VolBuilder.withPVCName,
    VolBuilder.withPVCNamespace, VolBuilder.withReservedUserProp, VolBuilder.withName,
    Builder.newBuilder]

theorem name_volumeObject {req : CreateVolumeRequest} {params : VolumeParams}
    {vol : ZFSVolume} (built : volumeObject req params = .ok vol) :
    vol.name = params.volName := by
  have clean := Builder.errs_of_build built
  obtain rfl := Builder.build_eq_ok built
  -- neither the status nor the fields of the spec can fail
  replace clean := VolBuilder.errs_of_withCapacity clean
  have named := Builder.errs_of_withReservedUserPropOr
    (Builder.errs_of_withReservedUserPropOr (Builder.errs_of_withReservedUserPropOr clean))
  simpa [VolBuilder.withQuotaType, VolBuilder.withPVName, VolBuilder.withPVCName,
    VolBuilder.withPVCNamespace, VolBuilder.withReservedUserProp, VolBuilder.withName] using
    Builder.name_withNameOr named

theorem name_placedVolume {volObj vol : ZFSVolume} {nodeid pool : String}
    (placed : placedVolume volObj nodeid pool = .ok vol) : vol.name = volObj.name := by
  obtain rfl := Builder.build_eq_ok placed
  simp [VolBuilder.withOwnerNodeID, Builder.buildFrom]

theorem capacity_volumeObject {req : CreateVolumeRequest} {params : VolumeParams}
    {vol : ZFSVolume} (built : volumeObject req params = .ok vol) :
    vol.spec.capacity = Go.formatInt params.size := by
  have clean := Builder.errs_of_build built
  obtain rfl := Builder.build_eq_ok built
  exact VolBuilder.capacity_withCapacity clean

theorem spec_placedVolume {volObj vol : ZFSVolume} {nodeid pool : String}
    (placed : placedVolume volObj nodeid pool = .ok vol) :
    vol.spec = { volObj.spec with ownerNodeID := nodeid, poolName := pool } := by
  have clean := Builder.errs_of_build placed
  obtain rfl := Builder.build_eq_ok placed
  exact VolBuilder.spec_withPoolName clean

theorem name_cloneOf {req : CreateVolumeRequest} {labels : Go.StringMap}
    {volObj : ZFSVolume} (built : cloneObject req labels = .ok volObj) (source : VolumeInfo)
    (snapName : String) : (cloneOf volObj source snapName).name = Go.toLower req.name := by
  have clean := Builder.errs_of_build built
  obtain rfl := Builder.build_eq_ok built
  have named := Builder.errs_of_withReservedUserPropOr
    (Builder.errs_of_withReservedUserPropOr (Builder.errs_of_withReservedUserPropOr clean))
  simpa [cloneOf, Builder.withLabels, VolBuilder.withPVName, VolBuilder.withPVCName,
    VolBuilder.withPVCNamespace, VolBuilder.withReservedUserProp, VolBuilder.withName] using
    Builder.name_withNameOr named

theorem provisional_placedVolume {volObj vol : ZFSVolume} {nodeid pool : String}
    (bare : volObj.finalizers = []) (placed : placedVolume volObj nodeid pool = .ok vol) :
    Provisional vol := by
  obtain rfl := Builder.build_eq_ok placed
  constructor
  · rfl
  · simp [VolBuilder.withOwnerNodeID, Builder.buildFrom, bare]

theorem provisional_cloneOf {req : CreateVolumeRequest} {labels : Go.StringMap}
    {volObj : ZFSVolume} (built : cloneObject req labels = .ok volObj) (source : VolumeInfo)
    (snapName : String) : Provisional (cloneOf volObj source snapName) := by
  obtain rfl := Builder.build_eq_ok built
  constructor
  · rfl
  · simp [cloneOf, VolBuilder.withPVName, VolBuilder.withPVCName,
      VolBuilder.withPVCNamespace, VolBuilder.withReservedUserProp, VolBuilder.withName,
      Builder.newBuilder]

theorem follows_provisionVolume (polls : Nat) {vol : ZFSVolume} (provisional : Provisional vol) :
    Follows compile Allowed (.request id) (provisionVolume polls vol) shared := by
  have wait {next : Except Err Unit → Routine (Bool × Except Err Unit)}
      (failed : ∀ err, next (.error err) = pure (false, .error err))
      (waits : next (.ok ()) = checkVolCreation vol.name polls) (written : Except Err Unit)
      (now : Shared) : Follows compile Allowed (.request id) (next written) now := by
    cases written with
    | error err =>
        rw [failed]
        exact follows_pure _
    | ok done =>
        rw [waits]
        exact follows_of_reads (calls_checkVolCreation vol.name polls).reads
  apply follows_getZFSVolume
  · intro err now _
    apply Follows.bind
    · apply follows_call
      intro later _
      exact ⟨⟨id, rfl⟩, provisional.pending, provisional.bare⟩
    · intro written later _
      apply wait _ _ written later
      · exact fun _ => rfl
      · rfl
  · intro base now _ known _ allowed
    apply Follows.bind
    · apply follows_call
      intro later advances
      exact ⟨base, advances.volumes.known base known,
        .provision id base vol (allowed vol rfl) provisional.pending⟩
    · intro written later _
      apply wait _ _ written later
      · exact fun _ => rfl
      · rfl

theorem follows_deleteVolume (name : String) :
    Follows compile Allowed (.request id) (Zfs.deleteVolume name) shared := by
  unfold Zfs.deleteVolume
  split
  · exact follows_pure _
  · apply follows_call
    intro now _
    exact ⟨id, rfl⟩

theorem follows_tryNodes (polls : Nat) (params : VolumeParams) (pattern : Pattern)
    (minFree : Int) {volObj : ZFSVolume} (bare : volObj.finalizers = []) (nodes : List String)
    (err : Option Err) :
    Follows compile Allowed (.request id)
      (tryNodes polls params pattern minFree volObj nodes err) shared := by
  induction nodes generalizing shared err with
  | nil => exact follows_pure _
  | cons node nodes ih =>
      apply (follows_of_reads (calls_getNodeID node).reads).bind
      intro answer now _
      cases answer with
      | error err => exact ih _
      | ok nodeid =>
          apply (follows_of_reads (calls_volPool params pattern minFree node nodeid).reads).bind
          intro answer now _
          cases answer with
          | error err => exact ih _
          | ok pool =>
              dsimp only
              split
              · exact ih _
              · rename_i vol placed
                apply (follows_provisionVolume polls (provisional_placedVolume bare placed)).bind
                intro answer now _
                obtain ⟨timeout, provisioned⟩ := answer
                cases provisioned with
                | ok done => exact follows_pure _
                | error err =>
                    cases timeout with
                    | true => exact follows_pure _
                    | false => exact ih _

theorem follows_provisionOnNodes (polls : Nat) (params : VolumeParams) (pattern : Pattern)
    (minFree : Int) {volObj : ZFSVolume} (bare : volObj.finalizers = [])
    (prfList : List String) :
    Follows compile Allowed (.request id)
      (provisionOnNodes polls params pattern minFree volObj prfList) shared := by
  apply (follows_tryNodes polls params pattern minFree bare prfList none).bind
  intro answer now _
  cases answer with
  | ok vol => exact follows_pure _
  | error err =>
      cases err with
      | none => exact follows_panic
      | some err =>
          apply (follows_deleteVolume params.volName).bind
          intro _ later _
          exact follows_pure _

theorem follows_createMissingVolume (polls : Nat) (req : CreateVolumeRequest)
    (params : VolumeParams) :
    Follows compile Allowed (.request id) (createMissingVolume compile polls req params)
      shared := by
  unfold createMissingVolume
  split
  · exact follows_pure _
  · rename_i pattern _
    apply (follows_of_reads (calls_getNodeMap params.schld pattern).reads).bind
    intro answer now _
    cases answer with
    | error err => exact follows_pure _
    | ok nmap =>
        apply (follows_of_reads (calls_preferredNodes params nmap).reads).bind
        intro prfList now _
        split
        · exact follows_pure _
        · apply (follows_of_reads (calls_fittingNodes params pattern prfList).reads).bind
          intro answer now _
          cases answer with
          | error err => exact follows_pure _
          | ok nodes =>
              dsimp only
              split
              · exact follows_pure _
              · rename_i volObj built
                exact follows_provisionOnNodes polls params pattern _
                  (finalizers_volumeObject built) nodes

theorem follows_waitForVolDestroy (volname : String) (polls : Nat) :
    Follows compile Allowed (.request id) (waitForVolDestroy volname polls) shared := by
  induction polls generalizing shared with
  | zero => exact follows_hang
  | succ polls ih =>
      apply follows_getZFSVolume
      · intro err now _
        dsimp only
        split
        · exact follows_pure _
        · exact follows_pure _
      · intro vol now _ _ _ _
        exact ih

theorem follows_createZFSVolume (polls : Nat) (req : CreateVolumeRequest) :
    Follows compile Allowed (.request id) (createZFSVolume compile polls req) shared := by
  unfold createZFSVolume
  split
  · exact follows_panic
  · apply follows_getZFSVolume
    · intro err now _
      exact follows_createMissingVolume polls req _
    · intro vol now _ _ _ _
      dsimp only
      split
      · split
        · apply (follows_waitForVolDestroy _ polls).bind
          intro answer now _
          cases answer with
          | error err => exact follows_pure _
          | ok gone => exact follows_createMissingVolume polls req _
        · exact follows_createMissingVolume polls req _
      · split
        · exact follows_pure _
        · split
          · exact follows_pure _
          · exact follows_pure _

theorem follows_createVolClone (polls : Nat) (req : CreateVolumeRequest) (srcVol : String) :
    Follows compile Allowed (.request id) (createVolClone compile polls req srcVol) shared := by
  unfold createVolClone
  split
  · exact follows_panic
  · dsimp only
    split
    · exact follows_pure _
    · apply follows_getZFSVolume
      · intro err now _
        exact follows_pure _
      · intro vol now _ _ _ _
        dsimp only
        split
        · exact follows_pure _
        · split
          · exact follows_pure _
          · split
            · exact follows_pure _
            · rename_i volObj built
              apply (follows_provisionVolume polls (provisional_cloneOf built _ _)).bind
              intro answer now _
              obtain ⟨timeout, provisioned⟩ := answer
              cases provisioned with
              | error err => exact follows_pure _
              | ok done => exact follows_pure _

theorem follows_createSnapClone (polls : Nat) (req : CreateVolumeRequest) (snapshot : String) :
    Follows compile Allowed (.request id) (createSnapClone compile polls req snapshot)
      shared := by
  unfold createSnapClone
  split
  · exact follows_panic
  · dsimp only
    split
    · exact follows_pure _
    · split
      · apply (follows_of_reads (calls_getZFSSnapshot _).reads).bind
        intro answer now _
        cases answer with
        | error err => exact follows_pure _
        | ok snap =>
            dsimp only
            split
            · exact follows_pure _
            · split
              · exact follows_pure _
              · split
                · exact follows_pure _
                · rename_i volObj built
                  apply (follows_provisionVolume polls (provisional_cloneOf built _ _)).bind
                  intro answer now _
                  obtain ⟨timeout, provisioned⟩ := answer
                  cases provisioned with
                  | error err => exact follows_pure _
                  | ok done => exact follows_pure _
      · exact follows_pure _

/-- Only requests take and release locks. -/
theorem follows_lock {key : String} :
    Follows compile Allowed (.request id) (call (.lock key)) shared :=
  follows_call fun _ _ => ⟨id, rfl⟩

theorem follows_unlock {key : String} :
    Follows compile Allowed (.request id) (call (.unlock key)) shared :=
  follows_call fun _ _ => ⟨id, rfl⟩

theorem follows_lockVolume {volume : String} {body : Routine α}
    (follows : ∀ now, Follows compile Allowed (.request id) body now) :
    Follows compile Allowed (.request id) (lockVolume volume body) shared := by
  apply follows_lock.bind
  intro _ now _
  apply (follows now).bind
  intro result later _
  apply follows_unlock.bind
  intro _ last _
  exact follows_pure _

theorem follows_lockVolumeWithSnapshot {volume snapshot : String} {body : Routine α}
    (follows : ∀ now, Follows compile Allowed (.request id) body now) :
    Follows compile Allowed (.request id) (lockVolumeWithSnapshot volume snapshot body) shared := by
  apply follows_lock.bind
  intro _ now _
  apply follows_lock.bind
  intro _ now _
  apply (follows now).bind
  intro result later _
  apply follows_unlock.bind
  intro _ later _
  apply follows_unlock.bind
  intro _ last _
  exact follows_pure _

theorem follows_createVolumeRequest (polls : Nat) (req : CreateVolumeRequest) :
    Follows compile Allowed (.request id) (Driver.createVolume compile polls req) shared := by
  unfold Driver.createVolume
  split
  · exact follows_pure _
  · apply Follows.bind
    · apply follows_lockVolume
      intro now
      unfold createByKind
      split
      · exact follows_createSnapClone polls req _
      · exact follows_createVolClone polls req _
      · exact follows_createZFSVolume polls req
    · intro created now _
      exact follows_pure _

/-! ## Deletion and expansion -/

theorem follows_markForDeletion (volumeName : String) :
    Follows compile Allowed (.request id) (markForDeletion volumeName) shared := by
  apply follows_getZFSVolume
  · intro err now _
    exact follows_pure _
  · intro vol now _ known _ _
    dsimp only
    rw [updateZFSVolumeAnnotation_eq]
    apply follows_call
    intro later advances
    exact ⟨vol, advances.volumes.known vol known, .mark id vol⟩

/-- The discipline says nothing about answers. -/
theorem follows_promise : Promise (discipline compile Allowed) (.request id)
    (fun (_ : Except Err α) _ => True) :=
  promise_of_lasts lasts_true

theorem follows_deleteVolumeRequest (req : DeleteVolumeRequest) :
    Follows compile Allowed (.request id) (Driver.deleteVolume req) shared := by
  unfold Driver.deleteVolume
  split
  · exact follows_pure _
  · apply follows_lockVolume
    intro now
    apply follows_promise.deleteVolumeLocked (fun reads => reads.free _ _ _) lasts_true
      (fun _ => trivial) (fun _ _ => trivial) _ _ trivial
    · exact fun _ _ => follows_deleteVolume _
    · exact fun _ _ _ => follows_markForDeletion _

theorem follows_controllerExpandVolume (req : ControllerExpandVolumeRequest) :
    Follows compile Allowed (.request id) (controllerExpandVolume req) shared := by
  unfold controllerExpandVolume
  dsimp only
  split
  · exact follows_pure _
  · apply follows_lockVolume
    intro now
    apply follows_getZFSVolume
    · intro err now _
      exact follows_pure _
    · intro vol now _ known _ _
      dsimp only
      split
      · exact follows_pure _
      · split
        · exact follows_pure _
        · apply Follows.bind
          · apply follows_call
            intro later advances
            exact ⟨vol, advances.volumes.known vol known, .resize id vol _⟩
          · intro answer now _
            cases answer with
            | error err => exact follows_pure _
            | ok done => exact follows_pure _

theorem calls_growFilesystem (node volumePath devpath fsType : String) :
    (growFilesystem node volumePath devpath fsType).Calls Op.Reads := by
  unfold growFilesystem
  split
  · apply calls_call_bind
    · trivial
    · intro answer
      cases answer with
      | error message => trivial
      | ok done => trivial
  · split
    · trivial
    · apply calls_call_bind
      · trivial
      · intro answer
        cases answer with
        | error message => trivial
        | ok done => trivial

theorem calls_handleVolResize (node : String) (vol : ZFSVolume) (volumePath : String) :
    (handleVolResize node vol volumePath).Calls Op.Reads := by
  apply Prog.Calls.bind
  · unfold getVolumeDevPath
    split
    · trivial
    · apply calls_call_bind
      · trivial
      · intro answer
        cases answer with
        | error message => trivial
        | ok dev => trivial
  · intro answer
    cases answer with
    | error err => trivial
    | ok devpath =>
        apply calls_call_bind
        · trivial
        · intro paths
          split
          · exact calls_growFilesystem node volumePath devpath _
          · trivial

theorem follows_resizeZFSVolume (node : String) (vol : ZFSVolume) (mountpath : String)
    (resizefs : Bool) :
    Follows compile Allowed (.request id) (resizeZFSVolume node vol mountpath resizefs)
      shared := by
  apply (follows_runCmd fun _ _ => .get ..).bind
  intro answer now _
  cases answer with
  | error err => exact follows_pure _
  | ok oldReservation =>
      apply (follows_runCmd fun _ _ => .resize id node _ vol).bind
      intro answer now _
      cases answer with
      | error err =>
          apply (follows_runCmd fun _ _ => .resize id node _ vol).bind
          intro _ later _
          exact follows_pure _
      | ok out =>
          dsimp only
          split
          · exact follows_of_reads (calls_handleVolResize node vol mountpath)
          · exact follows_pure _

theorem follows_nodeExpandVolume (node : String) (req : NodeExpandVolumeRequest) :
    Follows compile Allowed (.request id) (nodeExpandVolume node req) shared := by
  unfold nodeExpandVolume
  split
  · exact follows_pure _
  · apply follows_getZFSVolume
    · intro err now _
      exact follows_pure _
    · intro vol now _ _ _ _
      apply follows_free_bind (by exact fun _ _ _ => trivial)
      intro answer now _
      cases answer with
      | error message => exact follows_pure _
      | ok isDir =>
          apply (follows_resizeZFSVolume node vol req.volumePath isDir).bind
          intro answer now _
          cases answer with
          | error err => exact follows_pure _
          | ok done => exact follows_pure _

/-! ## Snapshots -/

theorem finalizers_snapshotObject {req : CreateSnapshotRequest} {volume : String}
    {snap : ZFSSnapshot} (built : snapshotObject req volume = .ok snap) :
    snap.finalizers = [] := by
  obtain rfl := Builder.build_eq_ok built
  simp [SnapBuilder.withVSName, SnapBuilder.withVSNamespace, SnapBuilder.withVSCName,
    SnapBuilder.withReservedUserProp, SnapBuilder.withName, Builder.newBuilder]

/-- The object of a snapshot has the name in the request and the label of the volume. -/
theorem name_snapshotObject {req : CreateSnapshotRequest} {volume : String}
    {snap : ZFSSnapshot} (built : snapshotObject req volume = .ok snap) :
    snap.name = Go.toLower req.name ∧ snap.labels.lookup ZFSVolKey = some volume := by
  have clean := Builder.errs_of_build built
  obtain rfl := Builder.build_eq_ok built
  have named := Builder.errs_of_withReservedUserPropOr
    (Builder.errs_of_withReservedUserPropOr (Builder.errs_of_withReservedUserPropOr clean))
  constructor
  · simpa [Builder.withLabels, SnapBuilder.withVSName, SnapBuilder.withVSNamespace,
      SnapBuilder.withVSCName, SnapBuilder.withReservedUserProp, SnapBuilder.withName] using
      Builder.name_withNameOr named
  · exact Go.StringMap.lookup_insert_self ..

theorem follows_createSnapshotLocked (polls : Nat) (time : Int) (req : CreateSnapshotRequest)
    (volumeID snapName : String) :
    Follows compile Allowed (.request id)
      (createSnapshotLocked polls time req volumeID snapName) shared := by
  apply follows_promise.createSnapshotLocked (fun reads => reads.free _ _ _) lasts_true
    (fun _ => trivial) (fun _ _ _ => trivial) _ trivial
  intro snap spec now _ _ built
  have bare := finalizers_snapshotObject built
  exact ⟨⟨⟨id, rfl⟩, rfl, bare⟩, fun _ _ => trivial⟩

theorem follows_createSnapshotRequest (polls : Nat) (time : Int) (req : CreateSnapshotRequest) :
    Follows compile Allowed (.request id) (Driver.createSnapshot polls time req) shared := by
  apply (follows_of_reads (calls_verifySnapshotRequest _ _)).bind
  intro answer now _
  cases answer with
  | error err => exact follows_pure _
  | ok verified =>
      apply follows_lockVolumeWithSnapshot
      intro now
      exact follows_createSnapshotLocked polls time req _ _

theorem follows_deleteFollowing (volumeID : String) (snapList : List ZFSSnapshot) :
    Follows compile Allowed (.request id) (deleteFollowing volumeID snapList) shared := by
  apply follows_promise.deleteFollowing
    (follows_of_reads (calls_isVolumeEligibleForDeletion volumeID))
  · exact fun _ => trivial
  · exact fun _ _ => trivial
  · exact fun _ _ => follows_deleteVolume volumeID

theorem follows_deleteSnapshotLocked (req : DeleteSnapshotRequest) (volumeID snapName : String) :
    Follows compile Allowed (.request id) (deleteSnapshotLocked req volumeID snapName)
      shared := by
  apply follows_promise.deleteSnapshotLocked (fun reads => reads.free _ _ _) lasts_true
    (fun _ => True) (fun _ _ => True) lasts_true (fun _ => lasts_true) (fun _ => trivial)
    (fun _ => trivial) (fun _ => trivial) (fun _ _ => trivial) (fun _ _ => trivial) _ trivial
  intro snapList now _
  constructor
  · exact ⟨id, rfl⟩
  · intro choice answer after _ _
    cases answer with
    | error err => trivial
    | ok done => exact follows_deleteFollowing volumeID snapList

theorem follows_deleteSnapshotRequest (req : DeleteSnapshotRequest) :
    Follows compile Allowed (.request id) (Driver.deleteSnapshot req) shared := by
  unfold Driver.deleteSnapshot
  split
  · exact follows_pure _
  · split
    · apply follows_lockVolumeWithSnapshot
      intro now
      exact follows_deleteSnapshotLocked req _ _
    · exact follows_pure _

/-! ## Every thread of every run -/

theorem follows_serve (req : Request) :
    Follows compile Allowed (.request id) (serve compile req) shared := by
  have answer {γ : Type} {program : Routine γ} (wrap : γ → Answer)
      (follows : Follows compile Allowed (.request id) program shared) :
      Follows compile Allowed (.request id) (program >>= fun result => pure (wrap result))
        shared :=
    follows.bind fun _ _ _ => follows_pure _
  cases req with
  | createVolume polls req => exact answer _ (follows_createVolumeRequest polls req)
  | deleteVolume req => exact answer _ (follows_deleteVolumeRequest req)
  | controllerExpandVolume req => exact answer _ (follows_controllerExpandVolume req)
  | createSnapshot polls time req => exact answer _ (follows_createSnapshotRequest polls time req)
  | deleteSnapshot req => exact answer _ (follows_deleteSnapshotRequest req)
  | nodeExpandVolume node req => exact answer _ (follows_nodeExpandVolume node req)

/-- A condition on steps under which `ProvisionVolume` overwrites only what it may. -/
def ProvisionsOnly (Allowed : ZFSVolume → ZFSVolume → Prop)
    (Meets : Action Tid Choice Move Arrival → Config sig Shared Tid Answer → Prop) : Prop :=
  ∀ {config thread choice op next}, Meets (.call thread choice) config →
    config.threads thread = some (.call op next) → ProvisionAllowed Allowed op config.shared

theorem discipline_sound
    {Meets : Action Tid Choice Move Arrival → Config sig Shared Tid Answer → Prop}
    (provisions : ProvisionsOnly Allowed Meets) :
    (discipline compile Allowed).Sound Meets where
  guard := fun meets atCall => provisions meets atCall
  call := by
    intro thread op choice before answer after _ _ _ executed
    exact ⟨trivial, fun _ _ => (exec_effect executed).advances⟩
  env := by
    intro config move after _ _ moved
    exact ⟨trivial, fun _ => (env_effect moved).advances⟩
  arrive := by
    intro config arrival thread program after _ _ arrived _
    have effect := arrive_effect arrived
    refine ⟨trivial, fun _ _ => effect.advances, ?_⟩
    cases effect with
    | request id req => exact follows_serve req
    | syncVolume node name _ =>
        exact (follows_syncVolume node name).bind fun _ _ _ => follows_pure _
    | syncSnapshot node name _ =>
        exact (follows_syncSnapshot node name).bind fun _ _ _ => follows_pure _
    | syncBackup node name _ =>
        exact (follows_syncBackup node name).bind fun _ _ _ => follows_pure _
  leave := by
    intro config thread answer _ _ _ _
    exact ⟨trivial, fun _ _ => (leave_effect thread answer config.shared).advances⟩

/-- In every configuration of a run from an idle one, the next call of every
thread is one the discipline allows. -/
theorem disciplined_of_reaches
    {Meets : Action Tid Choice Move Arrival → Config sig Shared Tid Answer → Prop}
    (provisions : ProvisionsOnly Allowed Meets) {start config : Config sig Shared Tid Answer}
    (idle : ∀ thread, start.threads thread = none)
    (reached : (cluster compile).Reaches Meets start config) {thread : Tid} {op : Op}
    {next : op.Res → Routine Answer} (atCall : config.threads thread = some (.call op next)) :
    Disciplined Allowed thread op config.shared :=
  ((discipline_sound provisions).reaches trivial idle reached).ok_of_call atCall

/-- Every step of the rest of a run may be taken to keep the discipline. -/
theorem reaches_disciplined_after
    {Meets : Action Tid Choice Move Arrival → Config sig Shared Tid Answer → Prop}
    (provisions : ProvisionsOnly Allowed Meets)
    {start middle config : Config sig Shared Tid Answer}
    (idle : ∀ thread, start.threads thread = none)
    (before : (cluster compile).Reaches Meets start middle)
    (reached : (cluster compile).Reaches Meets middle config) :
    (cluster compile).Reaches (fun action config => Meets action config ∧
      System.AtCalls (fun thread op _ shared => Disciplined Allowed thread op shared)
        action config) middle config := by
  apply reached.strengthen
  intro config action next reached _ _
  cases action with
  | call thread choice =>
      intro op next atCall
      exact disciplined_of_reaches provisions idle (before.trans reached) atCall
  | env | arrive | leave => trivial

/-- Every step of a run may be taken to keep the discipline. -/
theorem reaches_disciplined
    {Meets : Action Tid Choice Move Arrival → Config sig Shared Tid Answer → Prop}
    (provisions : ProvisionsOnly Allowed Meets) {start config : Config sig Shared Tid Answer}
    (idle : ∀ thread, start.threads thread = none)
    (reached : (cluster compile).Reaches Meets start config) :
    (cluster compile).Reaches (fun action config => Meets action config ∧
      System.AtCalls (fun thread op _ shared => Disciplined Allowed thread op shared)
        action config) start config :=
  reaches_disciplined_after provisions idle .refl reached

/-- Every run overwrites only what it may if it may overwrite everything. -/
theorem provisionsOnly_true
    {Meets : Action Tid Choice Move Arrival → Config sig Shared Tid Answer → Prop} :
    ProvisionsOnly (fun _ _ => True) Meets := by
  exact fun _ _ _ _ _ _ => trivial

end ZfsLocalPv.Cluster

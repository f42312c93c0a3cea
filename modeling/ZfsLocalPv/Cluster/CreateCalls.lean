import ZfsLocalPv.Cluster.Creation

/-!
# The calls of CreateVolume

What a `CreateVolume` request can do, whatever it is answered: it asks the API server, takes and
releases its lock, writes volumes it has built, deletes the volume of its name and, if it has no
capacity range, panics.
-/

namespace ZfsLocalPv.Cluster

open Api Driver Go Interaction Zfs

variable {compile : Compile} {req : CreateVolumeRequest}

/-- A volume as one of the three kinds of `CreateVolume` builds it. -/
inductive Built (req : CreateVolumeRequest) : ZFSVolume → Prop
  | plain {requiredBytes : Int} {vol : ZFSVolume}
      (placed : PlacedFor req (volumeParams req requiredBytes) vol) : Built req vol
  | snapClone {snapshot volume snapID : String} {volObj : ZFSVolume} (source : VolumeInfo)
      (parts : split '@' snapshot = [volume, snapID])
      (object : cloneObject req [] = .ok volObj) :
      Built req (cloneOf volObj source (toLower snapshot))
  | volClone {volObj srcVol : ZFSVolume}
      (object : cloneObject req [(ZFSSrcVolKey, srcVol.name)] = .ok volObj) :
      Built req (cloneOf volObj srcVol.spec (srcVol.name ++ "@" ++ toLower req.name))

/-- The calls a `CreateVolume` request may make. -/
inductive CreateOp (req : CreateVolumeRequest) : Op → Prop
  | asks {op : Op} (asks : op.Asks) : CreateOp req op
  | lock (key : String) : CreateOp req (.lock key)
  | unlock (key : String) : CreateOp req (.unlock key)
  | create {vol : ZFSVolume} (built : Built req vol) : CreateOp req (.createVolume vol)
  | update {vol : ZFSVolume} (zv : ZFSVolume) (built : Built req vol) :
      CreateOp req (.updateVolume { zv with spec := vol.spec, status := vol.status })
  | delete : CreateOp req (.deleteVolume (toLower req.name))
  /-- It waits for the end of a volume that is never destroyed. -/
  | hang : CreateOp req .hang
  | panic (missing : req.capacityRange = none) : CreateOp req .panic

variable {α : Type}

theorem asks_createOp {program : Routine α} (calls : program.Calls Op.Asks) :
    program.Calls (CreateOp req) :=
  calls.mono fun _ asks => .asks asks

theorem calls_provisionVolume (polls : Nat) {vol : ZFSVolume} (built : Built req vol) :
    (provisionVolume polls vol).Calls (CreateOp req) := by
  have wait {next : Except Err Unit → Routine (Bool × Except Err Unit)}
      (failed : ∀ err, next (.error err) = pure (false, .error err))
      (waits : next (.ok ()) = checkVolCreation vol.name polls) (written : Except Err Unit) :
      (next written).Calls (CreateOp req) := by
    cases written with
    | error err =>
        rw [failed]
        trivial
    | ok done =>
        rw [waits]
        exact asks_createOp (calls_checkVolCreation vol.name polls)
  apply (asks_createOp (calls_getZFSVolume vol.name (.provision vol))).bind
  intro found
  cases found with
  | error err => exact calls_call_bind (.create built) (wait (fun _ => rfl) rfl)
  | ok zv => exact calls_call_bind (.update zv built) (wait (fun _ => rfl) rfl)

theorem calls_tryNodes (polls : Nat) {params : VolumeParams} (pattern : Pattern) (minFree : Int)
    {volObj : ZFSVolume}
    (builds : ∀ {nodeid pool vol}, placedVolume volObj nodeid pool = .ok vol → Built req vol)
    (nodes : List String) (err : Option Err) :
    (tryNodes polls params pattern minFree volObj nodes err).Calls (CreateOp req) := by
  induction nodes generalizing err with
  | nil => trivial
  | cons node nodes ih =>
      apply (asks_createOp (calls_getNodeID node)).bind
      intro answer
      cases answer with
      | error err => exact ih _
      | ok nodeid =>
          apply (asks_createOp (calls_volPool params pattern minFree node nodeid)).bind
          intro answer
          cases answer with
          | error err => exact ih _
          | ok pool =>
              dsimp only
              split
              · exact ih _
              · rename_i vol placed
                apply (calls_provisionVolume polls (builds placed)).bind
                rintro ⟨timeout, provisioned⟩
                cases provisioned with
                | ok done => trivial
                | error err =>
                    cases timeout with
                    | true => trivial
                    | false => exact ih _

/-- The error of the loop is set as soon as a node has been tried. -/
theorem yields_tryNodes (polls : Nat) (params : VolumeParams) (pattern : Pattern) (minFree : Int)
    (volObj : ZFSVolume) (nodes : List String) {err : Option Err}
    (tried : nodes ≠ [] ∨ err ≠ none) :
    (tryNodes polls params pattern minFree volObj nodes err).Yields (· ≠ .error none) := by
  induction nodes generalizing err with
  | nil =>
      have failed := tried.resolve_left (· rfl)
      exact fun isNone => failed (Except.error.inj isNone)
  | cons node nodes ih =>
      have next (err : Err) := ih (.inr (Option.some_ne_none err))
      apply (Prog.yields_true (getNodeID node)).bind
      intro answer _
      cases answer with
      | error err => exact next err
      | ok nodeid =>
          apply (Prog.yields_true (volPool params pattern minFree node nodeid)).bind
          intro answer _
          cases answer with
          | error err => exact next err
          | ok pool =>
              dsimp only
              split
              · exact next _
              · apply (Prog.yields_true (provisionVolume polls _)).bind
                rintro ⟨timeout, provisioned⟩ _
                cases provisioned with
                | ok done =>
                    intro isNone
                    contradiction
                | error err =>
                    cases timeout with
                    | true =>
                        intro isNone
                        cases isNone
                    | false => exact next err

theorem calls_deleteVolume :
    (Zfs.deleteVolume (toLower req.name)).Calls (CreateOp req) := by
  unfold Zfs.deleteVolume
  split
  · trivial
  · exact Prog.calls_lift .delete

theorem calls_provisionOnNodes (polls : Nat) {params : VolumeParams} (pattern : Pattern)
    (minFree : Int) {volObj : ZFSVolume} (named : params.volName = toLower req.name)
    (builds : ∀ {nodeid pool vol}, placedVolume volObj nodeid pool = .ok vol → Built req vol)
    {prfList : List String} (given : prfList ≠ []) :
    (provisionOnNodes polls params pattern minFree volObj prfList).Calls (CreateOp req) := by
  apply (calls_tryNodes polls pattern minFree builds prfList none).bind_yields
    (yields_tryNodes polls params pattern minFree volObj prfList (.inl given))
  intro answer tried
  cases answer with
  | ok vol => trivial
  | error err =>
      cases err with
      | none => contradiction
      | some err =>
          rw [named]
          exact calls_deleteVolume.bind fun _ => trivial

/-- The fit check leaves a node to try. -/
theorem yields_fittingNodes (params : VolumeParams) (pattern : Pattern) {prfList : List String}
    (given : prfList ≠ []) :
    (fittingNodes params pattern prfList).Yields fun answer =>
      ∀ nodes, answer = .ok nodes → nodes ≠ [] := by
  unfold fittingNodes
  dsimp only
  split
  · apply (Prog.yields_true (getSuitableNodes pattern params.size)).bind
    intro answer _
    cases answer with
    | error err =>
        intro _ isOk
        contradiction
    | ok answer =>
        dsimp only
        split
        · intro _ isOk
          contradiction
        · split
          · split
            · intro _ isOk
              contradiction
            · rename_i some
              rintro _ ⟨⟩
              exact some
          · rintro _ ⟨⟩
            exact given
  · rintro _ ⟨⟩
    exact given

theorem calls_createMissingVolume (polls : Nat) (requiredBytes : Int) :
    (createMissingVolume compile polls req (volumeParams req requiredBytes)).Calls
      (CreateOp req) := by
  unfold createMissingVolume
  split
  · trivial
  · rename_i pattern parsed
    apply (asks_createOp (calls_getNodeMap _ pattern)).bind
    intro answer
    cases answer with
    | error err => trivial
    | ok nmap =>
        apply (asks_createOp (calls_preferredNodes _ nmap)).bind
        intro prfList
        dsimp only
        split
        · trivial
        · rename_i given
          apply (asks_createOp (calls_fittingNodes _ pattern prfList)).bind_yields
            (yields_fittingNodes _ pattern given)
          intro answer fits
          cases answer with
          | error err => trivial
          | ok nodes =>
              dsimp only
              split
              · trivial
              · rename_i volObj object
                exact calls_provisionOnNodes polls pattern _ rfl
                  (fun placed => .plain ⟨volObj, _, _, object, placed⟩) (fits nodes rfl)

theorem calls_waitForVolDestroy (volname : String) (polls : Nat) :
    (waitForVolDestroy volname polls).Calls (CreateOp req) := by
  induction polls with
  | zero => exact calls_call_bind CreateOp.hang fun answer => nomatch answer
  | succ polls ih =>
      apply (asks_createOp (calls_getZFSVolume volname .inspect)).bind
      intro answer
      cases answer with
      | error err =>
          dsimp only
          split
          · trivial
          · trivial
      | ok vol => exact ih

theorem calls_createZFSVolume (polls : Nat) :
    (createZFSVolume compile polls req).Calls (CreateOp req) := by
  unfold createZFSVolume
  split
  · rename_i missing
    exact calls_call_bind (CreateOp.panic missing) fun answer => nomatch answer
  · rename_i requiredBytes _
    apply (asks_createOp (calls_getZFSVolume _ .inspect)).bind
    intro answer
    cases answer with
    | error err => exact calls_createMissingVolume polls requiredBytes
    | ok vol =>
        dsimp only
        split
        · split
          · apply (calls_waitForVolDestroy _ polls).bind
            intro answer
            cases answer with
            | error err => trivial
            | ok gone => exact calls_createMissingVolume polls requiredBytes
          · exact calls_createMissingVolume polls requiredBytes
        · split
          · trivial
          · split
            · trivial
            · trivial

/-- The end of both kinds of clone. -/
theorem calls_provisionClone (polls : Nat) {clone : ZFSVolume} (built : Built req clone)
    {next : Bool × Except Err Unit → Routine (Except Err ZFSVolume)}
    (ends : ∀ answer, ∃ result, next answer = pure result) :
    (provisionVolume polls clone >>= next).Calls (CreateOp req) := by
  apply (calls_provisionVolume polls built).bind
  intro answer
  obtain ⟨result, isResult⟩ := ends answer
  rw [isResult]
  trivial

theorem calls_createVolClone (polls : Nat) (srcVol : String) :
    (createVolClone compile polls req srcVol).Calls (CreateOp req) := by
  unfold createVolClone
  split
  · rename_i missing
    exact calls_call_bind (CreateOp.panic missing) fun answer => nomatch answer
  · dsimp only
    split
    · trivial
    · apply (asks_createOp (calls_getZFSVolume srcVol .inspect)).bind
      intro answer
      cases answer with
      | error err => trivial
      | ok vol =>
          dsimp only
          split
          · trivial
          · split
            · trivial
            · split
              · trivial
              · rename_i volObj object
                apply calls_provisionClone polls (.volClone object)
                rintro ⟨timeout, provisioned⟩
                cases provisioned with
                | error err => exact ⟨_, rfl⟩
                | ok done => exact ⟨_, rfl⟩

theorem calls_createSnapClone (polls : Nat) (snapshot : String) :
    (createSnapClone compile polls req snapshot).Calls (CreateOp req) := by
  unfold createSnapClone
  split
  · rename_i missing
    exact calls_call_bind (CreateOp.panic missing) fun answer => nomatch answer
  · dsimp only
    split
    · trivial
    · split
      · rename_i parts
        apply (asks_createOp (calls_getZFSSnapshot _)).bind
        intro answer
        cases answer with
        | error err => trivial
        | ok snap =>
            dsimp only
            split
            · trivial
            · split
              · trivial
              · split
                · trivial
                · rename_i volObj object
                  apply calls_provisionClone polls (.snapClone snap.spec parts object)
                  rintro ⟨timeout, provisioned⟩
                  cases provisioned with
                  | error err => exact ⟨_, rfl⟩
                  | ok done => exact ⟨_, rfl⟩
      · trivial

/-- A `CreateVolume` request makes no other calls. -/
theorem calls_createVolume (polls : Nat) :
    (Driver.createVolume compile polls req).Calls (CreateOp req) := by
  unfold Driver.createVolume
  split
  · trivial
  · have body : (createByKind compile polls req).Calls (CreateOp req) := by
      unfold createByKind
      split
      · exact calls_createSnapClone polls _
      · exact calls_createVolClone polls _
      · exact calls_createZFSVolume polls
    apply Prog.Calls.bind
    · apply calls_call_bind (.lock _)
      intro _
      apply body.bind
      intro result
      exact calls_call_bind (.unlock _) fun _ => trivial
    · intro created
      trivial

end ZfsLocalPv.Cluster

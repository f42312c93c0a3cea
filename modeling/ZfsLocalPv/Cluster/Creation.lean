import ZfsLocalPv.Cluster.Requests
import ZfsLocalPv.Cluster.Rules

/-!
# The stages of a plain CreateVolume

`CreateZFSVolume` looks for the volume, writes it for one node after the other until a poll finds
it Ready, and deletes it again if no node has made it so. A contract that says what holds at each
of these stages has only to treat the two writes and the answers of the polls; the loops are run
through once, here.
-/

namespace ZfsLocalPv.Cluster

open Api ApiServer Driver Interaction Zfs

/-- A volume as `CreateZFSVolume` writes it, for some node and pool. -/
def PlacedFor (req : CreateVolumeRequest) (params : VolumeParams) (vol : ZFSVolume) : Prop :=
  ∃ volObj nodeid pool, volumeObject req params = .ok volObj ∧
    placedVolume volObj nodeid pool = .ok vol

theorem PlacedFor.name {req : CreateVolumeRequest} {params : VolumeParams} {vol : ZFSVolume}
    (placed : PlacedFor req params vol) : vol.name = params.volName := by
  obtain ⟨volObj, nodeid, pool, built, placed⟩ := placed
  exact (name_placedVolume placed).trans (name_volumeObject built)

theorem PlacedFor.provisional {req : CreateVolumeRequest} {params : VolumeParams}
    {vol : ZFSVolume} (placed : PlacedFor req params vol) : Provisional vol := by
  obtain ⟨volObj, nodeid, pool, built, placed⟩ := placed
  exact provisional_placedVolume (finalizers_volumeObject built) placed

/-- What holds at the stages of a plain `CreateVolume`. -/
structure Stages where
  /-- Nothing has been written. -/
  before : Shared → Prop
  /-- The volume may have been written. -/
  writing : Shared → Prop
  /-- The last write has been accepted. -/
  waiting : Shared → Prop
  /-- A read has found the volume Ready. -/
  made : Shared → Prop
  /-- The volume has been deleted again. -/
  cleaned : Shared → Prop

/-- What holds when the volume is answered for. -/
def Stages.ended (stages : Stages) {ε α : Type} : Except ε α → Shared → Prop
  | .ok _, shared => stages.made shared
  | .error _, shared => stages.before shared ∨ stages.cleaned shared

section

variable {compile : Compile} (contract : Contract (cluster compile)) (thread : Tid)

/-- The stages follow each other under a contract, for a request that writes the volume
of a name as one that is `Placed`. -/
structure Stages.Kept (stages : Stages) (volume : String) (Placed : ZFSVolume → Prop) :
    Prop where
  named : ∀ {vol}, Placed vol → vol.name = volume
  before_lasts : Lasts contract thread stages.before
  writing_lasts : Lasts contract thread stages.writing
  waiting_lasts : Lasts contract thread stages.waiting
  made_lasts : Lasts contract thread stages.made
  cleaned_lasts : Lasts contract thread stages.cleaned
  reads : ∀ {op now}, op.Reads → contract.Ok thread op now
  begins : ∀ {now}, stages.before now → stages.writing now
  waits : ∀ {now}, stages.waiting now → stages.writing now
  writes : ∀ {vol found now}, Placed vol →
    (∀ zv, found = .ok zv → now.volumes.get volume = some zv) → stages.writing now →
    contract.Keeps thread (updateOrCreate vol found) (fun answer now => stages.writing now ∧
      (answer = .ok () → stages.waiting now)) now
  existing : ∀ {vol now}, stages.before now → now.volumes.get volume = some vol →
    ¬ vol.deletionTimestamp = true → vol.status = .ready → stages.made now
  polled : ∀ {vol now}, stages.waiting now → now.volumes.get volume = some vol →
    vol.status = .ready → stages.made now
  cleans : ∀ {now}, stages.writing now → contract.Keeps thread (Zfs.deleteVolume volume)
    (fun _ => stages.cleaned) now

end

variable {compile : Compile} {contract : Contract (cluster compile)} {thread : Tid}
  {shared : Shared}

namespace Stages.Kept

variable {stages : Stages} {volume : String} {Placed : ZFSVolume → Prop}

/-- The polls end with an error or with a Ready volume. -/
theorem checkVolCreation (kept : stages.Kept contract thread volume Placed) (polls : Nat)
    (waiting : stages.waiting shared) :
    contract.Keeps thread (Zfs.checkVolCreation volume polls)
      (fun result now => match result.2 with
        | .ok () => stages.made now
        | .error _ => stages.writing now) shared := by
  have gaveUp (timeout : Bool) (err : Err) (now : Shared) (waiting : stages.waiting now) :
      contract.Keeps thread (pure (timeout, .error err))
        (fun (result : Bool × Except Err Unit) now => match result.2 with
          | .ok () => stages.made now
          | .error _ => stages.writing now) now :=
    fun later moved _ => kept.waits (kept.waiting_lasts now later moved waiting)
  induction polls generalizing shared with
  | zero => exact gaveUp _ _ shared waiting
  | succ polls ih =>
      apply keeps_call_bind
      intro now moved _
      have waiting := kept.waiting_lasts shared now moved waiting
      constructor
      · exact kept.reads trivial
      · intro choice branch after _ executed
        rw [exec_reads (by trivial) executed]
        cases branch with
        | done => exact gaveUp _ _ now waiting
        | timeout => exact gaveUp _ _ now waiting
        | proceed =>
            apply keeps_getZFSVolume_bind
            · intro now _ _
              exact kept.reads trivial
            · intro err later moved _ _
              exact gaveUp _ _ later (kept.waiting_lasts now later moved waiting)
            · intro vol choice later moved _ _ stored
              have waiting := kept.waiting_lasts now later moved waiting
              dsimp only
              split
              · rename_i ready
                intro last moved _
                exact kept.made_lasts later last moved (kept.polled waiting stored ready)
              · exact gaveUp _ _ later waiting
              · exact ih waiting

theorem provisionVolume (kept : stages.Kept contract thread volume Placed) (polls : Nat)
    {vol : ZFSVolume} (placed : Placed vol) (writing : stages.writing shared) :
    contract.Keeps thread (Zfs.provisionVolume polls vol)
      (fun result now => match result.2 with
        | .ok () => stages.made now
        | .error _ => stages.writing now) shared := by
  have nameEq : vol.name = volume := kept.named placed
  have write {next : Except Err Unit → Routine (Bool × Except Err Unit)}
      (failed : ∀ err, next (.error err) = pure (false, .error err))
      (waits : next (.ok ()) = Zfs.checkVolCreation vol.name polls)
      (found : Except Err ZFSVolume) (now : Shared)
      (stored : ∀ zv, found = .ok zv → now.volumes.get volume = some zv)
      (writing : stages.writing now) :
      contract.Keeps thread (updateOrCreate vol found >>= next)
        (fun result now => match result.2 with
          | .ok () => stages.made now
          | .error _ => stages.writing now) now := by
    apply Contract.Keeps.bind
    apply (kept.writes placed stored writing).mono
    rintro written later _ ⟨writing, waiting⟩
    cases written with
    | error err =>
        rw [failed]
        exact fun last moved _ => kept.writing_lasts later last moved writing
    | ok done =>
        rw [waits, nameEq]
        exact kept.checkVolCreation polls (waiting rfl)
  apply keeps_getZFSVolume_bind
  · intro now _ _
    exact kept.reads trivial
  · intro err now moved _ _
    apply write (fun _ => rfl) rfl _ now _ (kept.writing_lasts shared now moved writing)
    intro zv isOk
    contradiction
  · intro zv choice now moved _ _ stored
    apply write (fun _ => rfl) rfl _ now _ (kept.writing_lasts shared now moved writing)
    intro found isOk
    cases isOk
    rw [← nameEq]
    exact stored

/-- The loop over the nodes ends with a Ready volume or with an error. -/
theorem tryNodes (kept : stages.Kept contract thread volume Placed) (polls : Nat)
    {params : VolumeParams} {pattern : Pattern} {minFree : Int} {volObj : ZFSVolume}
    (placed : ∀ {nodeid pool vol}, placedVolume volObj nodeid pool = .ok vol → Placed vol)
    (nodes : List String) (err : Option Err)
    (writing : stages.writing shared) :
    contract.Keeps thread (Driver.tryNodes polls params pattern minFree volObj nodes err)
      (fun result now => match result with
        | .ok _ => stages.made now
        | .error _ => stages.writing now) shared := by
  induction nodes generalizing shared err with
  | nil => exact fun now moved _ => kept.writing_lasts shared now moved writing
  | cons node nodes ih =>
      apply Contract.Keeps.bind
      apply (keeps_lasting_reads (calls_getNodeID node).reads kept.reads kept.writing_lasts
        writing).mono
      intro answer now _ writing
      cases answer with
      | error err => exact ih _ writing
      | ok nodeid =>
          apply Contract.Keeps.bind
          apply (keeps_lasting_reads (calls_volPool params pattern minFree node nodeid).reads
            kept.reads
            kept.writing_lasts writing).mono
          intro answer now _ writing
          cases answer with
          | error err => exact ih _ writing
          | ok pool =>
              dsimp only
              split
              · exact ih _ writing
              · rename_i vol built
                apply Contract.Keeps.bind
                apply (kept.provisionVolume polls (placed built) writing).mono
                rintro ⟨timeout, provisioned⟩ now _ reached
                cases provisioned with
                | ok done => exact fun later moved _ => kept.made_lasts now later moved reached
                | error err =>
                    cases timeout with
                    | true => exact fun later moved _ => kept.writing_lasts now later moved reached
                    | false => exact ih _ reached

theorem createMissingVolume (kept : stages.Kept contract thread volume Placed) (polls : Nat)
    {req : CreateVolumeRequest} {params : VolumeParams} (isVolume : params.volName = volume)
    (placed : ∀ {vol}, PlacedFor req params vol → Placed vol) (before : stages.before shared) :
    contract.Keeps thread (Driver.createMissingVolume compile polls req params)
      stages.ended shared := by
  have failed (err : Err) (now : Shared) (before : stages.before now) :
      contract.Keeps thread (pure (.error err) : Routine (Except Err ZFSVolume))
        stages.ended now :=
    fun later moved _ => .inl (kept.before_lasts now later moved before)
  unfold Driver.createMissingVolume
  split
  · exact failed _ shared before
  · rename_i pattern _
    apply Contract.Keeps.bind
    apply (keeps_lasting_reads (calls_getNodeMap params.schld pattern).reads kept.reads
      kept.before_lasts before).mono
    intro answer now _ before
    cases answer with
    | error err => exact failed _ now before
    | ok nmap =>
        apply Contract.Keeps.bind
        apply (keeps_lasting_reads (calls_preferredNodes params nmap).reads kept.reads
          kept.before_lasts before).mono
        intro prfList now _ before
        split
        · exact failed _ now before
        · apply Contract.Keeps.bind
          apply (keeps_lasting_reads (calls_fittingNodes params pattern prfList).reads kept.reads
            kept.before_lasts before).mono
          intro answer now _ before
          cases answer with
          | error err => exact failed _ now before
          | ok nodes =>
              dsimp only
              split
              · exact failed _ now before
              · rename_i volObj built
                apply Contract.Keeps.bind
                refine (kept.tryNodes polls ?_ nodes none (kept.begins before)).mono ?_
                · intro nodeid pool vol located
                  exact placed ⟨volObj, nodeid, pool, built, located⟩
                intro result now _ reached
                cases result with
                | ok vol => exact fun later moved _ => kept.made_lasts now later moved reached
                | error failure =>
                    cases failure with
                    | none => exact keeps_panic kept.reads
                    | some err =>
                        apply Contract.Keeps.bind
                        rw [isVolume]
                        apply (kept.cleans reached).mono
                        intro _ later _ cleaned last moved _
                        exact .inr (kept.cleaned_lasts later last moved cleaned)

theorem waitForVolDestroy (kept : stages.Kept contract thread volume Placed) (volname : String)
    (polls : Nat) (before : stages.before shared) :
    contract.Keeps thread (Driver.waitForVolDestroy volname polls) (fun _ => stages.before)
      shared := by
  induction polls generalizing shared with
  | zero => exact keeps_hang kept.reads
  | succ polls ih =>
      apply keeps_getZFSVolume_bind
      · intro now _ _
        exact kept.reads trivial
      · intro err now moved _ _
        have before := kept.before_lasts shared now moved before
        dsimp only
        split
        · exact keeps_lasting_return _ kept.before_lasts before
        · exact keeps_lasting_return _ kept.before_lasts before
      · intro vol choice now moved _ _ _
        exact ih (kept.before_lasts shared now moved before)

end Stages.Kept

/-- A plain request goes through its stages. -/
theorem keeps_createZFSVolume {stages : Stages} {Placed : ZFSVolume → Prop}
    {req : CreateVolumeRequest} (polls : Nat)
    (kept : stages.Kept contract thread (Go.toLower req.name) Placed)
    (placed : ∀ {requiredBytes vol}, PlacedFor req (volumeParams req requiredBytes) vol →
      Placed vol) (before : stages.before shared) :
    contract.Keeps thread (createZFSVolume compile polls req) stages.ended shared := by
  unfold createZFSVolume
  split
  · exact keeps_panic kept.reads
  · rename_i requiredBytes _
    have failed (err : Err) (now : Shared) (before : stages.before now) :
        contract.Keeps thread (pure (.error err) : Routine (Except Err ZFSVolume))
          stages.ended now :=
      fun later moved _ => .inl (kept.before_lasts now later moved before)
    have create (now : Shared) (before : stages.before now) :
        contract.Keeps thread
          (createMissingVolume compile polls req (volumeParams req requiredBytes))
          stages.ended now :=
      kept.createMissingVolume polls rfl placed before
    apply keeps_getZFSVolume_bind
    · intro now _ _
      exact kept.reads trivial
    · intro err now moved _ _
      exact create now (kept.before_lasts shared now moved before)
    · intro vol choice now moved _ _ stored
      have before := kept.before_lasts shared now moved before
      dsimp only
      split
      · split
        · apply Contract.Keeps.bind
          apply (kept.waitForVolDestroy _ polls before).mono
          intro answer later _ before
          cases answer with
          | error err => exact failed _ later before
          | ok gone => exact create later before
        · exact create now before
      · rename_i live
        split
        · exact failed _ now before
        · split
          · exact failed _ now before
          · rename_i ready
            intro later moved _
            exact kept.made_lasts now later moved
              (kept.existing before stored live (not_not.mp ready))

end ZfsLocalPv.Cluster

import ZfsLocalPv.Cluster.Rules

/-!
# The syncs of the agents

One walk, for any contract, through the sync of a volume, of a snapshot and of a backup. What is
left to a contract is the copy in the cache, the commands on the node and the write at the end;
it has to accept every error.
-/

namespace ZfsLocalPv.Cluster

open Api ApiServer Interaction Zfs

variable {E A : Type} {sys : System sig Shared Tid Choice Answer E A} {contract : Contract sys}
  {thread : Tid} {shared : Shared} {node name : String}
  {post : Except Err Unit → Shared → Prop}

/-- The state of a volume after the attempt to create its dataset. -/
def stateAfter : Except Err Unit → State
  | .ok () => .ready
  | .error _ => .failed

/-- The status of a backup after the attempt to send it. -/
def backupStatusAfter : Except Err Unit → ZFSBackupStatus
  | .ok () => .done
  | .error _ => .failed

section Copies

variable (fails : ∀ err now, contract.Keeps thread (pure (.error err) : Routine (Except Err Unit))
  post now)
include fails

/-- The next step is taken on success only. -/
theorem keeps_onSuccess {program next : Routine (Except Err Unit)}
    (keeps : contract.Keeps thread program
      (fun answer now => answer = .ok () → contract.Keeps thread next post now) shared) :
    contract.Keeps thread
      (program >>= fun answer => match answer with
        | .error err => pure (.error err)
        | .ok () => next)
      post shared := by
  apply Contract.Keeps.bind
  apply keeps.mono
  intro answer now _ goesOn
  cases answer with
  | error err => exact fails err now
  | ok done => exact goesOn rfl

/-- A deleted volume is destroyed and released, a Ready one gets its properties, and any other
one is created. -/
theorem keeps_syncZV {base : ZFSVolume}
    (destroys : base.deletionTimestamp = true → contract.Keeps thread (destroyVolume node base)
      (fun answer now => answer = .ok () →
        contract.Keeps thread (removeVolumeFinalizer base) post now) shared)
    (sets : base.deletionTimestamp = false → base.spec.validate = .ok () →
      isVolumeReady base = true → contract.Keeps thread (setVolumeProp node base) post shared)
    (creates : base.deletionTimestamp = false → isVolumeReady base = false →
      contract.Keeps thread (Mgmt.createZV node base) (fun answer now =>
        contract.Keeps thread (updateZvolInfo node base (stateAfter answer)) post now) shared) :
    contract.Keeps thread (Mgmt.syncZV node base) post shared := by
  unfold Mgmt.syncZV
  by_cases deleted : base.deletionTimestamp = true
  · rw [if_pos deleted]
    unfold Mgmt.syncDeletedZV
    split
    · exact keeps_onSuccess fails (destroys deleted)
    · exact fails _ shared
  · rw [if_neg deleted]
    have live := Bool.eq_false_iff.mpr deleted
    split
    · exact fails _ shared
    · rename_i valid
      by_cases ready : isVolumeReady base = true
      · rw [if_pos ready]
        exact sets live valid ready
      · rw [if_neg ready]
        apply Contract.Keeps.bind
        apply (creates live (Bool.eq_false_iff.mpr ready)).mono
        intro answer now _ settles
        cases answer with
        | ok done => exact settles
        | error err => exact settles

/-- A deleted snapshot is destroyed and released, and one that is not Ready is taken. -/
theorem keeps_syncSnap {base : ZFSSnapshot}
    (destroys : base.deletionTimestamp = true →
      contract.Keeps thread (destroySnapshot node base) (fun answer now => answer = .ok () →
        contract.Keeps thread (removeSnapFinalizer base) post now) shared)
    (rests : base.deletionTimestamp = false → base.status = .ready →
      contract.Keeps thread (pure (.ok ()) : Routine (Except Err Unit)) post shared)
    (takes : base.deletionTimestamp = false → base.status ≠ .ready →
      contract.Keeps thread (createSnapshot node base) (fun answer now => answer = .ok () →
        contract.Keeps thread (updateSnapInfo node base) post now) shared) :
    contract.Keeps thread (Mgmt.syncSnap node base) post shared := by
  unfold Mgmt.syncSnap
  by_cases deleted : base.deletionTimestamp = true
  · rw [if_pos deleted]
    unfold Mgmt.syncDeletedSnap
    split
    · exact keeps_onSuccess fails (destroys deleted)
    · exact fails _ shared
  · rw [if_neg deleted]
    have live := Bool.eq_false_iff.mpr deleted
    split
    · exact fails _ shared
    · by_cases ready : base.status = .ready
      · rw [if_pos ready]
        exact rests live ready
      · rw [if_neg ready]
        exact keeps_onSuccess fails (takes live ready)

/-- A deleted backup is destroyed and released, and a new one is sent. -/
theorem keeps_syncBkp {base : ZFSBackup}
    (destroys : base.deletionTimestamp = true →
      contract.Keeps thread (destoryBackup node base) (fun answer now => answer = .ok () →
        contract.Keeps thread (removeBkpFinalizer base) post now) shared)
    (sends : base.deletionTimestamp = false → base.status = .init →
      contract.Keeps thread (createBackup node base) (fun answer now =>
        contract.Keeps thread (updateBkpInfo base (backupStatusAfter answer)) post now) shared)
    (rests : base.deletionTimestamp = false → base.status ≠ .init →
      contract.Keeps thread (pure (.ok ()) : Routine (Except Err Unit)) post shared) :
    contract.Keeps thread (Mgmt.syncBkp node base) post shared := by
  unfold Mgmt.syncBkp
  by_cases deleted : base.deletionTimestamp = true
  · rw [if_pos deleted]
    exact keeps_onSuccess fails (destroys deleted)
  · rw [if_neg deleted]
    have live := Bool.eq_false_iff.mpr deleted
    by_cases unsent : base.status = .init
    · rw [if_pos unsent]
      apply Contract.Keeps.bind
      apply (sends live unsent).mono
      intro answer now _ settles
      cases answer with
      | ok done => exact settles
      | error err => exact settles
    · rw [if_neg unsent]
      exact rests live unsent

end Copies

/-! ## The copy in the cache -/

section Cache

variable [Executes sys]

theorem keeps_syncVolume
    (owes : ∀ now, contract.Inv now → contract.Ok thread (.cachedVolume node name) now)
    (absent : ∀ now, (now.volumes.informers node).cache name = none →
      contract.Keeps thread (pure (.ok ()) : Routine (Except Err Unit)) post now)
    (found : ∀ base choice now, contract.Inv now →
      contract.Guard thread (.cachedVolume node name) choice now →
      (now.volumes.informers node).cache name = some base →
      contract.Keeps thread (Mgmt.syncZV node base) post now) :
    contract.Keeps thread (Mgmt.syncVolume node name) post shared := by
  apply keeps_call_bind
  intro now _ inv
  constructor
  · exact owes now inv
  · intro choice answer after guard executed
    obtain ⟨cached, rfl⟩ := exec_cachedVolume executed
    cases answer with
    | none => exact absent after cached
    | some base => exact found base choice after inv guard cached

theorem keeps_syncSnapshot
    (owes : ∀ now, contract.Inv now → contract.Ok thread (.cachedSnapshot node name) now)
    (absent : ∀ now, (now.snapshots.informers node).cache name = none →
      contract.Keeps thread (pure (.ok ()) : Routine (Except Err Unit)) post now)
    (found : ∀ base choice now, contract.Inv now →
      contract.Guard thread (.cachedSnapshot node name) choice now →
      (now.snapshots.informers node).cache name = some base →
      contract.Keeps thread (Mgmt.syncSnap node base) post now) :
    contract.Keeps thread (Mgmt.syncSnapshot node name) post shared := by
  apply keeps_call_bind
  intro now _ inv
  constructor
  · exact owes now inv
  · intro choice answer after guard executed
    obtain ⟨cached, rfl⟩ := exec_cachedSnapshot executed
    cases answer with
    | none => exact absent after cached
    | some base => exact found base choice after inv guard cached

theorem keeps_syncBackup
    (owes : ∀ now, contract.Inv now → contract.Ok thread (.cachedBackup node name) now)
    (absent : ∀ now, (now.backups.informers node).cache name = none →
      contract.Keeps thread (pure (.ok ()) : Routine (Except Err Unit)) post now)
    (found : ∀ base choice now, contract.Inv now →
      contract.Guard thread (.cachedBackup node name) choice now →
      (now.backups.informers node).cache name = some base →
      contract.Keeps thread (Mgmt.syncBkp node base) post now) :
    contract.Keeps thread (Mgmt.syncBackup node name) post shared := by
  apply keeps_call_bind
  intro now _ inv
  constructor
  · exact owes now inv
  · intro choice answer after guard executed
    obtain ⟨cached, rfl⟩ := exec_cachedBackup executed
    cases answer with
    | none => exact absent after cached
    | some base => exact found base choice after inv guard cached

end Cache

end ZfsLocalPv.Cluster

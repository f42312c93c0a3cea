import ZfsLocalPv.Cluster.Serialized

/-!
# No volume is deleted under a live snapshot

DeleteVolume lists the snapshots of a volume and deletes the volume in a later call;
DeleteSnapshot lists them, deletes one and then deletes the volume. Both hold the key of the
volume from the list to the deletion, and every request that can add a snapshot of the volume
needs the same key. So at the moment of the deletion no snapshot of the volume is left undeleted.
-/

namespace ZfsLocalPv.Properties

open Api ApiServer Driver Interaction Zfs Cluster

variable {compile : Compile} {start config : Config sig Shared Tid Answer}

/-- Whenever a volume is about to be deleted, every snapshot of it has a deletion
timestamp. -/
theorem deleted_volume_has_no_live_snapshot (unlocked : Unlocked start)
    (reached : (cluster compile).Reaches SerializedStep start config) {thread : Tid}
    {volume : String} {next : Except Err Unit → Routine Answer}
    (deletes : config.threads thread = some (.call (.deleteVolume volume) next)) {name : String}
    {snap : ZFSSnapshot} (stored : config.shared.snapshots.get name = some snap)
    (labelled : snap.labels.lookup ZFSVolKey = some volume) : snap.deletionTimestamp = true := by
  have disciplined : Disciplined (fun _ _ => True) thread (.deleteVolume volume) config.shared :=
    disciplined_of_reaches provisionsOnly_true unlocked.idle reached deletes
  obtain ⟨id, rfl⟩ := disciplined
  have holds := locking_of_reaches unlocked (fun serialized => serialized) reached
  have owed : Owed (.request id) (.deleteVolume volume) config.shared := holds.ok_of_call deletes
  exact owed.2 name snap stored labelled

/-- The volume is marked for deletion while it has a snapshot, and the request to delete
the snapshot comes to the deletion of the volume. -/
def deferredDeletionRun : List (Action Tid Choice Move Arrival) :=
  snapshotSteps 0 ++ servedSteps 1 (.deleteVolume { volumeId := "v" }) 6 ++
    .arrive (.request 2 (.deleteSnapshot { snapshotId := "v@s" })) :: calls (.request 2) 6

/-- Whether a thread is about to delete a volume. -/
def aboutToDelete (volume : String) : Option (Routine Answer) → Bool
  | some (.call (.deleteVolume name) _) => decide (name = volume)
  | _ => false

theorem exists_of_aboutToDelete {volume : String} {program : Option (Routine Answer)}
    (deletes : aboutToDelete volume program = true) :
    ∃ next, program = some (.call (.deleteVolume volume) next) := by
  unfold aboutToDelete at deletes
  split at deletes
  · obtain rfl := of_decide_eq_true deletes
    exact ⟨_, rfl⟩
  · contradiction

theorem deleted_volume_has_no_live_snapshot_readyCluster :
    ∃ config next snap, (cluster noRegexp).Reaches SerializedStep (idle readyCluster) config ∧
      config.threads (.request 2) = some (.call (.deleteVolume "v") next) ∧
      config.shared.snapshots.get "s" = some snap ∧
      snap.labels.lookup ZFSVolKey = some "v" ∧ snap.deletionTimestamp = true := by
  have ran : ((cluster noRegexp).run SerializedStep deferredDeletionRun (idle readyCluster)).any
      (fun config => aboutToDelete "v" (config.threads (.request 2)) &&
        (config.shared.snapshots.get "s").any fun snap =>
          decide (snap.labels.lookup ZFSVolKey = some "v")) = true := by
    decide +kernel
  obtain ⟨config, reached, checked⟩ := System.exists_reaches_of_run ran
  obtain ⟨deletes, checked⟩ := Bool.and_eq_true_iff.mp checked
  obtain ⟨next, atCall⟩ := exists_of_aboutToDelete deletes
  obtain ⟨snap, stored, labelled⟩ := (Option.any_eq_true _ _).mp checked
  have unlocked : Unlocked (idle readyCluster) := ⟨fun _ => rfl, fun _ => rfl⟩
  exact ⟨config, next, snap, reached, atCall, stored, of_decide_eq_true labelled,
    deleted_volume_has_no_live_snapshot unlocked reached atCall stored
      (of_decide_eq_true labelled)⟩

end ZfsLocalPv.Properties

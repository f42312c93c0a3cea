import ZfsLocalPv.Cluster.Commands

/-!
# Destroying a volume

`DestroyVolume` is a sequence of up to six commands. It takes any failure of a listing for
absence, reaches the internal snapshot of a clone only after it has destroyed the clone itself,
and ignores whether that last part succeeds. So it reports success while something is left
exactly if the listing of an existing volume fails, if the internal snapshot is there without its
clone, or if one of the commands for the snapshot fails.
-/

namespace ZfsLocalPv.Properties

open Api Go Zfs Cluster Interaction

variable {thread : Tid} {node : String} {vol : ZFSVolume} {snap : ZFSSnapshot}
  {shared final : Shared} {choices : List Choice}

/-- How the command at a position ends; the environment answers those that are not run. -/
def outcomeAt (choices : List Choice) (position : Nat) : Outcome :=
  (choices.getD position {}).outcome

@[simp]
theorem outcomeAt_zero (choice : Choice) (rest : List Choice) :
    outcomeAt (choice :: rest) 0 = choice.outcome :=
  rfl

@[simp]
theorem outcomeAt_succ (choice : Choice) (rest : List Choice) (position : Nat) :
    outcomeAt (choice :: rest) (position + 1) = outcomeAt rest position :=
  rfl

/-! ## Snapshots -/

/-- The storage after the destruction of a snapshot was tried. -/
theorem zfsAnswer_destroySnapshot {storage : Storage} {snapshot : Snapshot} (choice : Choice)
    (present : storage.hasSnapshot snapshot = true) :
    ((zfsAnswer choice storage (.destroySnapshot snapshot)).2.hasSnapshot snapshot = false ↔
      choice.outcome ≠ .fail ∧ ¬ storage.HasClone snapshot) ∧
    (zfsAnswer choice storage (.destroySnapshot snapshot)).2.datasets = storage.datasets := by
  by_cases cloned : storage.HasClone snapshot
  · have refused := Storage.run_destroySnapshot_eq_none cloned
    cases outcome : choice.outcome <;>
      simp [zfsAnswer, outcome, refused, failedStorage, present, cloned]
  · have accepted := Storage.run_destroySnapshot present cloned
    cases outcome : choice.outcome <;>
      simp [zfsAnswer, outcome, accepted, failedStorage, present, cloned]

/-- When `DestroySnapshot` leaves no snapshot: its commands do not fail on it and nothing
was cloned from it. -/
structure SnapshotCleared (storage : Storage) (snapshot : Snapshot) (choices : List Choice) :
    Prop where
  parentListed : outcomeAt choices 0 = .ok
  listed : outcomeAt choices 1 = .ok
  destroyed : outcomeAt choices 2 ≠ .fail
  unused : ¬ storage.HasClone snapshot

/-- Where the pool is there, `DestroySnapshot` changes no dataset, and it leaves a snapshot
unless it clears it. -/
theorem destroySnapshot_gone_iff {result : Except Err Unit}
    (pool : (shared.storage node).hasPath snap.spec.poolName = true)
    (ran : Prog.eval (exec thread) choices (destroySnapshot node snap) shared =
      some (result, final)) :
    ((final.storage node).hasSnapshot (snapDataset snap) = false ↔
      ((shared.storage node).hasSnapshot (snapDataset snap) = true →
        SnapshotCleared (shared.storage node) (snapDataset snap) choices)) ∧
    (final.storage node).datasets = (shared.storage node).datasets := by
  -- a run that stops at a listing has changed nothing
  have stopped (same : final = shared) (failed : ¬ SnapshotCleared (shared.storage node)
      (snapDataset snap) choices ∨ (shared.storage node).hasSnapshot (snapDataset snap) = false) :
      ((final.storage node).hasSnapshot (snapDataset snap) = false ↔
        ((shared.storage node).hasSnapshot (snapDataset snap) = true →
          SnapshotCleared (shared.storage node) (snapDataset snap) choices)) ∧
      (final.storage node).datasets = (shared.storage node).datasets := by
    subst same
    refine ⟨?_, rfl⟩
    rcases failed with failed | absent
    · simp [failed]
    · simp [absent]
  obtain ⟨listParent, rest, rfl, ⟨parentListed, asked⟩ | ⟨unlisted, ended⟩⟩ :=
    eval_getVolume_bind_iff.mp ran
  · obtain ⟨list, rest, rfl, ⟨listed, destroyed⟩ | ⟨unlisted, ended⟩⟩ :=
      eval_getVolume_bind_iff.mp asked
    · obtain ⟨destroy, rfl, rfl, _⟩ := eval_last_runCmd (fun _ => rfl) (fun _ => rfl) destroyed
      obtain ⟨gone, datasets⟩ := zfsAnswer_destroySnapshot destroy listed.2
      rw [Shared.storage_setStorage]
      refine ⟨gone.trans ⟨fun ⟨done, unused⟩ _ => ?_, fun cleared => ?_⟩, datasets⟩
      · exact ⟨parentListed.1, listed.1, done, unused⟩
      · exact ⟨(cleared listed.2).destroyed, (cleared listed.2).unused⟩
    · obtain ⟨_, _, same⟩ := Prog.eval_ret_iff.mp ended
      apply stopped same
      cases absent : (shared.storage node).hasSnapshot (snapDataset snap) with
      | false => exact .inr rfl
      | true => exact .inl fun cleared => unlisted ⟨cleared.listed, absent⟩
  · obtain ⟨_, _, same⟩ := Prog.eval_ret_iff.mp ended
    apply stopped same
    left
    intro cleared
    exact unlisted ⟨cleared.parentListed, pool⟩

/-! ## Volumes -/

/-- The snapshot a clone of a volume is made from. -/
def internalSnapshot (vol : ZFSVolume) (srcVol : String) : Snapshot :=
  snapDataset (cloneSnapshot vol srcVol)

/-- Nothing is left of the volume. -/
structure Gone (vol : ZFSVolume) (storage : Storage) : Prop where
  dataset : storage.hasDataset (datasetOf vol) = false
  snapshot : ∀ srcVol, vol.labels.lookup ZFSSrcVolKey = some srcVol →
    storage.hasSnapshot (internalSnapshot vol srcVol) = false

/-- When `DestroyVolume` leaves nothing: the listing of an existing volume does not fail,
and an internal snapshot is there only with its clone and is cleared after it, or goes with
it. -/
structure DestroysAll (vol : ZFSVolume) (storage : Storage) (choices : List Choice) : Prop where
  listed : storage.hasDataset (datasetOf vol) = true → outcomeAt choices 1 = .ok
  cleared : ∀ srcVol, vol.labels.lookup ZFSSrcVolKey = some srcVol →
    storage.hasSnapshot (internalSnapshot vol srcVol) = true →
    storage.hasDataset (datasetOf vol) = true ∧
      (Storage.takes (datasetOf vol) (internalSnapshot vol srcVol).volume = true ∨
        SnapshotCleared (storage.without (datasetOf vol)) (internalSnapshot vol srcVol)
          (choices.drop 3))

/-- The end of `DestroyVolume` clears the internal snapshot or leaves it. -/
theorem destroyCloneSnapshot_gone_iff {result : Except Err Unit}
    (pool : (shared.storage node).hasPath vol.spec.poolName = true)
    (absent : (shared.storage node).hasDataset (datasetOf vol) = false)
    (ran : Prog.eval (exec thread) choices (destroyCloneSnapshot node vol) shared =
      some (result, final)) :
    Gone vol (final.storage node) ↔
      ∀ srcVol, vol.labels.lookup ZFSSrcVolKey = some srcVol →
        (shared.storage node).hasSnapshot (internalSnapshot vol srcVol) = true →
        SnapshotCleared (shared.storage node) (internalSnapshot vol srcVol) choices := by
  unfold destroyCloneSnapshot at ran
  cases labelled : vol.labels.lookup ZFSSrcVolKey with
  | none =>
      rw [labelled] at ran
      obtain ⟨_, _, rfl⟩ := Prog.eval_ret_iff.mp ran
      simp only [reduceCtorEq, false_implies, implies_true, iff_true]
      exact ⟨absent, by simp [labelled]⟩
  | some srcVol =>
      rw [labelled] at ran
      obtain ⟨first, second, value, middle, rfl, destroyed, ended⟩ := Prog.eval_bind_iff.mp ran
      obtain ⟨rfl, _, rfl⟩ := Prog.eval_ret_iff.mp ended
      have samePool :
          (shared.storage node).hasPath (cloneSnapshot vol srcVol).spec.poolName = true := pool
      obtain ⟨gone, datasets⟩ := destroySnapshot_gone_iff samePool destroyed
      have stillAbsent : (final.storage node).hasDataset (datasetOf vol) = false := by
        rw [Storage.hasDataset, datasets]
        exact absent
      rw [List.append_nil]
      constructor
      · rintro left _ ⟨⟩
        exact gone.mp (left.snapshot srcVol labelled)
      · intro cleared
        refine ⟨stillAbsent, fun other isSource => ?_⟩
        cases labelled.symm.trans isSource
        exact gone.mpr (cleared srcVol rfl)

/-- Once the volume is destroyed, what is left of it is its internal snapshot. -/
theorem gone_after_destroy_iff {result : Except Err Unit} {middle : Shared}
    (pool : (shared.storage node).hasPath vol.spec.poolName = true)
    (effect : (shared.storage node).Effect (.destroy (datasetOf vol)) (middle.storage node))
    (ran : Prog.eval (exec thread) choices (destroyCloneSnapshot node vol) middle =
      some (result, final)) :
    Gone vol (final.storage node) ↔
      ∀ srcVol, vol.labels.lookup ZFSSrcVolKey = some srcVol →
        (shared.storage node).hasSnapshot (internalSnapshot vol srcVol) = true →
        Storage.takes (datasetOf vol) (internalSnapshot vol srcVol).volume = true ∨
          SnapshotCleared ((shared.storage node).without (datasetOf vol))
            (internalSnapshot vol srcVol) choices := by
  have absent := effect.destroyed
  generalize afterEq : middle.storage node = after at effect absent
  cases effect with
  | destroy =>
      have poolLeft : (middle.storage node).hasPath vol.spec.poolName = true := by
        rw [afterEq]
        exact Storage.hasPath_pool_without pool
      rw [destroyCloneSnapshot_gone_iff poolLeft (afterEq ▸ absent) ran, afterEq]
      refine forall₂_congr fun srcVol _ => ?_
      rw [Storage.hasSnapshot_without]
      cases Storage.takes (datasetOf vol) (internalSnapshot vol srcVol).volume with
      | false => simp
      | true => simp

/-- `DestroyVolume` that reports success leaves nothing exactly if no listing of an existing
volume fails and the internal snapshot, if there is one, is there with its clone and is
cleared after it. A call repeated after a crash is a call in the state the crash left. -/
theorem destroy_leaves_nothing_iff
    (ran : Prog.eval (exec thread) choices (destroyVolume node vol) shared =
      some (.ok (), final)) :
    Gone vol (final.storage node) ↔ DestroysAll vol (shared.storage node) choices := by
  obtain ⟨listPool, rest, rfl, ⟨pool, asked⟩ | ⟨_, ended⟩⟩ := eval_getVolume_bind_iff.mp ran
  · obtain ⟨list, rest, rfl, ⟨listed, destroyed⟩ | ⟨unlisted, ended⟩⟩ :=
      eval_getVolume_bind_iff.mp asked
    · -- the volume is found and destroyed
      obtain ⟨destroy, rest, rfl, cleared⟩ := eval_runCmd_bind_iff.mp destroyed
      cases answered : (zfsAnswer destroy (shared.storage node) (.destroy (datasetOf vol))).1 with
      | error out =>
          rw [answered] at cleared
          obtain ⟨_, failed, _⟩ := Prog.eval_ret_iff.mp cleared
          contradiction
      | ok out =>
          rw [answered] at cleared
          have effect := Storage.run_effect (zfsAnswer_ok answered)
          rw [← Shared.storage_setStorage shared node
            (zfsAnswer destroy (shared.storage node) (.destroy (datasetOf vol))).2] at effect
          rw [gone_after_destroy_iff pool.2 effect cleared]
          constructor
          · exact fun clears => ⟨fun _ => listed.1, fun srcVol labelled present =>
              ⟨listed.2, clears srcVol labelled present⟩⟩
          · exact fun all srcVol labelled present => (all.cleared srcVol labelled present).2
    · -- the listing fails: success is reported and nothing is done
      obtain ⟨_, _, rfl⟩ := Prog.eval_ret_iff.mp ended
      constructor
      · intro gone
        refine ⟨fun present => ?_, fun srcVol labelled present => ?_⟩
        · rw [gone.dataset] at present
          contradiction
        · rw [gone.snapshot srcVol labelled] at present
          contradiction
      · intro all
        have absent : (final.storage node).hasDataset (datasetOf vol) = false := by
          rw [← Bool.not_eq_true]
          exact fun present => unlisted ⟨all.listed present, present⟩
        refine ⟨absent, fun srcVol labelled => ?_⟩
        rw [← Bool.not_eq_true]
        intro present
        rw [(all.cleared srcVol labelled present).1] at absent
        contradiction
  · obtain ⟨_, failed, _⟩ := Prog.eval_ret_iff.mp ended
    contradiction

/-- A clone of the volume `v`. -/
def destroyedClone : ZFSVolume where
  name := "c"
  spec := { ownerNodeID := "n", poolName := "p", snapName := "v@c" }
  labels := [(ZFSSrcVolKey, "v")]
  status := .ready

/-- The node of `v` with the snapshot the clone is made from and the given clones of it. -/
def sourceWith (clones : List Entry) : Storage where
  parents := ["p"]
  datasets := { dataset := ⟨"p", "v"⟩ } :: clones
  snapshots := [⟨⟨"p", "v"⟩, "c"⟩]

theorem destroy_leaves_nothing_iff_clone :
    let storage := sourceWith [{ dataset := ⟨"p", "c"⟩, origin := some ⟨⟨"p", "v"⟩, "c"⟩ }]
    ∃ final, Prog.eval (exec (.volume "n" "c")) [{}, {}, {}, {}, {}, {}]
        (destroyVolume "n" destroyedClone) { storage := fun _ => storage } = some (.ok (), final) ∧
      Gone destroyedClone (final.storage "n") := by
  intro storage
  have ran : Prog.eval (exec (.volume "n" "c")) [{}, {}, {}, {}, {}, {}]
      (destroyVolume "n" destroyedClone) { storage := fun _ => storage } = some (.ok (), _) :=
    rfl
  refine ⟨_, ran, (destroy_leaves_nothing_iff ran).mpr ⟨fun _ => rfl, ?_⟩⟩
  rintro srcVol ⟨⟩ _
  refine ⟨by decide, .inr ⟨rfl, rfl, by decide, ?_⟩⟩
  rintro ⟨entry, mem, isOrigin⟩
  revert isOrigin
  revert entry
  decide

/-- The agent crashes after it has destroyed the clone. The next sync finds no clone, reports
success and leaves the snapshot. -/
theorem destroy_leaves_snapshot :
    let storage := sourceWith [{ dataset := ⟨"p", "c"⟩, origin := some ⟨⟨"p", "v"⟩, "c"⟩ }]
    storage.run (.destroy (datasetOf destroyedClone)) = some ("", sourceWith []) ∧
      ∃ final, Prog.eval (exec (.volume "n" "c")) [{}, {}] (destroyVolume "n" destroyedClone)
          { storage := fun _ => sourceWith [] } = some (.ok (), final) ∧
        destroyedClone.labels.lookup ZFSSrcVolKey = some "v" ∧
        (final.storage "n").hasSnapshot ⟨⟨"p", "v"⟩, "c"⟩ = true :=
  ⟨by decide, _, rfl, rfl, by decide⟩

end ZfsLocalPv.Properties

import ZfsLocalPv.Cluster.CreateCalls
import ZfsLocalPv.Properties.Destroy

/-!
# Destroy undoes create

The name of a clone's snapshot is computed in four places: by the controller as the snapshot name
of the volume, by `CreateClone` from the label of the volume, in the arguments of `zfs clone`,
and again by `DestroyVolume`. For the volumes that the controller builds they agree: what the
agent makes for such a volume, its destruction takes away, and nothing else.
-/

namespace ZfsLocalPv.Properties

open Api Cluster Driver Go Interaction Mgmt Zfs

/-! ## The volumes of the controller -/

theorem labels_placedVolume {req : CreateVolumeRequest} {params : VolumeParams}
    {vol : ZFSVolume} (placed : PlacedFor req params vol) :
    vol.labels = [] ∧ vol.spec.snapName = "" := by
  obtain ⟨volObj, nodeid, pool, object, placed⟩ := placed
  obtain rfl := Builder.build_eq_ok placed
  obtain rfl := Builder.build_eq_ok object
  simp [VolBuilder.withOwnerNodeID, Builder.buildFrom,
    VolBuilder.withQuotaType, VolBuilder.withPVName, VolBuilder.withPVCName,
    VolBuilder.withPVCNamespace, VolBuilder.withReservedUserProp, VolBuilder.withName,
    Builder.newBuilder]

theorem labels_cloneOf {req : CreateVolumeRequest} {labels : StringMap} {volObj : ZFSVolume}
    (object : cloneObject req labels = .ok volObj) (source : VolumeInfo) (snapName : String) :
    (cloneOf volObj source snapName).labels = StringMap.merge [] labels := by
  obtain rfl := Builder.build_eq_ok object
  simp [cloneOf, VolBuilder.withPVName, VolBuilder.withPVCName,
    VolBuilder.withPVCNamespace, VolBuilder.withReservedUserProp, VolBuilder.withName,
    Builder.newBuilder]

/-- The names a volume of the controller carries. -/
inductive Kind (vol : ZFSVolume) : Prop
  | plain (unlabelled : vol.labels.lookup ZFSSrcVolKey = none) (unnamed : vol.spec.snapName = "")
  | snapClone (unlabelled : vol.labels.lookup ZFSSrcVolKey = none)
      (named : vol.spec.snapName ≠ "")
  | volClone {srcVol : String} (labelled : vol.labels.lookup ZFSSrcVolKey = some srcVol)
      (named : vol.spec.snapName = srcVol ++ "@" ++ vol.name)

theorem kind_of_built {req : CreateVolumeRequest} {vol : ZFSVolume} (built : Built req vol) :
    Kind vol := by
  cases built with
  | plain placed =>
      obtain ⟨labels, unnamed⟩ := labels_placedVolume placed
      exact .plain (by rw [labels]; rfl) unnamed
  | snapClone source parts object =>
      refine .snapClone (by rw [labels_cloneOf object]; rfl) (toLower_ne_empty ?_)
      rintro rfl
      simp [split, splitChars] at parts
  | volClone object =>
      refine .volClone (by rw [labels_cloneOf object]; rfl) ?_
      rw [name_cloneOf object]
      rfl

/-! ## Creation -/

variable {thread : Tid} {node : String} {vol : ZFSVolume} {shared made final : Shared}
  {choices : List Choice}

/-- The state before the creation: the pool is there, and neither the volume nor the internal
snapshot of a clone is. -/
structure Fresh (vol : ZFSVolume) (storage : Storage) : Prop where
  formed : storage.WellFormed
  pool : storage.hasPath vol.spec.poolName = true
  absent : storage.hasPath (datasetOf vol).path = false
  unsnapped : ∀ srcVol, vol.labels.lookup ZFSSrcVolKey = some srcVol →
    ∀ snapshot ∈ storage.snapshots, snapshot.path ≠ (internalSnapshot vol srcVol).path

/-- The storage in which the dataset is made: a clone of a volume has its snapshot. -/
def prepared (vol : ZFSVolume) (storage : Storage) : Storage :=
  match vol.labels.lookup ZFSSrcVolKey with
  | none => storage
  | some srcVol => storage.withSnapshot (internalSnapshot vol srcVol)

/-- What the creation of a volume makes of a storage. -/
structure Makes (vol : ZFSVolume) (storage : Storage) (entry : Entry) (next : Storage) : Prop where
  source : ∀ srcVol, vol.labels.lookup ZFSSrcVolKey = some srcVol →
    storage.hasDataset (internalSnapshot vol srcVol).volume = true
  named : entry.dataset = datasetOf vol
  origin : vol.spec.snapName ≠ "" → ∃ origin, entry.origin = some origin ∧
    origin.path = vol.spec.poolName ++ "/" ++ vol.spec.snapName
  added : next = (prepared vol storage).add entry

theorem datasets_prepared (vol : ZFSVolume) (storage : Storage) :
    (prepared vol storage).datasets = storage.datasets := by
  unfold prepared
  split
  · rfl
  · rfl

theorem not_hasDataset_of_fresh {storage : Storage} (fresh : Fresh vol storage) :
    storage.hasDataset (datasetOf vol) = false := by
  rw [← Bool.not_eq_true]
  intro present
  have isPath := Storage.hasPath_of_hasDataset present
  rw [fresh.absent] at isPath
  contradiction

theorem eval_generateUUID {result : Except Err Unit}
    (ran : Prog.eval (exec thread) choices (generateUUID node vol) shared =
      some (result, final)) : final = shared := by
  have reads : (generateUUID node vol).Calls Op.Reads := by
    unfold generateUUID
    split
    · apply calls_call_bind
      · trivial
      · intro answer
        cases answer with
        | error message => trivial
        | ok done => trivial
    · trivial
  exact reads.returns (fun reads same executed => (exec_reads reads executed).trans same)
    ⟨choices, ran⟩ rfl

theorem prepared_of_createCloneSnapshot (fresh : Fresh vol (shared.storage node))
    (ran : Prog.eval (exec thread) choices (createCloneSnapshot node vol) shared =
      some (.ok (), made)) :
    made = shared.setStorage node (prepared vol (shared.storage node)) ∧
      ∀ srcVol, vol.labels.lookup ZFSSrcVolKey = some srcVol →
        (shared.storage node).hasDataset (internalSnapshot vol srcVol).volume = true := by
  unfold createCloneSnapshot at ran
  unfold prepared
  cases labelled : vol.labels.lookup ZFSSrcVolKey with
  | none =>
      rw [labelled] at ran
      obtain ⟨_, _, rfl⟩ := Prog.eval_ret_iff.mp ran
      exact ⟨(Shared.setStorage_self _ _).symm, by simp⟩
  | some srcVol =>
      rw [labelled] at ran
      have absent := fresh.unsnapped srcVol labelled
      obtain ⟨list, rest, rfl, ⟨listed, _⟩ | ⟨_, taken⟩⟩ := eval_getVolume_bind_iff.mp ran
      · exact absurd rfl (absent _ (of_decide_eq_true listed.2))
      · obtain ⟨take, _, isMade, succeeds⟩ :=
          eval_last_runCmd (fun _ => rfl) (fun _ => rfl) taken
        obtain ⟨out, answered⟩ := succeeds.mp rfl
        obtain ⟨present, nextEq⟩ := Storage.run_snapshot_eq_some (zfsAnswer_ok answered)
        rw [nextEq] at isMade
        refine ⟨isMade, ?_⟩
        rintro _ ⟨⟩
        exact present

theorem makes_of_createVolume (fresh : Fresh vol (shared.storage node))
    (unlabelled : vol.labels.lookup ZFSSrcVolKey = none) (unnamed : vol.spec.snapName = "")
    (ran : Prog.eval (exec thread) choices (Zfs.createVolume node vol) shared =
      some (.ok (), made)) :
    ∃ entry next, made = shared.setStorage node next ∧
      Makes vol (shared.storage node) entry next := by
  obtain ⟨list, rest, rfl, ⟨listed, _⟩ | ⟨_, created⟩⟩ := eval_getVolume_bind_iff.mp ran
  · exact absurd ((not_hasDataset_of_fresh fresh).symm.trans listed.2) Bool.false_ne_true
  · obtain ⟨create, _, isMade, succeeds⟩ :=
      eval_last_runCmd (fun _ => rfl) (fun _ => rfl) created
    obtain ⟨out, answered⟩ := succeeds.mp rfl
    rw [Storage.run_create_eq_some (zfsAnswer_ok answered)] at isMade
    have isPrepared : shared.storage node = prepared vol (shared.storage node) := by
      rw [prepared, unlabelled]
    refine ⟨_, _, isMade, ?_, ?_, absurd unnamed, congrArg (Storage.add · _) isPrepared⟩
    · simp [unlabelled]
    · rfl

theorem makes_of_createClone (fresh : Fresh vol (shared.storage node))
    (ran : Prog.eval (exec thread) choices (createClone node vol) shared =
      some (.ok (), made)) :
    ∃ entry next, made = shared.setStorage node next ∧
      Makes vol (shared.storage node) entry next := by
  obtain ⟨first, second, value, middle, rfl, snapped, created⟩ := Prog.eval_bind_iff.mp ran
  cases value with
  | error err =>
      obtain ⟨_, failed, _⟩ := Prog.eval_ret_iff.mp created
      contradiction
  | ok done =>
      obtain ⟨rfl, source⟩ := prepared_of_createCloneSnapshot fresh snapped
      obtain ⟨list, rest, rfl, ⟨listed, _⟩ | ⟨_, cloned⟩⟩ := eval_getVolume_bind_iff.mp created
      · have present : (prepared vol (shared.storage node)).hasDataset (datasetOf vol) = true := by
          rw [← Shared.storage_setStorage shared node (prepared vol (shared.storage node))]
          exact listed.2
        rw [Storage.hasDataset, datasets_prepared] at present
        exact absurd ((not_hasDataset_of_fresh fresh).symm.trans present) Bool.false_ne_true
      · obtain ⟨clone, rest, rfl, ended⟩ := eval_runCmd_bind_iff.mp cloned
        rw [Shared.storage_setStorage] at ended
        cases answered : (zfsAnswer clone (prepared vol (shared.storage node))
            (.clone (buildCloneCreateArgs vol) (vol.spec.poolName ++ "/" ++ vol.spec.snapName)
              (datasetOf vol))).1 with
        | error out =>
            rw [answered] at ended
            obtain ⟨_, failed, _⟩ := Prog.eval_ret_iff.mp ended
            contradiction
        | ok out =>
            rw [answered] at ended
            obtain rfl := eval_generateUUID ended
            obtain ⟨origin, isSource, nextEq⟩ := Storage.run_clone_eq_some (zfsAnswer_ok answered)
            rw [nextEq, Shared.setStorage_setStorage]
            exact ⟨_, _, rfl, source, rfl, fun _ => ⟨origin, rfl, isSource⟩, rfl⟩

/-- What a successful creation has made. -/
theorem makes_of_createZV (kind : Kind vol) (fresh : Fresh vol (shared.storage node))
    (ran : Prog.eval (exec thread) choices (createZV node vol) shared = some (.ok (), made)) :
    ∃ entry next, made = shared.setStorage node next ∧
      Makes vol (shared.storage node) entry next := by
  unfold createZV at ran
  split at ran
  · exact makes_of_createClone fresh ran
  · rename_i unnamed
    cases kind with
    | plain unlabelled unnamed => exact makes_of_createVolume fresh unlabelled unnamed ran
    | snapClone _ named => exact absurd named unnamed
    | volClone _ named =>
        rw [not_ne_iff.mp unnamed] at named
        have lengths := congrArg String.length named
        have at_sign : "@".length = 1 := rfl
        simp only [String.length_append, at_sign, String.length_empty] at lengths
        omega

/-! ## The second creation -/

variable {entry : Entry} {storage next : Storage} {result : Except Err Unit}

theorem hasDataset_of_makes (makes : Makes vol storage entry next) :
    next.hasDataset (datasetOf vol) = true := by
  rw [makes.added, Storage.hasDataset_add, makes.named]
  simp

theorem hasSnapshot_of_makes (makes : Makes vol storage entry next) {srcVol : String}
    (labelled : vol.labels.lookup ZFSSrcVolKey = some srcVol) :
    next.hasSnapshot (internalSnapshot vol srcVol) = true := by
  rw [makes.added, prepared, labelled]
  simp [Storage.add, Storage.withSnapshot, Storage.hasSnapshot]

/-- A refused command leaves the node as it is. -/
theorem setStorage_of_refused {command : Command} (choice : Choice)
    (refused : (shared.storage node).run command = none)
    (noSet : ∀ assignments volume, command ≠ .set assignments volume) :
    shared.setStorage node (zfsAnswer choice (shared.storage node) command).2 = shared := by
  rw [zfsAnswer_of_refused choice refused noSet]
  exact Shared.setStorage_self _ _

theorem createVolume_again (present : (shared.storage node).hasDataset (datasetOf vol) = true)
    (ran : Prog.eval (exec thread) choices (Zfs.createVolume node vol) shared =
      some (result, final)) : final = shared := by
  obtain ⟨list, rest, rfl, ⟨_, ended⟩ | ⟨_, created⟩⟩ := eval_getVolume_bind_iff.mp ran
  · exact (Prog.eval_ret_iff.mp ended).2.2
  · obtain ⟨create, _, same, _⟩ := eval_last_runCmd (fun _ => rfl) (fun _ => rfl) created
    rw [same]
    exact setStorage_of_refused create (Storage.run_create_eq_none present) (by simp)

theorem createCloneSnapshot_again
    (present : ∀ srcVol, vol.labels.lookup ZFSSrcVolKey = some srcVol →
      (shared.storage node).hasSnapshot (internalSnapshot vol srcVol) = true)
    (ran : Prog.eval (exec thread) choices (createCloneSnapshot node vol) shared =
      some (result, final)) : final = shared := by
  unfold createCloneSnapshot at ran
  split at ran
  · exact (Prog.eval_ret_iff.mp ran).2.2
  · rename_i srcVol labelled
    obtain ⟨list, rest, rfl, ⟨_, ended⟩ | ⟨_, taken⟩⟩ := eval_getVolume_bind_iff.mp ran
    · exact (Prog.eval_ret_iff.mp ended).2.2
    · obtain ⟨take, _, same, _⟩ := eval_last_runCmd (fun _ => rfl) (fun _ => rfl) taken
      rw [same]
      exact setStorage_of_refused take
        (Storage.run_snapshot_eq_none (present srcVol labelled)) (by simp)

theorem createClone_again (present : (shared.storage node).hasDataset (datasetOf vol) = true)
    (snapped : ∀ srcVol, vol.labels.lookup ZFSSrcVolKey = some srcVol →
      (shared.storage node).hasSnapshot (internalSnapshot vol srcVol) = true)
    (ran : Prog.eval (exec thread) choices (createClone node vol) shared =
      some (result, final)) : final = shared := by
  obtain ⟨first, second, value, middle, rfl, taken, created⟩ := Prog.eval_bind_iff.mp ran
  obtain rfl := createCloneSnapshot_again snapped taken
  cases value with
  | error err => exact (Prog.eval_ret_iff.mp created).2.2
  | ok done =>
      obtain ⟨list, rest, rfl, ⟨_, ended⟩ | ⟨_, cloned⟩⟩ := eval_getVolume_bind_iff.mp created
      · exact eval_generateUUID ended
      · obtain ⟨clone, rest, rfl, ended⟩ := eval_runCmd_bind_iff.mp cloned
        have refused : (middle.storage node).run (.clone (buildCloneCreateArgs vol)
            (vol.spec.poolName ++ "/" ++ vol.spec.snapName) (datasetOf vol)) = none :=
          Storage.run_clone_eq_none present
        rw [setStorage_of_refused clone refused (by simp),
          zfsAnswer_of_refused clone refused (by simp)] at ended
        exact (Prog.eval_ret_iff.mp ended).2.2

/-- Creating what is there changes nothing, whatever fails. -/
theorem createZV_again (makes : Makes vol storage entry (shared.storage node))
    (ran : Prog.eval (exec thread) choices (createZV node vol) shared = some (result, final)) :
    final = shared := by
  unfold createZV at ran
  split at ran
  · exact createClone_again (hasDataset_of_makes makes)
      (fun _ labelled => hasSnapshot_of_makes makes labelled) ran
  · exact createVolume_again (hasDataset_of_makes makes) ran

/-! ## Destruction -/

/-- No command fails of itself. -/
def AllSucceed (choices : List Choice) : Prop :=
  ∀ choice ∈ choices, choice.outcome = .ok

section

variable {α : Type} {value : α}

theorem eval_found {target : Target} {rest : Except Err Unit → Routine α}
    (succeed : AllSucceed choices) (present : (shared.storage node).has target = true)
    (ran : Prog.eval (exec thread) choices (getVolume node target >>= rest) shared =
      some (value, final)) :
    ∃ left, AllSucceed left ∧
      Prog.eval (exec thread) left (rest (.ok ())) shared = some (value, final) := by
  obtain ⟨list, left, rfl, ⟨_, found⟩ | ⟨unlisted, _⟩⟩ := eval_getVolume_bind_iff.mp ran
  · exact ⟨left, fun choice mem => succeed choice (.tail _ mem), found⟩
  · exact absurd ⟨succeed list (.head _), present⟩ unlisted

theorem eval_done {op dataset output : String} {command : Command}
    {rest : Except Err String → Routine α} (succeed : AllSucceed choices)
    (accepted : (shared.storage node).run command = some (output, next))
    (ran : Prog.eval (exec thread) choices (runCmd node op dataset command >>= rest) shared =
      some (value, final)) :
    ∃ left, AllSucceed left ∧
      Prog.eval (exec thread) left (rest (.ok output)) (shared.setStorage node next) =
        some (value, final) := by
  obtain ⟨choice, left, rfl, done⟩ := eval_runCmd_bind_iff.mp ran
  have answered : zfsAnswer choice (shared.storage node) command = (.ok output, next) := by
    simp [zfsAnswer, succeed choice (.head _), accepted]
  rw [answered] at done
  exact ⟨left, fun choice mem => succeed choice (.tail _ mem), done⟩

end

theorem hasPath_prepared (vol : ZFSVolume) (storage : Storage) (path : String) :
    (prepared vol storage).hasPath path = storage.hasPath path := by
  unfold prepared
  split
  · rfl
  · rfl

theorem formed_prepared (fresh : Fresh vol storage)
    (source : ∀ srcVol, vol.labels.lookup ZFSSrcVolKey = some srcVol →
      storage.hasDataset (internalSnapshot vol srcVol).volume = true) :
    (prepared vol storage).WellFormed := by
  unfold prepared
  split
  · exact fresh.formed
  · rename_i srcVol labelled
    exact fresh.formed.withSnapshot (source srcVol labelled)

theorem destroyCloneSnapshot_restores (fresh : Fresh vol storage)
    (before : shared.storage node = prepared vol storage) (succeed : AllSucceed choices)
    (ran : Prog.eval (exec thread) choices (destroyCloneSnapshot node vol) shared =
      some (result, final)) : result = .ok () ∧ final = shared.setStorage node storage := by
  unfold destroyCloneSnapshot at ran
  unfold prepared at before
  cases labelled : vol.labels.lookup ZFSSrcVolKey with
  | none =>
      rw [labelled] at ran before
      obtain ⟨_, rfl, rfl⟩ := Prog.eval_ret_iff.mp ran
      change final.storage node = storage at before
      rw [← before]
      exact ⟨rfl, (Shared.setStorage_self _ _).symm⟩
  | some srcVol =>
      rw [labelled] at ran before
      obtain ⟨first, second, value, middle, rfl, destroyed, ended⟩ := Prog.eval_bind_iff.mp ran
      obtain ⟨_, rfl, rfl⟩ := Prog.eval_ret_iff.mp ended
      have started : AllSucceed first := fun choice mem => succeed choice (by simp [mem])
      have pool : (shared.storage node).has (.parent vol.spec.poolName) = true := by
        rw [before]
        exact fresh.pool
      obtain ⟨left, started, listed⟩ := eval_found started pool destroyed
      have snapped : (shared.storage node).has (.snapshot (internalSnapshot vol srcVol)) =
          true := by
        rw [before]
        simp [Storage.has, Storage.withSnapshot, Storage.hasSnapshot]
      obtain ⟨left, started, found⟩ := eval_found started snapped listed
      have accepted : (shared.storage node).run
          (.destroySnapshot (internalSnapshot vol srcVol)) = some ("", storage) := by
        rw [before]
        exact fresh.formed.run_destroySnapshot_withSnapshot fun mem =>
          fresh.unsnapped srcVol labelled _ mem rfl
      obtain ⟨left, _, done⟩ := eval_done started accepted found
      exact ⟨rfl, (Prog.eval_ret_iff.mp done).2.2⟩

/-- `DestroyVolume` takes away what the creation has made. -/
theorem destroyVolume_restores (fresh : Fresh vol storage)
    (makes : Makes vol storage entry (shared.storage node)) (succeed : AllSucceed choices)
    (ran : Prog.eval (exec thread) choices (destroyVolume node vol) shared =
      some (result, final)) : result = .ok () ∧ final = shared.setStorage node storage := by
  have pool : (shared.storage node).has (.parent vol.spec.poolName) = true := by
    have present := (hasPath_prepared vol storage vol.spec.poolName).trans fresh.pool
    rw [Storage.hasPath, Bool.or_eq_true] at present
    rw [Storage.has, makes.added, Storage.hasPath, Bool.or_eq_true]
    exact present.imp id fun dataset => by simp [Storage.add, dataset]
  have present : (shared.storage node).has (.dataset (datasetOf vol)) = true :=
    hasDataset_of_makes makes
  obtain ⟨left, succeed, listed⟩ := eval_found succeed pool ran
  obtain ⟨left, succeed, found⟩ := eval_found succeed present listed
  have accepted : (shared.storage node).run (.destroy (datasetOf vol)) =
      some ("", prepared vol storage) := by
    have absent : (prepared vol storage).hasPath entry.dataset.path = false := by
      rw [hasPath_prepared, makes.named]
      exact fresh.absent
    rw [makes.added, ← makes.named]
    exact (formed_prepared fresh makes.source).run_destroy_add absent
  obtain ⟨left, succeed, destroyed⟩ := eval_done succeed accepted found
  have restored := destroyCloneSnapshot_restores fresh (Shared.storage_setStorage ..) succeed
    destroyed
  rw [Shared.setStorage_setStorage] at restored
  exact restored

theorem origin_of_makes (fresh : Fresh vol storage) (makes : Makes vol storage entry next)
    (named : vol.spec.snapName ≠ "") {other : Entry} (mem : other ∈ next.datasets)
    (isVolume : other.dataset = datasetOf vol) :
    ∃ origin, other.origin = some origin ∧
      origin.path = vol.spec.poolName ++ "/" ++ vol.spec.snapName := by
  rw [makes.added, Storage.add, datasets_prepared] at mem
  rcases List.mem_append.mp mem with old | new
  · have present := Storage.hasDataset_iff.mpr ⟨other, old, isVolume⟩
    rw [not_hasDataset_of_fresh fresh] at present
    contradiction
  · obtain rfl := List.mem_singleton.mp new
    exact makes.origin named

/-- Once the agent has created a volume of the controller, the origin of a clone is the
snapshot the volume names, creating it again changes nothing, and a `DestroyVolume` whose
commands succeed restores the state before. -/
theorem destroy_undoes_create {req : CreateVolumeRequest} (built : Built req vol)
    (fresh : Fresh vol (shared.storage node))
    (created : Prog.eval (exec thread) choices (createZV node vol) shared = some (.ok (), made)) :
    (made.storage node).hasDataset (datasetOf vol) = true ∧
    (vol.spec.snapName ≠ "" →
      ∀ entry ∈ (made.storage node).datasets, entry.dataset = datasetOf vol →
        ∃ origin, entry.origin = some origin ∧
          origin.path = vol.spec.poolName ++ "/" ++ vol.spec.snapName) ∧
    (∀ choices result again, Prog.eval (exec thread) choices (createZV node vol) made =
      some (result, again) → again = made) ∧
    (∀ choices result final, AllSucceed choices →
      Prog.eval (exec thread) choices (destroyVolume node vol) made = some (result, final) →
      result = .ok () ∧ final = shared) ∧
    ∃ choices final, AllSucceed choices ∧
      Prog.eval (exec thread) choices (destroyVolume node vol) made = some (.ok (), final) := by
  obtain ⟨entry, next, rfl, makes⟩ := makes_of_createZV (kind_of_built built) fresh created
  rw [← Shared.storage_setStorage shared node next] at makes
  have restores (choices : List Choice) (result : Except Err Unit) (final : Shared)
      (succeed : AllSucceed choices)
      (ran : Prog.eval (exec thread) choices (destroyVolume node vol)
        (shared.setStorage node next) = some (result, final)) :
      result = .ok () ∧ final = shared := by
    have restored := destroyVolume_restores fresh makes succeed ran
    rw [Shared.setStorage_setStorage, Shared.setStorage_self] at restored
    exact restored
  refine ⟨hasDataset_of_makes makes, fun named entry => origin_of_makes fresh makes named,
    fun choices result again => createZV_again makes, restores, ?_⟩
  obtain ⟨count, result, final, ran⟩ : ∃ count result final,
      Prog.eval (exec thread) (List.replicate count {}) (destroyVolume node vol)
        (shared.setStorage node next) = some (result, final) := by
    apply (calls_destroyVolume node vol).exists_eval
    rintro _ ⟨command, rfl⟩ state
    rfl
  have succeed : AllSucceed (List.replicate count {}) := by
    intro choice mem
    rw [List.eq_of_mem_replicate mem]
  obtain ⟨rfl, rfl⟩ := restores _ _ _ succeed ran
  exact ⟨_, _, succeed, ran⟩

/-- A pool with the volume `v`. -/
def poolWithSource : Storage where
  parents := ["p"]
  datasets := [{ dataset := ⟨"p", "v"⟩ }]

theorem formed_poolWithSource : poolWithSource.WellFormed where
  above := by
    intro path parent present below
    obtain ⟨rest, chars⟩ := List.isPrefixOf_iff_prefix.mp below
    have known : path = "p" ∨ "p/v" = path := by
      rw [Storage.hasPath, Bool.or_eq_true] at present
      rcases present with top | dataset
      · exact .inl (by simpa [poolWithSource] using top)
      · obtain ⟨entry, mem, isPath⟩ := List.any_eq_true.mp dataset
        obtain rfl := List.mem_singleton.mp mem
        exact .inr (of_decide_eq_true isPath)
    -- only `p` has something below it
    have isPool : parent = "p" := by
      apply String.toList_injective
      rcases letters : parent.toList with _ | ⟨letter, _ | ⟨_, _ | ⟨_, _⟩⟩⟩
      · rcases known with rfl | rfl <;> simp [letters] at chars
      · rcases known with rfl | rfl <;> simp_all
      · rcases known with rfl | rfl <;> simp [letters] at chars
      · rcases known with rfl | rfl <;> simp [letters] at chars
    rw [isPool]
    decide
  held := by simp [poolWithSource]
  origin := by simp [poolWithSource]

def undoneRequest : CreateVolumeRequest where
  name := "c"
  capacityRange := some 1
  contentSource := some (.volume "v")

/-- The volume `v` and the object of a clone before it takes over its specification. -/
def cloneSource : ZFSVolume where
  name := "v"
  spec := { poolName := "p" }
  status := .ready

def bareClone : ZFSVolume where
  name := "c"
  labels := [(ZFSSrcVolKey, "v")]
  spec := { userProperties :=
    [("openebs.io:pvc-name", ""), ("openebs.io:pvc-namespace", ""), ("openebs.io:pv-name", "")] }
  status := .pending

theorem destroy_undoes_create_clone :
    let vol := cloneOf bareClone cloneSource.spec "v@c"
    let before : Shared := { storage := fun _ => poolWithSource }
    Built undoneRequest vol ∧ ∃ made choices final,
      Prog.eval (exec (.volume "n" "c")) [{}, {}, {}, {}] (createZV "n" vol) before =
        some (.ok (), made) ∧
      Prog.eval (exec (.volume "n" "c")) choices (destroyVolume "n" vol) made =
        some (.ok (), final) ∧ final = before := by
  intro vol before
  have object : cloneObject undoneRequest [(ZFSSrcVolKey, cloneSource.name)] = .ok bareClone := rfl
  have built : Built undoneRequest vol := .volClone object
  have fresh : Fresh vol (before.storage "n") := {
    formed := formed_poolWithSource
    pool := by decide
    absent := by decide
    unsnapped := by simp [before, poolWithSource] }
  have created : Prog.eval (exec (.volume "n" "c")) [{}, {}, {}, {}] (createZV "n" vol) before =
      some (.ok (), _) := rfl
  obtain ⟨_, _, _, restores, choices, final, succeed, destroyed⟩ :=
    destroy_undoes_create built fresh created
  exact ⟨built, _, choices, final, created, destroyed, (restores _ _ _ succeed destroyed).2⟩

end ZfsLocalPv.Properties

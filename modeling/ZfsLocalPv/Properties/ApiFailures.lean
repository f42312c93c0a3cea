import ZfsLocalPv.Cluster.Programs

/-!
# Failing API calls and existing volumes

`CreateZFSVolume` takes every error of its existence check for absence. A request for a volume
that exists and is Ready then goes on to provision it: it overwrites the specification of the
volume, or it fails and deletes the volume.

So for a request that gets as far as trying a node there is always a pattern of failures that
costs the volume, and for any other request there is none. With an answered existence check the
volume is safe whatever else fails.
-/

namespace ZfsLocalPv.Properties

open Api ApiServer Driver Interaction Zfs Cluster Go

/-- The volume is there, not deleted and with its specification. -/
def Preserved (name : String) (vol : ZFSVolume) (shared : Shared) : Prop :=
  ∃ now, shared.volumes.get name = some now ∧ now.deletionTimestamp = false ∧
    now.spec = vol.spec

/-! ## The nodes a request tries -/

/-- What is left of the preferred nodes after the fit check. -/
def nodesTried (params : VolumeParams) (pattern : Pattern) (zfsNodes : List ZFSNode)
    (prfList : List String) : List String :=
  let reserves := reservesSpace params.vtype params.thinProvision
  let fit := suitableNodes zfsNodes pattern params.size
  if params.poolpattern ≠ "" ∨ reserves = true then
    if zfsNodes = [] ∨ (params.poolpattern ≠ "" ∧ fit.2 = false) then []
    else if reserves = true then filterKeep prfList fit.1
    else prfList
  else
    prfList

/-- The request is accepted and there is a node it would try. The scheduler may
prefer any nodes unless the storage class names one. -/
structure TriesNodes (compile : Compile) (req : CreateVolumeRequest) (shared : Shared) : Prop where
  free : shared.locked (toLower req.name) = none
  valid : validateVolumeCreateReq req = .ok ()
  tries : ∃ requiredBytes pattern volObj prfList, req.capacityRange = some requiredBytes ∧
    parsePoolParams compile (volumeParams req requiredBytes).pool
      (volumeParams req requiredBytes).poolpattern = .ok pattern ∧
    volumeObject req (volumeParams req requiredBytes) = .ok volObj ∧
    (∀ node ∈ (volumeParams req requiredBytes).node, prfList = [node]) ∧
    nodesTried (volumeParams req requiredBytes) pattern shared.zfsNodes prfList ≠ []

section Reads

variable {thread : Tid} {shared after : Shared} {α : Type}

theorem returns_listZFSNodes_iff {nodes : List ZFSNode} :
    Prog.Returns (exec thread) listZFSNodes shared (.ok nodes) after ↔
      nodes = shared.zfsNodes ∧ after = shared := by
  constructor
  · intro returned
    obtain ⟨choice, answer, middle, answered, returned⟩ := Prog.returns_call_iff.mp returned
    obtain ⟨rfl, rfl⟩ := Prog.returns_ret_iff.mp returned
    obtain ⟨read, rfl⟩ := Prod.mk.inj (Option.some.inj answered)
    exact ⟨(Option.some.inj (readAnswer_ok read)).symm, rfl⟩
  · rintro ⟨rfl, rfl⟩
    exact ⟨[{}], rfl⟩

theorem returns_getSuitableNodes_iff {pattern : Pattern} {size : Int}
    {fit : List String × Bool} :
    Prog.Returns (exec thread) (getSuitableNodes pattern size) shared (.ok fit) after ↔
      shared.zfsNodes ≠ [] ∧ fit = suitableNodes shared.zfsNodes pattern size ∧
        after = shared := by
  unfold getSuitableNodes
  rw [Prog.returns_bind_iff]
  constructor
  · rintro ⟨listed, middle, first, rest⟩
    cases listed with
    | error err =>
        obtain ⟨failed, _⟩ := Prog.returns_ret_iff.mp rest
        contradiction
    | ok nodes =>
        obtain ⟨rfl, rfl⟩ := returns_listZFSNodes_iff.mp first
        dsimp only at rest
        split at rest
        · obtain ⟨failed, _⟩ := Prog.returns_ret_iff.mp rest
          contradiction
        · rename_i some
          obtain ⟨fitEq, rfl⟩ := Prog.returns_ret_iff.mp rest
          exact ⟨some, Except.ok.inj fitEq, rfl⟩
  · rintro ⟨some, rfl, rfl⟩
    refine ⟨.ok after.zfsNodes, after, returns_listZFSNodes_iff.mpr ⟨rfl, rfl⟩, ?_⟩
    dsimp only
    rw [if_neg some]
    exact Prog.returns_ret_iff.mpr ⟨rfl, rfl⟩

/-- A volume that is read is the stored one. -/
theorem returns_getZFSVolume_ok {name : String} {purpose : Purpose} {vol found : ZFSVolume}
    (stored : shared.volumes.get name = some vol)
    (returned : Prog.Returns (exec thread) (getZFSVolume name purpose) shared (.ok found)
      after) : found = vol := by
  unfold getZFSVolume getNamed at returned
  split at returned
  · obtain ⟨failed, _⟩ := Prog.returns_ret_iff.mp returned
    contradiction
  · obtain ⟨choice, answer, middle, answered, returned⟩ := Prog.returns_call_iff.mp returned
    obtain ⟨rfl, rfl⟩ := Prog.returns_ret_iff.mp returned
    obtain ⟨read, _⟩ := exec_getVolume_ok answered
    exact Option.some.inj (read.symm.trans stored)

theorem returns_preferredNodes {params : VolumeParams} {nmap : Weights} {prfList : List String}
    (returned : Prog.Returns (exec thread) (preferredNodes params nmap) shared prfList after) :
    ∀ node ∈ params.node, prfList = [node] := by
  intro node given
  unfold preferredNodes at returned
  rw [given] at returned
  exact (Prog.returns_ret_iff.mp returned).1

/-- The fit check passes on the nodes that are tried. -/
theorem returns_fittingNodes {params : VolumeParams} {pattern : Pattern}
    {prfList nodes : List String}
    (returned : Prog.Returns (exec thread) (fittingNodes params pattern prfList) shared
      (.ok nodes) after) : nodes = nodesTried params pattern shared.zfsNodes prfList := by
  unfold fittingNodes at returned
  unfold nodesTried
  dsimp only at returned ⊢
  split at returned
  · rename_i checked
    rw [if_pos checked]
    obtain ⟨fit, middle, first, rest⟩ := Prog.returns_bind_iff.mp returned
    cases fit with
    | error err =>
        obtain ⟨failed, _⟩ := Prog.returns_ret_iff.mp rest
        contradiction
    | ok fit =>
        obtain ⟨some, rfl, rfl⟩ := returns_getSuitableNodes_iff.mp first
        dsimp only at rest
        split at rest
        · obtain ⟨failed, _⟩ := Prog.returns_ret_iff.mp rest
          contradiction
        · rename_i unmatched
          rw [if_neg (not_or.mpr ⟨some, unmatched⟩)]
          split at rest
          · rename_i reserves
            rw [if_pos reserves]
            split at rest
            · obtain ⟨failed, _⟩ := Prog.returns_ret_iff.mp rest
              contradiction
            · obtain ⟨nodesEq, _⟩ := Prog.returns_ret_iff.mp rest
              exact Except.ok.inj nodesEq
          · rename_i spacious
            rw [if_neg spacious]
            obtain ⟨nodesEq, _⟩ := Prog.returns_ret_iff.mp rest
            exact Except.ok.inj nodesEq
  · rename_i unchecked
    rw [if_neg unchecked]
    obtain ⟨nodesEq, _⟩ := Prog.returns_ret_iff.mp returned
    exact Except.ok.inj nodesEq

end Reads

/-! ## Requests that try no node -/

section NoNode

variable {compile : Compile} {thread : Tid} {shared after : Shared} {polls : Nat}
  {req : CreateVolumeRequest} {params : VolumeParams}

/-- With no node to try the loop ends in a nil dereference, so it does not return. -/
theorem not_returns_provisionOnNodes_nil {pattern : Pattern} {minFree : Int}
    {volObj : ZFSVolume} {result : Except Err ZFSVolume} :
    ¬ Prog.Returns (exec thread) (provisionOnNodes polls params pattern minFree volObj [])
      shared result after := by
  intro returned
  obtain ⟨tried, middle, first, rest⟩ := Prog.returns_bind_iff.mp returned
  obtain ⟨rfl, rfl⟩ := Prog.returns_ret_iff.mp first
  obtain ⟨choice, answer, _⟩ := Prog.returns_call_iff.mp rest
  exact nomatch (answer : Empty)

theorem volumes_createMissingVolume
    (noNode : ∀ pattern volObj prfList,
      parsePoolParams compile params.pool params.poolpattern = .ok pattern →
      volumeObject req params = .ok volObj → (∀ node ∈ params.node, prfList = [node]) →
      nodesTried params pattern shared.zfsNodes prfList = [])
    {result : Except Err ZFSVolume}
    (returned : Prog.Returns (exec thread) (createMissingVolume compile polls req params)
      shared result after) : after.volumes = shared.volumes := by
  unfold createMissingVolume at returned
  split at returned
  · obtain ⟨_, rfl⟩ := Prog.returns_ret_iff.mp returned
    rfl
  · rename_i pattern parsed
    obtain ⟨nmap, middle, first, rest⟩ := Prog.returns_bind_iff.mp returned
    obtain rfl := returns_same (calls_getNodeMap params.schld pattern).reads first
    cases nmap with
    | error err =>
        obtain ⟨_, rfl⟩ := Prog.returns_ret_iff.mp rest
        rfl
    | ok nmap =>
        obtain ⟨prfList, last, preferred, afterList⟩ := Prog.returns_bind_iff.mp rest
        obtain rfl := returns_same (calls_preferredNodes params nmap).reads preferred
        split at afterList
        · obtain ⟨_, rfl⟩ := Prog.returns_ret_iff.mp afterList
          rfl
        · obtain ⟨nodes, last, fitted, afterFit⟩ := Prog.returns_bind_iff.mp afterList
          obtain rfl := returns_same (calls_fittingNodes params pattern prfList).reads fitted
          cases nodes with
          | error err =>
              obtain ⟨_, rfl⟩ := Prog.returns_ret_iff.mp afterFit
              rfl
          | ok nodes =>
              dsimp only at afterFit
              split at afterFit
              · obtain ⟨_, rfl⟩ := Prog.returns_ret_iff.mp afterFit
                rfl
              · rename_i volObj built
                obtain rfl := returns_fittingNodes fitted
                rw [noNode pattern volObj prfList parsed built
                  (returns_preferredNodes preferred)] at afterFit
                exact absurd afterFit not_returns_provisionOnNodes_nil

/-- A request for a Ready volume that reads it, or that tries no node, leaves the
volumes alone. -/
theorem volumes_createZFSVolume {vol : ZFSVolume} {requiredBytes : Int}
    (capacity : req.capacityRange = some requiredBytes)
    (stored : shared.volumes.get (toLower req.name) = some vol)
    (live : vol.deletionTimestamp = false)
    (safe : ∀ result middle, Prog.Returns (exec thread)
      (createMissingVolume compile polls req (volumeParams req requiredBytes)) shared result
        middle → middle.volumes = shared.volumes)
    {result : Except Err ZFSVolume}
    (returned : Prog.Returns (exec thread) (createZFSVolume compile polls req) shared result
      after) : after.volumes = shared.volumes := by
  unfold createZFSVolume at returned
  rw [capacity] at returned
  obtain ⟨found, middle, first, rest⟩ := Prog.returns_bind_iff.mp returned
  obtain rfl := returns_same (calls_getZFSVolume _ _).reads first
  cases found with
  | error err => exact safe _ _ rest
  | ok found =>
      obtain rfl := returns_getZFSVolume_ok stored first
      dsimp only at rest
      rw [if_neg (by rw [live]; decide)] at rest
      split at rest
      · obtain ⟨_, rfl⟩ := Prog.returns_ret_iff.mp rest
        rfl
      · split at rest
        · obtain ⟨_, rfl⟩ := Prog.returns_ret_iff.mp rest
          rfl
        · obtain ⟨_, rfl⟩ := Prog.returns_ret_iff.mp rest
          rfl

end NoNode

/-! ## Requests that try a node -/

section Node

variable {compile : Compile} {thread : Tid} {shared after : Shared} {polls : Nat}
  {req : CreateVolumeRequest} {params : VolumeParams}

/-- A read that fails. -/
def failedCall : Choice where
  outcome := .fail

theorem returns_getZFSVolume_error (thread : Tid) (shared : Shared) (name : String)
    (purpose : Purpose) :
    ∃ err, Prog.Returns (exec thread) (getZFSVolume name purpose) shared (.error err) shared := by
  unfold getZFSVolume getNamed
  split
  · exact ⟨_, [], rfl⟩
  · exact ⟨_, [failedCall], rfl⟩

theorem returns_getNodeMap (thread : Tid) (shared : Shared) (schd : String)
    (pattern : Pattern) :
    ∃ nmap, Prog.Returns (exec thread) (getNodeMap schd pattern) shared (.ok nmap) shared := by
  unfold getNodeMap
  split
  · exact ⟨_, [{}, {}], rfl⟩
  · split
    · exact ⟨_, [{}], rfl⟩
    · exact ⟨_, [{}], rfl⟩

/-- Any list of nodes may be preferred that respects a given node. -/
theorem returns_preferredNodes_of_given (thread : Tid) (shared : Shared) (nmap : Weights)
    {prfList : List String}
    (given : ∀ node ∈ params.node, prfList = [node]) :
    Prog.Returns (exec thread) (preferredNodes params nmap) shared prfList shared := by
  unfold preferredNodes
  split
  · rename_i node nodeEq
    rw [given node nodeEq]
    exact ⟨[], rfl⟩
  · exact ⟨[{ names := prfList }], rfl⟩

theorem returns_fittingNodes_of_tried (thread : Tid) {pattern : Pattern} {prfList : List String}
    (tried : nodesTried params pattern shared.zfsNodes prfList ≠ []) :
    Prog.Returns (exec thread) (fittingNodes params pattern prfList) shared
      (.ok (nodesTried params pattern shared.zfsNodes prfList)) shared := by
  unfold fittingNodes
  unfold nodesTried at tried ⊢
  dsimp only at tried ⊢
  by_cases checked : params.poolpattern ≠ "" ∨
      reservesSpace params.vtype params.thinProvision = true
  · rw [if_pos checked] at tried ⊢
    rw [if_pos checked]
    by_cases unfit : shared.zfsNodes = [] ∨ (params.poolpattern ≠ "" ∧
        (suitableNodes shared.zfsNodes pattern params.size).2 = false)
    · rw [if_pos unfit] at tried
      exact absurd rfl tried
    · rw [if_neg unfit] at tried ⊢
      obtain ⟨some, fits⟩ := not_or.mp unfit
      apply Prog.returns_bind_iff.mpr
      refine ⟨.ok (suitableNodes shared.zfsNodes pattern params.size), shared,
        returns_getSuitableNodes_iff.mpr ⟨some, rfl, rfl⟩, ?_⟩
      dsimp only
      rw [if_neg fits]
      by_cases reserves : reservesSpace params.vtype params.thinProvision = true
      · rw [if_pos reserves] at tried ⊢
        rw [if_pos reserves, if_neg tried]
        exact ⟨[], rfl⟩
      · rw [if_neg reserves, if_neg reserves]
        exact ⟨[], rfl⟩
  · rw [if_neg checked, if_neg checked]
    exact ⟨[], rfl⟩

/-- When no node can be read, every attempt fails. -/
theorem returns_tryNodes_error (pattern : Pattern) (minFree : Int) (volObj : ZFSVolume)
    (nodes : List String) (err : Err) :
    ∃ last, Prog.Returns (exec thread)
      (tryNodes polls params pattern minFree volObj nodes (some err)) shared
        (.error (some last)) shared := by
  induction nodes generalizing err with
  | nil => exact ⟨err, [], rfl⟩
  | cons node nodes ih =>
      have unread : Prog.Returns (exec thread) (getNodeID node) shared
          (.error (.text ("failed to get the node " ++ node ++ ": " ++
            (Err.api .other).error))) shared := ⟨[failedCall], rfl⟩
      obtain ⟨last, rest⟩ := ih (.text ("failed to get the node " ++ node ++ ": " ++
        (Err.api .other).error))
      exact ⟨last, Prog.returns_bind_iff.mpr ⟨_, shared, unread, rest⟩⟩

/-- A live volume can be deleted. -/
theorem delete_of_stored {name : String} {vol : ZFSVolume}
    (stored : shared.volumes.get name = some vol) (live : vol.deletionTimestamp = false) :
    ∃ next, shared.volumes.delete name = .ok next ∧
      ∃ now, next.get name = some now ∧ now.deletionTimestamp = true := by
  obtain rfl := Resource.name_of_get stored
  refine ⟨shared.volumes.commit (.put (marked vol)), ?_, _, Resource.get_commit_put .., rfl⟩
  unfold Resource.delete ApiServer.delete
  rw [stored]
  simp [live, Except.map, Resource.commit?]

/-- When every attempt fails the volume of the name is deleted. -/
theorem returns_provisionOnNodes_deleted (thread : Tid) (polls : Nat)
    (params : VolumeParams) (pattern : Pattern) (minFree : Int) (volObj : ZFSVolume)
    {nodes : List String} (nonempty : nodes ≠ []) {vol : ZFSVolume}
    (stored : shared.volumes.get params.volName = some vol)
    (live : vol.deletionTimestamp = false) (named : params.volName ≠ "") :
    ∃ result after, Prog.Returns (exec thread)
      (provisionOnNodes polls params pattern minFree volObj nodes) shared result after ∧
        ∃ now, after.volumes.get params.volName = some now ∧ now.deletionTimestamp = true := by
  obtain ⟨node, nodes, rfl⟩ := List.exists_cons_of_ne_nil nonempty
  have failed : ∃ last, Prog.Returns (exec thread)
      (tryNodes polls params pattern minFree volObj (node :: nodes) none) shared
        (.error (some last)) shared :=
    returns_tryNodes_error pattern minFree volObj (node :: nodes) (.text "")
  obtain ⟨last, failed⟩ := failed
  obtain ⟨next, accepted, now, gone, deleted⟩ := delete_of_stored stored live
  have removed : Prog.Returns (exec thread) (Zfs.deleteVolume params.volName) shared (.ok ())
      (shared.setVolumes next) := by
    unfold Zfs.deleteVolume
    rw [if_neg named]
    refine ⟨[{}], ?_⟩
    simp [call, Prog.lift, Prog.eval, exec, accepted, Except.map, writeAnswer]
  have answered (value : Except Err ZFSVolume) : Prog.Returns (exec thread)
      (Zfs.deleteVolume params.volName >>= fun _ => pure value) shared value
        (shared.setVolumes next) :=
    Prog.returns_bind_iff.mpr ⟨_, _, removed, Prog.returns_ret_iff.mpr ⟨rfl, rfl⟩⟩
  exact ⟨_, shared.setVolumes next, Prog.returns_bind_iff.mpr ⟨_, shared, failed, answered _⟩,
    now, gone, deleted⟩

theorem returns_createZFSVolume_deleted {requiredBytes : Int} {pattern : Pattern}
    {volObj : ZFSVolume} {prfList : List String} {vol : ZFSVolume}
    (capacity : req.capacityRange = some requiredBytes)
    (parsed : parsePoolParams compile (volumeParams req requiredBytes).pool
      (volumeParams req requiredBytes).poolpattern = .ok pattern)
    (built : volumeObject req (volumeParams req requiredBytes) = .ok volObj)
    (given : ∀ node ∈ (volumeParams req requiredBytes).node, prfList = [node])
    (tried : nodesTried (volumeParams req requiredBytes) pattern shared.zfsNodes prfList ≠ [])
    (stored : shared.volumes.get (toLower req.name) = some vol)
    (live : vol.deletionTimestamp = false) (named : toLower req.name ≠ "") :
    ∃ result after, Prog.Returns (exec thread) (createZFSVolume compile polls req) shared
      result after ∧ ∃ now, after.volumes.get (toLower req.name) = some now ∧
        now.deletionTimestamp = true := by
  obtain ⟨err, unread⟩ := returns_getZFSVolume_error thread shared (toLower req.name) .inspect
  obtain ⟨nmap, mapped⟩ :=
    returns_getNodeMap thread shared (volumeParams req requiredBytes).schld pattern
  have preferred := returns_preferredNodes_of_given thread shared nmap given
  have fitted := returns_fittingNodes_of_tried thread tried
  have nonempty : prfList ≠ [] := by
    rintro rfl
    apply tried
    unfold nodesTried
    dsimp only
    split
    · split
      · rfl
      · split
        · rfl
        · rfl
    · rfl
  obtain ⟨result, after, provisioned, now, gone, deleted⟩ :=
    returns_provisionOnNodes_deleted thread polls (volumeParams req requiredBytes) pattern
      (if reservesSpace (volumeParams req requiredBytes).vtype
        (volumeParams req requiredBytes).thinProvision then
          (volumeParams req requiredBytes).size else 0) volObj tried stored live named
  refine ⟨result, after, ?_, now, gone, deleted⟩
  unfold createZFSVolume
  rw [capacity]
  apply Prog.returns_bind_iff.mpr
  refine ⟨_, shared, unread, ?_⟩
  dsimp only
  unfold createMissingVolume
  rw [parsed]
  apply Prog.returns_bind_iff.mpr
  refine ⟨_, shared, mapped, ?_⟩
  apply Prog.returns_bind_iff.mpr
  refine ⟨_, shared, preferred, ?_⟩
  rw [if_neg nonempty]
  apply Prog.returns_bind_iff.mpr
  refine ⟨_, shared, fitted, ?_⟩
  dsimp only
  rw [built]
  exact provisioned

end Node

/-! ## The whole request -/

section Request

variable {compile : Compile} {thread : Tid} {shared after : Shared} {polls : Nat}
  {req : CreateVolumeRequest}

theorem returns_lockVolume_iff {α : Type} {volume : String} {body : Routine α} {result : α} :
    Prog.Returns (exec thread) (lockVolume volume body) shared result after ↔
      shared.locked volume = none ∧ ∃ last, Prog.Returns (exec thread) body
        (shared.setLocked volume (some thread)) result last ∧
          after = last.setLocked volume none := by
  unfold lockVolume
  constructor
  · intro returned
    obtain ⟨choice, _, middle, taken, rest⟩ := Prog.returns_lift_bind_iff.mp returned
    obtain ⟨result, last, ran, rest⟩ := Prog.returns_bind_iff.mp rest
    obtain ⟨choice, _, final, released, rest⟩ := Prog.returns_lift_bind_iff.mp rest
    obtain ⟨rfl, rfl⟩ := Prog.returns_ret_iff.mp rest
    simp only [exec, Option.ite_none_right_eq_some, Option.some.injEq, Prod.mk.injEq,
      true_and] at taken released
    obtain ⟨free, rfl⟩ := taken
    exact ⟨free, last, ran, released.symm⟩
  · rintro ⟨free, last, ran, rfl⟩
    apply Prog.returns_lift_bind_iff.mpr
    refine ⟨{}, (), shared.setLocked volume (some thread), ?_, ?_⟩
    · simp [exec, free]
    · apply Prog.returns_bind_iff.mpr
      refine ⟨result, last, ran, ?_⟩
      apply Prog.returns_lift_bind_iff.mpr
      exact ⟨{}, (), last.setLocked volume none, rfl, Prog.returns_ret_iff.mpr ⟨rfl, rfl⟩⟩

/-- A plain request is `CreateZFSVolume` under the lock. -/
theorem returns_createVolume_iff (plain : req.contentSource = none)
    (valid : validateVolumeCreateReq req = .ok ())
    {result : Except Err CreateVolumeResponse} :
    Prog.Returns (exec thread) (Driver.createVolume compile polls req) shared result after ↔
      shared.locked (toLower req.name) = none ∧ ∃ created last,
        Prog.Returns (exec thread) (createZFSVolume compile polls req)
          (shared.setLocked (toLower req.name) (some thread)) created last ∧
        result = created.map (createVolumeResponse req) ∧
        after = last.setLocked (toLower req.name) none := by
  unfold Driver.createVolume createByKind
  rw [valid, plain]
  dsimp only
  rw [Prog.returns_bind_iff]
  constructor
  · rintro ⟨created, middle, locked, rest⟩
    obtain ⟨rfl, rfl⟩ := Prog.returns_ret_iff.mp rest
    obtain ⟨free, last, ran, rfl⟩ := returns_lockVolume_iff.mp locked
    exact ⟨free, created, last, ran, rfl, rfl⟩
  · rintro ⟨free, created, last, ran, rfl, rfl⟩
    exact ⟨created, _, returns_lockVolume_iff.mpr ⟨free, last, ran, rfl⟩,
      Prog.returns_ret_iff.mpr ⟨rfl, rfl⟩⟩

/-- An existence check whose Get is answered finds the stored volume. -/
theorem eval_existenceCheck {getChoice : Choice} {checked rest : List Choice}
    {found : Except Err ZFSVolume} {name : String} {vol : ZFSVolume} (named : name ≠ "")
    (stored : shared.volumes.get name = some vol) (answered : getChoice.outcome = .ok)
    (choicesEq : checked ++ rest = getChoice :: (checked ++ rest).tail)
    (ran : Prog.eval (exec thread) checked (getZFSVolume name) shared = some (found, after)) :
    found = .ok vol := by
  unfold getZFSVolume getNamed at ran
  rw [if_neg named] at ran
  obtain ⟨choice, _, answer, middle, rfl, executed, returned⟩ := Prog.eval_call_iff.mp ran
  obtain ⟨_, rfl, _⟩ := Prog.eval_ret_iff.mp returned
  obtain rfl : choice = getChoice := (List.cons.inj choicesEq).1
  obtain ⟨read, _⟩ := Prod.mk.inj (Option.some.inj executed)
  rw [stored, readAnswer, if_pos answered] at read
  exact read.symm

/-- With an answered existence check a request leaves the volumes alone. -/
theorem volumes_of_answered {lockChoice getChoice : Choice} {choices : List Choice}
    {vol : ZFSVolume} {result : Except Err CreateVolumeResponse}
    (plain : req.contentSource = none)
    (stored : shared.volumes.get (toLower req.name) = some vol)
    (live : vol.deletionTimestamp = false) (answered : getChoice.outcome = .ok)
    (ran : Prog.eval (exec thread) (lockChoice :: getChoice :: choices)
      (Driver.createVolume compile polls req) shared = some (result, after)) :
    after.volumes = shared.volumes := by
  unfold Driver.createVolume createByKind at ran
  rw [plain] at ran
  split at ran
  · contradiction
  · rename_i valid
    have named : toLower req.name ≠ "" := toLower_ne_empty (name_of_valid valid)
    -- the request is the locked part and a pure answer
    obtain ⟨locked, none, created, last, choicesEq, ranLocked, ranAnswer⟩ :=
      Prog.eval_bind_iff.mp ran
    obtain ⟨rfl, _, rfl⟩ := Prog.eval_ret_iff.mp ranAnswer
    rw [List.append_nil] at choicesEq
    subst choicesEq
    obtain ⟨choice, rest, _, middle, choicesEq, taken, ranBody⟩ := Prog.eval_call_iff.mp ranLocked
    obtain ⟨rfl, rfl⟩ := List.cons.inj choicesEq
    simp only [exec, Option.ite_none_right_eq_some, Option.some.injEq, Prod.mk.injEq,
      true_and] at taken
    obtain ⟨_, rfl⟩ := taken
    -- between lock and unlock runs `CreateZFSVolume`
    have ranBody : Prog.eval (exec thread) (getChoice :: choices)
        (createZFSVolume compile polls req >>= fun created => do
          call (.unlock (toLower req.name))
          return created) (shared.setLocked (toLower req.name) (some thread)) =
        some (created, after) := ranBody
    obtain ⟨inside, outside, _, middle, choicesEq, ranInside, ranOutside⟩ :=
      Prog.eval_bind_iff.mp ranBody
    obtain ⟨_, _, _, _, _, released, returned⟩ := Prog.eval_call_iff.mp ranOutside
    obtain ⟨_, _, rfl⟩ := Prog.eval_ret_iff.mp returned
    obtain ⟨_, rfl⟩ := Prod.mk.inj (Option.some.inj released)
    suffices kept : middle = shared.setLocked (toLower req.name) (some thread) by
      rw [kept]
      rfl
    cases capacity : req.capacityRange with
    | none =>
        rw [createZFSVolume, capacity] at ranInside
        obtain ⟨_, _, answer, _⟩ := Prog.eval_call_iff.mp ranInside
        exact (answer : Empty).elim
    | some requiredBytes =>
        rw [createZFSVolume, capacity] at ranInside
        obtain ⟨checked, rest, found, afterCheck, insideEq, ranCheck, ranRest⟩ :=
          Prog.eval_bind_iff.mp ranInside
        obtain rfl := returns_same (calls_getZFSVolume _ _).reads ⟨checked, ranCheck⟩
        subst insideEq
        rw [List.append_assoc] at choicesEq
        have locked : (shared.setLocked (toLower req.name) (some thread)).volumes.get
            (toLower req.name) = some vol := stored
        obtain rfl := eval_existenceCheck named locked answered
          (by rw [← choicesEq]; rfl) ranCheck
        dsimp only at ranRest
        rw [if_neg (by rw [live]; decide)] at ranRest
        split at ranRest
        · exact (Prog.eval_ret_iff.mp ranRest).2.2
        · split at ranRest
          · exact (Prog.eval_ret_iff.mp ranRest).2.2
          · exact (Prog.eval_ret_iff.mp ranRest).2.2

theorem preserved_of_volumes {name : String} {vol : ZFSVolume}
    (stored : shared.volumes.get name = some vol) (live : vol.deletionTimestamp = false)
    (same : after.volumes = shared.volumes) : Preserved name vol after :=
  ⟨vol, by rw [same]; exact stored, live, rfl⟩

/-- A request that tries no node keeps the volume, whatever fails. -/
theorem preserved_of_noNode {vol : ZFSVolume} (plain : req.contentSource = none)
    (stored : shared.volumes.get (toLower req.name) = some vol)
    (live : vol.deletionTimestamp = false) (untried : ¬ TriesNodes compile req shared)
    {result : Except Err CreateVolumeResponse}
    (returned : Prog.Returns (exec thread) (Driver.createVolume compile polls req) shared
      result after) : after.volumes = shared.volumes := by
  cases valid : validateVolumeCreateReq req with
  | error err =>
      rw [Driver.createVolume, valid] at returned
      obtain ⟨_, rfl⟩ := Prog.returns_ret_iff.mp returned
      rfl
  | ok done =>
      obtain ⟨free, created, last, ran, _, rfl⟩ :=
        (returns_createVolume_iff plain valid).mp returned
      cases capacity : req.capacityRange with
      | none =>
          rw [createZFSVolume, capacity] at ran
          obtain ⟨_, answer, _⟩ := Prog.returns_call_iff.mp ran
          exact nomatch (answer : Empty)
      | some requiredBytes =>
          have kept : last.volumes =
              (shared.setLocked (toLower req.name) (some thread)).volumes := by
            have locked : (shared.setLocked (toLower req.name) (some thread)).volumes.get
                (toLower req.name) = some vol := stored
            apply volumes_createZFSVolume capacity locked live ?_ ran
            intro result middle missing
            apply volumes_createMissingVolume ?_ missing
            intro pattern volObj prfList parsed built given
            by_contra tried
            exact untried ⟨free, valid, requiredBytes, pattern, volObj, prfList, capacity,
              parsed, built, given, tried⟩
          exact kept

/-- A request that tries a node may delete the volume. -/
theorem returns_deleted {vol : ZFSVolume} (plain : req.contentSource = none)
    (stored : shared.volumes.get (toLower req.name) = some vol)
    (live : vol.deletionTimestamp = false) (tries : TriesNodes compile req shared) :
    ∃ result after, Prog.Returns (exec thread) (Driver.createVolume compile polls req) shared
      result after ∧ ∃ now, after.volumes.get (toLower req.name) = some now ∧
        now.deletionTimestamp = true := by
  obtain ⟨free, valid, requiredBytes, pattern, volObj, prfList, capacity, parsed, built, given,
    tried⟩ := tries
  have named : toLower req.name ≠ "" := toLower_ne_empty (name_of_valid valid)
  have body : ∃ created last, Prog.Returns (exec thread) (createZFSVolume compile polls req)
      (shared.setLocked (toLower req.name) (some thread)) created last ∧
        ∃ now, last.volumes.get (toLower req.name) = some now ∧ now.deletionTimestamp = true :=
    returns_createZFSVolume_deleted capacity parsed built given tried stored live named
  obtain ⟨created, last, ran, now, gone, deleted⟩ := body
  exact ⟨_, _, (returns_createVolume_iff plain valid).mpr ⟨free, created, last, ran, rfl, rfl⟩,
    now, gone, deleted⟩

/-- A stored, undeleted volume survives every pattern of failures of a plain
CreateVolume of its name exactly when the request tries no node; and it survives
every pattern that leaves the Get of the existence check alone. -/
theorem volume_survives_failing_api_iff (compile : Compile) (polls : Nat) (thread : Tid)
    {vol : ZFSVolume} (plain : req.contentSource = none)
    (stored : shared.volumes.get (toLower req.name) = some vol)
    (live : vol.deletionTimestamp = false) :
    ((∀ choices answer after, Prog.eval (exec thread) choices
        (Driver.createVolume compile polls req) shared = some (answer, after) →
          Preserved (toLower req.name) vol after) ↔ ¬ TriesNodes compile req shared) ∧
    ∀ lockChoice getChoice choices answer after, getChoice.outcome = .ok →
      Prog.eval (exec thread) (lockChoice :: getChoice :: choices)
        (Driver.createVolume compile polls req) shared = some (answer, after) →
          Preserved (toLower req.name) vol after := by
  refine ⟨⟨?_, ?_⟩, ?_⟩
  · intro survives tries
    have returned : ∃ result after, Prog.Returns (exec thread)
        (Driver.createVolume compile polls req) shared result after ∧
          ∃ now, after.volumes.get (toLower req.name) = some now ∧
            now.deletionTimestamp = true := returns_deleted plain stored live tries
    obtain ⟨answer, after, ⟨choices, ran⟩, now, gone, deleted⟩ := returned
    obtain ⟨kept, present, undeleted, _⟩ := survives choices answer after ran
    rw [gone] at present
    obtain rfl := Option.some.inj present
    rw [deleted] at undeleted
    contradiction
  · intro untried choices answer after ran
    exact preserved_of_volumes stored live
      (preserved_of_noNode plain stored live untried ⟨choices, ran⟩)
  · intro lockChoice getChoice choices answer after answered ran
    exact preserved_of_volumes stored live
      (volumes_of_answered plain stored live answered ran)

theorem volume_survives_failing_api_iff_readyCluster :
    readyCluster.volumes.get "v" = some readyVolume ∧ readyVolume.deletionTimestamp = false ∧
    ((∀ choices answer after, Prog.eval (exec (.request 0)) choices
        (Driver.createVolume noRegexp 1 plainRequest) readyCluster = some (answer, after) →
          Preserved "v" readyVolume after) ↔ ¬ TriesNodes noRegexp plainRequest readyCluster) :=
  ⟨rfl, rfl, (volume_survives_failing_api_iff noRegexp 1 (.request 0) rfl rfl rfl).1⟩

/-- One failed Get, and a wait for the agent that times out. -/
def failedGetChoices : List Choice :=
  [{}, failedCall, {}, { names := ["a"] }, {}, {}, {}, { branch := .timeout }, {}, {}]

/-- A failed Get of the existence check lets the request overwrite the Ready volume
and delete it. -/
theorem volume_lost_to_failed_get :
    readyCluster.volumes.get "v" = some readyVolume ∧ readyVolume.status = .ready ∧
    readyVolume.deletionTimestamp = false ∧ plainRequest.contentSource = none ∧
    ∃ answer after, Prog.eval (exec (.request 0)) failedGetChoices
      (Driver.createVolume noRegexp 1 plainRequest) readyCluster = some (answer, after) ∧
        ¬ Preserved "v" readyVolume after := by
  refine ⟨rfl, rfl, rfl, rfl, ?_⟩
  have ran : (Prog.eval (exec (.request 0)) failedGetChoices
      (Driver.createVolume noRegexp 1 plainRequest) readyCluster).any (fun result =>
        (result.2.volumes.get "v").any fun vol => vol.deletionTimestamp) = true := by
    decide +kernel
  obtain ⟨⟨answer, after⟩, evaluated, checked⟩ := (Option.any_eq_true _ _).mp ran
  obtain ⟨now, gone, deleted⟩ := (Option.any_eq_true _ _).mp checked
  refine ⟨answer, after, evaluated, ?_⟩
  rintro ⟨kept, present, undeleted, _⟩
  rw [gone] at present
  obtain rfl := Option.some.inj present
  rw [deleted] at undeleted
  contradiction

end Request

end ZfsLocalPv.Properties

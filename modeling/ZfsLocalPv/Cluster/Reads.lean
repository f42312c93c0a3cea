import ZfsLocalPv.Cluster.Steps

/-!
# Programs that only read

The parts of the driver that look something up, wait for it or choose among what they find. They
make no call but reads.
-/

namespace ZfsLocalPv.Cluster

open Api ApiServer Driver Interaction Zfs

variable {α : Type}

theorem calls_call_bind {P : Op → Prop} {op : Op} {next : op.Res → Routine α} (holds : P op)
    (rest : ∀ answer, (next answer).Calls P) : (call op >>= next).Calls P :=
  ⟨holds, rest⟩

theorem calls_getZFSVolume (name : String) (purpose : Purpose) :
    (getZFSVolume name purpose).Calls Op.Asks := by
  unfold getZFSVolume getNamed
  split
  · trivial
  · exact Prog.calls_lift trivial

theorem calls_getZFSSnapshot (name : String) : (getZFSSnapshot name).Calls Op.Asks := by
  unfold getZFSSnapshot getNamed
  split
  · trivial
  · exact Prog.calls_lift trivial

theorem calls_getNodeID (nodename : String) : (getNodeID nodename).Calls Op.Asks := by
  apply calls_call_bind
  · trivial
  · intro answer
    cases answer with
    | error err => trivial
    | ok node => trivial

theorem calls_checkVolCreation (volname : String) (polls : Nat) :
    (checkVolCreation volname polls).Calls Op.Asks := by
  induction polls with
  | zero => trivial
  | succ polls ih =>
      apply calls_call_bind
      · trivial
      · intro branch
        cases branch with
        | done => trivial
        | timeout => trivial
        | proceed =>
            apply (calls_getZFSVolume volname .inspect).bind
            intro found
            cases found with
            | error err => trivial
            | ok vol =>
                dsimp only
                split
                · trivial
                · trivial
                · exact ih

theorem calls_listZFSNodes : listZFSNodes.Calls Op.Asks :=
  Prog.calls_lift trivial

theorem calls_nodeMapOf (weigh : List ZFSNode → Pattern → Weights) (pattern : Pattern) :
    (nodeMapOf weigh pattern).Calls Op.Asks := by
  apply calls_listZFSNodes.bind
  intro answer
  cases answer with
  | error err => trivial
  | ok nodes => trivial

theorem calls_getVolumeWeightedMap (pattern : Pattern) :
    (getVolumeWeightedMap pattern).Calls Op.Asks := by
  apply calls_call_bind
  · trivial
  · intro answer
    cases answer with
    | error err => trivial
    | ok vols =>
        apply calls_listZFSNodes.bind
        intro answer
        cases answer with
        | error err => trivial
        | ok nodes => trivial

theorem calls_getNodeMap (schd : String) (pattern : Pattern) :
    (getNodeMap schd pattern).Calls Op.Asks := by
  unfold getNodeMap
  split
  · exact calls_getVolumeWeightedMap pattern
  · split
    · exact calls_nodeMapOf spaceWeightedMap pattern
    · exact calls_nodeMapOf capacityWeightedMap pattern

theorem calls_preferredNodes (params : VolumeParams) (nmap : Weights) :
    (preferredNodes params nmap).Calls Op.Asks := by
  unfold preferredNodes
  split
  · trivial
  · exact Prog.calls_lift trivial

theorem calls_getSuitableNodes (pattern : Pattern) (size : Int) :
    (getSuitableNodes pattern size).Calls Op.Asks := by
  apply calls_listZFSNodes.bind
  intro answer
  cases answer with
  | error err => trivial
  | ok nodes =>
      dsimp only
      split
      · trivial
      · trivial

theorem calls_fittingNodes (params : VolumeParams) (pattern : Pattern) (prfList : List String) :
    (fittingNodes params pattern prfList).Calls Op.Asks := by
  unfold fittingNodes
  dsimp only
  split
  · apply (calls_getSuitableNodes pattern params.size).bind
    intro answer
    cases answer with
    | error err => trivial
    | ok answer =>
        dsimp only
        split
        · trivial
        · split
          · split
            · trivial
            · trivial
          · trivial
  · trivial

theorem calls_getPoolMap (schd nodeid : String) (pools : List Pool) :
    (getPoolMap schd nodeid pools).Calls Op.Asks := by
  unfold getPoolMap
  split
  · apply calls_call_bind
    · trivial
    · intro answer
      cases answer with
      | error err => trivial
      | ok vols => trivial
  · trivial

theorem calls_resolvePool (schd nodeid : String) (pattern : Pattern) (minFree : Int) :
    (resolvePool schd nodeid pattern minFree).Calls Op.Asks := by
  unfold resolvePool
  split
  · trivial
  · apply calls_call_bind
    · trivial
    · intro answer
      cases answer with
      | error err => trivial
      | ok node =>
          apply (calls_getPoolMap schd nodeid node.pools).bind
          intro answer
          cases answer with
          | error err => trivial
          | ok pmap => trivial

theorem calls_volPool (params : VolumeParams) (pattern : Pattern) (minFree : Int)
    (node nodeid : String) : (volPool params pattern minFree node nodeid).Calls Op.Asks := by
  unfold volPool
  split
  · apply (calls_resolvePool params.schld nodeid pattern minFree).bind
    intro answer
    cases answer with
    | error err => trivial
    | ok pool =>
        dsimp only
        split
        · trivial
        · trivial
  · trivial

/-! ## Snapshots -/

theorem calls_verifySnapshotRequest (snapName volumeID : String) :
    (verifySnapshotRequest snapName volumeID).Calls Op.Reads := by
  unfold verifySnapshotRequest
  split
  · trivial
  · apply (calls_getZFSSnapshot snapName).reads.bind
    intro answer
    cases answer with
    | error err =>
        dsimp only
        split
        · trivial
        · trivial
    | ok snap =>
        dsimp only
        split
        · trivial
        · trivial

theorem calls_waitForReadySnapshot (snapname : String) (polls : Nat) :
    (waitForReadySnapshot snapname polls).Calls Op.Reads := by
  induction polls with
  | zero =>
      constructor
      · trivial
      · intro answer
        exact nomatch (answer : Empty)
  | succ polls ih =>
      apply (calls_getZFSSnapshot snapname).reads.bind
      intro answer
      cases answer with
      | error err => trivial
      | ok snap =>
          dsimp only
          split
          · trivial
          · trivial
          · apply calls_call_bind
            · trivial
            · intro branch
              cases branch with
              | done => trivial
              | timeout => exact ih
              | proceed => exact ih

theorem calls_waitIfAsked (req : CreateSnapshotRequest) (snapName : String) (polls : Nat) :
    (waitIfAsked req snapName polls).Calls Op.Reads := by
  unfold waitIfAsked
  split
  · exact calls_waitForReadySnapshot snapName polls
  · trivial

theorem calls_isVolumeEligibleForDeletion (volumeName : String) :
    (isVolumeEligibleForDeletion volumeName).Calls Op.Reads := by
  apply (calls_getZFSVolume volumeName .inspect).reads.bind
  intro answer
  cases answer with
  | error err => trivial
  | ok vol => trivial

end ZfsLocalPv.Cluster

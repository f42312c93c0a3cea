import Mathlib.Algebra.BigOperators.Ring.Finset
import Mathlib.Algebra.Order.BigOperators.Group.List
import Mathlib.Order.Bounds.Basic
import ZfsLocalPv.Driver.Capacity
import ZfsLocalPv.Properties.ApiFailures

/-!
# Nodes and pools

A node is judged by its roomiest matching pool and a pool is picked by weight, in two different
loops. Both come down to the question whether some matching pool has room, so a node that passes
has a pool to pick. The weight of a node is made from the weights of its pools in the way the
scheduling algorithm says.

The pool is looked for on the ZFSNode of the node's id and the node was judged by the ZFSNode
that names it as its owner. If the labels of the Kubernetes nodes say otherwise the two differ,
and a node that fits may have no pool after all.
-/

namespace ZfsLocalPv.Properties

open Api Driver Interaction Zfs Cluster Go

/-! ## Node fit and pool fit -/

section Fit

variable {nodelist : List ZFSNode} {pattern : Pattern} {size : Int}

theorem fitting_ne_nil_iff {pools : List Pool} (positive : 0 < size) :
    fitting pools pattern size ≠ [] ↔ ∃ pool ∈ matching pools pattern, size < pool.free := by
  simp only [Ne, List.eq_nil_iff_forall_not_mem, not_forall_not, mem_fitting_iff, positive,
    forall_const]

/-- A node is suitable if and only if a pool can be picked on it. -/
theorem suitable_iff_poolForNode (distinct : (nodelist.map k8sNodeName).Nodup)
    (named : ∀ node ∈ nodelist, Named node.pools) (positive : 0 < size) {node : ZFSNode}
    (mem : node ∈ nodelist) (pmap : Weights) :
    k8sNodeName node ∈ (suitableNodes nodelist pattern size).1 ↔
      poolForNode node.pools pattern size pmap ≠ "" := by
  rw [poolForNode_ne_blank_iff (named node mem), fitting_ne_nil_iff positive,
    mem_suitableNodes_iff named]
  constructor
  · rintro ⟨other, isOther, sameName, room⟩
    cases List.inj_on_of_nodup_map distinct isOther mem sameName
    exact room
  · intro room
    exact ⟨node, mem, rfl, room⟩

/-- The id of a node: its label, or its name without one. -/
def idOf (node : Node) : String :=
  (node.labels.lookup ZFSTopologyKey).getD node.name

/-- The ZFSNode that the id of a node names. -/
def NamedById (shared : Shared) (node : String) (zfsNode : ZFSNode) : Prop :=
  ∃ kubeNode, (shared.nodes.find? fun other => decide (other.name = node)) = some kubeNode ∧
    (shared.zfsNodes.find? fun other => decide (other.name = idOf kubeNode)) = some zfsNode ∧
    zfsNode.name ≠ ""

/-- The ZFSNode that the id of the node names, if there is one, is on a node that fits. -/
def IdNamesFitting (shared : Shared) (pattern : Pattern) (size : Int) (node : String) : Prop :=
  ∀ zfsNode, NamedById shared node zfsNode →
    k8sNodeName zfsNode ∈ (suitableNodes shared.zfsNodes pattern size).1

variable {thread : Tid} {shared after : Shared}

theorem returns_getNodeID {name nodeid : String}
    (returned : Prog.Returns (exec thread) (getNodeID name) shared (.ok nodeid) after) :
    ∃ node, (shared.nodes.find? fun other => decide (other.name = name)) = some node ∧
      nodeid = idOf node := by
  obtain ⟨choice, answer, middle, answered, rest⟩ := Prog.returns_lift_bind_iff.mp returned
  obtain ⟨read, rfl⟩ := Prod.mk.inj (Option.some.inj answered)
  cases answer with
  | error err =>
      obtain ⟨failed, _⟩ := Prog.returns_ret_iff.mp rest
      contradiction
  | ok node =>
      obtain ⟨isId, _⟩ := Prog.returns_ret_iff.mp rest
      have found := readAnswer_ok read
      have isNamed : node.name = name := by simpa using List.find?_some found
      refine ⟨node, found, ?_⟩
      rw [idOf, isNamed]
      exact Except.ok.inj isId

/-- The pool comes from the ZFSNode of the id. -/
theorem returns_resolvePool {schd nodeid pool : String} {minFree : Int}
    (returned : Prog.Returns (exec thread) (resolvePool schd nodeid pattern minFree) shared
      (.ok pool) after) :
    ∃ zfsNode, (shared.zfsNodes.find? fun other => decide (other.name = nodeid)) = some zfsNode ∧
      zfsNode.name ≠ "" ∧ ∃ pmap, pool = poolForNode zfsNode.pools pattern minFree pmap := by
  unfold resolvePool at returned
  split at returned
  · obtain ⟨failed, _⟩ := Prog.returns_ret_iff.mp returned
    contradiction
  · rename_i given
    obtain ⟨choice, answer, middle, answered, rest⟩ := Prog.returns_lift_bind_iff.mp returned
    obtain ⟨read, rfl⟩ := Prod.mk.inj (Option.some.inj answered)
    cases answer with
    | error err =>
        obtain ⟨failed, _⟩ := Prog.returns_ret_iff.mp rest
        contradiction
    | ok zfsNode =>
        have found := readAnswer_ok read
        obtain ⟨weighed, last, _, rest⟩ := Prog.returns_bind_iff.mp rest
        cases weighed with
        | error err =>
            obtain ⟨failed, _⟩ := Prog.returns_ret_iff.mp rest
            contradiction
        | ok pmap =>
            obtain ⟨isPool, _⟩ := Prog.returns_ret_iff.mp rest
            have isNamed : zfsNode.name = nodeid := by simpa using List.find?_some found
            exact ⟨zfsNode, found, isNamed ▸ given, pmap, Except.ok.inj isPool⟩

/-- Without failures the pools of a node are weighed. -/
theorem exists_returns_getPoolMap (thread : Tid) (schd nodeid : String) (pools : List Pool)
    (shared : Shared) :
    ∃ pmap, Prog.Returns (exec thread) (getPoolMap schd nodeid pools) shared (.ok pmap) shared := by
  unfold getPoolMap
  split
  · exact ⟨poolVolumeMap shared.volumes.store.items nodeid, [{}], rfl⟩
  · exact ⟨poolWeightMap schd pools, [], rfl⟩

/-- Without failures a pool is looked for on the ZFSNode that the id of the node names. -/
theorem exists_returns_resolvePool {node schd : String} {minFree : Int} {zfsNode : ZFSNode}
    (isNamed : NamedById shared node zfsNode) (thread : Tid) (pattern : Pattern) :
    ∃ nodeid pmap, Prog.Returns (exec thread) (getNodeID node) shared (.ok nodeid) shared ∧
      Prog.Returns (exec thread) (resolvePool schd nodeid pattern minFree) shared
        (.ok (poolForNode zfsNode.pools pattern minFree pmap)) shared := by
  obtain ⟨kubeNode, isNode, isZfsNode, named⟩ := isNamed
  have isName : kubeNode.name = node := by simpa using List.find?_some isNode
  have isId : zfsNode.name = idOf kubeNode := by simpa using List.find?_some isZfsNode
  obtain ⟨pmap, weighed⟩ :=
    exists_returns_getPoolMap thread schd (idOf kubeNode) zfsNode.pools shared
  refine ⟨idOf kubeNode, pmap, ?_, ?_⟩
  · apply Prog.returns_lift_bind_iff.mpr
    refine ⟨{}, .ok kubeNode, shared, ?_, ?_⟩
    · simp [exec, isNode, readAnswer]
    · exact Prog.returns_ret_iff.mpr ⟨by rw [idOf, isName], rfl⟩
  · unfold resolvePool
    rw [if_neg (isId ▸ named)]
    apply Prog.returns_lift_bind_iff.mpr
    refine ⟨{}, .ok zfsNode, shared, ?_, ?_⟩
    · simp [exec, isZfsNode, readAnswer]
    · exact Prog.returns_bind_iff.mpr
        ⟨.ok pmap, shared, weighed, Prog.returns_ret_iff.mpr ⟨rfl, rfl⟩⟩

/-- A node that passes the fit check of a reserving volume is a suitable one. -/
theorem suitable_of_returns_fittingNodes {params : VolumeParams} {prfList nodes : List String}
    (reserves : reservesSpace params.vtype params.thinProvision = true)
    (returned : Prog.Returns (exec thread) (fittingNodes params pattern prfList) shared
      (.ok nodes) after) {node : String} (mem : node ∈ nodes) :
    node ∈ (suitableNodes shared.zfsNodes pattern params.size).1 := by
  rw [returns_fittingNodes returned, nodesTried, if_pos (.inr reserves)] at mem
  split at mem
  · contradiction
  · rw [filterKeep, List.mem_filter] at mem
    exact of_decide_eq_true mem.2

/-- On a node that is tried a pool is found, whatever the outcome of the calls, if and only if
the ZFSNode of its id is on a node that fits. -/
theorem pool_found_iff (distinct : (shared.zfsNodes.map k8sNodeName).Nodup)
    (named : ∀ node ∈ shared.zfsNodes, Named node.pools) (positive : 0 < size)
    (thread : Tid) (schd node : String) :
    (∀ nodeid pool final, Prog.Returns (exec thread) (getNodeID node) shared (.ok nodeid) shared →
      Prog.Returns (exec thread) (resolvePool schd nodeid pattern size) shared (.ok pool) final →
        pool ≠ "") ↔
      IdNamesFitting shared pattern size node := by
  constructor
  · intro found zfsNode isNamed
    obtain ⟨nodeid, pmap, isId, resolved⟩ := exists_returns_resolvePool isNamed thread pattern
    obtain ⟨_, _, isZfsNode, _⟩ := isNamed
    have mem := List.mem_of_find?_eq_some isZfsNode
    exact (suitable_iff_poolForNode distinct named positive mem pmap).mpr
      (found nodeid _ shared isId resolved)
  · intro fits nodeid pool final isId resolved
    obtain ⟨kubeNode, isNode, rfl⟩ := returns_getNodeID isId
    obtain ⟨zfsNode, isZfsNode, isGiven, pmap, rfl⟩ := returns_resolvePool resolved
    have mem := List.mem_of_find?_eq_some isZfsNode
    exact (suitable_iff_poolForNode distinct named positive mem pmap).mp
      (fits zfsNode ⟨kubeNode, isNode, isZfsNode, isGiven⟩)

/-- Node fit and pool fit are the same question. The pool picked matches and has room,
and `matched` tells whether any pool matches. On a node that passed the fit check a reserving
volume finds a pool, as long as the ZFSNodes stay as they are, if and only if the ZFSNode that
the id of the node names is on a node that fits; the ZFSNode of the node itself is. -/
theorem node_fit_iff_pool_fit (distinct : (nodelist.map k8sNodeName).Nodup)
    (named : ∀ node ∈ nodelist, Named node.pools) (pattern : Pattern) (positive : 0 < size) :
    (∀ node ∈ nodelist, ∀ pmap,
      (k8sNodeName node ∈ (suitableNodes nodelist pattern size).1 ↔
        poolForNode node.pools pattern size pmap ≠ "") ∧
      (poolForNode node.pools pattern size pmap ≠ "" → ∃ pool ∈ node.pools,
        poolForNode node.pools pattern size pmap = pool.name ∧ pattern pool.name = true ∧
          size < pool.free)) ∧
    ((suitableNodes nodelist pattern size).2 = true ↔
      ∃ node ∈ nodelist, ∃ pool ∈ node.pools, pattern pool.name = true) ∧
    ∀ (thread : Tid) (params : VolumeParams) (prfList nodes : List String)
      (before checked now : Shared) (node : String),
      reservesSpace params.vtype params.thinProvision = true → params.size = size →
      before.zfsNodes = nodelist → now.zfsNodes = nodelist →
      Prog.Returns (exec thread) (fittingNodes params pattern prfList) before (.ok nodes) checked →
      node ∈ nodes →
      ((∀ nodeid pool final,
        Prog.Returns (exec thread) (getNodeID node) now (.ok nodeid) now →
        Prog.Returns (exec thread) (resolvePool params.schld nodeid pattern size) now (.ok pool)
          final → pool ≠ "") ↔ IdNamesFitting now pattern size node) ∧
      ((∀ zfsNode, NamedById now node zfsNode → k8sNodeName zfsNode = node) →
        IdNamesFitting now pattern size node) := by
  refine ⟨fun node mem pmap => ⟨?_, fun picked => ?_⟩, ?_, ?_⟩
  · exact suitable_iff_poolForNode distinct named positive mem pmap
  · obtain ⟨pool, fits, isPool⟩ := exists_fitting_of_poolForNode (named node mem) picked
    obtain ⟨matched, room⟩ := mem_fitting_iff.mp fits
    obtain ⟨isOf, isMatch⟩ := mem_matching_iff.mp matched
    exact ⟨pool, isOf, isPool, isMatch, room positive⟩
  · rw [matched_suitableNodes_iff named]
    simp only [Ne, List.eq_nil_iff_forall_not_mem, not_forall_not, mem_matching_iff]
  · rintro thread params prfList nodes before checked now node reserves rfl listed rfl returned mem
    constructor
    · exact pool_found_iff distinct named positive thread params.schld node
    · intro own zfsNode isNamed
      have suitable := suitable_of_returns_fittingNodes reserves returned mem
      rw [own zfsNode isNamed, ← listed]
      exact suitable

end Fit

/-! ## Two nodes -/

/-- A ZFSNode of a node with the given pools. -/
def ownedNode (name owner : String) (pools : List Pool) : ZFSNode where
  name := name
  ownerReferences := [{ kind := "Node", name := owner }]
  pools := pools

/-- The node `a` has a pool with room and the node `b` has none. -/
def roomyNodes : List ZFSNode :=
  [ownedNode "za" "a" [{ name := "p", free := 2 * Mi }], ownedNode "zb" "b" []]

/-- The Kubernetes node `a` has the given id. -/
def labelledCluster (nodeid : String) : Shared where
  nodes := [{ name := "a", labels := [(ZFSTopologyKey, nodeid)] }]
  zfsNodes := roomyNodes

/-- Expressions without special characters. -/
def literalRegexp : Compile :=
  fun text => .ok fun name => decide (name = text)

/-- A request for a reserved dataset by a pool pattern. -/
def reservingRequest : CreateVolumeRequest where
  name := "v"
  capacityRange := some Mi
  parameters := [("poolpattern", "p"), ("fstype", "zfs"), ("thinprovision", "no"), ("node", "a")]

/-- The parameters of the request. -/
def reservingParams : VolumeParams :=
  volumeParams reservingRequest Mi

theorem node_fit_iff_pool_fit_roomyNodes :
    ∃ pool final, Prog.Returns (exec (.request 0))
        (fittingNodes reservingParams (fun name => decide (name = "p")) ["a"])
        (labelledCluster "za") (.ok ["a"]) (labelledCluster "za") ∧
      Prog.Returns (exec (.request 0)) (resolvePool "" "za" (fun name => decide (name = "p")) Mi)
        (labelledCluster "za") (.ok pool) final ∧ pool ≠ "" := by
  have checked : Prog.Returns (exec (.request 0))
      (fittingNodes reservingParams (fun name => decide (name = "p")) ["a"])
      (labelledCluster "za") (.ok ["a"]) (labelledCluster "za") := ⟨[{}], rfl⟩
  have isId : Prog.Returns (exec (.request 0)) (getNodeID "a") (labelledCluster "za") (.ok "za")
      (labelledCluster "za") := ⟨[{}], rfl⟩
  have resolved : Prog.Returns (exec (.request 0))
      (resolvePool "" "za" (fun name => decide (name = "p")) Mi)
      (labelledCluster "za") (.ok "p") (labelledCluster "za") := ⟨[{}], rfl⟩
  have distinct : (roomyNodes.map k8sNodeName).Nodup := by decide
  have named : ∀ node ∈ roomyNodes, Named node.pools := by
    unfold Named
    decide
  have own : ∀ zfsNode, NamedById (labelledCluster "za") "a" zfsNode →
      k8sNodeName zfsNode = "a" := by
    rintro zfsNode ⟨kubeNode, isNode, isZfsNode, _⟩
    cases isNode
    cases isZfsNode
    rfl
  have fit := node_fit_iff_pool_fit distinct named (fun name => decide (name = "p"))
    (show 0 < Mi by decide)
  have tried := fit.2.2 (.request 0) reservingParams ["a"] ["a"] (labelledCluster "za")
    (labelledCluster "za") (labelledCluster "za") "a" rfl rfl rfl rfl checked (.head _)
  exact ⟨"p", _, checked, resolved, tried.1.mpr (tried.2 own) "za" "p" _ isId resolved⟩

/-- The id of the node `a` is that of the ZFSNode of `b`. The node passes the fit check
and then has no pool. -/
theorem pool_missing_on_fitting_node :
    (roomyNodes.map k8sNodeName).Nodup ∧ (∀ node ∈ roomyNodes, Named node.pools) ∧
    (labelledCluster "zb").zfsNodes = roomyNodes ∧
    reservesSpace reservingParams.vtype reservingParams.thinProvision = true ∧
    reservingParams.size = Mi ∧
    Prog.Returns (exec (.request 0))
      (fittingNodes reservingParams (fun name => decide (name = "p")) ["a"])
      (labelledCluster "zb") (.ok ["a"]) (labelledCluster "zb") ∧
    Prog.Returns (exec (.request 0)) (createZFSVolume literalRegexp 1 reservingRequest)
      (labelledCluster "zb")
      (.error (.status .internal ("not able to provision the volume, nodes [a], err : " ++
        "no pool matching poolpattern \"p\" on node a"))) (labelledCluster "zb") := by
  refine ⟨by decide, ?_, rfl, rfl, rfl, ⟨[{}], rfl⟩, ?_⟩
  · unfold Named
    decide
  · exact ⟨[{}, {}, {}, {}, {}, {}], rfl⟩

/-! ## Weights of nodes and pools -/

/-- The pools of a node as its agent reports them. -/
structure Reported (pools : List Pool) : Prop where
  named : Named pools
  distinct : (pools.map Pool.name).Nodup
  free : ∀ free ∈ pools.map Pool.free, 0 ≤ free
  used : ∀ used ∈ pools.map Pool.used, 0 ≤ used
  freeSum : IsInt64 (pools.map Pool.free).sum
  usedSum : IsInt64 (pools.map Pool.used).sum

section Metrics

variable {nodelist : List ZFSNode} {zvlist : List ZFSVolume} {pools : List Pool} {pool : Pool}
  {pattern : Pattern}

theorem get_poolWeightMap (distinct : (pools.map Pool.name).Nodup) (mem : pool ∈ pools)
    (schd : String) :
    (poolWeightMap schd pools).get pool.name =
      if schd = "SpaceWeighted" then wrap64 (maxInt64 - pool.free) else pool.used := by
  rw [poolWeightMap_eq, Weights.get, lookup_collect_filterMap distinct mem]
  rfl

/-- The inverted free capacity does not overflow. -/
theorem Reported.spaceWeight (reported : Reported pools) (mem : pool ∈ pools) :
    (poolWeightMap "SpaceWeighted" pools).get pool.name = maxInt64 - pool.free := by
  have nonneg := reported.free pool.free (List.mem_map_of_mem mem)
  have bounded := List.single_le_sum reported.free pool.free (List.mem_map_of_mem mem)
  have inRange : IsInt64 (maxInt64 - pool.free) := by
    have := reported.freeSum
    unfold IsInt64 maxInt64 at *
    omega
  rw [get_poolWeightMap reported.distinct mem, if_pos rfl, wrap64_of_isInt64 inRange]

/-- The capacity weight of a node is the sum of those of its matching pools. -/
theorem lookup_capacityWeightedMap (owners : (nodelist.map k8sNodeName).Nodup) {node : ZFSNode}
    (mem : node ∈ nodelist) (reported : Reported node.pools) :
    (capacityWeightedMap nodelist pattern).lookup (k8sNodeName node) =
      if matching node.pools pattern = [] then none
      else some ((matching node.pools pattern).map fun pool =>
        (poolWeightMap "CapacityWeighted" node.pools).get pool.name).sum := by
  have weights : ((matching node.pools pattern).map fun pool =>
      (poolWeightMap "CapacityWeighted" node.pools).get pool.name) =
      (matching node.pools pattern).map Pool.used := by
    apply List.map_congr_left
    intro pool matched
    rw [get_poolWeightMap reported.distinct (mem_matching_iff.mp matched).1, if_neg (by decide)]
  have part : ((matching node.pools pattern).map Pool.used).Sublist (node.pools.map Pool.used) :=
    List.filter_sublist.map Pool.used
  have inRange : IsInt64 ((matching node.pools pattern).map Pool.used).sum := by
    have bounded := part.sum_le_sum reported.used
    have nonneg : 0 ≤ ((matching node.pools pattern).map Pool.used).sum :=
      List.sum_nonneg fun used isUsed => reported.used used (part.subset isUsed)
    have := reported.usedSum
    unfold IsInt64 at *
    omega
  rw [capacityWeightedMap_eq, Weights.lookup_tally, amounts_flatMap owners mem, weights,
    wrap64_of_isInt64 inRange]
  simp only [List.map_eq_nil_iff]

/-- The lightest pool by space is the roomiest one, the first of equals. -/
theorem poolForNode_spaceWeighted (reported : Reported pools) :
    poolForNode pools pattern 0 (poolWeightMap "SpaceWeighted" pools) =
      (maxFreePool pools pattern).1 := by
  have all : fitting pools pattern 0 = matching pools pattern := by simp [fitting]
  have weight {pool : Pool} (mem : pool ∈ matching pools pattern) :
      (poolWeightMap "SpaceWeighted" pools).get pool.name = maxInt64 - pool.free :=
    reported.spaceWeight (mem_matching_iff.mp mem).1
  have same : ((matching pools pattern).argmin fun pool =>
      (poolWeightMap "SpaceWeighted" pools).get pool.name) =
      (matching pools pattern).argmax Pool.free := by
    apply Selection.argmin_eq_argmax
    intro one isOne two isTwo
    rw [weight isOne, weight isTwo]
    omega
  rw [poolForNode_eq reported.named, maxFreePool_eq reported.named, all, same]
  cases (matching pools pattern).argmax Pool.free <;> rfl

/-- The space weight of a node is the least of those of its matching pools. -/
theorem lookup_spaceWeightedMap_iff (owners : (nodelist.map k8sNodeName).Nodup) {node : ZFSNode}
    (mem : node ∈ nodelist) (reported : Reported node.pools) (weight : Int) :
    (spaceWeightedMap nodelist pattern).lookup (k8sNodeName node) = some weight ↔
      IsLeast {weight | ∃ pool ∈ matching node.pools pattern,
        (poolWeightMap "SpaceWeighted" node.pools).get pool.name = weight} weight := by
  have weighs {pool : Pool} (isMatch : pool ∈ matching node.pools pattern) :
      (poolWeightMap "SpaceWeighted" node.pools).get pool.name = maxInt64 - pool.free :=
    reported.spaceWeight (mem_matching_iff.mp isMatch).1
  rw [spaceWeightedMap_eq, lookup_collect_filterMap owners mem, maxFreePool_eq reported.named]
  cases best : (matching node.pools pattern).argmax Pool.free with
  | none =>
      have none : matching node.pools pattern = [] := List.argmax_eq_none.mp best
      simp [Selection.record, none, IsLeast]
  | some roomiest =>
      have isMatch : roomiest ∈ matching node.pools pattern := List.argmax_mem best
      have least : IsLeast {weight | ∃ pool ∈ matching node.pools pattern,
          (poolWeightMap "SpaceWeighted" node.pools).get pool.name = weight}
          (maxInt64 - roomiest.free) := by
        refine ⟨⟨roomiest, isMatch, weighs isMatch⟩, ?_⟩
        rintro _ ⟨pool, isPool, rfl⟩
        have bound := List.le_of_mem_argmax isPool best
        rw [weighs isPool]
        omega
      have exact : wrap64 (maxInt64 - roomiest.free) = maxInt64 - roomiest.free := by
        have isWeight := get_poolWeightMap reported.distinct (mem_matching_iff.mp isMatch).1
          "SpaceWeighted"
        rw [if_pos rfl, weighs isMatch] at isWeight
        exact isWeight.symm
      have isNamed : roomiest.name ≠ "" := reported.named.matching roomiest isMatch
      simp only [Selection.record, isNamed, if_false, exact, Option.some.injEq]
      constructor
      · rintro rfl
        exact least
      · exact least.unique

/-- The volumes of a node in matching pools. -/
def volumesOn (zvlist : List ZFSVolume) (pattern : Pattern) (nodeid : String) : Nat :=
  zvlist.countP fun zv =>
    pattern (poolRoot zv.spec.poolName) && decide (zv.spec.ownerNodeID = nodeid)

theorem total_poolVolumeMap (countable : (zvlist.length : Int) < 2 ^ 63) (nodeid : String) :
    (poolVolumeMap zvlist nodeid).total pattern = volumesOn zvlist pattern nodeid := by
  have fewer : (zvlist.filter fun zv => decide (zv.spec.ownerNodeID = nodeid)).length ≤
      zvlist.length := List.length_filter_le _ _
  rw [poolVolumeMap_eq, (Weights.total_tally_ones _ _).2, volumesOn, List.countP_map,
    List.countP_filter]
  · rfl
  · rw [List.length_map]
    omega

/-- The name counted for a volume is that of a node exactly if the node owns it. -/
theorem nodeName_eq_iff (names : (nodelist.map ZFSNode.name).Nodup)
    (owners : (nodelist.map k8sNodeName).Nodup) {node : ZFSNode} (mem : node ∈ nodelist)
    {ownerNodeID : String} (listed : ownerNodeID ∈ nodelist.map ZFSNode.name) :
    ((nodeNames nodelist).lookup ownerNodeID).getD ownerNodeID = k8sNodeName node ↔
      ownerNodeID = node.name := by
  obtain ⟨owner, isOwner, rfl⟩ := List.mem_map.mp listed
  rw [lookup_nodeNames names isOwner, Option.getD_some]
  constructor
  · intro sameName
    cases List.inj_on_of_nodup_map owners isOwner mem sameName
    rfl
  · intro sameId
    cases List.inj_on_of_nodup_map names isOwner mem sameId
    rfl

theorem get_volumeWeightedMap (names : (nodelist.map ZFSNode.name).Nodup)
    (owners : (nodelist.map k8sNodeName).Nodup)
    (listed : ∀ zv ∈ zvlist, zv.spec.ownerNodeID ∈ nodelist.map ZFSNode.name)
    (countable : (zvlist.length : Int) < 2 ^ 63) {node : ZFSNode} (mem : node ∈ nodelist) :
    (volumeWeightedMap zvlist nodelist pattern).get (k8sNodeName node) =
      volumesOn zvlist pattern node.name := by
  have fewer : (zvlist.filter fun zv => pattern (poolRoot zv.spec.poolName)).length ≤
      zvlist.length := List.length_filter_le _ _
  rw [volumeWeightedMap_eq, Weights.get_tally_ones, List.count_eq_countP, List.countP_map,
    List.countP_filter, volumesOn]
  · congr 1
    apply List.countP_congr
    intro zv isVolume
    have same := nodeName_eq_iff names owners mem (listed zv isVolume)
    simp [same, and_comm]
  · rw [List.length_map]
    omega

/-- Every volume is counted for one node. -/
theorem sum_volumesOn {ids : List String} (distinct : ids.Nodup)
    (listed : ∀ zv ∈ zvlist, zv.spec.ownerNodeID ∈ ids) :
    (ids.map fun id => volumesOn zvlist pattern id).sum =
      zvlist.countP fun zv => pattern (poolRoot zv.spec.poolName) := by
  induction zvlist with
  | nil => simp [volumesOn]
  | cons zv zvlist ih =>
      have rest := ih fun zv mem => listed zv (.tail _ mem)
      by_cases isMatch : pattern (poolRoot zv.spec.poolName)
      · have step (id : String) : volumesOn (zv :: zvlist) pattern id =
            volumesOn zvlist pattern id + if zv.spec.ownerNodeID = id then 1 else 0 := by
          simp [volumesOn, List.countP_cons, isMatch]
        have once : (ids.filter fun id => decide (zv.spec.ownerNodeID = id)) =
            [zv.spec.ownerNodeID] := by
          have distinctIds : (ids.map id).Nodup := by simpa using distinct
          simpa [eq_comm] using filter_key_eq distinctIds (listed zv (.head _))
        have counted : (ids.map fun id => if zv.spec.ownerNodeID = id then 1 else 0).sum = 1 := by
          simp [List.sum_map_ite, once]
        simp only [step, List.sum_map_add, rest, counted, List.countP_cons, isMatch, if_true]
      · have step (id : String) : volumesOn (zv :: zvlist) pattern id =
            volumesOn zvlist pattern id := by
          simp [volumesOn, isMatch]
        simp [step, rest, isMatch]

/-- The weight of a node is made from the weights of its matching pools: their sum by
capacity, their least by space, which is the weight of the pool picked, and their number
of volumes, each volume being counted once. -/
theorem node_weight_of_pool_weights (pattern : Pattern)
    (names : (nodelist.map ZFSNode.name).Nodup) (owners : (nodelist.map k8sNodeName).Nodup)
    (reported : ∀ node ∈ nodelist, Reported node.pools)
    (listed : ∀ zv ∈ zvlist, zv.spec.ownerNodeID ∈ nodelist.map ZFSNode.name)
    (countable : (zvlist.length : Int) < 2 ^ 63) :
    (∀ node ∈ nodelist,
      ((capacityWeightedMap nodelist pattern).lookup (k8sNodeName node) =
        if matching node.pools pattern = [] then none
        else some ((matching node.pools pattern).map fun pool =>
          (poolWeightMap "CapacityWeighted" node.pools).get pool.name).sum) ∧
      (∀ weight, (spaceWeightedMap nodelist pattern).lookup (k8sNodeName node) = some weight ↔
        IsLeast {weight | ∃ pool ∈ matching node.pools pattern,
          (poolWeightMap "SpaceWeighted" node.pools).get pool.name = weight} weight) ∧
      poolForNode node.pools pattern 0 (poolWeightMap "SpaceWeighted" node.pools) =
        (maxFreePool node.pools pattern).1 ∧
      (volumeWeightedMap zvlist nodelist pattern).get (k8sNodeName node) =
        (poolVolumeMap zvlist node.name).total pattern) ∧
    (nodelist.map fun node =>
      (volumeWeightedMap zvlist nodelist pattern).get (k8sNodeName node)).sum =
        zvlist.countP fun zv => pattern (poolRoot zv.spec.poolName) := by
  constructor
  · intro node mem
    refine ⟨?_, fun weight => ?_, ?_, ?_⟩
    · exact lookup_capacityWeightedMap owners mem (reported node mem)
    · exact lookup_spaceWeightedMap_iff owners mem (reported node mem) weight
    · exact poolForNode_spaceWeighted (reported node mem)
    · rw [get_volumeWeightedMap names owners listed countable mem,
        total_poolVolumeMap countable]
  · have each : (nodelist.map fun node =>
        (volumeWeightedMap zvlist nodelist pattern).get (k8sNodeName node)) =
        nodelist.map fun node => (volumesOn zvlist pattern node.name : Int) := by
      apply List.map_congr_left
      intro node mem
      exact get_volumeWeightedMap names owners listed countable mem
    have summed : ((nodelist.map ZFSNode.name).map fun id => volumesOn zvlist pattern id).sum =
        zvlist.countP fun zv => pattern (poolRoot zv.spec.poolName) := sum_volumesOn names listed
    rw [each, ← summed, Nat.cast_list_sum]
    simp [Function.comp_def]

/-- A volume in a dataset below the pool of the roomy node. -/
def nestedVolume : ZFSVolume where
  name := "v"
  spec := { ownerNodeID := "za", poolName := "p/k8s" }
  status := .ready

theorem node_weight_of_pool_weights_roomyNodes :
    (nestedVolume.spec.ownerNodeID ∈ roomyNodes.map ZFSNode.name ∧
      (∀ node ∈ roomyNodes, Reported node.pools)) ∧
    (volumeWeightedMap [nestedVolume] roomyNodes fun name => decide (name = "p")).get "a" =
      (poolVolumeMap [nestedVolume] "za").total fun name => decide (name = "p") := by
  have names : (roomyNodes.map ZFSNode.name).Nodup := by decide
  have owners : (roomyNodes.map k8sNodeName).Nodup := by decide
  have reported : ∀ node ∈ roomyNodes, Reported node.pools := by
    have named : ∀ node ∈ roomyNodes, ∀ pool ∈ node.pools, pool.name ≠ "" := by decide
    intro node mem
    refine ⟨named node mem, ?_, ?_, ?_, ?_, ?_⟩
    all_goals revert node; decide
  have listed : ∀ zv ∈ [nestedVolume], zv.spec.ownerNodeID ∈ roomyNodes.map ZFSNode.name := by
    decide
  have weights := node_weight_of_pool_weights (fun name => decide (name = "p")) names owners
    reported listed (by decide)
  exact ⟨⟨listed _ (.head _), reported⟩, (weights.1 _ (.head _)).2.2.2⟩

end Metrics

/-! ## Reported capacity -/

/-- The capacity reported for a segment exceeds a size exactly if some node of the segment
would pass the fit check of a volume of that size. -/
theorem capacity_reported_iff_suitable (compile : Compile) (indexedLabel : String)
    (nodesCache : NodeCache) {zfsNodes : List ZFSNode} {getNodeID : String → Except Err String}
    {req : GetCapacityRequest} {pattern : Pattern} {size : Int}
    (distinct : (zfsNodes.map ZFSNode.name).Nodup)
    (named : ∀ node ∈ zfsNodes, Named node.pools)
    (parsed : parsePoolParams compile (getInsensitiveParameter req.parameters "poolname")
      (getInsensitiveParameter req.parameters "poolpattern") = .ok pattern)
    (positive : 1 ≤ size) :
    ∃ names, filterNodesByTopology indexedLabel nodesCache (req.accessibleTopology.getD []) =
        .ok names ∧
      ((∀ name ∈ names, ∃ zfsNode ∈ zfsNodes,
        (∀ other ∈ zfsNodes, k8sNodeName other = name ↔ other = zfsNode) ∧
          getNodeID name = .ok zfsNode.name) →
        ∃ capacity, getCapacity compile indexedLabel nodesCache zfsNodes getNodeID req =
            .ok capacity ∧
          ((∃ name ∈ names, name ∈ (suitableNodes zfsNodes pattern size).1) ↔
            size < capacity)) := by
  obtain ⟨names, selected⟩ :=
    filterNodesByTopology_ok indexedLabel nodesCache (req.accessibleTopology.getD [])
  refine ⟨names, selected, fun mapped =>
    ⟨names.foldl (largerCapacity zfsNodes getNodeID pattern) 0, ?_, ?_⟩⟩
  · simp only [getCapacity, selected, parsed]
  · rw [lt_foldl_largerCapacity_iff distinct named (by omega) mapped]
    constructor
    · exact .inr
    · rintro (negative | suitable)
      · omega
      · exact suitable

/-- The capacity asked for the segment of the node `a`. -/
def segmentRequest : GetCapacityRequest where
  accessibleTopology := some [(ZFSTopologyKey, "za")]
  parameters := [("PoolName", "p/k8s")]

theorem capacity_reported_iff_suitable_roomyNodes :
    getCapacity noRegexp "" { nodes := (labelledCluster "za").nodes } roomyNodes
        (fun _ => .ok "za") segmentRequest = .ok (2 * Mi) ∧
      "a" ∈ (suitableNodes roomyNodes (fun pool => decide (pool = poolRoot "p/k8s")) Mi).1 := by
  have named : ∀ node ∈ roomyNodes, Named node.pools := by
    unfold Named
    decide
  obtain ⟨names, selected, agree⟩ := capacity_reported_iff_suitable noRegexp ""
    { nodes := (labelledCluster "za").nodes } (by decide : (roomyNodes.map ZFSNode.name).Nodup)
    named (show parsePoolParams noRegexp (getInsensitiveParameter segmentRequest.parameters
      "poolname") (getInsensitiveParameter segmentRequest.parameters "poolpattern") =
        .ok fun pool => decide (pool = poolRoot "p/k8s") from rfl) (show 1 ≤ Mi by decide)
  cases (show filterNodesByTopology "" { nodes := (labelledCluster "za").nodes }
    [(ZFSTopologyKey, "za")] = .ok ["a"] from rfl).symm.trans selected
  have mapped : ∀ name ∈ ["a"], ∃ zfsNode ∈ roomyNodes,
      (∀ other ∈ roomyNodes, k8sNodeName other = name ↔ other = zfsNode) ∧
        (fun _ => .ok "za" : String → Except Err String) name = .ok zfsNode.name := by
    intro name isA
    cases List.mem_singleton.mp isA
    exact ⟨_, .head _, by decide, rfl⟩
  obtain ⟨capacity, answer, iff⟩ := agree mapped
  have isCapacity : getCapacity noRegexp "" { nodes := (labelledCluster "za").nodes } roomyNodes
      (fun _ => .ok "za") segmentRequest = .ok (2 * Mi) := rfl
  cases isCapacity.symm.trans answer
  obtain ⟨name, isA, suitable⟩ := iff.mpr (by decide)
  cases List.mem_singleton.mp isA
  exact ⟨isCapacity, suitable⟩

end ZfsLocalPv.Properties

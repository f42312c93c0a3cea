import ZfsLocalPv.Driver.Csi
import ZfsLocalPv.Driver.Selection

/-!
# GetCapacity

The capacity the controller reports for a topology segment. It reads the informer caches of the
Kubernetes nodes and of the ZFSNodes and asks the API server for the id of each node; the answers
are a function from node names.
-/

namespace ZfsLocalPv.Driver

open Api Go

/-- The informer cache of Kubernetes nodes: its nodes and its index functions. -/
structure NodeCache where
  nodes : List Node
  indexers : List (String × (Node → List String)) := []

/-- `LabelIndexName`. -/
def labelIndexName (label : String) : String :=
  "l:" ++ label

/-- `Matches` of the selector made from a set of labels. -/
def selects (segments labels : StringMap) : Bool :=
  segments.all fun (label, value) => decide (labels.lookup label = some value)

/-- The names of the nodes the segments select. -/
def filterNodes (segments : StringMap) (nodes : List Node) : List String :=
  (nodes.filter fun node => selects segments node.labels).map Node.name

/-- `ByIndex` of the cache. -/
def NodeCache.byIndex (cache : NodeCache) (indexName key : String) : Except String (List Node) :=
  match cache.indexers.lookup indexName with
  | none => .error ("Index with name " ++ indexName ++ " does not exist")
  | some index => .ok (cache.nodes.filter fun node => decide (key ∈ index node))

/-- `filterNodesByTopology`. No segments select every node. -/
def filterNodesByTopology (indexedLabel : String) (nodesCache : NodeCache)
    (segments : StringMap) : Except String (List String) :=
  if segments = [] then
    .ok (nodesCache.nodes.map Node.name)
  else
    let indexName := labelIndexName indexedLabel
    match nodesCache.indexers.lookup indexName with
    | none => .ok (filterNodes segments nodesCache.nodes)
    | some _ =>
        match segments.lookup indexedLabel with
        | none => .ok (filterNodes segments nodesCache.nodes)
        | some segValue =>
            match nodesCache.byIndex indexName segValue with
            | .error message => .error ("query indexed store indexName=" ++ indexName ++
                " indexKey=" ++ segValue ++ ": " ++ message)
            | .ok nodes => .ok (filterNodes segments nodes)

structure GetCapacityRequest where
  /-- The segments of the topology, if one is given. -/
  accessibleTopology : Option StringMap := none
  parameters : StringMap := []

/-- One round of the loop of `GetCapacity`: the roomiest matching pool of a node. A node
whose id cannot be found out is looked up by its name. -/
def largerCapacity (zfsNodesCache : List ZFSNode) (getNodeID : String → Except Err String)
    (pattern : Pattern) (availableCapacity : Int) (nodeName : String) : Int :=
  let mappedNodeID :=
    match getNodeID nodeName with
    | .error _ => nodeName
    | .ok nodeid => nodeid
  match zfsNodesCache.find? fun node => decide (node.name = mappedNodeID) with
  | none => availableCapacity
  | some zfsNode =>
      let freeCapacity := (maxFreePool zfsNode.pools pattern).2
      if availableCapacity < freeCapacity then freeCapacity else availableCapacity

/-- `GetCapacity`. Unusable pool parameters are no error: they provision nothing. -/
def getCapacity (compile : Compile) (indexedLabel : String) (nodesCache : NodeCache)
    (zfsNodesCache : List ZFSNode) (getNodeID : String → Except Err String)
    (req : GetCapacityRequest) : Except Err Int :=
  let segments := req.accessibleTopology.getD []
  match filterNodesByTopology indexedLabel nodesCache segments with
  | .error message => .error (.status .internal message)
  | .ok nodeNames =>
      let poolname := getInsensitiveParameter req.parameters "poolname"
      let poolpattern := getInsensitiveParameter req.parameters "poolpattern"
      match parsePoolParams compile poolname poolpattern with
      | .error _ => .ok 0
      | .ok pattern => .ok (nodeNames.foldl (largerCapacity zfsNodesCache getNodeID pattern) 0)

variable {indexedLabel : String} {nodesCache : NodeCache} {segments : StringMap}

/-- The index that is queried is there. -/
theorem filterNodesByTopology_ok (indexedLabel : String) (nodesCache : NodeCache)
    (segments : StringMap) :
    ∃ names, filterNodesByTopology indexedLabel nodesCache segments = .ok names := by
  unfold filterNodesByTopology
  split
  · exact ⟨_, rfl⟩
  · dsimp only
    split
    · exact ⟨_, rfl⟩
    · rename_i index found
      split
      · exact ⟨_, rfl⟩
      · rw [NodeCache.byIndex, found]
        exact ⟨_, rfl⟩

variable {zfsNodes : List ZFSNode} {getNodeID : String → Except Err String} {pattern : Pattern}
  {name : String} {zfsNode : ZFSNode} {size : Int}

/-- A cached node is found by its id. -/
theorem largerCapacity_of_id (distinct : (zfsNodes.map ZFSNode.name).Nodup)
    (mem : zfsNode ∈ zfsNodes) (isId : getNodeID name = .ok zfsNode.name) (capacity : Int) :
    largerCapacity zfsNodes getNodeID pattern capacity name =
      max capacity (maxFreePool zfsNode.pools pattern).2 := by
  have found : (zfsNodes.find? fun node => decide (node.name = zfsNode.name)) = some zfsNode := by
    rw [← List.head?_filter, filter_key_eq distinct mem, List.head?_cons]
  simp only [largerCapacity, isId, found]
  omega

/-- The loop reports more than a size if it starts with more or some node has room. -/
theorem lt_foldl_largerCapacity_iff {names : List String} {capacity : Int}
    (distinct : (zfsNodes.map ZFSNode.name).Nodup)
    (named : ∀ node ∈ zfsNodes, Named node.pools) (nonneg : 0 ≤ size)
    (mapped : ∀ name ∈ names, ∃ zfsNode ∈ zfsNodes,
      (∀ other ∈ zfsNodes, k8sNodeName other = name ↔ other = zfsNode) ∧
        getNodeID name = .ok zfsNode.name) :
    size < names.foldl (largerCapacity zfsNodes getNodeID pattern) capacity ↔
      size < capacity ∨ ∃ name ∈ names, name ∈ (suitableNodes zfsNodes pattern size).1 := by
  induction names generalizing capacity with
  | nil => simp
  | cons name names ih =>
      obtain ⟨zfsNode, mem, only, isId⟩ := mapped name (.head _)
      have suitable : name ∈ (suitableNodes zfsNodes pattern size).1 ↔
          size < (maxFreePool zfsNode.pools pattern).2 := by
        rw [mem_suitableNodes_iff named, ← hasRoom_iff (named zfsNode mem) nonneg]
        constructor
        · rintro ⟨other, isOther, isNamed, room⟩
          rwa [(only other isOther).mp isNamed] at room
        · intro room
          exact ⟨zfsNode, mem, (only zfsNode mem).mpr rfl, room⟩
      rw [List.foldl_cons, ih fun name mem => mapped name (.tail _ mem),
        largerCapacity_of_id distinct mem isId, lt_max_iff, List.exists_mem_cons_iff, suitable,
        or_assoc]

end ZfsLocalPv.Driver

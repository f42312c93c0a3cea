import ZfsLocalPv.Zfs.Util

/-!
# Choosing nodes and pools

The functions of `pkg/driver/schd_helper.go`. A compiled regular expression is the set of strings
it matches; the compiler is a parameter.
-/

namespace ZfsLocalPv.Driver

open Api Go Cluster Interaction

/-- `*regexp.Regexp`, as `MatchString`. -/
abbrev Pattern := String → Bool

/-- `regexp.Compile`. -/
abbrev Compile := String → Except String Pattern

/-- A map from names to `int64`. -/
abbrev Weights := List (String × Int)

/-- Add to the entry of a name, a missing one counting as zero. -/
def Weights.add (name : String) (amount : Int) : Weights → Weights
  | [] => [(name, wrap64 amount)]
  | (other, weight) :: rest =>
      if other = name then (name, wrap64 (weight + amount)) :: rest
      else (other, weight) :: add name amount rest

/-- Set the entry of a name. -/
def Weights.set (name : String) (weight : Int) : Weights → Weights
  | [] => [(name, weight)]
  | (other, old) :: rest =>
      if other = name then (name, weight) :: rest else (other, old) :: set name weight rest

/-- The entry of a name, zero if missing. -/
def Weights.get (weights : Weights) (name : String) : Int :=
  (weights.lookup name).getD 0

/-- `k8sNodeName`. -/
def k8sNodeName (node : ZFSNode) : String :=
  match node.ownerReferences.find? fun ref => decide (ref.kind = "Node") with
  | some ref => ref.name
  | none => node.name

/-- `poolRoot`: the part of a pool name before the first slash. -/
def poolRoot (poolname : String) : String :=
  String.ofList (poolname.toList.takeWhile fun char => decide (char ≠ '/'))

/-- `parsePoolParams`. A pool name compiles to the anchored and quoted expression
that matches exactly its root. -/
def parsePoolParams (compile : Compile) (poolname poolpattern : String) :
    Except String Pattern :=
  if poolname ≠ "" ∧ poolpattern ≠ "" then
    .error "poolname and poolpattern are mutually exclusive, set only one of them"
  else if poolpattern ≠ "" then
    match compile poolpattern with
    | .error message => .error ("invalid poolpattern " ++ quote poolpattern ++ " : " ++ message)
    | .ok pattern => .ok pattern
  else if poolname ≠ "" then
    .ok fun pool => decide (pool = poolRoot poolname)
  else
    .error "either poolname or poolpattern must be set"

/-- `poolDesc`. -/
def poolDesc (poolname poolpattern : String) : String :=
  if poolpattern ≠ "" then "poolpattern " ++ quote poolpattern else "poolname " ++ quote poolname

/-- `sourcePoolAllowed`. -/
def sourcePoolAllowed (srcPool poolname : String) (pattern : Pattern) : Bool :=
  if poolname ≠ "" then decide (srcPool = poolname) else pattern (poolRoot srcPool)

/-- `reservesSpace`. -/
def reservesSpace (vtype : VolumeType) (thinProvision : String) : Bool :=
  decide (thinProvision = "no") || decide (vtype ≠ .dataset ∧ thinProvision ≠ "yes")

/-- `maxFreePool`: the matching pool with the most free capacity, the first of
equals, and that capacity. -/
def maxFreePool (pools : List Pool) (pattern : Pattern) : String × Int :=
  pools.foldl (fun (selected, maxFree) pool =>
    if pattern pool.name then
      if selected = "" ∨ pool.free > maxFree then (pool.name, pool.free) else (selected, maxFree)
    else
      (selected, maxFree)) ("", 0)

/-- `poolForNode`: the matching pool with the lowest weight and more than
`minFree` bytes free. -/
def poolForNode (pools : List Pool) (pattern : Pattern) (minFree : Int) (pmap : Weights) :
    String :=
  (pools.foldl (fun (selected, selWeight) pool =>
    if ¬ pattern pool.name then
      (selected, selWeight)
    else if minFree > 0 ∧ pool.free ≤ minFree then
      (selected, selWeight)
    else if selected = "" ∨ Weights.get pmap pool.name < selWeight then
      (pool.name, Weights.get pmap pool.name)
    else
      (selected, selWeight)) ("", (0 : Int))).1

/-- `volumeWeightedMap`: the number of volumes in matching pools, by node name. -/
def volumeWeightedMap (zvlist : List ZFSVolume) (nodelist : List ZFSNode) (pattern : Pattern) :
    Weights :=
  let nodename : StringMap := nodelist.foldl
    (fun map node => StringMap.insert node.name (k8sNodeName node) map) []
  zvlist.foldl (fun nmap zv =>
    if pattern (poolRoot zv.spec.poolName) then
      Weights.add ((nodename.lookup zv.spec.ownerNodeID).getD zv.spec.ownerNodeID) 1 nmap
    else
      nmap) []

/-- `capacityWeightedMap`: the used capacity of matching pools, by node name. -/
def capacityWeightedMap (nodelist : List ZFSNode) (pattern : Pattern) : Weights :=
  nodelist.foldl (fun nmap node =>
    node.pools.foldl (fun nmap pool =>
      if pattern pool.name then Weights.add (k8sNodeName node) pool.used nmap else nmap) nmap) []

/-- `spaceWeightedMap`: the inverted free capacity of the roomiest matching pool. -/
def spaceWeightedMap (nodelist : List ZFSNode) (pattern : Pattern) : Weights :=
  nodelist.foldl (fun nmap node =>
    let (pool, free) := maxFreePool node.pools pattern
    if pool = "" then nmap
    else Weights.set (k8sNodeName node) (wrap64 (maxInt64 - free)) nmap) []

/-- `listZFSNodes`. -/
def listZFSNodes : Routine (Except Err (List ZFSNode)) :=
  call .listZFSNodes

/-- `getVolumeWeightedMap`. -/
def getVolumeWeightedMap (pattern : Pattern) : Routine (Except Err Weights) := do
  match ← call .listVolumes with
  | .error err => return .error err
  | .ok zvlist =>
      match ← listZFSNodes with
      | .error err => return .error err
      | .ok nodelist => return .ok (volumeWeightedMap zvlist nodelist pattern)

/-- A node map that only needs the ZFSNodes. -/
def nodeMapOf (weigh : List ZFSNode → Pattern → Weights) (pattern : Pattern) :
    Routine (Except Err Weights) := do
  match ← listZFSNodes with
  | .error err => return .error err
  | .ok nodelist => return .ok (weigh nodelist pattern)

def getCapacityWeightedMap (pattern : Pattern) : Routine (Except Err Weights) :=
  nodeMapOf capacityWeightedMap pattern

def getSpaceWeightedMap (pattern : Pattern) : Routine (Except Err Weights) :=
  nodeMapOf spaceWeightedMap pattern

/-- `getNodeMap`; capacity weighting is the default. -/
def getNodeMap (schd : String) (pattern : Pattern) : Routine (Except Err Weights) :=
  if schd = "VolumeWeighted" then getVolumeWeightedMap pattern
  else if schd = "SpaceWeighted" then getSpaceWeightedMap pattern
  else getCapacityWeightedMap pattern

/-- `suitableNodes`: the names of the nodes with room, and whether any pool
matched. -/
def suitableNodes (nodelist : List ZFSNode) (pattern : Pattern) (size : Int) :
    List String × Bool :=
  nodelist.foldl (fun (suitable, matched) node =>
    let (pool, free) := maxFreePool node.pools pattern
    if pool = "" then (suitable, matched)
    else (if free > size then k8sNodeName node :: suitable else suitable, true)) ([], false)

/-- `getSuitableNodes`. -/
def getSuitableNodes (pattern : Pattern) (size : Int) :
    Routine (Except Err (List String × Bool)) := do
  match ← listZFSNodes with
  | .error err => return .error err
  | .ok nodelist =>
      if nodelist = [] then
        return .error (.text "no ZFSNode found, the node agents have not reported their pools yet")
      else
        return .ok (suitableNodes nodelist pattern size)

/-- `filterKeep`. -/
def filterKeep (nodes keep : List String) : List String :=
  nodes.filter fun node => decide (node ∈ keep)

/-- `poolWeightMap`. -/
def poolWeightMap (schd : String) (pools : List Pool) : Weights :=
  pools.foldl (fun pmap pool =>
    Weights.set pool.name
      (if schd = "SpaceWeighted" then wrap64 (maxInt64 - pool.free) else pool.used) pmap) []

/-- `poolVolumeMap`: the number of a node's volumes, by pool root. -/
def poolVolumeMap (zvlist : List ZFSVolume) (nodeid : String) : Weights :=
  zvlist.foldl (fun pmap zv =>
    if zv.spec.ownerNodeID = nodeid then Weights.add (poolRoot zv.spec.poolName) 1 pmap
    else pmap) []

/-- `getPoolMap`. -/
def getPoolMap (schd nodeid : String) (pools : List Pool) : Routine (Except Err Weights) := do
  if schd = "VolumeWeighted" then
    match ← call .listVolumes with
    | .error err => return .error err
    | .ok zvlist => return .ok (poolVolumeMap zvlist nodeid)
  else
    return .ok (poolWeightMap schd pools)

/-- `resolvePool`: the pool of a node that a pattern stands for. -/
def resolvePool (schd nodeid : String) (pattern : Pattern) (minFree : Int) :
    Routine (Except Err String) := do
  if nodeid = "" then
    return .error (.text "failed to get zfs node: missing zfs node name")
  else
    match ← call (.getZFSNode nodeid) with
    | .error err => return .error err
    | .ok zfsNode =>
        match ← getPoolMap schd nodeid zfsNode.pools with
        | .error err => return .error err
        | .ok pmap => return .ok (poolForNode zfsNode.pools pattern minFree pmap)

end ZfsLocalPv.Driver

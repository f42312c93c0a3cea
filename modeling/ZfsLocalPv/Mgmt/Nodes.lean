import ZfsLocalPv.Api.Errors
import ZfsLocalPv.Api.Types
import ZfsLocalPv.Interaction.Prog

/-!
# The node agent

The controller of `pkg/mgmt/zfsnode`. It lists the pools of its node at an interval and after
every change of its ZFSNode, and writes the ZFSNode when its pools or its owner reference are not
as they should be. Quantities are compared by their value; how they are written does not matter.
-/

namespace ZfsLocalPv.NodeAgent

open Api Interaction

/-- `resource.Format`. -/
inductive Format
  | decimalExponent
  | binarySI
  | decimalSI
  deriving DecidableEq

/-- `resource.Quantity`: a number and how it is written. The comparison reads the number
only, so that quantities which differ in their format are the same to it. -/
structure Quantity where
  value : Rat
  format : Format
  deriving DecidableEq

/-- `apis.Pool`. -/
structure NodePool where
  name : String
  uuid : String
  free : Quantity
  used : Quantity
  deriving DecidableEq

/-- The ZFSNode as its agent handles it. -/
structure NodeObject where
  namespaceName : String := ""
  name : String := ""
  ownerReferences : List OwnerReference := []
  pools : List NodePool := []
  deriving DecidableEq

/-! ## Comparing -/

/-- `Semantic` on two pools. -/
def NodePool.semanticEqual (first second : NodePool) : Bool :=
  decide (first.name = second.name ∧ first.uuid = second.uuid ∧
    first.free.value = second.free.value ∧ first.used.value = second.used.value)

/-- `Semantic.DeepEqual` on lists of pools. -/
def deepEqual : List NodePool → List NodePool → Bool
  | [], [] => true
  | first :: firsts, second :: seconds => first.semanticEqual second && deepEqual firsts seconds
  | _, _ => false

/-- `isOwnerRefsUpdateRequired`: the references that are needed, and whether they differ. -/
def isOwnerRefsUpdateRequired (reqOwnerRef : OwnerReference) :
    List OwnerReference → List OwnerReference × Bool
  | [] => ([reqOwnerRef], true)
  | ref :: ownerRefs =>
      if ref.uid ≠ reqOwnerRef.uid then
        let (rest, updated) := isOwnerRefsUpdateRequired reqOwnerRef ownerRefs
        (ref :: rest, updated)
      else if ref.controller ≠ reqOwnerRef.controller then
        ({ ref with controller := reqOwnerRef.controller } :: ownerRefs, true)
      else
        (ref :: ownerRefs, false)

/-! ## Calls -/

inductive Op
  /-- The lister of the informer. -/
  | cachedNode (namespaceName name : String)
  | listZFSPool
  | createNode (node : NodeObject)
  | updateNode (node : NodeObject)

@[reducible]
def Op.Res : Op → Type
  | cachedNode _ _ => Except Err NodeObject
  | listZFSPool => Except Err (List NodePool)
  | createNode _ | updateNode _ => Except Err Unit

@[reducible]
def signature : Signature where
  Op := Op
  Res := Op.Res

abbrev Routine := Prog signature

@[reducible]
def call (op : Op) : Routine op.Res :=
  Prog.lift (S := signature) op

/-! ## The sync -/

/-- `nodebuilder`: a node with its pools and its owner. -/
def buildNode (ownerRef : OwnerReference) (namespaceName name : String) (pools : List NodePool) :
    Except Err NodeObject :=
  let errs :=
    (if namespaceName = "" then ["failed to build zfs node object: missing namespace"] else []) ++
      if name = "" then ["failed to build zfs node object: missing name"] else []
  if errs = [] then
    .ok { namespaceName := namespaceName, name := name, ownerReferences := [ownerRef]
          pools := pools }
  else
    .error (.text (Go.formatList errs))

/-- `syncNode` without a ZFSNode. -/
def createMissingNode (ownerRef : OwnerReference) (namespaceName name : String)
    (pools : List NodePool) : Routine (Except Err Unit) := do
  match buildNode ownerRef namespaceName name pools with
  | .error err => return .error err
  | .ok node =>
      match ← call (.createNode node) with
      | .error err =>
          return .error (err.wrap ("create zfs node " ++ namespaceName ++ "/" ++ name))
      | .ok () => return .ok ()

/-- The ZFSNode as it is needed. -/
def requiredNode (ownerRef : OwnerReference) (pools : List NodePool) (node : NodeObject) :
    NodeObject :=
  let ownerRefs := isOwnerRefsUpdateRequired ownerRef node.ownerReferences
  { node with
    ownerReferences := if ownerRefs.2 then ownerRefs.1 else node.ownerReferences
    pools := if deepEqual node.pools pools then node.pools else pools }

/-- `syncNode` with a ZFSNode. -/
def updateExistingNode (ownerRef : OwnerReference) (namespaceName name : String)
    (pools : List NodePool) (node : NodeObject) : Routine (Except Err Unit) := do
  if (isOwnerRefsUpdateRequired ownerRef node.ownerReferences).2 || !deepEqual node.pools pools then
    match ← call (.updateNode (requiredNode ownerRef pools node)) with
    | .error err => return .error (err.wrap ("update zfs node " ++ namespaceName ++ "/" ++ name))
    | .ok () => return .ok ()
  else
    return .ok ()

/-- `syncNode`. -/
def syncNode (ownerRef : OwnerReference) (namespaceName name : String) :
    Routine (Except Err Unit) := do
  match ← call (.cachedNode namespaceName name) with
  | .error err =>
      if err.isNotFound = true then
        match ← call .listZFSPool with
        | .error err => return .error err
        | .ok pools => createMissingNode ownerRef namespaceName name pools
      else
        return .error err
  | .ok node =>
      match ← call .listZFSPool with
      | .error err => return .error err
      | .ok pools => updateExistingNode ownerRef namespaceName name pools node

/-! ## Runs -/

/-- What the agent sees of its ZFSNode, and what it has written. -/
structure NodeState where
  cached : Option NodeObject
  written : List NodeObject := []

/-- A call of a sync while the node has the given pools. The choice is the error of a call
that fails; a write that fails may have been made. -/
def exec (pools : List NodePool) : (op : Op) → Option (Err × Bool) → NodeState →
    Option (op.Res × NodeState)
  | .cachedNode _ _, some (err, _), state =>
      if err.isNotFound = true then none else some (.error err, state)
  | .cachedNode _ _, none, state =>
      match state.cached with
      | none => some (.error (.api .notFound), state)
      | some node => some (.ok node, state)
  | .listZFSPool, some (err, _), state => some (.error err, state)
  | .listZFSPool, none, state => some (.ok pools, state)
  | .createNode node, some (err, made), state | .updateNode node, some (err, made), state =>
      some (.error err,
        if made then { state with written := state.written ++ [node] } else state)
  | .createNode node, none, state | .updateNode node, none, state =>
      some (.ok (), { state with written := state.written ++ [node] })

end ZfsLocalPv.NodeAgent

import ZfsLocalPv.Interaction.Triple
import ZfsLocalPv.Mgmt.Nodes

/-!
# Node reports settle

Every write of a ZFSNode is an event that starts another sync of it. The reports come to rest
because what a sync writes needs no further write: the owner is found in the merged references
with its `Controller` value, and the comparison of pools accepts the listed ones however the API
server writes their quantities. While a node lists the same pools its ZFSNode is written once at
most.
-/

namespace ZfsLocalPv.NodeAgent

open Api Interaction Prog

/-! ## Pools -/

section Pools

variable {first second third : List NodePool}

theorem NodePool.semanticEqual_iff {pool other : NodePool} :
    pool.semanticEqual other = true ↔ pool.name = other.name ∧ pool.uuid = other.uuid ∧
      pool.free.value = other.free.value ∧ pool.used.value = other.used.value := by
  simp only [NodePool.semanticEqual, decide_eq_true_eq]

theorem deepEqual_refl (pools : List NodePool) : deepEqual pools pools = true := by
  induction pools with
  | nil => rfl
  | cons pool pools ih => simp [deepEqual, NodePool.semanticEqual_iff, ih]

theorem deepEqual_trans (left : deepEqual first second = true)
    (right : deepEqual second third = true) : deepEqual first third = true := by
  induction first generalizing second third with
  | nil =>
      cases second with
      | nil => exact right
      | cons => cases left
  | cons pool pools ih =>
      cases second with
      | nil => cases left
      | cons other others =>
          cases third with
          | nil => cases right
          | cons =>
              simp only [deepEqual, Bool.and_eq_true, NodePool.semanticEqual_iff] at left right ⊢
              obtain ⟨⟨name, uuid, free, used⟩, rest⟩ := left
              rw [name, uuid, free, used]
              exact ⟨right.1, ih rest right.2⟩

end Pools

/-! ## Owner references -/

section Owners

variable (ownerRef : OwnerReference) (refs : List OwnerReference)

/-- References to others are left as they are. -/
theorem filter_ownerRefs :
    (isOwnerRefsUpdateRequired ownerRef refs).1.filter (fun ref => ref.uid ≠ ownerRef.uid) =
      refs.filter (fun ref => ref.uid ≠ ownerRef.uid) := by
  induction refs with
  | nil => simp [isOwnerRefsUpdateRequired]
  | cons ref refs ih =>
      unfold isOwnerRefsUpdateRequired
      by_cases foreign : ref.uid = ownerRef.uid
      · by_cases controls : ref.controller = ownerRef.controller <;> simp [foreign, controls]
      · simpa [foreign] using ih

/-- The owner is among the references that are needed. -/
theorem exists_ownerRef :
    ∃ ref ∈ (isOwnerRefsUpdateRequired ownerRef refs).1,
      ref.uid = ownerRef.uid ∧ ref.controller = ownerRef.controller := by
  induction refs with
  | nil => exact ⟨ownerRef, List.mem_singleton_self _, rfl, rfl⟩
  | cons ref refs ih =>
      unfold isOwnerRefsUpdateRequired
      by_cases foreign : ref.uid = ownerRef.uid
      · by_cases controls : ref.controller = ownerRef.controller <;> simp [foreign, controls]
      · obtain ⟨owner, mem, same⟩ := ih
        exact ⟨owner, by simp [foreign, mem], same⟩

/-- References that need no update are those that are needed. -/
theorem ownerRefs_eq_of_not_updated
    (current : (isOwnerRefsUpdateRequired ownerRef refs).2 = false) :
    (isOwnerRefsUpdateRequired ownerRef refs).1 = refs := by
  induction refs with
  | nil => cases current
  | cons ref refs ih =>
      unfold isOwnerRefsUpdateRequired at current ⊢
      by_cases foreign : ref.uid = ownerRef.uid
      · by_cases controls : ref.controller = ownerRef.controller
        · simp [foreign, controls]
        · simp [foreign, controls] at current
      · simp only [ne_eq, foreign, not_false_eq_true, ↓reduceIte] at current ⊢
        rw [ih current]

/-- The references that are needed need no update. -/
theorem ownerRefs_settled :
    (isOwnerRefsUpdateRequired ownerRef (isOwnerRefsUpdateRequired ownerRef refs).1).2 = false := by
  induction refs with
  | nil => simp [isOwnerRefsUpdateRequired]
  | cons ref refs ih =>
      rw [isOwnerRefsUpdateRequired.eq_def ownerRef (ref :: refs)]
      by_cases foreign : ref.uid = ownerRef.uid
      · by_cases controls : ref.controller = ownerRef.controller <;>
          simp [isOwnerRefsUpdateRequired, foreign, controls]
      · simpa [isOwnerRefsUpdateRequired, foreign] using ih

end Owners

/-! ## Settled nodes -/

section Settled

variable {ownerRef : OwnerReference} {namespaceName name : String} {pools : List NodePool}
  {node other : NodeObject} {state : NodeState}

/-- The ZFSNode has the owner and the listed pools. -/
structure Settled (ownerRef : OwnerReference) (pools : List NodePool) (node : NodeObject) :
    Prop where
  owned : (isOwnerRefsUpdateRequired ownerRef node.ownerReferences).2 = false
  listed : deepEqual node.pools pools = true

/-- The API server returns the references as they were written, and the pools with the
same quantities, which it may write in another way. -/
structure Returned (node returned : NodeObject) : Prop where
  ownerReferences : returned.ownerReferences = node.ownerReferences
  pools : deepEqual returned.pools node.pools = true

theorem Settled.of_returned (settled : Settled ownerRef pools node)
    (same : Returned node other) : Settled ownerRef pools other where
  owned := by
    rw [same.ownerReferences]
    exact settled.owned
  listed := deepEqual_trans same.pools settled.listed

theorem requiredNode_ownerReferences (node : NodeObject) :
    (requiredNode ownerRef pools node).ownerReferences =
      (isOwnerRefsUpdateRequired ownerRef node.ownerReferences).1 := by
  unfold requiredNode
  cases current : (isOwnerRefsUpdateRequired ownerRef node.ownerReferences).2 with
  | true => simp [current]
  | false => simp [current, ownerRefs_eq_of_not_updated ownerRef _ current]

theorem deepEqual_requiredNode (node : NodeObject) :
    deepEqual (requiredNode ownerRef pools node).pools pools = true := by
  simp only [requiredNode]
  split
  · assumption
  · exact deepEqual_refl pools

theorem settled_requiredNode (node : NodeObject) :
    Settled ownerRef pools (requiredNode ownerRef pools node) where
  owned := by
    rw [requiredNode_ownerReferences]
    exact ownerRefs_settled ownerRef _
  listed := deepEqual_requiredNode node

/-- A settled node is what is needed. -/
theorem Settled.requiredNode_eq (settled : Settled ownerRef pools node) :
    requiredNode ownerRef pools node = node := by
  simp [requiredNode, settled.owned, settled.listed]

/-- A ZFSNode that is not there is created as if it were there without anything. -/
theorem buildNode_eq_ok (built : buildNode ownerRef namespaceName name pools = .ok node) :
    node = requiredNode ownerRef pools { namespaceName := namespaceName, name := name } := by
  unfold buildNode at built
  by_cases unnamed : namespaceName = "" ∨ name = ""
  · rcases unnamed with missing | missing <;> simp [missing] at built
  · rw [not_or] at unnamed
    simp only [unnamed.1, unnamed.2, if_false, List.append_nil, if_true, Except.ok.injEq] at built
    subst built
    cases pools <;> rfl

end Settled

/-! ## Syncs -/

section Syncs

variable {ownerRef : OwnerReference} {namespaceName name : String} {pools : List NodePool}
  {node : NodeObject} {before : NodeState}

/-- What a sync wants the ZFSNode to be. -/
def wanted (ownerRef : OwnerReference) (namespaceName name : String) (pools : List NodePool)
    (cached : Option NodeObject) : NodeObject :=
  requiredNode ownerRef pools (cached.getD { namespaceName := namespaceName, name := name })

/-- What a sync can do: nothing, or the one write that is wanted. -/
inductive Synced (ownerRef : OwnerReference) (namespaceName name : String)
    (pools : List NodePool) (before : NodeState) : Except Err Unit → NodeState → Prop
  | failed (err : Err) : Synced ownerRef namespaceName name pools before (.error err) before
  | current (node : NodeObject) (cached : before.cached = some node)
      (settled : Settled ownerRef pools node) :
      Synced ownerRef namespaceName name pools before (.ok ()) before
  | wrote (result : Except Err Unit)
      (wanting : ∀ node, before.cached = some node → ¬ Settled ownerRef pools node) :
      Synced ownerRef namespaceName name pools before result
        { before with
          written := before.written ++ [wanted ownerRef namespaceName name pools before.cached] }

/-- A write is made, or it fails and is not. -/
theorem exec_updateNode {choice : Option (Err × Bool)} {answer : Except Err Unit}
    {after : NodeState}
    (executed : exec pools (.updateNode node) choice before = some (answer, after)) :
    after = { before with written := before.written ++ [node] } ∨
      ∃ err, answer = .error err ∧ after = before := by
  match choice with
  | none | some (_, true) =>
      cases executed
      exact .inl rfl
  | some (err, false) =>
      cases executed
      exact .inr ⟨err, rfl, rfl⟩

theorem exec_createNode {choice : Option (Err × Bool)} {answer : Except Err Unit}
    {after : NodeState}
    (executed : exec pools (.createNode node) choice before = some (answer, after)) :
    after = { before with written := before.written ++ [node] } ∨
      ∃ err, answer = .error err ∧ after = before := by
  apply @exec_updateNode pools node before choice
  rw [← executed]
  rcases choice with _ | ⟨err, made⟩ <;> rfl

theorem ensures_createMissingNode (missing : before.cached = none) :
    Ensures (exec pools) (createMissingNode ownerRef namespaceName name pools) before
      (Synced ownerRef namespaceName name pools before) := by
  have wanting (node : NodeObject) (cached : before.cached = some node) :
      ¬ Settled ownerRef pools node := by
    rw [missing] at cached
    cases cached
  unfold createMissingNode
  split
  · exact ensures_ret (.failed _)
  · rename_i node built
    have same : node = wanted ownerRef namespaceName name pools before.cached := by
      rw [missing]
      exact buildNode_eq_ok built
    subst same
    apply ensures_lift_bind
    intro choice answer after executed
    rcases exec_createNode executed with rfl | ⟨err, rfl, rfl⟩
    · cases answer <;> exact ensures_ret (.wrote _ wanting)
    · exact ensures_ret (.failed _)

theorem ensures_updateExistingNode (cached : before.cached = some node) :
    Ensures (exec pools) (updateExistingNode ownerRef namespaceName name pools node) before
      (Synced ownerRef namespaceName name pools before) := by
  unfold updateExistingNode
  split
  · rename_i required
    have wanting (other : NodeObject) (read : before.cached = some other) :
        ¬ Settled ownerRef pools other := by
      rw [cached] at read
      cases read
      intro settled
      simp [settled.owned, settled.listed] at required
    have same : requiredNode ownerRef pools node =
        wanted ownerRef namespaceName name pools before.cached := by
      rw [cached]
      rfl
    rw [same]
    apply ensures_lift_bind
    intro choice answer after executed
    rcases exec_updateNode executed with rfl | ⟨err, rfl, rfl⟩
    · cases answer <;> exact ensures_ret (.wrote _ wanting)
    · exact ensures_ret (.failed _)
  · rename_i settled
    simp only [Bool.or_eq_true, not_or, Bool.not_eq_true, Bool.not_eq_false'] at settled
    exact ensures_ret (.current node cached ⟨settled.1, settled.2⟩)

theorem exec_listZFSPool {choice : Option (Err × Bool)} {answer : Except Err (List NodePool)}
    {after : NodeState} (executed : exec pools .listZFSPool choice before = some (answer, after)) :
    after = before ∧ ∀ listed, answer = .ok listed → listed = pools := by
  cases choice with
  | none =>
      cases executed
      exact ⟨rfl, fun _ same => (Except.ok.inj same).symm⟩
  | some failure =>
      cases executed
      exact ⟨rfl, nofun⟩

/-- The cache holds the node, or it is read without one, or it is not read. -/
theorem exec_cachedNode {choice : Option (Err × Bool)} {answer : Except Err NodeObject}
    {after : NodeState}
    (executed : exec pools (.cachedNode namespaceName name) choice before =
      some (answer, after)) :
    after = before ∧
      ((∃ node, answer = .ok node ∧ before.cached = some node) ∨
        ∃ err, answer = .error err ∧ (err.isNotFound = true → before.cached = none)) := by
  match choice with
  | none =>
      simp only [exec] at executed
      split at executed
      · rename_i missing
        cases executed
        exact ⟨rfl, .inr ⟨_, rfl, fun _ => missing⟩⟩
      · rename_i node cached
        cases executed
        exact ⟨rfl, .inl ⟨node, rfl, cached⟩⟩
  | some (err, made) =>
      simp only [exec, Option.ite_none_left_eq_some] at executed
      obtain ⟨found, same⟩ := executed
      cases same
      exact ⟨rfl, .inr ⟨err, rfl, fun missing => absurd missing found⟩⟩

theorem ensures_syncNode :
    Ensures (exec pools) (syncNode ownerRef namespaceName name) before
      (Synced ownerRef namespaceName name pools before) := by
  unfold syncNode
  apply ensures_lift_bind
  intro choice answer after executed
  obtain ⟨rfl, ⟨node, rfl, cached⟩ | ⟨err, rfl, missing⟩⟩ := exec_cachedNode executed
  · apply ensures_lift_bind
    intro choice answer middle executed
    obtain ⟨rfl, listed⟩ := exec_listZFSPool executed
    cases answer with
    | error err => exact ensures_ret (.failed err)
    | ok found =>
        cases listed found rfl
        exact ensures_updateExistingNode cached
  · by_cases notFound : err.isNotFound = true
    · simp only [notFound, if_true]
      apply ensures_lift_bind
      intro choice answer middle executed
      obtain ⟨rfl, listed⟩ := exec_listZFSPool executed
      cases answer with
      | error err => exact ensures_ret (.failed err)
      | ok found =>
          cases listed found rfl
          exact ensures_createMissingNode (missing notFound)
    · simp only [notFound]
      exact ensures_ret (.failed err)

/-- A sync of a settled node writes nothing. -/
theorem Synced.unchanged {result : Except Err Unit} {after : NodeState}
    (synced : Synced ownerRef namespaceName name pools before result after)
    (cached : before.cached = some node) (settled : Settled ownerRef pools node) :
    after = before := by
  cases synced with
  | failed err => rfl
  | current other _ _ => rfl
  | wrote result wanting => exact absurd settled (wanting node cached)

/-- What is in force after a sync that succeeds is what it wants. -/
theorem Synced.inForce {after : NodeState} {cache : Option NodeObject}
    (synced : Synced ownerRef namespaceName name pools { cached := cache } (.ok ()) after) :
    after.written.getLast?.or cache = some (wanted ownerRef namespaceName name pools cache) := by
  cases synced with
  | current node cached settled =>
      subst cached
      exact congrArg some settled.requiredNode_eq.symm
  | wrote result wanting => rfl

/-! ## Runs of syncs -/

/-- Syncs one after another, each with a cache that holds what the ones before left. -/
inductive Reports (ownerRef : OwnerReference) (namespaceName name : String)
    (pools : List NodePool) (start : NodeState) : NodeState → Prop
  | refl : Reports ownerRef namespaceName name pools start start
  | sync {state after : NodeState} {result : Except Err Unit} {cached : Option NodeObject}
      (run : Reports ownerRef namespaceName name pools start state)
      (returned : Returns (exec pools) (syncNode ownerRef namespaceName name) state result after)
      (read : Option.Rel Returned (after.written.getLast?.or after.cached) cached) :
      Reports ownerRef namespaceName name pools start { after with cached := cached }

theorem exists_settled_of_returned {cached : Option NodeObject}
    (settled : Settled ownerRef pools node) (read : Option.Rel Returned (some node) cached) :
    ∃ other, cached = some other ∧ Settled ownerRef pools other := by
  cases read with
  | some same => exact ⟨_, rfl, settled.of_returned same⟩

/-- Whatever the ZFSNode is at first and whichever calls fail, it is written once at most
while the same pools are listed. -/
theorem Reports.written_once {cache : Option NodeObject} {final : NodeState}
    (run : Reports ownerRef namespaceName name pools { cached := cache } final) :
    final.written = [] ∨ ∃ node cached, final.written = [node] ∧ final.cached = some cached ∧
      Settled ownerRef pools node ∧ Settled ownerRef pools cached := by
  induction run with
  | refl => exact .inl rfl
  | @sync state after result cached run returned read ih =>
      have synced := ensures_syncNode.of_returns returned
      rcases ih with unwritten | ⟨node, current, written, held, settled, currentSettled⟩
      · cases synced with
        | failed err => exact .inl unwritten
        | current node _ _ => exact .inl unwritten
        | wrote _ wanting =>
            -- also a write whose answer is lost is what the next sync reads
            have settled : Settled ownerRef pools
                (wanted ownerRef namespaceName name pools state.cached) :=
              settled_requiredNode _
            simp only [unwritten, List.nil_append] at read ⊢
            obtain ⟨other, rfl, otherSettled⟩ := exists_settled_of_returned settled read
            exact .inr ⟨_, other, rfl, rfl, settled, otherSettled⟩
      · rw [synced.unchanged held currentSettled, written] at read
        obtain ⟨other, rfl, otherSettled⟩ := exists_settled_of_returned settled read
        rw [synced.unchanged held currentSettled]
        exact .inr ⟨node, other, written, rfl, settled, otherSettled⟩

end Syncs

/-- A successful sync leaves a ZFSNode with the listed pools, the references to others as they
were and one to the owner, and the next sync that lists the same pools writes nothing. -/
theorem node_reports_settle (ownerRef : OwnerReference) (namespaceName name : String)
    (pools : List NodePool) (cache : Option NodeObject) (after : NodeState)
    (succeeded : Returns (exec pools) (syncNode ownerRef namespaceName name)
      { cached := cache } (.ok ()) after) :
    ∃ stored, after.written.getLast?.or cache = some stored ∧
      deepEqual stored.pools pools = true ∧
      stored.ownerReferences.filter (fun ref => ref.uid ≠ ownerRef.uid) =
        ((cache.map NodeObject.ownerReferences).getD []).filter
          (fun ref => ref.uid ≠ ownerRef.uid) ∧
      (∃ ref ∈ stored.ownerReferences,
        ref.uid = ownerRef.uid ∧ ref.controller = ownerRef.controller) ∧
      ∀ cached, Returned stored cached → ∀ result final,
        Returns (exec pools) (syncNode ownerRef namespaceName name)
          { cached := some cached } result final → final.written = [] := by
  have synced := ensures_syncNode.of_returns succeeded
  have settled : Settled ownerRef pools (wanted ownerRef namespaceName name pools cache) :=
    settled_requiredNode _
  refine ⟨_, synced.inForce, settled.listed, ?_, ?_, ?_⟩
  · rw [wanted, requiredNode_ownerReferences, filter_ownerRefs]
    cases cache <;> rfl
  · rw [wanted, requiredNode_ownerReferences]
    exact exists_ownerRef ownerRef _
  · intro cached read result final returned
    have again := ensures_syncNode.of_returns returned
    rw [again.unchanged rfl (settled.of_returned read)]

/-- The reference to the owner is there twice and not its controller. -/
theorem node_reports_settle_duplicate :
    let ownerRef : OwnerReference :=
      { apiVersion := "v1", kind := "Node", name := "n", uid := "1", controller := some true }
    let other : OwnerReference := { kind := "Pod", name := "p", uid := "2" }
    let stale : OwnerReference := { ownerRef with controller := none }
    let pools : List NodePool := [⟨"zfspv", "17", ⟨1024, .binarySI⟩, ⟨0, .binarySI⟩⟩]
    let node : NodeObject :=
      { namespaceName := "openebs", name := "n", ownerReferences := [other, stale, stale] }
    ∃ after, Returns (exec pools) (syncNode ownerRef "openebs" "n") { cached := some node }
        (.ok ()) after ∧
      ∃ stored, after.written.getLast?.or (some node) = some stored ∧
        deepEqual stored.pools pools = true := by
  intro ownerRef other stale pools node
  have returned : Returns (exec pools) (syncNode ownerRef "openebs" "n") { cached := some node }
      (.ok ()) { cached := some node, written := [requiredNode ownerRef pools node] } :=
    ⟨[none, none, none], rfl⟩
  obtain ⟨stored, inForce, listed, _⟩ := node_reports_settle _ _ _ _ _ _ returned
  exact ⟨_, returned, stored, inForce, listed⟩

end ZfsLocalPv.NodeAgent

import ZfsLocalPv.Cluster.CreateCalls
import ZfsLocalPv.Interaction.Triple
import ZfsLocalPv.Properties.Refusals
import ZfsLocalPv.Properties.Rounding

/-!
# Where a new volume is placed

A plain `CreateVolume` tries one node after the other with one volume object and stops at the
first node whose agent reports the volume ready. The nodes and pools it chooses from are read
from the API server, so what it places is decided by what it is told; what is stored in the end
is what was written for the last node tried.
-/

namespace ZfsLocalPv.Properties

open Api ApiServer Cluster Driver Go Interaction Zfs

variable {compile : Compile} {thread : Tid} {name : String} {scheduled : List String}
  {shared final : Shared} {params : VolumeParams} {pattern : Pattern} {polls : Nat}
  {nodes : List Node} {zfsNodes : List ZFSNode} {req : CreateVolumeRequest}

/-! ## What a request is told -/

/-- The answers to the calls that choose nodes and pools, for given nodes. -/
def Told (nodes : List Node) (zfsNodes : List ZFSNode) (scheduled : List String) :
    (op : Op) → op.Res → Prop
  | .getNode name, answer => ∀ node, answer = .ok node →
      nodes.find? (fun node => decide (node.name = name)) = some node
  | .getZFSNode name, answer => ∀ node, answer = .ok node →
      zfsNodes.find? (fun node => decide (node.name = name)) = some node
  | .listZFSNodes, answer => ∀ list, answer = .ok list → list = zfsNodes
  | .scheduler _, answer => answer = scheduled
  | _, _ => True

/-- The nodes are as they were. -/
structure SameNodes (nodes : List Node) (zfsNodes : List ZFSNode) (shared : Shared) : Prop where
  nodes : shared.nodes = nodes
  zfsNodes : shared.zfsNodes = zfsNodes

/-- The nodes stay as they are and the answers are about them. -/
theorem SameNodes.told (same : SameNodes nodes zfsNodes shared) {op : Op} {turn : Turn}
    {answer : op.Res} {after : Shared}
    (executed : execAmong name scheduled thread op turn shared = some (answer, after)) :
    Told nodes zfsNodes scheduled op answer ∧ SameNodes nodes zfsNodes after := by
  have reported : SameNodes nodes zfsNodes (shared.report name turn.report) :=
    ⟨nodes_report.trans same.nodes, zfsNodes_report.trans same.zfsNodes⟩
  have kept := (exec_effect executed).nodes
  refine ⟨?_, kept.1.trans reported.nodes, kept.2.trans reported.zfsNodes⟩
  unfold execAmong at executed
  cases op with
  | getNode asked =>
      intro node isOk
      cases executed
      rw [← reported.nodes]
      exact readAnswer_ok isOk
  | getZFSNode asked =>
      intro node isOk
      cases executed
      rw [← reported.zfsNodes]
      exact readAnswer_ok isOk
  | listZFSNodes =>
      intro list isOk
      cases executed
      rw [← reported.zfsNodes]
      exact (Option.some.inj (readAnswer_ok isOk)).symm
  | scheduler nmap =>
      cases executed
      rfl
  | _ => trivial

/-! ## What it chooses -/

/-- The id of a Kubernetes node: its topology label, or its name. -/
def HasNodeID (nodes : List Node) (name nodeid : String) : Prop :=
  ∃ node, nodes.find? (fun node => decide (node.name = name)) = some node ∧
    nodeid = (node.labels.lookup ZFSTopologyKey).getD name

theorem yields_getNodeID (node : String) :
    (getNodeID node).YieldsFrom (Told nodes zfsNodes scheduled) fun answer =>
      ∀ nodeid, answer = .ok nodeid → HasNodeID nodes node nodeid := by
  intro answer told
  cases answer with
  | error err =>
      intro nodeid isOk
      contradiction
  | ok found =>
      rintro nodeid ⟨⟩
      exact ⟨found, told found rfl, rfl⟩

/-- A pool that the pattern stands for on the ZFSNode of an id. -/
def Picked (zfsNodes : List ZFSNode) (pattern : Pattern) (minFree : Int) (nodeid pool : String) :
    Prop :=
  ∃ zfsNode, zfsNodes.find? (fun node => decide (node.name = nodeid)) = some zfsNode ∧
    ∃ pmap, pool = poolForNode zfsNode.pools pattern minFree pmap

theorem yields_resolvePool (schd nodeid : String) (minFree : Int) :
    (resolvePool schd nodeid pattern minFree).YieldsFrom (Told nodes zfsNodes scheduled)
      fun answer => ∀ pool, answer = .ok pool → Picked zfsNodes pattern minFree nodeid pool := by
  unfold resolvePool
  split
  · intro pool isOk
    contradiction
  · intro answer told
    cases answer with
    | error err =>
        intro pool isOk
        contradiction
    | ok zfsNode =>
        apply (Prog.yieldsFrom_true _ (getPoolMap schd nodeid zfsNode.pools)).bind
        intro answer _
        cases answer with
        | error err =>
            intro pool isOk
            contradiction
        | ok pmap =>
            rintro pool ⟨⟩
            exact ⟨zfsNode, told zfsNode rfl, pmap, rfl⟩

/-- The pool of a volume on the node of an id: the one named, or one picked. -/
structure PoolOn (zfsNodes : List ZFSNode) (params : VolumeParams) (pattern : Pattern)
    (minFree : Int) (nodeid pool : String) : Prop where
  named : params.poolpattern = "" → pool = params.pool
  picked : params.poolpattern ≠ "" → pool ≠ "" ∧ Picked zfsNodes pattern minFree nodeid pool

theorem yields_volPool (minFree : Int) (node nodeid : String) :
    (volPool params pattern minFree node nodeid).YieldsFrom (Told nodes zfsNodes scheduled)
      fun answer => ∀ pool, answer = .ok pool →
        PoolOn zfsNodes params pattern minFree nodeid pool := by
  unfold volPool
  split
  · rename_i given
    apply (yields_resolvePool params.schld nodeid minFree).bind
    intro answer picked
    cases answer with
    | error err =>
        intro pool isOk
        contradiction
    | ok pool =>
        dsimp only
        split
        · intro pool isOk
          contradiction
        · rename_i found
          rintro _ ⟨⟩
          exact ⟨fun unset => absurd unset given, fun _ => ⟨found, picked pool rfl⟩⟩
  · rename_i unset
    rintro _ ⟨⟩
    exact ⟨fun _ => rfl, fun given => absurd given unset⟩

/-- The object was placed on one of the nodes. -/
def PlacedOn (nodes : List Node) (zfsNodes : List ZFSNode) (params : VolumeParams)
    (pattern : Pattern) (minFree : Int) (volObj : ZFSVolume) (tried : List String)
    (vol : ZFSVolume) : Prop :=
  ∃ node ∈ tried, ∃ nodeid pool, HasNodeID nodes node nodeid ∧
    PoolOn zfsNodes params pattern minFree nodeid pool ∧ placedVolume volObj nodeid pool = .ok vol

/-- Each attempt starts from the same object, so the one that succeeds has decided. -/
theorem yields_tryNodes_placed (minFree : Int) (volObj : ZFSVolume) (tried : List String)
    (err : Option Err) :
    (tryNodes polls params pattern minFree volObj tried err).YieldsFrom
      (Told nodes zfsNodes scheduled) fun answer => ∀ vol, answer = .ok vol →
        PlacedOn nodes zfsNodes params pattern minFree volObj tried vol := by
  induction tried generalizing err with
  | nil =>
      intro vol isOk
      contradiction
  | cons node tried ih =>
      have next (err : Option Err) :
          (tryNodes polls params pattern minFree volObj tried err).YieldsFrom
            (Told nodes zfsNodes scheduled) fun answer => ∀ vol, answer = .ok vol →
              PlacedOn nodes zfsNodes params pattern minFree volObj (node :: tried) vol := by
        apply (ih err).mono
        rintro answer placed vol isOk
        obtain ⟨other, mem, rest⟩ := placed vol isOk
        exact ⟨other, .tail _ mem, rest⟩
      apply (yields_getNodeID node).bind
      intro answer isId
      cases answer with
      | error err => exact next _
      | ok nodeid =>
          apply (yields_volPool minFree node nodeid).bind
          intro answer isPool
          cases answer with
          | error err => exact next _
          | ok pool =>
              dsimp only
              split
              · exact next _
              · rename_i vol placed
                apply (Prog.yieldsFrom_true _ (provisionVolume polls vol)).bind
                rintro ⟨timeout, provisioned⟩ _
                cases provisioned with
                | ok done =>
                    rintro _ ⟨⟩
                    exact ⟨node, .head _, nodeid, pool, isId nodeid rfl, isPool pool rfl, placed⟩
                | error err =>
                    cases timeout with
                    | true =>
                        intro _ isOk
                        cases isOk
                    | false => exact next _

theorem yields_preferredNodes (nmap : Weights) :
    (preferredNodes params nmap).YieldsFrom (Told nodes zfsNodes scheduled)
      (· = givenNodes params scheduled) := by
  unfold preferredNodes givenNodes
  cases params.node with
  | some node => rfl
  | none => exact fun answer told => told

/-- The nodes that pass the fit check are given, and have room if the volume reserves. -/
def Passed (zfsNodes : List ZFSNode) (params : VolumeParams) (pattern : Pattern)
    (prfList tried : List String) : Prop :=
  ∀ node ∈ tried, node ∈ prfList ∧ (reservesSpace params.vtype params.thinProvision = true →
    node ∈ (suitableNodes zfsNodes pattern params.size).1)

theorem yields_getSuitableNodes (size : Int) :
    (getSuitableNodes pattern size).YieldsFrom (Told nodes zfsNodes scheduled) fun answer =>
      ∀ suitable, answer = .ok suitable → suitable = suitableNodes zfsNodes pattern size := by
  have listed : listZFSNodes.YieldsFrom (Told nodes zfsNodes scheduled) fun answer =>
      ∀ list, answer = .ok list → list = zfsNodes := fun answer told => told
  apply listed.bind
  intro answer told
  cases answer with
  | error err =>
      intro suitable isOk
      contradiction
  | ok list =>
      obtain rfl := told list rfl
      dsimp only
      split
      · intro suitable isOk
        contradiction
      · rintro suitable ⟨⟩
        rfl

theorem yields_fittingNodes_passed (prfList : List String) :
    (fittingNodes params pattern prfList).YieldsFrom (Told nodes zfsNodes scheduled) fun answer =>
      ∀ tried, answer = .ok tried → Passed zfsNodes params pattern prfList tried := by
  unfold fittingNodes
  dsimp only
  split
  · apply (yields_getSuitableNodes params.size).bind
    intro answer suitable
    cases answer with
    | error err =>
        intro tried isOk
        contradiction
    | ok answer =>
        cases suitable answer rfl
        dsimp only
        split
        · intro tried isOk
          contradiction
        · split
          · split
            · intro tried isOk
              contradiction
            · rintro tried ⟨⟩ node mem
              obtain ⟨isGiven, fits⟩ := List.mem_filter.mp mem
              exact ⟨isGiven, fun _ => of_decide_eq_true fits⟩
          · rename_i thin
            rintro tried ⟨⟩ node mem
            exact ⟨mem, fun reserves => absurd reserves thin⟩
  · rename_i unchecked
    rintro tried ⟨⟩ node mem
    exact ⟨mem, fun reserves => absurd (.inr reserves) unchecked⟩

/-- What the request has decided when it succeeds. -/
def Chosen (compile : Compile) (req : CreateVolumeRequest) (params : VolumeParams)
    (nodes : List Node) (zfsNodes : List ZFSNode) (prfList : List String) (vol : ZFSVolume) :
    Prop :=
  ∃ pattern volObj tried, parsePoolParams compile params.pool params.poolpattern = .ok pattern ∧
    volumeObject req params = .ok volObj ∧ Passed zfsNodes params pattern prfList tried ∧
    PlacedOn nodes zfsNodes params pattern
      (if reservesSpace params.vtype params.thinProvision then params.size else 0) volObj tried vol

theorem yields_createMissingVolume :
    (createMissingVolume compile polls req params).YieldsFrom (Told nodes zfsNodes scheduled)
      fun answer => ∀ vol, answer = .ok vol →
        Chosen compile req params nodes zfsNodes (givenNodes params scheduled) vol := by
  unfold createMissingVolume
  split
  · intro vol isOk
    contradiction
  · rename_i pattern parsed
    apply (Prog.yieldsFrom_true _ (getNodeMap params.schld pattern)).bind
    intro answer _
    cases answer with
    | error err =>
        intro vol isOk
        contradiction
    | ok nmap =>
        apply (yields_preferredNodes nmap).bind
        rintro _ rfl
        dsimp only
        split
        · intro vol isOk
          contradiction
        · apply (yields_fittingNodes_passed (givenNodes params scheduled)).bind
          intro answer passed
          cases answer with
          | error err =>
              intro vol isOk
              contradiction
          | ok tried =>
              dsimp only
              split
              · intro vol isOk
                contradiction
              · rename_i volObj object
                apply (yields_tryNodes_placed _ volObj tried none).bind
                intro answer placed
                cases answer with
                | ok vol =>
                    rintro _ ⟨⟩
                    exact ⟨pattern, volObj, tried, parsed, object, passed tried rfl,
                      placed vol rfl⟩
                | error last =>
                    cases last with
                    | none => exact fun answer => nomatch (answer : Empty)
                    | some err =>
                        apply (Prog.yieldsFrom_true _ (Zfs.deleteVolume params.volName)).bind
                        intro _ _ vol isOk
                        contradiction

/-! ## What is stored -/

section Stored

variable (undeleted : Undeleted name shared)

include undeleted

theorem ensures_existing (purpose : Purpose) :
    Prog.Ensures (execAmong name scheduled thread) (getZFSVolume name purpose) shared
      fun answer final => Undeleted name final ∧ ∀ zv, answer = .ok zv → zv.name = name := by
  unfold getZFSVolume getNamed
  split
  · exact Prog.ensures_ret ⟨undeleted, fun zv isOk => nomatch isOk⟩
  · apply Prog.ensures_lift
    intro turn answer after executed
    cases executed
    exact ⟨undeleted.reported turn.report, fun zv isOk => Resource.name_of_get (readAnswer_ok isOk)⟩

/-- An accepted write stores the volume. -/
theorem ensures_updateOrCreate {vol : ZFSVolume} (named : vol.name = name)
    {found : Except Err ZFSVolume} (foundNamed : ∀ zv, found = .ok zv → zv.name = name) :
    Prog.Ensures (execAmong name scheduled thread) (updateOrCreate vol found) shared
      fun answer final =>
        Undeleted name final ∧ (answer = .ok () → Stores name vol.spec final) := by
  cases found with
  | error err =>
      apply Prog.ensures_lift
      intro turn answer after executed
      have before := undeleted.reported turn.report
      rcases writeAnswer_cases (Option.some.inj executed) with ⟨rfl, refused⟩ | ⟨next, written, rfl⟩
      · exact ⟨before, fun accepted => absurd accepted refused⟩
      · have stores : Stores name vol.spec (shared.setVolumes next) :=
          named ▸ Resource.live_of_create written
        exact ⟨stores.undeleted, fun _ => stores⟩
  | ok zv =>
      have isNamed := foundNamed zv rfl
      apply Prog.ensures_lift
      intro turn answer after executed
      have before := undeleted.reported turn.report
      rcases writeAnswer_cases (Option.some.inj executed) with ⟨rfl, refused⟩ | ⟨next, written, rfl⟩
      · exact ⟨before, fun accepted => absurd accepted refused⟩
      · have stores : Stores name vol.spec (shared.setVolumes next) :=
          isNamed ▸ Resource.live_of_update written (isNamed.symm ▸ before)
        exact ⟨stores.undeleted, fun _ => stores⟩

theorem ensures_provisionVolume (polls : Nat) {vol : ZFSVolume} (named : vol.name = name) :
    Prog.Ensures (execAmong name scheduled thread) (provisionVolume polls vol) shared
      fun answer final =>
        Undeleted name final ∧ (answer.2 = .ok () → Stores name vol.spec final) := by
  subst named
  apply (ensures_existing undeleted (.provision vol)).bind
  rintro found middle ⟨unread, foundNamed⟩
  apply (ensures_updateOrCreate unread rfl foundNamed).bind
  rintro written last ⟨unwritten, stored⟩
  cases written with
  | error err => exact Prog.ensures_ret ⟨unwritten, fun isOk => nomatch isOk⟩
  | ok done =>
      apply ((stored rfl).ensures (calls_checkVolCreation vol.name polls)).mono
      intro answer final stores
      exact ⟨stores.undeleted, fun _ => stores⟩

/-- The volume of the node that succeeds is stored. -/
theorem ensures_tryNodes (minFree : Int) {volObj : ZFSVolume} (named : volObj.name = name)
    (tried : List String) (err : Option Err) :
    Prog.Ensures (execAmong name scheduled thread)
      (tryNodes polls params pattern minFree volObj tried err) shared
      fun answer final => ∀ vol, answer = .ok vol → Stores name vol.spec final := by
  induction tried generalizing shared err with
  | nil => exact Prog.ensures_ret fun vol isOk => nomatch isOk
  | cons node tried ih =>
      apply (undeleted.ensures (calls_getNodeID node)).bind
      intro answer now here
      cases answer with
      | error err => exact ih here _
      | ok nodeid =>
          apply (here.ensures (calls_volPool params pattern minFree node nodeid)).bind
          intro answer now here
          cases answer with
          | error err => exact ih here _
          | ok pool =>
              dsimp only
              split
              · exact ih here _
              · rename_i vol placed
                apply (ensures_provisionVolume here polls
                  ((name_placedVolume placed).trans named)).bind
                rintro ⟨timeout, provisioned⟩ now ⟨here, stored⟩
                cases provisioned with
                | ok done =>
                    apply Prog.ensures_ret
                    rintro _ ⟨⟩
                    exact stored rfl
                | error err =>
                    cases timeout with
                    | true => exact Prog.ensures_ret fun vol isOk => nomatch isOk
                    | false => exact ih here _

theorem ensures_createMissingVolume (named : params.volName = name) :
    Prog.Ensures (execAmong name scheduled thread)
      (createMissingVolume compile polls req params) shared
      fun answer final => ∀ vol, answer = .ok vol → Stores name vol.spec final := by
  have failed (err : Err) (now : Shared) : Prog.Ensures (execAmong name scheduled thread)
      (pure (.error err) : Routine (Except Err ZFSVolume)) now
      fun answer final => ∀ vol, answer = .ok vol → Stores name vol.spec final :=
    Prog.ensures_ret fun vol isOk => nomatch isOk
  unfold createMissingVolume
  split
  · exact failed _ shared
  · rename_i pattern parsed
    apply (undeleted.ensures (calls_getNodeMap params.schld pattern)).bind
    intro answer now here
    cases answer with
    | error err => exact failed _ now
    | ok nmap =>
        apply (here.ensures (calls_preferredNodes params nmap)).bind
        intro prfList now here
        dsimp only
        split
        · exact failed _ now
        · apply (here.ensures (calls_fittingNodes params pattern prfList)).bind
          intro answer now here
          cases answer with
          | error err => exact failed _ now
          | ok tried =>
              dsimp only
              split
              · exact failed _ now
              · rename_i volObj object
                apply (ensures_tryNodes here _ ((name_volumeObject object).trans named)
                  tried none).bind
                intro answer now stored
                cases answer with
                | ok vol =>
                    apply Prog.ensures_ret
                    rintro _ ⟨⟩
                    exact stored vol rfl
                | error last =>
                    cases last with
                    | none => exact Prog.ensures_lift_bind fun _ answer => nomatch (answer : Empty)
                    | some err =>
                        apply (Prog.ensures_true (Zfs.deleteVolume params.volName)).bind
                        intro _ now _
                        exact failed _ now

end Stored

/-! ## The request -/

/-- A placement that the storage class allows: the owner is the id of a node of the list,
and if the volume reserves space that node has a pool with room; the pool is the one
named, or one of the owner that matches the pattern, with room if the volume reserves. -/
structure Allowed (compile : Compile) (params : VolumeParams) (nodes : List Node)
    (zfsNodes : List ZFSNode) (prfList : List String) (spec : VolumeInfo) : Prop where
  owner : ∃ node ∈ prfList, HasNodeID nodes node spec.ownerNodeID ∧
    (reservesSpace params.vtype params.thinProvision = true →
      ∃ zfsNode ∈ zfsNodes, k8sNodeName zfsNode = node ∧
        ∃ pool ∈ zfsNode.pools, Selects compile params pool ∧ params.size < pool.free)
  named : params.pool ≠ "" → spec.poolName = params.pool
  picked : params.pool = "" → ∃ zfsNode ∈ zfsNodes, zfsNode.name = spec.ownerNodeID ∧
    ∃ pool ∈ zfsNode.pools, pool.name = spec.poolName ∧ Selects compile params pool ∧
      (reservesSpace params.vtype params.thinProvision = true → params.size < pool.free)
  capacity : spec.capacity = formatInt params.size

/-- Exactly one of the two selectors is set. -/
theorem pool_eq_iff
    (parsed : parsePoolParams compile params.pool params.poolpattern = .ok pattern) :
    params.pool = "" ↔ params.poolpattern ≠ "" := by
  have good : ¬ BadSelector compile params := fun bad => by
    obtain ⟨message, failed⟩ := parsePoolParams_eq_error_iff.mpr bad
    rw [parsed] at failed
    contradiction
  constructor
  · intro unset given
    exact good (.inr (.inl ⟨unset, given⟩))
  · intro given
    by_contra set
    exact good (.inl ⟨set, given⟩)

theorem Chosen.allowed {prfList : List String} {vol : ZFSVolume}
    (chosen : Chosen compile req params nodes zfsNodes prfList vol)
    (named : ∀ node ∈ zfsNodes, Named node.pools)
    (nonneg : ∀ node ∈ zfsNodes, ∀ pool ∈ node.pools, 0 ≤ pool.free) (sized : params.size ≠ 0) :
    Allowed compile params nodes zfsNodes prfList vol.spec := by
  obtain ⟨pattern, volObj, tried, parsed, object, passed, node, isTried, nodeid, pool, isId, isPool,
    placed⟩ := chosen
  obtain ⟨isGiven, suitable⟩ := passed node isTried
  have specEq := spec_placedVolume placed
  have isOwner : vol.spec.ownerNodeID = nodeid := by rw [specEq]
  have isStored : vol.spec.poolName = pool := by rw [specEq]
  constructor
  case owner =>
    refine ⟨node, isGiven, isOwner ▸ isId, fun reserves => ?_⟩
    obtain ⟨zfsNode, mem, isNode, fit, isMatching, room⟩ :=
      (mem_suitableNodes_iff named node).mp (suitable reserves)
    obtain ⟨isOf, isMatch⟩ := mem_matching_iff.mp isMatching
    exact ⟨zfsNode, mem, isNode, fit, isOf, (pattern_iff_selects parsed fit).mp isMatch, room⟩
  case named =>
    intro given
    rw [isStored]
    exact isPool.named (not_ne_iff.mp ((pool_eq_iff parsed).not.mp given))
  case picked =>
    intro unset
    obtain ⟨found, zfsNode, isNode, pmap, rfl⟩ := isPool.picked ((pool_eq_iff parsed).mp unset)
    have mem := List.mem_of_find?_eq_some isNode
    have isNamed : zfsNode.name = nodeid := by simpa using List.find?_some isNode
    obtain ⟨fit, fits, isFit⟩ := exists_fitting_of_poolForNode (named zfsNode mem) found
    obtain ⟨isMatching, room⟩ := mem_fitting_iff.mp fits
    obtain ⟨isOf, isMatch⟩ := mem_matching_iff.mp isMatching
    refine ⟨zfsNode, mem, isNamed.trans isOwner.symm, fit, isOf, isFit.symm.trans isStored.symm,
      (pattern_iff_selects parsed fit).mp isMatch, fun reserves => ?_⟩
    rw [if_pos reserves] at room
    -- a size that has wrapped around is not checked, but is below every capacity
    rcases Int.lt_or_lt_of_ne sized with negative | positive
    · exact Int.lt_of_lt_of_le negative (nonneg zfsNode mem fit isOf)
    · exact room positive
  case capacity =>
    rw [specEq]
    exact capacity_volumeObject object

/-- The existence check of an absent name finds nothing and changes nothing. -/
theorem error_of_getZFSVolume {found : Except Err ZFSVolume}
    (absent : shared.volumes.get name = none)
    (returned : Prog.Returns (execAmong name scheduled thread) (getZFSVolume name) shared found
      final) : (∃ err, found = .error err) ∧ final = shared := by
  unfold getZFSVolume getNamed at returned
  split at returned
  · obtain ⟨rfl, rfl⟩ := Prog.returns_ret_iff.mp returned
    exact ⟨⟨_, rfl⟩, rfl⟩
  · obtain ⟨turn, answer, middle, executed, rest⟩ := Prog.returns_call_iff.mp returned
    obtain ⟨rfl, rfl⟩ := Prog.returns_ret_iff.mp rest
    rw [execAmong, report_of_absent absent, exec, absent] at executed
    obtain ⟨isRead, rfl⟩ := Prod.mk.inj (Option.some.inj executed)
    refine ⟨?_, rfl⟩
    cases found with
    | error err => exact ⟨err, rfl⟩
    | ok vol => cases readAnswer_ok isRead

/-- A plain request for an absent name succeeds with what `createMissingVolume` made under
the lock. -/
theorem created_of_returns {requiredBytes : Int} {response : CreateVolumeResponse}
    (sized : req.capacityRange = some requiredBytes) (plain : req.contentSource = none)
    (absent : shared.volumes.get (toLower req.name) = none)
    (returned : Prog.Returns (execAmong (toLower req.name) scheduled thread)
      (Driver.createVolume compile polls req) shared (.ok response) final) :
    ∃ vol last report, Prog.Returns (execAmong (toLower req.name) scheduled thread)
        (createMissingVolume compile polls req (volumeParams req requiredBytes))
        (shared.setLocked (toLower req.name) (some thread)) (.ok vol) last ∧
      response = createVolumeResponse req vol ∧
      final = (last.report (toLower req.name) report).setLocked (toLower req.name) none := by
  unfold Driver.createVolume at returned
  split at returned
  · obtain ⟨failed, _⟩ := Prog.returns_ret_iff.mp returned
    contradiction
  · obtain ⟨created, _, locked, answered⟩ := Prog.returns_bind_iff.mp returned
    obtain ⟨isAnswer, rfl⟩ := Prog.returns_ret_iff.mp answered
    unfold lockVolume at locked
    obtain ⟨turn, _, middle, taken, rest⟩ := Prog.returns_lift_bind_iff.mp locked
    rw [execAmong, report_of_absent absent] at taken
    simp only [exec, Option.ite_none_right_eq_some, Option.some.injEq, Prod.mk.injEq,
      true_and] at taken
    obtain ⟨_, rfl⟩ := taken
    obtain ⟨_, last, ran, release⟩ := Prog.returns_bind_iff.mp rest
    obtain ⟨turn, _, _, released, ended⟩ := Prog.returns_lift_bind_iff.mp release
    obtain ⟨rfl, rfl⟩ := Prog.returns_ret_iff.mp ended
    cases released
    unfold createByKind createZFSVolume at ran
    rw [plain, sized] at ran
    obtain ⟨found, _, checked, missing⟩ := Prog.returns_bind_iff.mp ran
    have unlisted : (shared.setLocked (toLower req.name) (some thread)).volumes.get
        (toLower req.name) = none := absent
    obtain ⟨⟨err, rfl⟩, rfl⟩ := error_of_getZFSVolume unlisted checked
    cases created with
    | error err => contradiction
    | ok vol => exact ⟨vol, last, turn.report, missing, Except.ok.inj isAnswer, rfl⟩

/-- A new volume is placed where its storage class allows, and the response says where. -/
theorem placed_where_allowed {requiredBytes : Int} (plain : req.contentSource = none)
    (sized : req.capacityRange = some requiredBytes) (inRange : IsInt64 requiredBytes)
    (positive : 1 ≤ requiredBytes) (absent : shared.volumes.get (toLower req.name) = none)
    (named : ∀ node ∈ shared.zfsNodes, Named node.pools)
    (nonneg : ∀ node ∈ shared.zfsNodes, ∀ pool ∈ node.pools, 0 ≤ pool.free)
    {response : CreateVolumeResponse}
    (returned : Prog.Returns (execAmong (toLower req.name) scheduled thread)
      (Driver.createVolume compile polls req) shared (.ok response) final) :
    let params := volumeParams req requiredBytes
    ∃ vol, final.volumes.get (toLower req.name) = some vol ∧
      Allowed compile params shared.nodes shared.zfsNodes (givenNodes params scheduled) vol.spec ∧
      response.topology = [(ZFSTopologyKey, vol.spec.ownerNodeID)] ∧
      response.volumeContext.lookup PoolNameKey = some vol.spec.poolName ∧
      formatInt response.capacityBytes = vol.spec.capacity := by
  intro params
  obtain ⟨made, last, report, ran, rfl, rfl⟩ := created_of_returns sized plain absent returned
  have chosen := Prog.YieldsFrom.returns (calls_createMissingVolume polls requiredBytes)
    yields_createMissingVolume (fun _ same executed => SameNodes.told same executed) ran
    ⟨rfl, rfl⟩ made rfl
  have allowed := chosen.allowed named nonneg (getRoundedCapacity_ne_zero inRange positive)
  have undeleted : Undeleted (toLower req.name)
      (shared.setLocked (toLower req.name) (some thread)) := fun vol found =>
    nomatch absent.symm.trans found
  have stores := (ensures_createMissingVolume undeleted rfl).of_returns ran made rfl
  obtain ⟨vol, stored, isSpec, _⟩ := stores.reported report
  refine ⟨vol, stored, isSpec ▸ allowed, by rw [isSpec]; rfl, by rw [isSpec]; rfl, ?_⟩
  rw [isSpec, allowed.capacity]
  rw [createVolumeResponse, sized]
  rfl

/-- A zvol of one mebibyte in any pool called `p`. -/
def roomyRequest : CreateVolumeRequest where
  name := "pvc"
  capacityRange := some Mi
  parameters := [("poolpattern", "p")]

/-- Every call succeeds, and the agent reports before the volume is read back. -/
def roomyTurns : List Turn :=
  List.replicate 10 ⟨{}, none⟩ ++ [⟨{}, some ("za", .ready)⟩, ⟨{}, none⟩]

theorem placed_where_allowed_roomy :
    ∃ response final, Prog.Returns (execAmong (toLower roomyRequest.name) ["b", "a"] (.request 0))
        (Driver.createVolume literalRegexp 1 roomyRequest) (labelledCluster "za") (.ok response)
        final ∧
      ∃ vol, final.volumes.get (toLower roomyRequest.name) = some vol ∧
        Allowed literalRegexp (volumeParams roomyRequest Mi) (labelledCluster "za").nodes
          roomyNodes ["b", "a"] vol.spec := by
  have succeeds : (Prog.eval (execAmong (toLower roomyRequest.name) ["b", "a"] (.request 0))
      roomyTurns (Driver.createVolume literalRegexp 1 roomyRequest) (labelledCluster "za")).any
        (fun outcome => outcome.1.isOk) = true := by decide +kernel
  obtain ⟨⟨result, final⟩, ran, isOk⟩ := (Option.any_eq_true _ _).mp succeeds
  cases result with
  | error err => contradiction
  | ok response =>
      have plain : roomyRequest.contentSource = none := rfl
      have sized : roomyRequest.capacityRange = some Mi := rfl
      have absent : (labelledCluster "za").volumes.get (toLower roomyRequest.name) = none := rfl
      have named : ∀ node ∈ (labelledCluster "za").zfsNodes, Named node.pools := by
        simp [labelledCluster, roomyNodes, ownedNode, Named]
      have nonneg : ∀ node ∈ (labelledCluster "za").zfsNodes, ∀ pool ∈ node.pools,
          0 ≤ pool.free := by
        simp [labelledCluster, roomyNodes, ownedNode, Mi]
      have returned : Prog.Returns (execAmong (toLower roomyRequest.name) ["b", "a"] (.request 0))
          (Driver.createVolume literalRegexp 1 roomyRequest) (labelledCluster "za")
          (.ok response) final := ⟨roomyTurns, ran⟩
      obtain ⟨vol, stored, allowed, _⟩ :=
        placed_where_allowed plain sized (by decide) (by decide) absent named nonneg returned
      exact ⟨response, final, returned, vol, stored, allowed⟩

end ZfsLocalPv.Properties

import ZfsLocalPv.Cluster.Creation
import ZfsLocalPv.Cluster.Reports
import ZfsLocalPv.Driver.Selection
import ZfsLocalPv.Properties.Scheduling

/-!
# Refusals of CreateVolume

Before it writes anything, a plain `CreateVolume` may refuse: the pool selector is bad, no pool
of any node matches it, or no node of the scheduler's list has room. With reads that succeed,
what happens up to there is determined, so each refusal has exactly one cause; whatever happens
afterwards is reported as an internal error.
-/

namespace ZfsLocalPv.Properties

open Api Cluster Driver Go Interaction Zfs

variable {compile : Compile} {thread : Tid} {name : String} {scheduled : List String}
  {shared : Shared} {params : VolumeParams} {pattern : Pattern} {polls : Nat}

/-! ## The causes -/

/-- Both pool parameters or neither are set, or the pattern does not compile. -/
def BadSelector (compile : Compile) (params : VolumeParams) : Prop :=
  (params.pool ≠ "" ∧ params.poolpattern ≠ "") ∨ (params.pool = "" ∧ params.poolpattern = "") ∨
    (params.poolpattern ≠ "" ∧ ∃ message, compile params.poolpattern = .error message)

/-- The selector covers a pool: its pattern matches, or the pool is that of the pool name. -/
def Selects (compile : Compile) (params : VolumeParams) (pool : Pool) : Prop :=
  if params.poolpattern = "" then pool.name = poolRoot params.pool
  else ∃ pattern, compile params.poolpattern = .ok pattern ∧ pattern pool.name = true

/-- A pattern is set and no pool of any node matches. -/
def NothingMatches (compile : Compile) (params : VolumeParams) (zfsNodes : List ZFSNode) : Prop :=
  params.poolpattern ≠ "" ∧ ∀ node ∈ zfsNodes, ∀ pool ∈ node.pools, ¬ Selects compile params pool

/-- The volume reserves space and no node of the list has a pool with more than its size
free. -/
def NoRoom (compile : Compile) (params : VolumeParams) (zfsNodes : List ZFSNode)
    (prfList : List String) : Prop :=
  reservesSpace params.vtype params.thinProvision = true ∧
    ∀ node ∈ zfsNodes, k8sNodeName node ∈ prfList → ∀ pool ∈ node.pools,
      Selects compile params pool → ¬ params.size < pool.free

/-- The nodes a request is given: its own parameter, or the scheduler's list. -/
def givenNodes (params : VolumeParams) (scheduled : List String) : List String :=
  match params.node with
  | some node => [node]
  | none => scheduled

/-- The request fails with a code. -/
def FailsWith (code : Code) {α : Type} (result : Except Err α) : Prop :=
  ∃ message, result = .error (.status code message)

theorem parsePoolParams_eq_error_iff :
    (∃ message, parsePoolParams compile params.pool params.poolpattern = .error message) ↔
      BadSelector compile params := by
  unfold parsePoolParams BadSelector
  by_cases pool : params.pool = ""
  · by_cases poolpattern : params.poolpattern = ""
    · simp [pool, poolpattern]
    · cases compile params.poolpattern with
      | error message => simp [pool, poolpattern]
      | ok pattern => simp [pool, poolpattern]
  · by_cases poolpattern : params.poolpattern = ""
    · simp [pool, poolpattern]
    · simp [pool, poolpattern]

/-- The parsed selector covers what the parameters say. -/
theorem pattern_iff_selects
    (parsed : parsePoolParams compile params.pool params.poolpattern = .ok pattern)
    (pool : Pool) : pattern pool.name = true ↔ Selects compile params pool := by
  unfold parsePoolParams at parsed
  unfold Selects
  split at parsed
  · contradiction
  · split at parsed
    · rename_i given
      rw [if_neg given]
      cases compiled : compile params.poolpattern with
      | error message =>
          rw [compiled] at parsed
          contradiction
      | ok found =>
          rw [compiled] at parsed
          obtain rfl := Except.ok.inj parsed
          simp
    · rename_i unset
      rw [if_pos (not_ne_iff.mp unset)]
      split at parsed
      · obtain rfl := Except.ok.inj parsed
        exact decide_eq_true_iff
      · contradiction

/-! ## What is determined -/

section Steady

variable (absent : shared.volumes.get name = none)

include absent

theorem gives_listZFSNodes :
    Prog.Gives (execSteady name scheduled thread) listZFSNodes shared (.ok shared.zfsNodes) := by
  apply gives_call .listZFSNodes trivial absent
  intro choice succeeds _
  rw [exec, readAnswer, if_pos succeeds]

theorem gives_nodeMapOf (weigh : List ZFSNode → Pattern → Weights) :
    Prog.Gives (execSteady name scheduled thread) (nodeMapOf weigh pattern) shared
      (.ok (weigh shared.zfsNodes pattern)) :=
  (gives_listZFSNodes absent).bind (Prog.gives_ret _ _)

theorem exists_gives_getNodeMap (schd : String) :
    ∃ nmap, Prog.Gives (execSteady name scheduled thread) (getNodeMap schd pattern) shared
      (.ok nmap) := by
  unfold getNodeMap
  split
  · have listed : Prog.Gives (execSteady name scheduled thread) (call .listVolumes) shared
        (.ok shared.volumes.store.items) := by
      apply gives_call .listVolumes trivial absent
      intro choice succeeds _
      rw [exec, readAnswer, if_pos succeeds]
    exact ⟨_, listed.bind ((gives_listZFSNodes absent).bind (Prog.gives_ret _ _))⟩
  · split
    · exact ⟨_, gives_nodeMapOf absent spaceWeightedMap⟩
    · exact ⟨_, gives_nodeMapOf absent capacityWeightedMap⟩

theorem gives_preferredNodes (nmap : Weights) :
    Prog.Gives (execSteady name scheduled thread) (preferredNodes params nmap) shared
      (givenNodes params scheduled) := by
  unfold preferredNodes givenNodes
  cases params.node with
  | some node => exact Prog.gives_ret _ _
  | none =>
      apply gives_call (.scheduler nmap) trivial absent
      intro choice _ answers
      rw [exec, answers]

theorem gives_getSuitableNodes (reported : shared.zfsNodes ≠ []) (size : Int) :
    Prog.Gives (execSteady name scheduled thread) (getSuitableNodes pattern size) shared
      (.ok (suitableNodes shared.zfsNodes pattern size)) := by
  apply (gives_listZFSNodes absent).bind
  dsimp only
  rw [if_neg reported]
  exact Prog.gives_ret _ _

/-- The existence check finds nothing. -/
theorem gives_getZFSVolume (given : name ≠ "") :
    Prog.Gives (execSteady name scheduled thread) (getZFSVolume name) shared
      (.error (.api .notFound)) := by
  rw [getZFSVolume, getNamed, if_neg given]
  apply gives_call (.getVolume name .inspect) trivial absent
  intro choice succeeds _
  rw [exec, absent, readAnswer, if_pos succeeds]

end Steady

/-! ## The fit check -/

variable {prfList : List String} {zfsNodes : List ZFSNode}

theorem not_matched_iff (named : ∀ node ∈ zfsNodes, Named node.pools)
    (parsed : parsePoolParams compile params.pool params.poolpattern = .ok pattern) :
    (suitableNodes zfsNodes pattern params.size).2 = false ↔
      ∀ node ∈ zfsNodes, ∀ pool ∈ node.pools, ¬ Selects compile params pool := by
  rw [← Bool.not_eq_true, matched_suitableNodes_iff named]
  simp only [not_exists, not_and, not_not, matching, List.filter_eq_nil_iff]
  refine forall₂_congr fun node _ => forall₂_congr fun pool _ => ?_
  rw [pattern_iff_selects parsed]

theorem filterKeep_suitable_eq_nil_iff (named : ∀ node ∈ zfsNodes, Named node.pools)
    (parsed : parsePoolParams compile params.pool params.poolpattern = .ok pattern) :
    filterKeep prfList (suitableNodes zfsNodes pattern params.size).1 = [] ↔
      ∀ node ∈ zfsNodes, k8sNodeName node ∈ prfList → ∀ pool ∈ node.pools,
        Selects compile params pool → ¬ params.size < pool.free := by
  rw [filterKeep, List.filter_eq_nil_iff]
  simp only [decide_eq_true_iff, mem_suitableNodes_iff named]
  constructor
  · intro none node mem isGiven pool isPool selected room
    exact none _ isGiven ⟨node, mem, rfl, pool,
      mem_matching_iff.mpr ⟨isPool, (pattern_iff_selects parsed pool).mpr selected⟩, room⟩
  · rintro full _ isGiven ⟨node, mem, rfl, pool, isMatching, room⟩
    obtain ⟨isPool, matches'⟩ := mem_matching_iff.mp isMatching
    exact full node mem isGiven pool isPool ((pattern_iff_selects parsed pool).mp matches') room

section Steady

variable (absent : shared.volumes.get name = none) (reported : shared.zfsNodes ≠ [])
  (named : ∀ node ∈ shared.zfsNodes, Named node.pools)
  (parsed : parsePoolParams compile params.pool params.poolpattern = .ok pattern)

include absent reported named parsed

theorem gives_nothingMatches (nothing : NothingMatches compile params shared.zfsNodes) :
    ∃ message, Prog.Gives (execSteady name scheduled thread) (fittingNodes params pattern prfList)
      shared (.error (.status .failedPrecondition message)) := by
  have unmatched := (not_matched_iff named parsed).mpr nothing.2
  unfold fittingNodes
  dsimp only
  rw [if_pos (.inl nothing.1)]
  apply Exists.intro
  apply (gives_getSuitableNodes absent reported params.size).bind
  dsimp only
  rw [if_pos ⟨nothing.1, unmatched⟩]
  exact Prog.gives_ret _ _

theorem gives_noRoom (found : ¬ NothingMatches compile params shared.zfsNodes)
    (full : NoRoom compile params shared.zfsNodes prfList) :
    ∃ message, Prog.Gives (execSteady name scheduled thread) (fittingNodes params pattern prfList)
      shared (.error (.status .resourceExhausted message)) := by
  have matched : ¬ (params.poolpattern ≠ "" ∧
      (suitableNodes shared.zfsNodes pattern params.size).2 = false) := fun unmatched =>
    found ⟨unmatched.1, (not_matched_iff named parsed).mp unmatched.2⟩
  unfold fittingNodes
  dsimp only
  rw [if_pos (.inr full.1)]
  apply Exists.intro
  apply (gives_getSuitableNodes absent reported params.size).bind
  dsimp only
  rw [if_neg matched, if_pos full.1,
    if_pos ((filterKeep_suitable_eq_nil_iff named parsed).mpr full.2)]
  exact Prog.gives_ret _ _

theorem gives_fitting (found : ¬ NothingMatches compile params shared.zfsNodes)
    (room : ¬ NoRoom compile params shared.zfsNodes prfList) :
    ∃ nodes, Prog.Gives (execSteady name scheduled thread) (fittingNodes params pattern prfList)
      shared (.ok nodes) := by
  have matched : ¬ (params.poolpattern ≠ "" ∧
      (suitableNodes shared.zfsNodes pattern params.size).2 = false) := fun unmatched =>
    found ⟨unmatched.1, (not_matched_iff named parsed).mp unmatched.2⟩
  unfold fittingNodes
  dsimp only
  by_cases checked : params.poolpattern ≠ "" ∨
      reservesSpace params.vtype params.thinProvision = true
  · rw [if_pos checked]
    by_cases reserves : reservesSpace params.vtype params.thinProvision = true
    · apply Exists.intro
      apply (gives_getSuitableNodes absent reported params.size).bind
      dsimp only
      rw [if_neg matched, if_pos reserves, if_neg fun full =>
        room ⟨reserves, (filterKeep_suitable_eq_nil_iff named parsed).mp full⟩]
      exact Prog.gives_ret _ _
    · apply Exists.intro
      apply (gives_getSuitableNodes absent reported params.size).bind
      dsimp only
      rw [if_neg matched, if_neg reserves]
      exact Prog.gives_ret _ _
  · rw [if_neg checked]
    exact ⟨_, Prog.gives_ret _ _⟩

end Steady

/-! ## The request -/

/-- Once nodes are found, every failure is an internal one. -/
theorem yields_provisionOnNodes (polls : Nat) (params : VolumeParams) (pattern : Pattern)
    (minFree : Int) (volObj : ZFSVolume) (nodes : List String) :
    (provisionOnNodes polls params pattern minFree volObj nodes).Yields fun result =>
      ∀ err, result = .error err → ∃ message, err = .status .internal message := by
  apply (Prog.yields_true (tryNodes polls params pattern minFree volObj nodes none)).bind
  intro tried _
  cases tried with
  | ok vol =>
      intro err failed
      contradiction
  | error last =>
      cases last with
      | none => exact fun answer => nomatch (answer : Empty)
      | some err =>
          apply (Prog.yields_true (Zfs.deleteVolume params.volName)).bind
          rintro _ _ _ ⟨⟩
          exact ⟨_, rfl⟩

variable {req : CreateVolumeRequest} {requiredBytes : Int} {result : Except Err ZFSVolume}
  {final : Shared}

section Missing

variable (absent : shared.volumes.get name = none)
  (parsed : parsePoolParams compile params.pool params.poolpattern = .ok pattern)
  (given : givenNodes params scheduled ≠ [])

include absent parsed given

/-- What the fit check refuses is refused. -/
theorem gives_createMissingVolume {err : Err}
    (fits : Prog.Gives (execSteady name scheduled thread)
      (fittingNodes params pattern (givenNodes params scheduled)) shared (.error err)) :
    Prog.Gives (execSteady name scheduled thread) (createMissingVolume compile polls req params)
      shared (.error err) := by
  obtain ⟨nmap, mapped⟩ : ∃ nmap, Prog.Gives (execSteady name scheduled thread)
      (getNodeMap params.schld pattern) shared (.ok nmap) := exists_gives_getNodeMap absent _
  unfold createMissingVolume
  rw [parsed]
  apply mapped.bind
  apply (gives_preferredNodes absent nmap).bind
  rw [if_neg given]
  exact fits.bind (Prog.gives_ret _ _)

/-- Past the fit check every failure is an internal one. -/
theorem internal_of_createMissingVolume {nodes : List String}
    (fits : Prog.Gives (execSteady name scheduled thread)
      (fittingNodes params pattern (givenNodes params scheduled)) shared (.ok nodes))
    (returned : Prog.Returns (execSteady name scheduled thread)
      (createMissingVolume compile polls req params) shared result final)
    {err : Err} (failed : result = .error err) : ∃ message, err = .status .internal message := by
  obtain ⟨nmap, mapped⟩ : ∃ nmap, Prog.Gives (execSteady name scheduled thread)
      (getNodeMap params.schld pattern) shared (.ok nmap) := exists_gives_getNodeMap absent _
  unfold createMissingVolume at returned
  rw [parsed] at returned
  have chosen := (gives_preferredNodes absent nmap).bind_iff.mp (mapped.bind_iff.mp returned)
  rw [if_neg given] at chosen
  have fitted := fits.bind_iff.mp chosen
  dsimp only at fitted
  cases built : volumeObject req params with
  | error message =>
      rw [built] at fitted
      obtain ⟨rfl, _⟩ := Prog.returns_ret_iff.mp fitted
      cases failed
      exact ⟨message, rfl⟩
  | ok volObj =>
      rw [built] at fitted
      exact (yields_provisionOnNodes polls params pattern _ volObj nodes).returns fitted err failed

end Missing

/-- The refusals of a request, each with its code; an earlier one hides the later. -/
inductive Refusal (compile : Compile) (params : VolumeParams) (zfsNodes : List ZFSNode)
    (prfList : List String) : Code → Prop
  | selector : BadSelector compile params → Refusal compile params zfsNodes prfList .invalidArgument
  | nothing : ¬ BadSelector compile params → NothingMatches compile params zfsNodes →
      Refusal compile params zfsNodes prfList .failedPrecondition
  | full : ¬ BadSelector compile params → ¬ NothingMatches compile params zfsNodes →
      NoRoom compile params zfsNodes prfList →
      Refusal compile params zfsNodes prfList .resourceExhausted

theorem exists_parsed (good : ¬ BadSelector compile params) :
    ∃ pattern, parsePoolParams compile params.pool params.poolpattern = .ok pattern := by
  cases parsed : parsePoolParams compile params.pool params.poolpattern with
  | error message => exact absurd (parsePoolParams_eq_error_iff.mp ⟨message, parsed⟩) good
  | ok pattern => exact ⟨pattern, rfl⟩

section Verdict

variable (absent : shared.volumes.get name = none) (reported : shared.zfsNodes ≠ [])
  (named : ∀ node ∈ shared.zfsNodes, Named node.pools)
  (given : givenNodes params scheduled ≠ [])

include absent reported named given

theorem Refusal.gives {code : Code}
    (refusal : Refusal compile params shared.zfsNodes (givenNodes params scheduled) code)
    (thread : Tid) (polls : Nat) (req : CreateVolumeRequest) :
    ∃ message, Prog.Gives (execSteady name scheduled thread)
      (createMissingVolume compile polls req params) shared (.error (.status code message)) := by
  cases refusal with
  | selector bad =>
      obtain ⟨message, failed⟩ := parsePoolParams_eq_error_iff.mpr bad
      refine ⟨message, ?_⟩
      unfold createMissingVolume
      rw [failed]
      exact Prog.gives_ret _ _
  | nothing good nothing =>
      obtain ⟨pattern, parsed⟩ := exists_parsed good
      obtain ⟨message, fits⟩ := gives_nothingMatches absent reported named parsed nothing
      exact ⟨message, gives_createMissingVolume absent parsed given fits⟩
  | full good found full =>
      obtain ⟨pattern, parsed⟩ := exists_parsed good
      obtain ⟨message, fits⟩ := gives_noRoom absent reported named parsed found full
      exact ⟨message, gives_createMissingVolume absent parsed given fits⟩

/-- A request fails with a code other than the internal one exactly when it is refused so. -/
theorem failsWith_iff_refusal {code : Code} (external : code ≠ .internal)
    (returned : Prog.Returns (execSteady name scheduled thread)
      (createMissingVolume compile polls req params) shared result final) :
    FailsWith code result ↔
      Refusal compile params shared.zfsNodes (givenNodes params scheduled) code := by
  constructor
  · rintro ⟨message, rfl⟩
    by_contra unrefused
    have settled {other : Code}
        (refusal : Refusal compile params shared.zfsNodes (givenNodes params scheduled) other) :
        False := by
      obtain ⟨_, gives⟩ := refusal.gives absent reported named given thread polls req
      cases (gives.returns_iff.mp returned).1
      exact unrefused refusal
    have good : ¬ BadSelector compile params := fun bad => settled (.selector bad)
    have found : ¬ NothingMatches compile params shared.zfsNodes := fun nothing =>
      settled (.nothing good nothing)
    have room : ¬ NoRoom compile params shared.zfsNodes (givenNodes params scheduled) :=
      fun full => settled (.full good found full)
    obtain ⟨pattern, parsed⟩ := exists_parsed good
    obtain ⟨nodes, fits⟩ := gives_fitting absent reported named parsed found room
    obtain ⟨_, internal⟩ := internal_of_createMissingVolume absent parsed given fits returned rfl
    cases internal
    exact external rfl
  · intro refusal
    obtain ⟨message, gives⟩ := refusal.gives absent reported named given thread polls req
    exact ⟨message, (gives.returns_iff.mp returned).1⟩

end Verdict

theorem returns_lockVolume_steady_iff {α : Type} {body : Routine α} {result : α}
    (absent : shared.volumes.get name = none) :
    Prog.Returns (execSteady name scheduled thread) (lockVolume name body) shared result final ↔
      shared.locked name = none ∧ ∃ last report,
        Prog.Returns (execSteady name scheduled thread) body
          (shared.setLocked name (some thread)) result last ∧
        final = (last.report name report).setLocked name none := by
  have locks (turn : Turn) : execSteady name scheduled thread (.lock name) turn shared =
      exec thread (.lock name) {} shared := by
    rw [execSteady, execAmong, report_of_absent absent]
    rfl
  unfold lockVolume
  constructor
  · intro returned
    obtain ⟨turn, _, middle, taken, rest⟩ := Prog.returns_lift_bind_iff.mp returned
    rw [locks] at taken
    simp only [exec, Option.ite_none_right_eq_some, Option.some.injEq, Prod.mk.injEq,
      true_and] at taken
    obtain ⟨free, rfl⟩ := taken
    obtain ⟨_, last, ran, release⟩ := Prog.returns_bind_iff.mp rest
    obtain ⟨turn, _, _, released, answered⟩ := Prog.returns_lift_bind_iff.mp release
    obtain ⟨rfl, rfl⟩ := Prog.returns_ret_iff.mp answered
    cases released
    exact ⟨free, last, turn.report, ran, rfl⟩
  · rintro ⟨free, last, report, ran, rfl⟩
    apply Prog.returns_lift_bind_iff.mpr
    refine ⟨{}, (), shared.setLocked name (some thread), ?_, ?_⟩
    · rw [locks]
      simp [exec, free]
    · apply Prog.returns_bind_iff.mpr
      refine ⟨result, last, ran, ?_⟩
      apply Prog.returns_lift_bind_iff.mpr
      exact ⟨{ report }, (), _, rfl, Prog.returns_ret_iff.mpr ⟨rfl, rfl⟩⟩

/-- A plain request for an absent name is `createMissingVolume` under the lock. -/
theorem returns_createVolume_steady_iff (valid : validateVolumeCreateReq req = .ok ())
    (sized : req.capacityRange = some requiredBytes) (plain : req.contentSource = none)
    (absent : shared.volumes.get (toLower req.name) = none)
    {result : Except Err CreateVolumeResponse} :
    Prog.Returns (execSteady (toLower req.name) scheduled thread)
        (Driver.createVolume compile polls req) shared result final ↔
      shared.locked (toLower req.name) = none ∧ ∃ created last report,
        Prog.Returns (execSteady (toLower req.name) scheduled thread)
          (createMissingVolume compile polls req (volumeParams req requiredBytes))
          (shared.setLocked (toLower req.name) (some thread)) created last ∧
        result = created.map (createVolumeResponse req) ∧
        final = (last.report (toLower req.name) report).setLocked (toLower req.name) none := by
  have checked : Prog.Gives (execSteady (toLower req.name) scheduled thread)
      (getZFSVolume (toLower req.name)) (shared.setLocked (toLower req.name) (some thread))
      (.error (.api .notFound)) :=
    gives_getZFSVolume absent (toLower_ne_empty (name_of_valid valid))
  unfold Driver.createVolume createByKind createZFSVolume
  rw [valid, plain, sized]
  constructor
  · intro returned
    obtain ⟨created, _, locked, answered⟩ := Prog.returns_bind_iff.mp returned
    obtain ⟨rfl, rfl⟩ := Prog.returns_ret_iff.mp answered
    obtain ⟨free, last, report, ran, rfl⟩ := (returns_lockVolume_steady_iff absent).mp locked
    exact ⟨free, created, last, report, checked.bind_iff.mp ran, rfl, rfl⟩
  · rintro ⟨free, created, last, report, ran, rfl, rfl⟩
    apply Prog.returns_bind_iff.mpr
    exact ⟨created, _, (returns_lockVolume_steady_iff absent).mpr
      ⟨free, last, report, checked.bind_iff.mpr ran, rfl⟩, Prog.returns_ret_iff.mpr ⟨rfl, rfl⟩⟩

/-- Mapping the answer of a success keeps the failures. -/
theorem failsWith_map_iff {code : Code} {created : Except Err ZFSVolume}
    (answer : ZFSVolume → CreateVolumeResponse) :
    FailsWith code (created.map answer) ↔ FailsWith code created := by
  cases created with
  | error err => simp [FailsWith, Except.map]
  | ok vol => simp [FailsWith, Except.map]

/-- With reads that succeed, a plain request for an absent name is refused exactly for the
causes above, in their order; a refused request leaves the volumes as they are, and a
request that is to be refused comes to its end once it has the lock. -/
theorem refusals_exact (valid : validateVolumeCreateReq req = .ok ())
    (sized : req.capacityRange = some requiredBytes) (plain : req.contentSource = none)
    (absent : shared.volumes.get (toLower req.name) = none) (reported : shared.zfsNodes ≠ [])
    (named : ∀ node ∈ shared.zfsNodes, Named node.pools)
    (given : givenNodes (volumeParams req requiredBytes) scheduled ≠ []) :
    let params := volumeParams req requiredBytes
    let bad := BadSelector compile params
    let nothing := NothingMatches compile params shared.zfsNodes
    let full := NoRoom compile params shared.zfsNodes (givenNodes params scheduled)
    (∀ {result final}, Prog.Returns (execSteady (toLower req.name) scheduled thread)
        (Driver.createVolume compile polls req) shared result final →
      (FailsWith .invalidArgument result ↔ bad) ∧
      (¬ bad → (FailsWith .failedPrecondition result ↔ nothing)) ∧
      (¬ bad → ¬ nothing → (FailsWith .resourceExhausted result ↔ full)) ∧
      (bad ∨ nothing ∨ full → final.volumes = shared.volumes)) ∧
    (bad ∨ nothing ∨ full → shared.locked (toLower req.name) = none →
      ∃ result final, Prog.Returns (execSteady (toLower req.name) scheduled thread)
        (Driver.createVolume compile polls req) shared result final) := by
  intro params bad nothing full
  have unlisted : (shared.setLocked (toLower req.name) (some thread)).volumes.get
      (toLower req.name) = none := absent
  have refused (cause : bad ∨ nothing ∨ full) : ∃ code message,
      Prog.Gives (execSteady (toLower req.name) scheduled thread)
        (createMissingVolume compile polls req params)
        (shared.setLocked (toLower req.name) (some thread)) (.error (.status code message)) := by
    have refusal : ∃ code,
        Refusal compile params shared.zfsNodes (givenNodes params scheduled) code := by
      by_cases isBad : bad
      · exact ⟨_, .selector isBad⟩
      · by_cases isNothing : nothing
        · exact ⟨_, .nothing isBad isNothing⟩
        · exact ⟨_, .full isBad isNothing ((cause.resolve_left isBad).resolve_left isNothing)⟩
    obtain ⟨code, refusal⟩ := refusal
    exact ⟨code, refusal.gives unlisted reported named given thread polls req⟩
  constructor
  · intro result final returned
    obtain ⟨_, created, last, report, ran, rfl, rfl⟩ :=
      (returns_createVolume_steady_iff valid sized plain absent).mp returned
    have verdict {code : Code} (external : code ≠ .internal) :
        FailsWith code (created.map (createVolumeResponse req)) ↔
          Refusal compile params shared.zfsNodes (givenNodes params scheduled) code :=
      (failsWith_map_iff _).trans
        (failsWith_iff_refusal unlisted reported named given external ran)
    refine ⟨?selector, ?nothing, ?full, ?untouched⟩
    case selector =>
      rw [verdict (by decide)]
      exact ⟨fun | .selector isBad => isBad, .selector⟩
    case nothing =>
      intro good
      rw [verdict (by decide)]
      exact ⟨fun | .nothing _ isNothing => isNothing, .nothing good⟩
    case full =>
      intro good found
      rw [verdict (by decide)]
      exact ⟨fun | .full _ _ isFull => isFull, .full good found⟩
    case untouched =>
      intro cause
      obtain ⟨code, message, gives⟩ := refused cause
      obtain ⟨_, rfl⟩ := gives.returns_iff.mp ran
      -- there is no volume an agent could report on
      rw [report_of_absent unlisted]
      rfl
  · intro cause free
    obtain ⟨code, message, gives⟩ := refused cause
    exact ⟨_, _, (returns_createVolume_steady_iff valid sized plain absent).mpr
      ⟨free, _, _, none, gives.returns_iff.mpr ⟨rfl, rfl⟩, rfl, rfl⟩⟩

/-- A zvol of one mebibyte. -/
def crampedRequest : CreateVolumeRequest where
  name := "pvc"
  capacityRange := some Mi
  parameters := [("poolpattern", "p")]

/-- The only pool has just the size free. -/
def crampedCluster : Shared where
  zfsNodes := [{ name := "a", pools := [{ name := "p", free := Mi }] }]

theorem refusals_exact_cramped :
    ∃ result final, Prog.Returns (execSteady "pvc" ["a"] (.request 0))
      (Driver.createVolume literalRegexp 1 crampedRequest) crampedCluster result final ∧
        FailsWith .resourceExhausted result ∧ final.volumes = crampedCluster.volumes := by
  have params : volumeParams crampedRequest Mi =
      { volName := "pvc", size := Mi, pool := "", poolpattern := "p", schld := "",
        vtype := .zvol, thinProvision := "", node := none, wait := false } := by rfl
  have good : ¬ BadSelector literalRegexp (volumeParams crampedRequest Mi) := by
    rw [params]
    simp [BadSelector, literalRegexp]
  have found : ¬ NothingMatches literalRegexp (volumeParams crampedRequest Mi)
      crampedCluster.zfsNodes := by
    rw [params]
    simp [NothingMatches, Selects, literalRegexp, crampedCluster]
  have full : NoRoom literalRegexp (volumeParams crampedRequest Mi) crampedCluster.zfsNodes
      (givenNodes (volumeParams crampedRequest Mi) ["a"]) := by
    rw [params]
    refine ⟨rfl, ?_⟩
    simp [crampedCluster]
  have named : ∀ node ∈ crampedCluster.zfsNodes, Named node.pools := by
    simp [crampedCluster, Named]
  obtain ⟨verdict, ends⟩ := @refusals_exact literalRegexp (.request 0) ["a"] crampedCluster 1
    crampedRequest Mi rfl rfl rfl rfl (by decide) named (by rw [params]; decide)
  obtain ⟨result, final, returned⟩ := ends (.inr (.inr full)) rfl
  obtain ⟨_, _, exhausted, untouched⟩ := verdict returned
  exact ⟨result, final, returned, (exhausted good found).mpr full, untouched (.inr (.inr full))⟩

end ZfsLocalPv.Properties

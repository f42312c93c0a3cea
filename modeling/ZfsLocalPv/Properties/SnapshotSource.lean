import ZfsLocalPv.Cluster.Rules
import ZfsLocalPv.Properties.DeferredDeletion

/-!
# The source in the answer of CreateSnapshot

`CreateSnapshot` answers for a snapshot of the requested volume. That an existing snapshot
belongs to that volume is checked before the lock is taken; under the lock a snapshot that is
found is answered for whatever its label. Two requests with one snapshot name and different
sources may both pass the check before either has created the snapshot, and the second then
answers with a source that is not the snapshot's.

If no two such requests overlap, what the check has found stays true: a snapshot that appears
later is one of the same volume.
-/

namespace ZfsLocalPv.Properties

open Api ApiServer Driver Interaction Zfs Cluster

section Changes

variable {snapshots next : Resource VolumeInfo State} {caller : Option (Tid × Op)}
  {volume snapName : String}

/-- No snapshot is deleted. -/
def AllLive (snapshots : Resource VolumeInfo State) : Prop :=
  ∀ name snap, snapshots.get name = some snap → Live snap

/-- A snapshot of another volume has to be created. -/
theorem labelledWith_of_change (change : SnapshotChange snapshots caller next)
    (created : ∀ thread snap, caller = some (thread, .createSnapshot snap) →
      snap.name = snapName → volumeOf snap = some volume)
    (labelled : LabelledWith volume snapName snapshots) : LabelledWith volume snapName next := by
  intro snap found
  cases change.origin found with
  | kept stored shows => exact labelled snap stored
  | created creator new isClient fresh absent objectEq =>
      obtain ⟨thread, op⟩ := creator
      obtain rfl : op = .createSnapshot new := fresh.2
      have nameEq := Resource.name_of_get found
      subst objectEq
      exact created thread new isClient nameEq
  | written writer base new isClient write stored rewrites held objectEq shows =>
      subst objectEq
      exact write.1.volumeOf_eq.trans (labelled base stored)
  | deleted deleter old isClient deletes stored live objectEq =>
      subst objectEq
      exact labelled old stored
  | collected old stored deleted objectEq =>
      subst objectEq
      exact labelled old stored

theorem allLive_of_change (change : SnapshotChange snapshots caller next)
    (deletes : ∀ thread name, caller ≠ some (thread, .deleteSnapshot name))
    (allLive : AllLive snapshots) : AllLive next := by
  intro name snap found
  cases change.origin found with
  | kept stored shows => exact allLive name snap stored
  | created creator new isClient fresh absent objectEq =>
      subst objectEq
      rfl
  | written writer base new isClient write stored rewrites held objectEq shows =>
      subst objectEq
      exact write.1.deletion_eq.trans (allLive name base stored)
  | deleted deleter old isClient gone stored live objectEq =>
      obtain ⟨thread, op⟩ := deleter
      obtain rfl : op = .deleteSnapshot name := gone
      exact absurd isClient (deletes thread name)
  | collected old stored deleted objectEq =>
      exact absurd (allLive name old stored) (not_live_iff.mpr deleted)

end Changes

/-! ## The contract -/

/-- The request asks for a snapshot of a volume under a name. -/
def Asks (volume snapName : String) : Request → Prop
  | .createSnapshot _ _ req =>
      Go.toLower req.sourceVolumeId = volume ∧ Go.toLower req.name = snapName
  | _ => False

/-- Two requests do not ask for one snapshot name with different volumes. -/
def Agrees : Request → Request → Prop
  | .createSnapshot _ _ req, .createSnapshot _ _ other =>
      Go.toLower req.name = Go.toLower other.name →
      Go.toLower req.sourceVolumeId = Go.toLower other.sourceVolumeId
  | _, _ => True

/-- The requests in flight for one snapshot name agree on the volume. -/
structure Agreed (shared : Shared) : Prop where
  agrees : ∀ {id other req otherReq}, shared.inFlight id = some req →
    shared.inFlight other = some otherReq → Agrees req otherReq

theorem volume_eq_of_agrees {req other : Request} {volume otherVolume snapName : String}
    (agrees : Agrees req other) (asks : Asks volume snapName req)
    (otherAsks : Asks otherVolume snapName other) : volume = otherVolume := by
  cases req <;> cases other <;> simp_all [Asks, Agrees]

theorem Agrees.symm {req other : Request} (agrees : Agrees req other) :
    Agrees other req := by
  cases req <;> cases other <;> simp_all [Agrees]

theorem agrees_self (req : Request) : Agrees req req := by
  cases req <;> simp [Agrees]

/-- What a request can count on while others move. -/
structure Respected (id : Nat) (shared after : Shared) : Prop where
  serving : after.inFlight id = shared.inFlight id
  labelled : ∀ {req volume snapName}, shared.inFlight id = some req → Asks volume snapName req →
    LabelledWith volume snapName shared.snapshots → LabelledWith volume snapName after.snapshots
  live : ∀ {volume name}, LiveOf shared.snapshots volume name → LiveOf after.snapshots volume name

theorem Respected.refl (id : Nat) (shared : Shared) : Respected id shared shared where
  serving := rfl
  labelled := fun _ _ labelled => labelled
  live := fun live => live

theorem Respected.trans {id : Nat} {first second third : Shared} (one : Respected id first second)
    (two : Respected id second third) : Respected id first third where
  serving := two.serving.trans one.serving
  labelled := fun serving asks labelled =>
    two.labelled (one.serving.trans serving) asks (one.labelled serving asks labelled)
  live := fun live => two.live (one.live live)

/-- What a request owes at a call: it creates the snapshot it is asked for and deletes
none. -/
def SourceCall (thread : Tid) (op : Op) (shared : Shared) : Prop :=
  match thread, op with
  | .request id, .createSnapshot snap => ∃ req volume, shared.inFlight id = some req ∧
      Asks volume snap.name req ∧ volumeOf snap = some volume
  | .request _, .deleteSnapshot _ => False
  | _, _ => True

/-- The answer names the volume of the snapshot. If no snapshot was deleted at the start,
as `deathless` tells, the snapshot is there. -/
def NamesSource (deathless : Prop) (answer : CreateSnapshotResponse) (shared : Shared) : Prop :=
  ∃ snapName, answer.snapshotId = answer.sourceVolumeId ++ "@" ++ snapName ∧
    LabelledWith answer.sourceVolumeId snapName shared.snapshots ∧
    (deathless → LiveOf shared.snapshots answer.sourceVolumeId snapName)

/-- Naming the source as a contract. -/
def sourcing (compile : Compile) (deathless : Prop) : Contract (cluster compile) where
  Inv := fun shared => Agreed shared ∧ (deathless → AllLive shared.snapshots)
  Rely := fun thread shared after => ∀ id, thread = .request id → Respected id shared after
  Guard := fun thread op _ shared => Disciplined (fun _ _ => True) thread op shared
  Ok := SourceCall
  Post := fun thread answer shared => ∀ id response, thread = .request id →
    answer = .createSnapshot (.ok response) → NamesSource deathless response shared
  rely_refl := fun _ shared id _ => .refl id shared
  rely_trans := fun first second id isRequest => (first id isRequest).trans (second id isRequest)

section Sound

variable {compile : Compile} {thread : Tid} {op : Op} {shared after : Shared} {id : Nat}

theorem SourceCall.deletes (owed : SourceCall thread op shared)
    (disciplined : Disciplined (fun _ _ => True) thread op shared) (deleter : Tid) (name : String) :
    some (thread, op) ≠ some (deleter, .deleteSnapshot name) := by
  intro isCaller
  cases isCaller
  obtain ⟨id, rfl⟩ := disciplined
  exact owed

theorem respected_of_effect (agreed : Agreed shared) (effect : Effect thread shared op after)
    (owed : SourceCall thread op shared)
    (disciplined : Disciplined (fun _ _ => True) thread op shared) :
    Respected id shared after where
  serving := by rw [effect.inFlight]
  labelled := by
    intro req volume snapName serving asks labelled
    apply labelledWith_of_change (effect.snapshotChange disciplined) _ labelled
    rintro creator snap isCaller rfl
    cases isCaller
    obtain ⟨maker, rfl⟩ := disciplined.request
    -- the creator is asked for a snapshot of the same name
    obtain ⟨otherReq, otherVolume, otherServing, otherAsks, label⟩ := owed
    rw [label, volume_eq_of_agrees (agreed.agrees serving otherServing) asks otherAsks]
  live := by
    intro volume name live
    rcases liveOf_of_change (effect.snapshotChange disciplined) live with kept | ⟨deleter, isCaller⟩
    · exact kept
    · exact absurd isCaller (owed.deletes disciplined deleter name)

theorem respected_of_drift (drift : Drift shared after)
    (serving : after.inFlight id = shared.inFlight id) : Respected id shared after where
  serving := serving
  labelled := fun _ _ labelled => labelledWith_of_change drift.snapshots
    (fun _ _ isCaller => nomatch isCaller) labelled
  live := by
    intro volume name live
    rcases liveOf_of_change drift.snapshots live with kept | ⟨deleter, isCaller⟩
    · exact kept
    · cases isCaller

theorem allLive_of_drift (drift : Drift shared after) (allLive : AllLive shared.snapshots) :
    AllLive after.snapshots :=
  allLive_of_change drift.snapshots (fun _ _ isCaller => nomatch isCaller) allLive

/-- The requests in flight after a step agree if they were in flight before. -/
theorem Agreed.mono (agreed : Agreed shared)
    (before : ∀ {id req}, after.inFlight id = some req → shared.inFlight id = some req) :
    Agreed after :=
  ⟨fun serving otherServing => agreed.agrees (before serving) (before otherServing)⟩

end Sound

/-! ## Programs -/

section Programs

variable {compile : Compile} {deathless : Prop} {id : Nat} {req : Request} {shared : Shared}
  {volume snapName : String}

theorem Op.Reads.sourceCall {thread : Tid} {op : Op} (reads : op.Reads) :
    SourceCall thread op shared := by
  unfold Op.Reads at reads
  split at reads <;> first | exact reads.elim | (cases thread <;> trivial)

/-- The request is being served, and the snapshot it asks for, if there is one, is of its
volume. -/
structure Checked (id : Nat) (req : Request) (volume snapName : String) (shared : Shared) :
    Prop where
  serving : shared.inFlight id = some req
  labelled : LabelledWith volume snapName shared.snapshots

theorem lasts_checked (asks : Asks volume snapName req) :
    Lasts (sourcing compile deathless) (.request id) (Checked id req volume snapName) := by
  intro before now moved checked
  have respected := moved id rfl
  constructor
  · exact respected.serving.trans checked.serving
  · exact respected.labelled checked.serving asks checked.labelled

theorem lasts_serving :
    Lasts (sourcing compile deathless) (.request id)
      (fun shared => shared.inFlight id = some req) :=
  fun _ _ moved serving => (moved id rfl).serving.trans serving

/-- What an answer owes is kept while the request is being served. -/
def Sourced (deathless : Prop) (id : Nat) (req : Request) (volume snapName : String)
    (result : Except Err CreateSnapshotResponse) (shared : Shared) : Prop :=
  Checked id req volume snapName shared ∧ ∀ response, result = .ok response →
    response.sourceVolumeId = volume ∧ response.snapshotId = volume ++ "@" ++ snapName ∧
      (deathless → LiveOf shared.snapshots volume snapName)

theorem lasts_sourced (asks : Asks volume snapName req)
    (result : Except Err CreateSnapshotResponse) :
    Lasts (sourcing compile deathless) (.request id)
      (Sourced deathless id req volume snapName result) := by
  rintro before now moved ⟨checked, answers⟩
  refine ⟨lasts_checked asks before now moved checked, fun response isOk => ?_⟩
  obtain ⟨source, named, live⟩ := answers response isOk
  exact ⟨source, named, fun holds => (moved id rfl).live (live holds)⟩

theorem ignoresLock_checked : IgnoresLock (Checked id req volume snapName) :=
  fun _ _ _ checked => ⟨checked.serving, checked.labelled⟩

theorem ignoresLock_sourced (result : Except Err CreateSnapshotResponse) :
    IgnoresLock (Sourced deathless id req volume snapName result) :=
  fun shared key holder sourced => ⟨ignoresLock_checked shared key holder sourced.1, sourced.2⟩

theorem Checked.failed (checked : Checked id req volume snapName shared) (err : Err) :
    Sourced deathless id req volume snapName (.error err) shared :=
  ⟨checked, fun _ isOk => nomatch isOk⟩

/-- A snapshot that has been read is answered for. -/
theorem Checked.answered (checked : Checked id req volume snapName shared) {snap : ZFSSnapshot}
    (stored : shared.snapshots.get snapName = some snap)
    (allLive : deathless → AllLive shared.snapshots) (time : Int) :
    Sourced deathless id req volume snapName (createSnapshotResponse volume snapName time snap)
      shared := by
  refine ⟨checked, fun response isOk => ?_⟩
  unfold createSnapshotResponse at isOk
  split at isOk
  · contradiction
  · cases isOk
    refine ⟨rfl, rfl, fun holds => ?_⟩
    exact ⟨snap, stored, allLive holds snapName snap stored, checked.labelled snap stored⟩

theorem sources_verifySnapshotRequest (asks : Asks volume snapName req)
    (serving : shared.inFlight id = some req) :
    (sourcing compile deathless).Keeps (.request id) (verifySnapshotRequest snapName volume)
      (fun result now => result = .ok () → Checked id req volume snapName now) shared := by
  -- a failed check answers nothing
  have refuses (err : Err) (now : Shared) : (sourcing compile deathless).Keeps (.request id)
      (pure (.error err) : Routine (Except Err Unit))
      (fun result now => result = .ok () → Checked id req volume snapName now) now :=
    fun _ _ _ isOk => nomatch isOk
  have passes {now : Shared}
      (checked : Checked id req volume snapName now) :
      (sourcing compile deathless).Keeps (.request id) (pure (.ok ()) : Routine (Except Err Unit))
        (fun result now => result = .ok () → Checked id req volume snapName now) now :=
    fun later moved _ _ => lasts_checked asks now later moved checked
  unfold verifySnapshotRequest
  split
  · exact refuses _ _
  · rename_i named
    apply keeps_getZFSSnapshot_bind
    · exact fun now _ _ => trivial
    · intro err now moved _ absent
      dsimp only
      split
      · rename_i notFound
        apply passes
        refine ⟨lasts_serving shared now moved serving, fun snap found => ?_⟩
        rw [absent notFound] at found
        contradiction
      · exact refuses _ _
    · intro snap choice now moved _ _ found
      dsimp only
      split
      · exact refuses _ _
      · rename_i isSource
        apply passes
        refine ⟨lasts_serving shared now moved serving, fun stored storedAt => ?_⟩
        obtain rfl := Option.some.inj (found.symm.trans storedAt)
        have label : (snap.labels.lookup ZFSVolKey).getD "" = volume := not_not.mp isSource
        -- a missing label reads as the empty string, which is no volume
        cases lookup : snap.labels.lookup ZFSVolKey with
        | none =>
            rw [lookup] at label
            exact absurd (.inr label.symm) named
        | some source =>
            rw [lookup] at label
            exact lookup.trans (congrArg some label)

theorem promise_sourced (asks : Asks volume snapName req) :
    Promise (sourcing compile deathless) (.request id)
      (Sourced deathless id req volume snapName) where
  lasts := lasts_sourced asks
  anyText := fun sourced => sourced.1.failed _

theorem sources_createSnapshotLocked (polls : Nat) (time : Int) {request : CreateSnapshotRequest}
    (asks : Asks volume snapName req) (named : Go.toLower request.name = snapName)
    (checked : Checked id req volume snapName shared) :
    (sourcing compile deathless).Keeps (.request id)
      (createSnapshotLocked polls time request volume snapName)
      (Sourced deathless id req volume snapName) shared := by
  apply (promise_sourced asks).createSnapshotLocked Op.Reads.sourceCall (lasts_checked asks)
    (fun checked => checked.failed _)
    (fun inv checked stored => checked.answered stored inv.2 time) _ checked
  intro snap spec now inv checked built
  obtain ⟨nameEq, label⟩ := name_snapshotObject built
  have owed : SourceCall (.request id) (.createSnapshot (snapshotOf snap spec)) now := by
    refine ⟨req, volume, checked.serving, ?_, label⟩
    rw [← named, ← nameEq] at asks
    exact asks
  constructor
  · exact owed
  · intro choice answer after disciplined executed
    have respected : Respected id now after :=
      respected_of_effect inv.1 (exec_effect executed) owed disciplined
    exact ⟨respected.serving.trans checked.serving,
      respected.labelled checked.serving asks checked.labelled⟩

/-- What a success owes lasts until the request leaves. -/
theorem sources_createSnapshot (polls : Nat) (time : Int) {request : CreateSnapshotRequest}
    (serving : shared.inFlight id = some (.createSnapshot polls time request)) :
    (sourcing compile deathless).Keeps (.request id) (Driver.createSnapshot polls time request)
      (fun result now => (∃ err, result = .error err) ∨
        Sourced deathless id (.createSnapshot polls time request)
          (Go.toLower request.sourceVolumeId) (Go.toLower request.name) result now) shared := by
  have asks : Asks (Go.toLower request.sourceVolumeId) (Go.toLower request.name)
      (.createSnapshot polls time request) := ⟨rfl, rfl⟩
  apply Contract.Keeps.bind
  apply (sources_verifySnapshotRequest asks serving).mono
  intro verified now _ checked
  cases verified with
  | error err => exact fun _ _ _ => .inl ⟨err, rfl⟩
  | ok done =>
      have locked : (sourcing compile deathless).Keeps (.request id)
          (lockVolumeWithSnapshot (Go.toLower request.sourceVolumeId) (Go.toLower request.name)
            (createSnapshotLocked polls time request (Go.toLower request.sourceVolumeId)
              (Go.toLower request.name)))
          (Sourced deathless id (.createSnapshot polls time request)
            (Go.toLower request.sourceVolumeId) (Go.toLower request.name)) now := by
        apply keeps_free_lockVolumeWithSnapshot ⟨trivial, trivial⟩ (lasts_checked asks)
          ignoresLock_checked (lasts_sourced asks) ignoresLock_sourced (checked rfl)
        exact fun now checked => sources_createSnapshotLocked polls time asks rfl checked
      exact locked.mono fun result later _ sourced => .inr sourced

theorem Sourced.names {response : CreateSnapshotResponse}
    (sourced : Sourced deathless id req volume snapName (.ok response) shared) :
    NamesSource deathless response shared := by
  obtain ⟨checked, answers⟩ := sourced
  obtain ⟨rfl, named, live⟩ := answers response rfl
  exact ⟨snapName, named, checked.labelled, live⟩

end Programs

/-! ## Every run -/

section Runs

variable {compile : Compile} {deathless : Prop} {start config : Config sig Shared Tid Answer}
  {Meets : Action Tid Choice Move Arrival → Config sig Shared Tid Answer → Prop}

/-- The requests that take a snapshot. -/
def Request.TakesSnapshot : Request → Prop
  | .createSnapshot _ _ _ => True
  | _ => False

/-- A request that arrives agrees with the requests in flight. -/
def ArrivesAgreed : Action Tid Choice Move Arrival → Config sig Shared Tid Answer → Prop :=
  ArrivesTo fun req shared =>
    ∀ other otherReq, shared.inFlight other = some otherReq → Agrees req otherReq

/-- A step of a run in which snapshots are taken, and no two requests for one snapshot name
and different volumes overlap. -/
structure SourceStep (action : Action Tid Choice Move Arrival)
    (config : Config sig Shared Tid Answer) : Prop where
  takes : Arrives Request.TakesSnapshot action config
  agreed : ArrivesAgreed action config

theorem Agreed.arrive {shared after : Shared} {arrival : Arrival} {thread : Tid}
    {program : Routine Answer} (agreed : Agreed shared)
    (effect : ArriveEffect compile shared arrival thread program after)
    (joins : ∀ id req, arrival = .request id req →
      ∀ other otherReq, shared.inFlight other = some otherReq → Agrees req otherReq) :
    Agreed after := by
  cases effect with
  | request id req unused =>
      have joins := joins id req rfl
      constructor
      intro one other oneReq otherReq serving otherServing
      by_cases isNew : one = id <;> by_cases otherIsNew : other = id <;>
        simp only [Function.update_apply, isNew, otherIsNew, if_true, if_false,
          Option.some.injEq] at serving otherServing
      · subst serving otherServing
        exact agrees_self req
      · subst serving
        exact joins other otherReq otherServing
      · subst otherServing
        exact (joins one oneReq serving).symm
      · exact agreed.agrees serving otherServing
  | syncVolume | syncSnapshot | syncBackup => exact agreed.mono fun serving => serving

theorem sources_serve {shared : Shared} {id : Nat} {req : Request}
    (takes : Request.TakesSnapshot req) (serving : shared.inFlight id = some req) :
    (sourcing compile deathless).Keeps (.request id) (serve compile req)
      ((sourcing compile deathless).Post (.request id)) shared := by
  cases req with
  | createSnapshot polls time request =>
      apply Contract.Keeps.bind
      apply (sources_createSnapshot polls time serving).mono
      intro result now _ ended later moved _ id' response isRequest isOk
      obtain rfl : result = .ok response := Answer.createSnapshot.inj isOk
      rcases ended with ⟨err, failed⟩ | sourced
      · contradiction
      · have asks : Asks (Go.toLower request.sourceVolumeId) (Go.toLower request.name)
            (.createSnapshot polls time request) := ⟨rfl, rfl⟩
        exact (lasts_sourced asks _ now later moved sourced).names
  | createVolume | deleteVolume | controllerExpandVolume | deleteSnapshot
  | nodeExpandVolume => exact takes.elim

theorem sourcing_sound (step : ∀ {action config}, Meets action config → SourceStep action config)
    (disciplined : ∀ {action config}, Meets action config →
      System.AtCalls (fun thread op _ shared => Disciplined (fun _ _ => True) thread op shared)
        action config) :
    (sourcing compile deathless).Sound Meets where
  guard := fun meets atCall => disciplined meets _ _ atCall
  call := by
    intro thread op choice before answer after inv owed guard executed
    have effect := exec_effect executed
    refine ⟨⟨?_, fun holds => ?_⟩, ?_⟩
    · apply inv.1.mono
      intro id req serving
      rwa [effect.inFlight] at serving
    · exact allLive_of_change (effect.snapshotChange guard) (owed.deletes guard) (inv.2 holds)
    · rintro other differs id rfl
      exact respected_of_effect inv.1 effect owed guard
  env := by
    intro config move after _ inv moved
    have effect := env_effect moved
    refine ⟨⟨?_, fun holds => ?_⟩, ?_⟩
    · apply inv.1.mono
      intro id req serving
      rwa [effect.inFlight] at serving
    · exact allLive_of_drift effect.drift (inv.2 holds)
    · rintro other id rfl
      exact respected_of_drift effect.drift (congrFun effect.inFlight id)
  arrive := by
    intro config arrival thread program after meets inv arrived _
    have effect := arrive_effect arrived
    refine ⟨⟨?_, fun holds => ?_⟩, ?_, ?_⟩
    · apply inv.1.arrive effect
      rintro id req rfl
      exact (step meets).agreed
    · exact allLive_of_drift effect.drift (inv.2 holds)
    · rintro other differs id rfl
      exact respected_of_drift effect.drift (effect.inFlight differs)
    · have takes := (step meets).takes
      cases effect with
      | request id req unused =>
          exact sources_serve takes (Function.update_self ..)
      | syncVolume | syncSnapshot | syncBackup =>
          apply keeps_work
          · exact fun _ _ _ => trivial
          · exact fun _ _ _ id _ isRequest => nomatch isRequest
  leave := by
    intro config thread answer _ inv _ _
    have effect := leave_effect thread answer config.shared
    refine ⟨⟨inv.1.mono effect.served, fun holds => ?_⟩, ?_⟩
    · exact allLive_of_drift effect.drift (inv.2 holds)
    · rintro other differs id rfl
      exact respected_of_drift effect.drift (effect.inFlight differs)

/-- Along every run in which no two requests for one snapshot name and different volumes
overlap: when `CreateSnapshot` returns success, the snapshot of its answer, if it is stored,
is labelled with the volume of its answer. It is stored unless a snapshot was deleted
before the run. -/
theorem snapshot_answer_names_source (idle : ∀ thread, start.threads thread = none)
    (quiet : ∀ id, start.shared.inFlight id = none)
    (reached : (cluster compile).Reaches SourceStep start config) {id : Nat}
    {response : CreateSnapshotResponse}
    (returns : config.threads (.request id) = some (.ret (.createSnapshot (.ok response)))) :
    ∃ snapName, response.snapshotId = response.sourceVolumeId ++ "@" ++ snapName ∧
      (∀ snap, config.shared.snapshots.get snapName = some snap →
        snap.labels.lookup ZFSVolKey = some response.sourceVolumeId) ∧
      ((∀ name snap, start.shared.snapshots.get name = some snap →
          snap.deletionTimestamp = false) →
        ∃ snap, config.shared.snapshots.get snapName = some snap) := by
  have initially : (sourcing compile (AllLive start.shared.snapshots)).Inv start.shared := by
    refine ⟨⟨fun {id _ _ _} serving => ?_⟩, fun allLive => allLive⟩
    rw [quiet id] at serving
    contradiction
  have disciplined := reaches_disciplined provisionsOnly_true idle reached
  have holds : (sourcing compile (AllLive start.shared.snapshots)).Holds config := by
    apply Contract.Sound.reaches _ initially idle disciplined
    exact sourcing_sound (fun meets => meets.1) fun meets => meets.2
  obtain ⟨snapName, named, labelled, live⟩ := holds.post_of_ret returns id response rfl rfl
  refine ⟨snapName, named, labelled, fun allLive => ?_⟩
  obtain ⟨snap, stored, _, _⟩ := live allLive
  exact ⟨snap, stored⟩

/-! ## Runs that are executed -/

/-- A request that arrives agrees with those of the given requests that are in flight. -/
abbrev AgreesAmong (ids : List Nat) :
    Action Tid Choice Move Arrival → Config sig Shared Tid Answer → Prop :=
  ArrivesTo fun req shared =>
    ∀ other ∈ ids, ∀ otherReq ∈ shared.inFlight other, Agrees req otherReq

instance (req other : Request) : Decidable (Agrees req other) := by
  apply @Request.casesOn _ req <;> intros <;> apply @Request.casesOn _ other <;> intros <;>
    dsimp only [Agrees] <;> infer_instance

instance : DecidablePred Request.TakesSnapshot
  | .createVolume _ _ | .deleteVolume _ | .controllerExpandVolume _ | .createSnapshot _ _ _
  | .deleteSnapshot _ | .nodeExpandVolume _ _ => by
      dsimp only [Request.TakesSnapshot]
      infer_instance

/-- Only the requests that arrive can be in flight. -/
theorem reaches_agreed {actions : List (Action Tid Choice Move Arrival)} (ids : List Nat)
    (reached : (cluster compile).Reaches (fun action config =>
      (Arrives Request.TakesSnapshot action config ∧ AgreesAmong ids action config) ∧
        action ∈ actions) start config)
    (fresh : ∀ id, start.shared.inFlight id = none)
    (only : ∀ id req, .arrive (.request id req) ∈ actions → id ∈ ids) :
    (cluster compile).Reaches SourceStep start config := by
  have agreed : (cluster compile).Reaches (fun action config =>
      ((Arrives Request.TakesSnapshot action config ∧ AgreesAmong ids action config) ∧
        action ∈ actions) ∧ ArrivesAgreed action config) start config := by
    apply reached.strengthen
    intro config action next reached meets _
    apply meets.1.2.mono
    intro req agrees other otherReq serving
    by_cases known : other ∈ ids
    · exact agrees other known otherReq serving
    · have unused : config.shared.inFlight other = none := by
        apply inFlight_of_reaches _ (fresh other) reached
        rintro action config ⟨_, mem⟩ req rfl
        exact known (only other req mem)
      rw [unused] at serving
      contradiction
  exact agreed.mono fun step => ⟨step.1.1.1, step.2⟩

/-- A cluster that holds two Ready volumes. -/
def twoVolumes : Shared :=
  { readyCluster with
    volumes := readyCluster.volumes.commit (.put { readyVolume with name := "w" }) }

/-- A request for the snapshot of a volume. -/
abbrev snapshotRequest (volume : String) : Request :=
  .createSnapshot 1 0 { sourceVolumeId := volume, name := "s" }

/-- Two requests for one snapshot name check it before either creates it. The second then
finds the snapshot of the first. -/
def racingRun (first second : String) : List (Action Tid Choice Move Arrival) :=
  [.arrive (.request 0 (snapshotRequest first)), .arrive (.request 1 (snapshotRequest second))] ++
    calls (.request 0) 1 ++ calls (.request 1) 1 ++ calls (.request 0) 8 ++ calls (.request 1) 5

/-- The request has returned success for the snapshot of the volume. -/
def returnsSource (config : Config sig Shared Tid Answer) (id : Nat) (volume : String) : Bool :=
  match config.threads (.request id) with
  | some (.ret (.createSnapshot (.ok response))) =>
      decide (response.sourceVolumeId = volume ∧ response.snapshotId = volume ++ "@s")
  | _ => false

theorem exists_of_returnsSource {id : Nat} {volume : String}
    (returns : returnsSource config id volume = true) :
    ∃ response, config.threads (.request id) = some (.ret (.createSnapshot (.ok response))) ∧
      response.sourceVolumeId = volume ∧ response.snapshotId = volume ++ "@s" := by
  unfold returnsSource at returns
  split at returns
  · rename_i response ended
    exact ⟨response, ended, of_decide_eq_true returns⟩
  · contradiction

/-- Both requests ask for a snapshot of one volume. -/
theorem snapshot_answer_names_source_racingRun :
    ∃ config response, (cluster noRegexp).Reaches SourceStep (idle twoVolumes) config ∧
      config.threads (.request 1) = some (.ret (.createSnapshot (.ok response))) ∧
      ∃ snapName, response.snapshotId = response.sourceVolumeId ++ "@" ++ snapName ∧
        (∀ snap, config.shared.snapshots.get snapName = some snap →
          snap.labels.lookup ZFSVolKey = some response.sourceVolumeId) ∧
        ((∀ name snap, (idle twoVolumes).shared.snapshots.get name = some snap →
            snap.deletionTimestamp = false) →
          ∃ snap, config.shared.snapshots.get snapName = some snap) := by
  have only : ∀ id req, .arrive (.request id req) ∈ racingRun "v" "v" → id ∈ [0, 1] := by
    intro id req
    simp only [racingRun, calls]
    simp
    tauto
  have ran : ((cluster noRegexp).run (fun action config =>
      Arrives Request.TakesSnapshot action config ∧ AgreesAmong [0, 1] action config)
      (racingRun "v" "v") (idle twoVolumes)).any (fun config => returnsSource config 1 "v") =
        true := by
    decide +kernel
  obtain ⟨config, last, returns⟩ := (Option.any_eq_true _ _).mp ran
  obtain ⟨response, ended, _, _⟩ := exists_of_returnsSource returns
  have reached := reaches_agreed [0, 1] (System.reaches_of_run last) (fun _ => rfl) only
  exact ⟨config, response, reached, ended,
    snapshot_answer_names_source (fun _ => rfl) (fun _ => rfl) reached ended⟩

/-- The second request asks for a snapshot of another volume, and answers for the snapshot of
the first. No call fails. -/
theorem snapshot_answer_names_other_source :
    ∃ config response snap, (cluster noRegexp).Reaches
        (fun action config => Arrives Request.TakesSnapshot action config ∧ Faultless action config)
        (idle twoVolumes) config ∧
      config.threads (.request 1) = some (.ret (.createSnapshot (.ok response))) ∧
      response.sourceVolumeId = "w" ∧ response.snapshotId = "w@s" ∧
      config.shared.snapshots.get "s" = some snap ∧ snap.labels.lookup ZFSVolKey = some "v" := by
  have ran : ((cluster noRegexp).run (fun action config =>
      Arrives Request.TakesSnapshot action config ∧ Faultless action config)
      (racingRun "v" "w") (idle twoVolumes)).any (fun config => returnsSource config 1 "w" &&
        (config.shared.snapshots.get "s").any fun snap =>
          decide (snap.labels.lookup ZFSVolKey = some "v")) = true := by
    decide +kernel
  obtain ⟨config, last, checked⟩ := (Option.any_eq_true _ _).mp ran
  obtain ⟨returns, present⟩ := Bool.and_eq_true_iff.mp checked
  obtain ⟨response, ended, source, named⟩ := exists_of_returnsSource returns
  obtain ⟨snap, stored, label⟩ := (Option.any_eq_true _ _).mp present
  have reached := System.reaches_of_run last
  exact ⟨config, response, snap, reached.mono fun step => step.1, ended, source, named, stored,
    of_decide_eq_true label⟩

end Runs

end ZfsLocalPv.Properties

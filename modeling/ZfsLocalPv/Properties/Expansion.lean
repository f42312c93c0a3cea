import Mathlib.Logic.Relation
import ZfsLocalPv.Cluster.Requests
import ZfsLocalPv.Interaction.Triple
import ZfsLocalPv.Properties.Resize

/-!
# Growing a volume

`ControllerExpandVolume` records the new capacity and asks for `NodeExpandVolume`, which sets the
size on the node of the volume. A controller that finds the capacity large enough answers that no
node has to do anything: it takes the record for the size. A response that is lost between the
two calls makes the retry say so too early.

A run is a sequence of calls, each of which may fail at any of its steps; that a call is cut off
is the case that all its later steps fail and its response is lost.
-/

namespace ZfsLocalPv.Properties

open Api ApiServer Cluster Driver Go Interaction Zfs

variable {thread : Tid} {name : String} {shared after : Shared}

/-! ## What the calls do -/

/-- The size on the node of the stored volume is its capacity. -/
def SizeApplied (name : String) (shared : Shared) : Prop :=
  ∃ vol, shared.volumes.get name = some vol ∧
    (shared.storage vol.spec.ownerNodeID).hasDataset (datasetOf vol) = true ∧
    (shared.storage vol.spec.ownerNodeID).valueOf (sizeProperty vol) (datasetOf vol) =
      vol.spec.capacity

theorem SizeApplied.congr (applied : SizeApplied name shared)
    (volumes : after.volumes = shared.volumes) (storage : after.storage = shared.storage) :
    SizeApplied name after := by
  unfold SizeApplied
  rw [volumes, storage]
  exact applied

/-- The capacity of the stored volume. -/
def capacityAt (name : String) (volumes : Resource VolumeInfo State) : Option String :=
  (volumes.get name).map fun vol => vol.spec.capacity

/-- The set gives the size property the capacity. -/
theorem valueOf_sizeProperty {storage : Storage} {vol : ZFSVolume}
    (present : storage.hasDataset (datasetOf vol) = true) :
    (storage.assign (buildVolumeResizeArgs vol) (datasetOf vol)).valueOf (sizeProperty vol)
      (datasetOf vol) = vol.spec.capacity := by
  rw [buildVolumeResizeArgs_eq]
  apply Storage.valueOf_assign_of_agree present
  · intro entry mem _
    obtain ⟨_, _, rfl⟩ := List.mem_map.mp mem
    rfl
  · refine ⟨_, List.mem_map.mpr ⟨sizeProperty vol, ?_, rfl⟩, rfl⟩
    unfold sizeProperty resizedProperties
    split
    · exact List.mem_append_left _ (List.mem_singleton_self _)
    · exact List.mem_append_left _ (List.mem_singleton_self _)

/-- A resize that succeeds has set the size. -/
theorem ensures_resizeZFSVolume (node : String) (vol : ZFSVolume) (mountpath : String)
    (resizefs : Bool) :
    Prog.Ensures (exec thread) (resizeZFSVolume node vol mountpath resizefs) shared
      fun answer final => final.volumes = shared.volumes ∧ (answer = .ok () →
        (final.storage node).hasDataset (datasetOf vol) = true ∧
        (final.storage node).valueOf (sizeProperty vol) (datasetOf vol) = vol.spec.capacity) := by
  unfold resizeZFSVolume
  dsimp only
  apply (ensures_runCmd node _ _ _).bind
  rintro got read ⟨getChoice, _, rfl⟩
  cases got with
  | error err => exact Prog.ensures_ret ⟨rfl, fun isOk => nomatch isOk⟩
  | ok oldReservation =>
      dsimp only
      apply (ensures_runCmd node _ _ _).bind
      rintro answer written ⟨setChoice, isAnswer, rfl⟩
      cases answer with
      | error err =>
          apply (ensures_runCmd node _ _ _).bind
          rintro _ _ ⟨_, _, rfl⟩
          exact Prog.ensures_ret ⟨rfl, fun isOk => nomatch isOk⟩
      | ok out =>
          obtain ⟨present, isAssigned⟩ := Storage.run_set_eq_some
            (zfsAnswer_ok (cmdAnswer_eq_ok_iff.mp isAnswer.symm))
          rw [isAssigned]
          have applied := valueOf_sizeProperty present
          rw [← Storage.hasDataset_assign _ (buildVolumeResizeArgs vol) (datasetOf vol)] at present
          dsimp only
          split
          · constructor
            intro result final returned
            obtain rfl := returns_same (calls_handleVolResize node vol mountpath) returned
            exact ⟨rfl, fun _ => by
              rw [Shared.storage_setStorage]
              exact ⟨present, applied⟩⟩
          · apply Prog.ensures_ret
            exact ⟨rfl, fun _ => by
              rw [Shared.storage_setStorage]
              exact ⟨present, applied⟩⟩

/-- `NodeExpandVolume` leaves the volumes alone; if it succeeds the size is applied. -/
theorem ensures_nodeExpandVolume {req : NodeExpandVolumeRequest} {vol : ZFSVolume}
    (stored : shared.volumes.get req.volumeId = some vol) :
    Prog.Ensures (exec thread) (nodeExpandVolume vol.spec.ownerNodeID req) shared
      fun answer final => final.volumes = shared.volumes ∧
        (answer.isOk = true → SizeApplied req.volumeId final) := by
  have failed (err : Err) (now : Shared) (same : now.volumes = shared.volumes) :
      Prog.Ensures (exec thread)
        (pure (.error err) : Routine (Except Err NodeExpandVolumeResponse)) now
        fun answer final => final.volumes = shared.volumes ∧
          (answer.isOk = true → SizeApplied req.volumeId final) :=
    Prog.ensures_ret ⟨same, fun isOk => nomatch isOk⟩
  unfold nodeExpandVolume
  split
  · exact failed _ shared rfl
  · apply ensures_getZFSVolume.bind
    rintro answer _ ⟨rfl, read⟩
    cases answer with
    | error err => exact failed _ _ rfl
    | ok found =>
        obtain rfl := Option.some.inj (stored.symm.trans (read found rfl))
        apply Prog.ensures_lift_bind
        intro choice answer middle executed
        obtain ⟨_, rfl⟩ := Prod.mk.inj (Option.some.inj executed)
        cases answer with
        | error message => exact failed _ _ rfl
        | ok isDir =>
            apply (ensures_resizeZFSVolume vol.spec.ownerNodeID vol req.volumePath isDir).bind
            rintro resized final ⟨same, applied⟩
            cases resized with
            | error err => exact failed _ final same
            | ok done =>
                apply Prog.ensures_ret
                obtain ⟨present, value⟩ := applied rfl
                exact ⟨same, fun _ => ⟨vol, same ▸ stored, present, value⟩⟩

/-- The stored volume was there before, with the same capacity or a smaller one. -/
def Grown (name : String) (before after : Resource VolumeInfo State) : Prop :=
  ∀ now, after.get name = some now → ∃ vol, before.get name = some vol ∧
    (now.spec.capacity = vol.spec.capacity ∨ ∃ old new, parseInt vol.spec.capacity = .ok old ∧
      parseInt now.spec.capacity = .ok new ∧ old < new)

theorem Grown.refl (name : String) (volumes : Resource VolumeInfo State) :
    Grown name volumes volumes :=
  fun vol stored => ⟨vol, stored, .inl rfl⟩

theorem Grown.trans {before between last : Resource VolumeInfo State}
    (first : Grown name before between) (second : Grown name between last) :
    Grown name before last := by
  intro now stored
  obtain ⟨middle, found, later⟩ := second now stored
  obtain ⟨vol, original, earlier⟩ := first middle found
  refine ⟨vol, original, ?_⟩
  rcases later with same | ⟨old, new, parsedOld, parsedNew, more⟩
  · rw [same]
    exact earlier
  · rcases earlier with same | ⟨oldest, mid, parsedOldest, parsedMid, less⟩
    · exact .inr ⟨old, new, same ▸ parsedOld, parsedNew, more⟩
    · cases parsedMid.symm.trans parsedOld
      exact .inr ⟨oldest, new, parsedOldest, parsedNew, less.trans more⟩

/-- The size a request asks for. -/
def requestedSize (req : ControllerExpandVolumeRequest) : Int :=
  getRoundedCapacity (getRequiredBytes req.capacityRange)

/-- The stored capacity is at least what the request asks for. -/
def LargeEnough (name : String) (req : ControllerExpandVolumeRequest)
    (volumes : Resource VolumeInfo State) : Prop :=
  ∃ vol volsize, volumes.get name = some vol ∧ parseInt vol.spec.capacity = .ok volsize ∧
    requestedSize req ≤ volsize

/-- What `ControllerExpandVolume` leaves: the volumes as they were, or a larger capacity.
It says that no node has to do anything if the capacity was large enough. -/
structure Recorded (req : ControllerExpandVolumeRequest) (before : Shared)
    (answer : Except Err ControllerExpandVolumeResponse) (after : Shared) : Prop where
  storage : after.storage = before.storage
  volumes : after.volumes = before.volumes ∨
    (capacityAt (toLower req.volumeId) after.volumes ≠
        capacityAt (toLower req.volumeId) before.volumes ∧
      Grown (toLower req.volumeId) before.volumes after.volumes)
  satisfied : ∀ response, answer = .ok response → response.nodeExpansionRequired = false →
    after.volumes = before.volumes ∧ LargeEnough (toLower req.volumeId) req before.volumes

theorem isInt64_requestedSize (req : ControllerExpandVolumeRequest) :
    IsInt64 (requestedSize req) := by
  unfold requestedSize getRoundedCapacity
  split
  · exact isInt64_wrap64 _
  · exact isInt64_wrap64 _

/-- An accepted record raises the capacity. -/
theorem grown_of_resize {vol : ZFSVolume} {volsize size : Int}
    {volumes next : Resource VolumeInfo State} (stored : volumes.get name = some vol)
    (parsed : parseInt vol.spec.capacity = .ok volsize) (inRange : IsInt64 size)
    (larger : volsize < size)
    (accepted : volumes.update
      { vol with spec := { vol.spec with capacity := formatInt size } } = .ok next) :
    capacityAt name next ≠ capacityAt name volumes ∧ Grown name volumes next := by
  have isNamed := Resource.name_of_get stored
  subst isNamed
  have capacity {now : ZFSVolume} (found : next.get vol.name = some now) :
      now.spec.capacity = formatInt size := by
    rw [Resource.stored_of_update accepted found]
  have grows := parseInt_formatInt inRange
  constructor
  · intro same
    simp only [capacityAt, stored, Option.map_some, Option.map_eq_some_iff] at same
    obtain ⟨now, found, kept⟩ := same
    rw [← kept, capacity found, grows] at parsed
    cases parsed
    exact absurd larger (Int.lt_irrefl _)
  · intro now found
    exact ⟨vol, stored, .inr ⟨volsize, size, parsed, (capacity found) ▸ grows, larger⟩⟩

theorem recorded_failed {req : ControllerExpandVolumeRequest} (err : Err) (shared : Shared) :
    Recorded req shared (.error err) shared where
  storage := rfl
  volumes := .inl rfl
  satisfied _ isOk := nomatch isOk

theorem ensures_expandVolumeLocked (req : ControllerExpandVolumeRequest) :
    Prog.Ensures (exec thread) (expandVolumeLocked (toLower req.volumeId) (requestedSize req))
      shared (Recorded req shared) := by
  apply ensures_getZFSVolume.bind
  rintro answer now ⟨rfl, read⟩
  cases answer with
  | error err => exact Prog.ensures_ret (recorded_failed _ _)
  | ok vol =>
      have stored := read vol rfl
      dsimp only
      split
      · exact Prog.ensures_ret (recorded_failed _ _)
      · rename_i volsize parsed
        split
        · rename_i enough
          apply Prog.ensures_ret
          exact ⟨rfl, .inl rfl, fun _ _ _ => ⟨rfl, vol, volsize, stored, parsed, enough⟩⟩
        · rename_i more
          apply Prog.ensures_lift_bind
          intro choice answer after executed
          have kept : after.storage = now.storage ∧ (after.volumes = now.volumes ∨
              (capacityAt (toLower req.volumeId) after.volumes ≠
                  capacityAt (toLower req.volumeId) now.volumes ∧
                Grown (toLower req.volumeId) now.volumes after.volumes)) := by
            rcases writeAnswer_cases (Option.some.inj executed) with
              ⟨rfl, _⟩ | ⟨next, accepted, rfl⟩
            · exact ⟨rfl, .inl rfl⟩
            · exact ⟨rfl, .inr (grown_of_resize stored parsed (isInt64_requestedSize req)
                (Int.not_le.mp more) accepted)⟩
          cases answer with
          | error err =>
              apply Prog.ensures_ret
              exact ⟨kept.1, kept.2, fun response isOk => nomatch isOk⟩
          | ok done =>
              apply Prog.ensures_ret
              refine ⟨kept.1, kept.2, ?_⟩
              rintro _ ⟨⟩ required
              contradiction

theorem ensures_controllerExpandVolume (req : ControllerExpandVolumeRequest) :
    Prog.Ensures (exec thread) (controllerExpandVolume req) shared (Recorded req shared) := by
  unfold controllerExpandVolume
  dsimp only
  split
  · exact Prog.ensures_ret (recorded_failed _ _)
  · apply ensures_lockVolume
    apply (ensures_expandVolumeLocked req).mono
    intro answer final recorded
    -- taking and releasing the lock changes neither the volumes nor the storage
    exact ⟨recorded.storage, recorded.volumes, recorded.satisfied⟩

/-! ## Runs -/

/-- Where a run of calls on one volume stands. -/
structure Expansion where
  shared : Shared
  /-- A response that asks for the node has been received. -/
  granted : Bool := false
  /-- Since the capacity was last raised `NodeExpandVolume` has succeeded, if it was raised
  at all, and has not failed later. -/
  settled : Bool := true

/-- A call of a run. -/
inductive ExpandCall
  | controller (req : ControllerExpandVolumeRequest)
  | node (req : NodeExpandVolumeRequest)

/-- The response asks for the node. -/
def asksForNode : Except Err ControllerExpandVolumeResponse → Bool
  | .ok response => response.nodeExpansionRequired
  | .error _ => false

/-- A call on the volume with any outcome. The node is called only after a response that
asks for it has been received; every response may be lost. -/
inductive ExpandStep (name : String) (state : Expansion) : ExpandCall → Expansion → Prop
  | controller {req : ControllerExpandVolumeRequest} (thread : Tid)
      (isVolume : toLower req.volumeId = name)
      {answer : Except Err ControllerExpandVolumeResponse} {after : Shared}
      (ran : Prog.Returns (exec thread) (controllerExpandVolume req) state.shared answer after)
      (received : Bool) :
      ExpandStep name state (.controller req) {
        shared := after
        granted := state.granted || (received && asksForNode answer)
        settled := state.settled &&
          decide (capacityAt name after.volumes = capacityAt name state.shared.volumes) }
  | node {req : NodeExpandVolumeRequest} (thread : Tid) (isVolume : req.volumeId = name)
      (granted : state.granted = true) {vol : ZFSVolume}
      (stored : state.shared.volumes.get name = some vol)
      {answer : Except Err NodeExpandVolumeResponse} {after : Shared}
      (ran : Prog.Returns (exec thread) (nodeExpandVolume vol.spec.ownerNodeID req) state.shared
        answer after) :
      ExpandStep name state (.node req) {
        shared := after
        granted := state.granted
        settled := answer.isOk }

/-- The runs whose calls all meet a condition on the state they are made in. -/
def ExpandRun (name : String) (Meets : Expansion → ExpandCall → Prop) :
    Expansion → Expansion → Prop :=
  Relation.ReflTransGen fun state next => ∃ call, Meets state call ∧ ExpandStep name state call next

/-- A controller is asked for no more than the recorded capacity only when the node is done
with that capacity. -/
def Patient (name : String) (state : Expansion) : ExpandCall → Prop
  | .controller req => LargeEnough name req state.shared.volumes → state.settled = true
  | .node _ => True

variable {state next : Expansion} {call : ExpandCall}

/-- No call makes the capacity smaller. -/
theorem ExpandStep.grown (step : ExpandStep name state call next) :
    Grown name state.shared.volumes next.shared.volumes := by
  cases step with
  | controller thread isVolume ran received =>
      subst isVolume
      rcases ((ensures_controllerExpandVolume _).of_returns ran).volumes with same | ⟨_, grown⟩
      · rw [same]
        exact .refl _ _
      · exact grown
  | node thread isVolume granted stored ran =>
      subst isVolume
      rw [((ensures_nodeExpandVolume stored).of_returns ran).1]
      exact .refl _ _

/-- What is settled is applied. -/
theorem ExpandStep.applied (step : ExpandStep name state call next)
    (applied : state.settled = true → SizeApplied name state.shared)
    (settled : next.settled = true) : SizeApplied name next.shared := by
  cases step with
  | controller thread isVolume ran received =>
      subst isVolume
      obtain ⟨before, same⟩ := Bool.and_eq_true_iff.mp settled
      have recorded := (ensures_controllerExpandVolume _).of_returns ran
      have volumes := recorded.volumes.resolve_right fun raised =>
        raised.1 (of_decide_eq_true same)
      exact (applied before).congr volumes recorded.storage
  | node thread isVolume granted stored ran =>
      subst isVolume
      exact ((ensures_nodeExpandVolume stored).of_returns ran).2 settled

theorem ExpandRun.grown {Meets : Expansion → ExpandCall → Prop} {start : Expansion}
    (run : ExpandRun name Meets start state) :
    Grown name start.shared.volumes state.shared.volumes := by
  induction run with
  | refl => exact .refl _ _
  | tail _ last ih =>
      obtain ⟨call, _, step⟩ := last
      exact ih.trans step.grown

theorem ExpandRun.applied {Meets : Expansion → ExpandCall → Prop} {start : Expansion}
    (run : ExpandRun name Meets start state) (applied : SizeApplied name start.shared) :
    state.settled = true → SizeApplied name state.shared := by
  induction run with
  | refl => exact fun _ => applied
  | tail _ last ih =>
      obtain ⟨call, _, step⟩ := last
      exact step.applied ih

/-- The capacity never decreases. In a run in which the controller is asked again only when
the node is done, it says that nothing is left to do only when the size is applied. -/
theorem no_expansion_lost {start : Expansion} (applied : SizeApplied name start.shared) :
    (∀ {Meets before state}, ExpandRun name Meets before state →
      ∀ vol now, before.shared.volumes.get name = some vol →
        state.shared.volumes.get name = some now →
        ∀ old new, parseInt vol.spec.capacity = .ok old → parseInt now.spec.capacity = .ok new →
          old ≤ new) ∧
    (∀ {state req thread response after}, ExpandRun name (Patient name) start state →
      Patient name state (.controller req) → toLower req.volumeId = name →
      Prog.Returns (exec thread) (controllerExpandVolume req) state.shared (.ok response) after →
      response.nodeExpansionRequired = false → SizeApplied name after) := by
  constructor
  · intro Meets before state run vol now stored found old new parsedOld parsedNew
    obtain ⟨original, isOriginal, kept⟩ := run.grown now found
    cases stored.symm.trans isOriginal
    rcases kept with same | ⟨smaller, larger, parsedSmaller, parsedLarger, less⟩
    · rw [same, parsedOld] at parsedNew
      cases parsedNew
      exact le_rfl
    · cases parsedOld.symm.trans parsedSmaller
      cases parsedNew.symm.trans parsedLarger
      exact less.le
  · rintro state req thread response after run patient rfl ran notRequired
    have recorded := (ensures_controllerExpandVolume req).of_returns ran
    obtain ⟨volumes, enough⟩ := recorded.satisfied response rfl notRequired
    exact (run.applied applied (patient enough)).congr volumes recorded.storage

/-! ## Two runs -/

/-- A Ready dataset of one mebibyte. -/
def smallDataset : ZFSVolume where
  name := "v"
  spec := { poolName := "p", ownerNodeID := "n", volumeType := .dataset, capacity := "1048576" }
  status := .ready

/-- It has that size on its node. -/
def smallCluster : Shared where
  volumes := Resource.empty.commit (.put smallDataset)
  storage := fun _ => {
    parents := ["p"]
    datasets := [{ dataset := ⟨"p", "v"⟩, properties := [("quota", "1048576")] }] }

theorem sizeApplied_smallCluster : SizeApplied "v" smallCluster :=
  ⟨_, rfl, rfl, rfl⟩

/-- Grow it to two mebibytes. -/
def growRequest : ControllerExpandVolumeRequest where
  volumeId := "v"
  capacityRange := some (2 * Mi)

/-- The node is asked to apply it. -/
def applyRequest : NodeExpandVolumeRequest where
  volumeId := "v"
  volumePath := "/mnt"

/-- The recorded size and the size on the node. -/
def recordedAndApplied (shared : Shared) : Option (String × String) :=
  (shared.volumes.get "v").map fun vol =>
    (vol.spec.capacity,
      (shared.storage vol.spec.ownerNodeID).valueOf (sizeProperty vol) (datasetOf vol))

/-- The controller records the size, then the node applies it, then the controller is asked
again. -/
def growInTurn : Option (Shared × Shared × Except Err ControllerExpandVolumeResponse × Shared) := do
  let (first, recorded) ← Prog.eval (exec (.request 0)) [{}, {}, {}, {}]
    (controllerExpandVolume growRequest) smallCluster
  let (second, applied) ← Prog.eval (exec (.request 1)) [{}, {}, {}, {}]
    (nodeExpandVolume "n" applyRequest) recorded
  let (third, final) ← Prog.eval (exec (.request 2)) [{}, {}, {}]
    (controllerExpandVolume growRequest) applied
  if asksForNode first ∧ second.isOk ∧
      (recorded.volumes.get "v").map (fun vol => vol.spec.ownerNodeID) = some "n" then
    some (recorded, applied, third, final)
  else
    none

/-- The first response is lost and the controller is asked again. -/
def growRetried : Option (Shared × Except Err ControllerExpandVolumeResponse × Shared) := do
  let (_, recorded) ← Prog.eval (exec (.request 0)) [{}, {}, {}, {}]
    (controllerExpandVolume growRequest) smallCluster
  let (second, final) ← Prog.eval (exec (.request 1)) [{}, {}, {}]
    (controllerExpandVolume growRequest) recorded
  some (recorded, second, final)

/-- The request is answered without asking for the node. -/
def satisfied : Except Err ControllerExpandVolumeResponse → Bool
  | .ok response => !response.nodeExpansionRequired
  | .error _ => false

theorem no_expansion_lost_in_turn :
    ∃ state response after, ExpandRun "v" (Patient "v") { shared := smallCluster } state ∧
      Prog.Returns (exec (.request 2)) (controllerExpandVolume growRequest) state.shared
        (.ok response) after ∧
      response.nodeExpansionRequired = false ∧ SizeApplied "v" after := by
  have ran : growInTurn.any (fun (_, _, answer, _) => satisfied answer) = true := by
    decide +kernel
  obtain ⟨⟨_, _, _, _⟩, evaluated, isSatisfied⟩ := (Option.any_eq_true _ _).mp ran
  simp only [growInTurn, Option.bind_eq_bind, Option.bind_eq_some_iff, Prod.exists,
    Option.ite_none_right_eq_some, Option.some.injEq, Prod.mk.injEq] at evaluated
  obtain ⟨first, recorded, ranFirst, second, applied, ranSecond, third, final, ranThird,
    ⟨asks, isOk, owner⟩, rfl, rfl, rfl, rfl⟩ := evaluated
  obtain ⟨vol, stored, isOwner⟩ := Option.map_eq_some_iff.mp owner
  rw [← isOwner] at ranSecond
  cases third with
  | error err => contradiction
  | ok response =>
      have notRequired : response.nodeExpansionRequired = false := by
        simpa [satisfied] using isSatisfied
      have isVolume : toLower growRequest.volumeId = "v" := rfl
      obtain ⟨middle, recording, rfl, granted⟩ : ∃ middle, ExpandStep "v"
          { shared := smallCluster } (.controller growRequest) middle ∧
            middle.shared = recorded ∧ middle.granted = true :=
        ⟨_, .controller (.request 0) isVolume (.intro _ ranFirst) true, rfl, asks⟩
      have applying : ExpandStep "v" middle (.node applyRequest) _ :=
        .node (.request 1) rfl granted stored (.intro _ ranSecond)
      have run : ExpandRun "v" (Patient "v") { shared := smallCluster } _ :=
        .tail (.single ⟨.controller growRequest, fun _ => rfl, recording⟩)
          ⟨.node applyRequest, trivial, applying⟩
      have returned : Prog.Returns (exec (.request 2)) (controllerExpandVolume growRequest) applied
          (.ok response) final := ⟨_, ranThird⟩
      exact ⟨_, response, final, run, returned, notRequired,
        (no_expansion_lost sizeApplied_smallCluster).2 run (fun _ => isOk) isVolume returned
          notRequired⟩

/-- The retry after a lost response says that nothing is left to do. -/
theorem expansion_lost :
    SizeApplied "v" smallCluster ∧
    ∃ state response after, ExpandRun "v" (fun _ _ => True) { shared := smallCluster } state ∧
      Prog.Returns (exec (.request 1)) (controllerExpandVolume growRequest) state.shared
        (.ok response) after ∧
      response.nodeExpansionRequired = false ∧ ¬ SizeApplied "v" after := by
  have ran : growRetried.any (fun (_, answer, final) => satisfied answer &&
      decide (recordedAndApplied final = some ("2097152", "1048576"))) = true := by
    decide +kernel
  obtain ⟨⟨_, _, _⟩, evaluated, checked⟩ := (Option.any_eq_true _ _).mp ran
  simp only [growRetried, Option.bind_eq_bind, Option.bind_eq_some_iff, Prod.exists,
    Option.some.injEq, Prod.mk.injEq] at evaluated
  obtain ⟨first, recorded, ranFirst, second, final, ranSecond, rfl, rfl, rfl⟩ := evaluated
  obtain ⟨isSatisfied, sizes⟩ := Bool.and_eq_true_iff.mp checked
  refine ⟨sizeApplied_smallCluster, ?_⟩
  cases second with
  | error err => contradiction
  | ok response =>
      have notRequired : response.nodeExpansionRequired = false := by
        simpa [satisfied] using isSatisfied
      have isVolume : toLower growRequest.volumeId = "v" := rfl
      have step : ExpandStep "v" { shared := smallCluster } (.controller growRequest) _ :=
        .controller (.request 0) isVolume (.intro _ ranFirst) false
      refine ⟨_, response, final, .single ⟨_, trivial, step⟩, ⟨_, ranSecond⟩, notRequired, ?_⟩
      rintro ⟨vol, stored, _, value⟩
      have sizes := of_decide_eq_true sizes
      simp only [recordedAndApplied, stored, Option.map_some, value] at sizes
      obtain ⟨isRecorded, isApplied⟩ := Prod.mk.inj (Option.some.inj sizes)
      rw [isRecorded] at isApplied
      exact absurd isApplied (by decide)

end ZfsLocalPv.Properties

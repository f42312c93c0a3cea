import ZfsLocalPv.ApiServer.Store

/-!
# Informers

A client's cache replays the changes of the store, those of one name in order but arbitrarily
late; its handlers see each replayed change and queue names for the worker. Replaying what is
pending gives the store. An informer lists the store once, at its start.
-/

namespace ZfsLocalPv.ApiServer

variable {Spec Status : Type}

/-- What a handler is told. -/
inductive Event (Spec Status : Type)
  | add (object : Object Spec Status)
  | update (old new : Object Spec Status)
  | delete (object : Object Spec Status)
  deriving DecidableEq

/-- The name a handler would put on the work queue. -/
def Event.name : Event Spec Status → String
  | .add object => object.name
  | .update _ new => new.name
  | .delete object => object.name

/-- One client's cache, what it has yet to replay, what its handlers have yet to
see, and the names they queued. -/
structure Informer (Spec Status : Type) where
  cache : View Spec Status := fun _ => none
  pending : List (Watch Spec Status) := []
  events : List (Event Spec Status) := []
  queue : List String := []

/-- Replay changes on a view. -/
def replay (view : View Spec Status) (changes : List (Watch Spec Status)) : View Spec Status :=
  changes.foldl (fun view change => change.applyTo view) view

@[simp]
theorem replay_nil (view : View Spec Status) : replay view [] = view :=
  rfl

@[simp]
theorem replay_cons (view : View Spec Status) (change : Watch Spec Status)
    (changes : List (Watch Spec Status)) :
    replay view (change :: changes) = replay (change.applyTo view) changes :=
  rfl

/-- A change commutes with changes of other names. -/
theorem replay_applyTo {change : Watch Spec Status} {changes : List (Watch Spec Status)}
    (others : ∀ other ∈ changes, other.name ≠ change.name) (view : View Spec Status) :
    replay (change.applyTo view) changes = change.applyTo (replay view changes) := by
  induction changes generalizing view with
  | nil => rfl
  | cons other changes ih =>
      have differs := others other (.head _)
      have swap : other.applyTo (change.applyTo view) = change.applyTo (other.applyTo view) :=
        Function.update_comm differs.symm ..
      rw [replay_cons, replay_cons, swap]
      exact ih (fun later mem => others later (.tail _ mem)) _

theorem replay_append (view : View Spec Status) (first second : List (Watch Spec Status)) :
    replay view (first ++ second) = replay (replay view first) second :=
  List.foldl_append ..

theorem replay_concat (view : View Spec Status) (changes : List (Watch Spec Status))
    (change : Watch Spec Status) :
    replay view (changes ++ [change]) = change.applyTo (replay view changes) :=
  List.foldl_concat ..

/-- What a replay shows was there before and untouched, or was put by it. -/
theorem replay_eq_some {view : View Spec Status} {changes : List (Watch Spec Status)}
    {name : String} {object : Object Spec Status}
    (shown : replay view changes name = some object) :
    (view name = some object ∧ ∀ change ∈ changes, change.name ≠ name) ∨
      (.put object ∈ changes ∧ object.name = name) := by
  induction changes generalizing view with
  | nil => exact .inl ⟨shown, by simp⟩
  | cons change changes ih =>
      rw [replay_cons] at shown
      rcases ih shown with ⟨before, untouched⟩ | ⟨mem, nameEq⟩
      · rcases Watch.applyTo_eq_some before with ⟨before, differs⟩ | ⟨rfl, nameEq⟩
        · refine .inl ⟨before, fun other mem => ?_⟩
          rcases List.mem_cons.mp mem with rfl | mem
          · exact differs
          · exact untouched other mem
        · exact .inr ⟨.head _, nameEq⟩
      · exact .inr ⟨.tail _ mem, nameEq⟩

/-- What a replay no longer shows was removed by it. -/
theorem exists_remove_of_replay {view : View Spec Status} {changes : List (Watch Spec Status)}
    {name : String} {object : Object Spec Status} (shown : view name = some object)
    (hidden : replay view changes name = none) :
    ∃ gone, .remove gone ∈ changes ∧ gone.name = name := by
  induction changes generalizing view object with
  | nil =>
      rw [replay_nil, shown] at hidden
      contradiction
  | cons change changes ih =>
      rw [replay_cons] at hidden
      have later {object : Object Spec Status} (shown : change.applyTo view name = some object) :
          ∃ gone, .remove gone ∈ change :: changes ∧ gone.name = name := by
        obtain ⟨gone, mem, nameEq⟩ := ih shown hidden
        exact ⟨gone, .tail _ mem, nameEq⟩
      by_cases same : name = change.name
      · subst same
        cases change with
        | put fresh => exact later (Watch.applyTo_self ..)
        | remove gone => exact ⟨gone, .head _, rfl⟩
      · rw [← Watch.applyTo_of_ne same view] at shown
        exact later shown

namespace Informer

/-- Of two objects put under one name, the later one is the newer one. -/
def Precedes (first second : Watch Spec Status) : Prop :=
  ∀ old new, first = .put old → second = .put new → old.name = new.name →
    old.resourceVersion < new.resourceVersion

/-- The informer is on its way to `truth`, along objects of the history. -/
structure Tracks (informer : Informer Spec Status) (truth : View Spec Status)
    (revision : Nat) (history : List (Object Spec Status)) : Prop where
  replays : replay informer.cache informer.pending = truth
  named : ∀ name object, informer.cache name = some object → object.name = name
  newer : ∀ name object, informer.cache name = some object →
    ∀ next, .put next ∈ informer.pending → next.name = name →
      object.resourceVersion < next.resourceVersion
  ordered : informer.pending.Pairwise Precedes
  cachedBound : ∀ name object, informer.cache name = some object →
    object.resourceVersion ≤ revision
  pendingBound : ∀ object, .put object ∈ informer.pending →
    object.resourceVersion ≤ revision
  cachedSeen : ∀ name object, informer.cache name = some object → object ∈ history
  pendingSeen : ∀ object, .put object ∈ informer.pending → object ∈ history

/-- The informer is told of a change. -/
def observe (informer : Informer Spec Status) (change : Watch Spec Status) :
    Informer Spec Status :=
  { informer with pending := informer.pending ++ [change] }

/-- The notification a replayed change gives rise to. -/
def notification (view : View Spec Status) : Watch Spec Status → Event Spec Status
  | .put object =>
      match view object.name with
      | none => .add object
      | some old => .update old object
  | .remove object => .delete object

/-- Replay the next change of a name. -/
def deliver (name : String) (informer : Informer Spec Status) :
    Option (Informer Spec Status) :=
  match informer.pending.find? fun change => decide (change.name = name) with
  | none => none
  | some change => some { informer with
      cache := change.applyTo informer.cache
      pending := informer.pending.eraseP fun other => decide (other.name = name)
      events := informer.events ++ [notification informer.cache change] }

/-- The periodic resync notifies the handlers of a cached object. -/
def resync (informer : Informer Spec Status) (name : String) :
    Option (Informer Spec Status) :=
  (informer.cache name).map fun object =>
    { informer with events := informer.events ++ [.update object object] }

/-- Put a name on the work queue. A name that is already there is not repeated. -/
def enqueue (informer : Informer Spec Status) (name : String) : Informer Spec Status :=
  { informer with queue := informer.queue.insert name }

/-- Run the handlers on the next notification. -/
def handle (wants : Event Spec Status → Bool) (informer : Informer Spec Status) :
    Option (Informer Spec Status) :=
  match informer.events with
  | [] => none
  | event :: events =>
      let rest := { informer with events := events }
      some (if wants event then rest.enqueue event.name else rest)

/-- A worker takes a name off the work queue. -/
def take (informer : Informer Spec Status) (name : String) :
    Option (Informer Spec Status) :=
  if name ∈ informer.queue then
    some { informer with queue := informer.queue.erase name }
  else
    none

variable {informer next : Informer Spec Status} {truth : View Spec Status} {revision : Nat}
  {history : List (Object Spec Status)}

/-- An informer that is told of every change stays on its way. -/
theorem Tracks.observe (tracks : informer.Tracks truth revision history)
    (change : Watch Spec Status) :
    (informer.observe (change.stamp (revision + 1))).Tracks
      ((change.stamp (revision + 1)).applyTo truth) (revision + 1)
      (history ++ (change.stamp (revision + 1)).entry.toList) where
  replays := by
    rw [Informer.observe, replay_concat, tracks.replays]
  named := tracks.named
  newer := by
    intro name object cached next mem nameEq
    rcases List.mem_append.mp mem with mem | mem
    · exact tracks.newer name object cached next mem nameEq
    · have bound := tracks.cachedBound name object cached
      cases change with
      | put fresh =>
          obtain rfl : next = { fresh with resourceVersion := revision + 1 } := by
            simpa using mem
          exact Nat.lt_succ_of_le bound
      | remove gone => simp at mem
  ordered := by
    refine List.pairwise_append.mpr ⟨tracks.ordered, List.pairwise_singleton _ _, ?_⟩
    intro first mem last lastMem old new oldEq newEq _
    subst oldEq newEq
    have bound := tracks.pendingBound old mem
    cases change with
    | put fresh =>
        obtain rfl : new = { fresh with resourceVersion := revision + 1 } := by
          simpa using lastMem
        exact Nat.lt_succ_of_le bound
    | remove gone => simp at lastMem
  cachedBound := fun name object cached =>
    Nat.le_succ_of_le (tracks.cachedBound name object cached)
  pendingBound := by
    intro object mem
    rcases List.mem_append.mp mem with mem | mem
    · exact Nat.le_succ_of_le (tracks.pendingBound object mem)
    · cases change with
      | put fresh =>
          obtain rfl : object = { fresh with resourceVersion := revision + 1 } := by
            simpa using mem
          exact Nat.le_refl _
      | remove gone => simp at mem
  cachedSeen := fun name object cached =>
    List.mem_append_left _ (tracks.cachedSeen name object cached)
  pendingSeen := by
    intro object mem
    rcases List.mem_append.mp mem with mem | mem
    · exact List.mem_append_left _ (tracks.pendingSeen object mem)
    · apply List.mem_append_right
      rw [← List.mem_singleton.mp mem]
      simp

/-- An informer has replayed one change, the first of its name. -/
structure Replayed (informer next : Informer Spec Status) (change : Watch Spec Status)
    (earlier later : List (Watch Spec Status)) : Prop where
  pendingBefore : informer.pending = earlier ++ change :: later
  pendingAfter : next.pending = earlier ++ later
  others : ∀ other ∈ earlier, other.name ≠ change.name
  cacheEq : next.cache = change.applyTo informer.cache

/-- The next change of the name is replayed, and the handlers are notified of it. -/
theorem deliver_notifies {name : String} (delivered : informer.deliver name = some next) :
    ∃ change earlier later, informer.Replayed next change earlier later ∧
      next.events = informer.events ++ [notification informer.cache change] ∧
      next.queue = informer.queue := by
  unfold deliver at delivered
  split at delivered
  · contradiction
  · rename_i change found
    obtain rfl := Option.some.inj delivered
    obtain ⟨named, earlier, later, pendingEq, others⟩ := List.find?_eq_some_iff_append.mp found
    have nameEq : change.name = name := of_decide_eq_true named
    have others : ∀ other ∈ earlier, ¬ decide (other.name = name) = true := by
      simpa using others
    refine ⟨change, earlier, later, ⟨pendingEq, ?_, ?_, rfl⟩, rfl, rfl⟩
    · dsimp only
      rw [pendingEq, List.eraseP_append_right _ others]
      simp [nameEq]
    · intro other mem
      rw [nameEq]
      simpa using others other mem

theorem deliver_eq_some {name : String} (delivered : informer.deliver name = some next) :
    ∃ change earlier later, informer.Replayed next change earlier later := by
  obtain ⟨change, earlier, later, replayed, _⟩ := deliver_notifies delivered
  exact ⟨change, earlier, later, replayed⟩

theorem Replayed.mem_pending {change other : Watch Spec Status}
    {earlier later : List (Watch Spec Status)}
    (replayed : informer.Replayed next change earlier later) (mem : other ∈ next.pending) :
    other ∈ informer.pending := by
  rw [replayed.pendingBefore]
  rw [replayed.pendingAfter] at mem
  rcases List.mem_append.mp mem with mem | mem
  · exact List.mem_append_left _ mem
  · exact List.mem_append_right _ (.tail _ mem)

/-- Every other change is still pending. -/
theorem Replayed.mem_of_ne {change other : Watch Spec Status}
    {earlier later : List (Watch Spec Status)}
    (replayed : informer.Replayed next change earlier later) (mem : other ∈ informer.pending)
    (differs : other ≠ change) : other ∈ next.pending := by
  rw [replayed.pendingAfter]
  rw [replayed.pendingBefore] at mem
  rcases List.mem_append.mp mem with mem | mem
  · exact List.mem_append_left _ mem
  · rcases List.mem_cons.mp mem with same | mem
    · exact absurd same differs
    · exact List.mem_append_right _ mem

theorem Replayed.change_mem {change : Watch Spec Status}
    {earlier later : List (Watch Spec Status)}
    (replayed : informer.Replayed next change earlier later) : change ∈ informer.pending := by
  rw [replayed.pendingBefore]
  exact List.mem_append_right _ (.head _)

/-- What is still pending of the name comes after the replayed change. -/
theorem Replayed.mem_later {change other : Watch Spec Status}
    {earlier later : List (Watch Spec Status)}
    (replayed : informer.Replayed next change earlier later) (mem : other ∈ next.pending)
    (nameEq : other.name = change.name) : other ∈ later := by
  rw [replayed.pendingAfter] at mem
  rcases List.mem_append.mp mem with mem | mem
  · exact absurd nameEq (replayed.others other mem)
  · exact mem

theorem Tracks.replayed {change : Watch Spec Status} {earlier later : List (Watch Spec Status)}
    (tracks : informer.Tracks truth revision history)
    (replayed : informer.Replayed next change earlier later) :
    next.Tracks truth revision history where
  replays := by
    have replays := tracks.replays
    rw [replayed.pendingBefore, replay_append, replay_cons] at replays
    rw [replayed.cacheEq, replayed.pendingAfter, replay_append, replay_applyTo replayed.others]
    exact replays
  named := by
    intro name object cached
    rw [replayed.cacheEq] at cached
    rcases Watch.applyTo_eq_some cached with ⟨cached, _⟩ | ⟨_, nameEq⟩
    · exact tracks.named name object cached
    · exact nameEq
  newer := by
    intro name object cached after mem nameEq
    rw [replayed.cacheEq] at cached
    rcases Watch.applyTo_eq_some cached with ⟨cached, _⟩ | ⟨rfl, rfl⟩
    · exact tracks.newer name object cached after (replayed.mem_pending mem) nameEq
    · have ordered := tracks.ordered
      rw [replayed.pendingBefore] at ordered
      have first := (List.pairwise_cons.mp (List.pairwise_append.mp ordered).2.1).1
      exact first _ (replayed.mem_later mem nameEq) object after rfl rfl nameEq.symm
  ordered := by
    have ordered := tracks.ordered
    rw [replayed.pendingBefore] at ordered
    rw [replayed.pendingAfter]
    exact ordered.sublist (List.Sublist.append (.refl _) (List.sublist_cons_self _ _))
  cachedBound := by
    intro name object cached
    rw [replayed.cacheEq] at cached
    rcases Watch.applyTo_eq_some cached with ⟨cached, _⟩ | ⟨rfl, _⟩
    · exact tracks.cachedBound name object cached
    · exact tracks.pendingBound object replayed.change_mem
  pendingBound := fun object mem => tracks.pendingBound object (replayed.mem_pending mem)
  cachedSeen := by
    intro name object cached
    rw [replayed.cacheEq] at cached
    rcases Watch.applyTo_eq_some cached with ⟨cached, _⟩ | ⟨rfl, _⟩
    · exact tracks.cachedSeen name object cached
    · exact tracks.pendingSeen object replayed.change_mem
  pendingSeen := fun object mem => tracks.pendingSeen object (replayed.mem_pending mem)

/-- Notifications and the work queue play no part in tracking. -/
theorem Tracks.congr (tracks : informer.Tracks truth revision history)
    (cacheEq : next.cache = informer.cache) (pendingEq : next.pending = informer.pending) :
    next.Tracks truth revision history where
  replays := by rw [cacheEq, pendingEq, tracks.replays]
  named := by rw [cacheEq]; exact tracks.named
  newer := by rw [cacheEq, pendingEq]; exact tracks.newer
  ordered := by rw [pendingEq]; exact tracks.ordered
  cachedBound := by rw [cacheEq]; exact tracks.cachedBound
  pendingBound := by rw [pendingEq]; exact tracks.pendingBound
  cachedSeen := by rw [cacheEq]; exact tracks.cachedSeen
  pendingSeen := by rw [pendingEq]; exact tracks.pendingSeen

theorem resync_eq_some {name : String} (resynced : informer.resync name = some next) :
    next.cache = informer.cache ∧ next.pending = informer.pending := by
  obtain ⟨object, _, rfl⟩ := Option.map_eq_some_iff.mp resynced
  exact ⟨rfl, rfl⟩

theorem handle_eq_some {wants : Event Spec Status → Bool}
    (handled : informer.handle wants = some next) :
    next.cache = informer.cache ∧ next.pending = informer.pending := by
  unfold handle at handled
  split at handled
  · contradiction
  · obtain rfl := Option.some.inj handled
    split
    · exact ⟨rfl, rfl⟩
    · exact ⟨rfl, rfl⟩

theorem take_eq_some {name : String} (taken : informer.take name = some next) :
    next.cache = informer.cache ∧ next.pending = informer.pending := by
  unfold take at taken
  split at taken
  · obtain rfl := Option.some.inj taken
    exact ⟨rfl, rfl⟩
  · contradiction

/-- A step of an informer that does not lose track of the store. -/
def KeepsTrack (step : Informer Spec Status → Option (Informer Spec Status)) : Prop :=
  ∀ informer next truth revision history, Tracks informer truth revision history →
    step informer = some next → Tracks next truth revision history

theorem keepsTrack_deliver (name : String) : KeepsTrack (@deliver Spec Status name) := by
  intro informer next truth revision history tracks delivered
  obtain ⟨change, earlier, later, replayed⟩ := deliver_eq_some delivered
  exact tracks.replayed replayed

theorem keepsTrack_of_eq {step : Informer Spec Status → Option (Informer Spec Status)}
    (same : ∀ {informer next}, step informer = some next →
      next.cache = informer.cache ∧ next.pending = informer.pending) : KeepsTrack step :=
  fun _ _ _ _ _ tracks stepped => tracks.congr (same stepped).1 (same stepped).2

end Informer

end ZfsLocalPv.ApiServer

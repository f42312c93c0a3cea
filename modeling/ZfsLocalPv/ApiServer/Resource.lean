import ZfsLocalPv.ApiServer.Informer

/-!
# A resource type with its store and informers

One resource type of the API server with the informer of every client node; no informer can be
off its way to the store. What a client learns from a copy is said by `Known`, `Passed` and
`Shows`, and survives the changes of the store.
-/

namespace ZfsLocalPv.ApiServer

/-- The store of one resource type and an informer for each client node. -/
structure Resource (Spec Status : Type) where
  revision : Nat
  store : Store Spec Status
  informers : String → Informer Spec Status
  /-- Every object that was ever stored. -/
  history : List (Object Spec Status)
  versions : ∀ name object, store.get name = some object → object.resourceVersion ≤ revision
  tracked : ∀ node, (informers node).Tracks store.get revision history

variable {Spec Status : Type}

namespace Resource

/-- The object of a name. -/
def get (resource : Resource Spec Status) : View Spec Status :=
  resource.store.get

/-- No object was ever stored. -/
def empty : Resource Spec Status where
  revision := 0
  store := Store.empty
  informers := fun _ => {}
  history := []
  versions := by
    intro name object found
    simp at found
  tracked := fun node => {
    replays := rfl
    named := by intro name object cached; contradiction
    newer := by intro name object cached; contradiction
    ordered := .nil
    cachedBound := by intro name object cached; contradiction
    pendingBound := by intro object mem; contradiction
    cachedSeen := by intro name object cached; contradiction
    pendingSeen := by intro object mem; contradiction }

/-- Publish a change under the next resource version. -/
def commit (resource : Resource Spec Status) (change : Watch Spec Status) :
    Resource Spec Status where
  revision := resource.revision + 1
  store := resource.store.apply (change.stamp (resource.revision + 1))
  informers := fun node =>
    (resource.informers node).observe (change.stamp (resource.revision + 1))
  history := resource.history ++ (change.stamp (resource.revision + 1)).entry.toList
  versions := by
    intro name object found
    rw [Store.get_apply] at found
    rcases Watch.applyTo_eq_some found with ⟨found, _⟩ | ⟨changeEq, _⟩
    · exact Nat.le_succ_of_le (resource.versions name object found)
    · cases change with
      | put fresh =>
          obtain rfl := Watch.put.inj changeEq
          exact Nat.le_refl _
      | remove gone => contradiction
  tracked := fun node => by
    rw [Store.get_apply]
    exact (resource.tracked node).observe change

/-- One informer makes a move of its own. -/
def move (resource : Resource Spec Status) (node : String)
    (step : Informer Spec Status → Option (Informer Spec Status))
    (keeps : Informer.KeepsTrack step) : Option (Resource Spec Status) :=
  match stepped : step (resource.informers node) with
  | none => none
  | some next => some { resource with
      informers := Function.update resource.informers node next
      tracked := fun other => by
        by_cases same : other = node
        · subst same
          rw [Function.update_self]
          exact keeps _ _ _ _ _ (resource.tracked other) stepped
        · rw [Function.update_of_ne same]
          exact resource.tracked other }

/-- A node's informer replays the next change of a name. -/
def deliver (node name : String) (resource : Resource Spec Status) :
    Option (Resource Spec Status) :=
  resource.move node (Informer.deliver name) (Informer.keepsTrack_deliver name)

/-- A node's informer notifies its handlers of a cached object once more. -/
def resync (node name : String) (resource : Resource Spec Status) :
    Option (Resource Spec Status) :=
  resource.move node (fun informer => informer.resync name)
    (Informer.keepsTrack_of_eq Informer.resync_eq_some)

/-- A node's handlers see the next notification. -/
def handle (node : String) (wants : Event Spec Status → Bool)
    (resource : Resource Spec Status) : Option (Resource Spec Status) :=
  resource.move node (Informer.handle wants) (Informer.keepsTrack_of_eq Informer.handle_eq_some)

/-- A worker of a node takes a name off its queue. -/
def take (node name : String) (resource : Resource Spec Status) :
    Option (Resource Spec Status) :=
  resource.move node (fun informer => informer.take name)
    (Informer.keepsTrack_of_eq Informer.take_eq_some)

/-- A worker of a node puts a name back on its queue. -/
def requeue (node name : String) (resource : Resource Spec Status) : Resource Spec Status where
  revision := resource.revision
  store := resource.store
  informers := Function.update resource.informers node ((resource.informers node).enqueue name)
  history := resource.history
  versions := resource.versions
  tracked := fun other => by
    by_cases same : other = node
    · subst same
      rw [Function.update_self]
      exact (resource.tracked other).congr rfl rfl
    · rw [Function.update_of_ne same]
      exact resource.tracked other

/-! ## Calls -/

/-- Publish the change an accepted write causes, if any. -/
def commit? (resource : Resource Spec Status) :
    Option (Watch Spec Status) → Resource Spec Status
  | none => resource
  | some change => resource.commit change

def create (object : Object Spec Status) (resource : Resource Spec Status) :
    Except ApiErr (Resource Spec Status) :=
  (ApiServer.create (resource.revision + 1) object resource.get).map resource.commit?

def update [DecidableEq Spec] [DecidableEq Status] (object : Object Spec Status)
    (resource : Resource Spec Status) : Except ApiErr (Resource Spec Status) :=
  (ApiServer.update object resource.get).map resource.commit?

def delete (name : String) (resource : Resource Spec Status) :
    Except ApiErr (Resource Spec Status) :=
  (ApiServer.delete name resource.get).map resource.commit?

/-- The garbage collector's move on one name. -/
def collect (name : String) (resource : Resource Spec Status) :
    Option (Resource Spec Status) :=
  (ApiServer.collect name resource.get).map resource.commit

/-! ## What a step changes -/

variable {resource next : Resource Spec Status} {change : Watch Spec Status}
  {object : Object Spec Status} {name node : String}

theorem name_of_get (found : resource.get name = some object) : object.name = name :=
  Store.name_of_get found

theorem get_commit (resource : Resource Spec Status) (change : Watch Spec Status) :
    (resource.commit change).get =
      (change.stamp (resource.revision + 1)).applyTo resource.get :=
  Store.get_apply ..

theorem get_commit_of_ne (differs : name ≠ change.name) :
    (resource.commit change).get name = resource.get name := by
  rw [get_commit]
  exact Watch.applyTo_of_ne (by rwa [Watch.name_stamp]) _

theorem get_commit_put (resource : Resource Spec Status) (object : Object Spec Status) :
    (resource.commit (.put object)).get object.name =
      some { object with resourceVersion := resource.revision + 1 } := by
  rw [get_commit]
  exact Watch.applyTo_self ..

theorem get_commit_remove (resource : Resource Spec Status) (object : Object Spec Status) :
    (resource.commit (.remove object)).get object.name = none := by
  rw [get_commit]
  exact Watch.applyTo_self ..

/-- An object found after a change is untouched, or is the one put, restamped. -/
theorem get_commit_eq_some (found : (resource.commit change).get name = some object) :
    (resource.get name = some object ∧ change.name ≠ name) ∨
      ∃ fresh, change = .put fresh ∧ fresh.name = name ∧
        object = { fresh with resourceVersion := resource.revision + 1 } := by
  rw [get_commit] at found
  rcases Watch.applyTo_eq_some found with ⟨found, differs⟩ | ⟨changeEq, nameEq⟩
  · rw [Watch.name_stamp] at differs
    exact .inl ⟨found, differs⟩
  · cases change with
    | put fresh =>
        obtain rfl := Watch.put.inj changeEq
        exact .inr ⟨fresh, rfl, nameEq, rfl⟩
    | remove gone => contradiction

/-- A move of an informer leaves the store and the other informers alone. -/
theorem move_eq_some {step : Informer Spec Status → Option (Informer Spec Status)}
    {keeps : Informer.KeepsTrack step}
    (moved : resource.move node step keeps = some next) :
    next.revision = resource.revision ∧ next.store = resource.store ∧
      next.history = resource.history ∧ ∃ informer, step (resource.informers node) = some informer ∧
        next.informers = Function.update resource.informers node informer := by
  unfold move at moved
  split at moved
  · contradiction
  · rename_i informer stepped
    obtain rfl := Option.some.inj moved
    exact ⟨rfl, rfl, rfl, informer, stepped, rfl⟩

theorem create_eq_ok (created : resource.create object = .ok next) :
    resource.get object.name = none ∧
      next = resource.commit (.put { object with
        uid := resource.revision + 1
        deletionTimestamp := false }) := by
  unfold create at created
  cases accepted : ApiServer.create (resource.revision + 1) object resource.get with
  | error refusal => simp [accepted, Except.map] at created
  | ok change =>
      simp only [accepted, Except.map, Except.ok.injEq] at created
      obtain ⟨absent, rfl⟩ := create_eq_ok_iff.mp accepted
      exact ⟨absent, created.symm⟩

/-- An accepted update was made from the stored version of the object. -/
theorem update_eq_ok [DecidableEq Spec] [DecidableEq Status]
    (updated : resource.update object = .ok next) :
    ∃ old, resource.get object.name = some old ∧
      old.resourceVersion = object.resourceVersion ∧
      ((next = resource ∧ merged old object = old) ∨
        (next = resource.commit (.remove (merged old object)) ∧
          old.deletionTimestamp = true ∧ object.finalizers = []) ∨
        (next = resource.commit (.put (merged old object)) ∧
          (old.deletionTimestamp = true →
            object.finalizers ⊆ old.finalizers ∧ object.finalizers ≠ []))) := by
  unfold update at updated
  cases accepted : ApiServer.update object resource.get with
  | error refusal => simp [accepted, Except.map] at updated
  | ok change =>
      simp only [accepted, Except.map, Except.ok.injEq] at updated
      subst updated
      obtain ⟨old, stored, versionEq, outcome⟩ := ApiServer.update_eq_ok accepted
      refine ⟨old, stored, versionEq, ?_⟩
      rcases outcome with ⟨rfl, same⟩ | ⟨rfl, last⟩ | ⟨rfl, kept⟩
      · exact .inl ⟨rfl, same⟩
      · exact .inr (.inl ⟨rfl, last⟩)
      · exact .inr (.inr ⟨rfl, kept⟩)

/-- What is stored after an accepted update is what the client has sent, up to what is
the server's to set. -/
theorem stored_of_update [DecidableEq Spec] [DecidableEq Status]
    {stored : Object Spec Status} (updated : resource.update object = .ok next)
    (found : next.get object.name = some stored) :
    stored = { object with
      uid := stored.uid
      resourceVersion := stored.resourceVersion
      deletionTimestamp := stored.deletionTimestamp } := by
  obtain ⟨old, storedOld, versionEq, ⟨rfl, same⟩ | ⟨rfl, _⟩ | ⟨rfl, _⟩⟩ := update_eq_ok updated
  · rw [storedOld] at found
    obtain rfl := Option.some.inj found
    rw [← same]
    rfl
  · have gone := get_commit_remove resource (merged old object)
    rw [show (merged old object).name = object.name from rfl, found] at gone
    contradiction
  · have put := get_commit_put resource (merged old object)
    rw [show (merged old object).name = object.name from rfl, found] at put
    obtain rfl := Option.some.inj put
    rfl

/-- A live object stays and takes the specification of an update. -/
theorem live_of_update [DecidableEq Spec] [DecidableEq Status]
    (updated : resource.update object = .ok next)
    (live : ∀ old, resource.get object.name = some old → Live old) :
    ∃ stored, next.get object.name = some stored ∧ stored.spec = object.spec ∧ Live stored := by
  obtain ⟨old, found, _, outcome⟩ := update_eq_ok updated
  have alive := live old found
  rcases outcome with ⟨rfl, same⟩ | ⟨_, deleted, _⟩ | ⟨rfl, _⟩
  · refine ⟨old, found, ?_, alive⟩
    rw [← same]
    rfl
  · rw [alive] at deleted
    contradiction
  · exact ⟨_, get_commit_put resource (merged old object), rfl, alive⟩

/-- What is created is live. -/
theorem live_of_create (created : resource.create object = .ok next) :
    ∃ stored, next.get object.name = some stored ∧ stored.spec = object.spec ∧ Live stored := by
  obtain ⟨_, rfl⟩ := create_eq_ok created
  exact ⟨_, get_commit_put .., rfl, rfl⟩

/-- What is stored after an accepted creation is what the client has sent, up to what
is the server's to set. -/
theorem stored_of_create {stored : Object Spec Status} (created : resource.create object = .ok next)
    (found : next.get object.name = some stored) :
    stored = { object with
      uid := stored.uid
      resourceVersion := stored.resourceVersion
      deletionTimestamp := stored.deletionTimestamp } := by
  obtain ⟨_, rfl⟩ := create_eq_ok created
  have put := get_commit_put resource { object with
    uid := resource.revision + 1
    deletionTimestamp := false }
  cases found.symm.trans put
  rfl

theorem delete_eq_ok (deleted : resource.delete name = .ok next) :
    ∃ old, resource.get name = some old ∧
      ((next = resource ∧ old.deletionTimestamp = true) ∨
        (next = resource.commit (.put (marked old)) ∧ old.deletionTimestamp = false)) := by
  unfold delete at deleted
  cases accepted : ApiServer.delete name resource.get with
  | error refusal => simp [accepted, Except.map] at deleted
  | ok change =>
      simp only [accepted, Except.map, Except.ok.injEq] at deleted
      subst deleted
      obtain ⟨old, stored, outcome⟩ := ApiServer.delete_eq_ok accepted
      refine ⟨old, stored, ?_⟩
      rcases outcome with ⟨rfl, before⟩ | ⟨rfl, before⟩
      · exact .inl ⟨rfl, before⟩
      · exact .inr ⟨rfl, before⟩

/-- Only what is not there cannot be deleted. -/
theorem absent_of_delete_eq_error {reason : ApiErr}
    (refused : resource.delete name = .error reason) : resource.get name = none := by
  unfold delete ApiServer.delete at refused
  split at refused
  · assumption
  · split at refused
    · contradiction
    · contradiction

/-- What is deleted was there and is deleted. -/
theorem deleted_of_delete (deleted : resource.delete name = .ok next) :
    (∃ old, resource.get name = some old) ∧
      ∀ object, next.get name = some object → object.deletionTimestamp = true := by
  obtain ⟨old, stored, outcome⟩ := delete_eq_ok deleted
  refine ⟨⟨old, stored⟩, fun object found => ?_⟩
  rcases outcome with ⟨rfl, before⟩ | ⟨rfl, live⟩
  · rw [stored] at found
    exact Option.some.inj found ▸ before
  · rcases get_commit_eq_some found with ⟨_, differs⟩ | ⟨put, putEq, _, objectEq⟩
    · exact absurd (name_of_get stored) differs
    · cases putEq
      rw [objectEq]
      rfl

theorem collect_eq_some (collected : resource.collect name = some next) :
    ∃ old, resource.get name = some old ∧ old.deletionTimestamp = true ∧
      ((next = resource.commit (.remove old) ∧
          ∀ kept ∈ old.finalizers, kept = foregroundDeletion) ∨
        next = resource.commit (.put (uncollected old))) := by
  obtain ⟨event, accepted, rfl⟩ := Option.map_eq_some_iff.mp collected
  obtain ⟨old, stored, deleted, outcome⟩ := ApiServer.collect_eq_some accepted
  refine ⟨old, stored, deleted, ?_⟩
  rcases outcome with ⟨rfl, last⟩ | rfl
  · exact .inl ⟨rfl, last⟩
  · exact .inr rfl

/-! ## What a client may rely on -/

/-- A copy of what was once stored, and still is unless the store has moved on. -/
structure Known (resource : Resource Spec Status) (copy : Object Spec Status) : Prop where
  bound : copy.resourceVersion ≤ resource.revision
  current : ∀ stored, resource.get copy.name = some stored →
    stored.resourceVersion = copy.resourceVersion → stored = copy
  seen : copy ∈ resource.history

/-- A node's informer has replayed every change of a name up to a version. -/
def Passed (resource : Resource Spec Status) (node name : String) (version : Nat) : Prop :=
  ∀ object, .put object ∈ (resource.informers node).pending → object.name = name →
    version < object.resourceVersion

/-- A node's informer shows a name, now and until the store is changed again,
only in states satisfying `P`. -/
def Shows (resource : Resource Spec Status) (node name : String)
    (P : Object Spec Status → Prop) : Prop :=
  (∃ cached, (resource.informers node).cache name = some cached ∧ P cached) ∧
    ∀ change ∈ (resource.informers node).pending, change.name = name →
      ∃ object, change = .put object ∧ P object

theorem mem_history_of_get (found : resource.get name = some object) :
    object ∈ resource.history := by
  -- the informer of any node will come to show it
  have shown : replay (resource.informers "").cache (resource.informers "").pending name =
      some object := by
    rw [(resource.tracked "").replays]
    exact found
  rcases replay_eq_some shown with ⟨cached, _⟩ | ⟨pending, _⟩
  · exact (resource.tracked "").cachedSeen name object cached
  · exact (resource.tracked "").pendingSeen object pending

theorem known_of_get (found : resource.get name = some object) : resource.Known object := by
  obtain rfl := name_of_get found
  constructor
  · exact resource.versions _ _ found
  · intro stored stored' _
    rw [found] at stored'
    exact (Option.some.inj stored').symm
  · exact mem_history_of_get found

theorem passed_of_cached (cached : (resource.informers node).cache name = some object) :
    resource.Passed node name object.resourceVersion :=
  (resource.tracked node).newer name object cached

/-- An informer that has passed the stored version has nothing pending on the
name and caches what the store holds. -/
theorem cached_of_passed {version : Nat} (passed : resource.Passed node name version)
    (stored : resource.get name = some object) (old : object.resourceVersion ≤ version) :
    (resource.informers node).cache name = some object ∧
      ∀ change ∈ (resource.informers node).pending, change.name ≠ name := by
  have shown : replay (resource.informers node).cache (resource.informers node).pending name =
      some object := by
    rw [(resource.tracked node).replays]
    exact stored
  rcases replay_eq_some shown with settled | ⟨mem, nameEq⟩
  · exact settled
  · have newer := passed object mem nameEq
    omega

theorem known_of_cached (cached : (resource.informers node).cache name = some object) :
    resource.Known object := by
  have nameEq := (resource.tracked node).named name object cached
  subst nameEq
  constructor
  · exact (resource.tracked node).cachedBound _ _ cached
  · intro stored found versionEq
    have settled := cached_of_passed (passed_of_cached cached) found (Nat.le_of_eq versionEq)
    rw [cached] at settled
    exact (Option.some.inj settled.1).symm
  · exact (resource.tracked node).cachedSeen _ _ cached

/-- The store and the informers only move forward: what is stored later under a
version of now is stored now. -/
structure Advances (resource next : Resource Spec Status) : Prop where
  revision : resource.revision ≤ next.revision
  old : ∀ name object, next.get name = some object →
    object.resourceVersion ≤ resource.revision → resource.get name = some object
  passed : ∀ node name version, version ≤ resource.revision →
    resource.Passed node name version → next.Passed node name version
  history : resource.history ⊆ next.history

theorem Advances.refl (resource : Resource Spec Status) : resource.Advances resource where
  revision := Nat.le_refl _
  old := fun _ _ stored _ => stored
  passed := fun _ _ _ _ passed => passed
  history := fun _ mem => mem

theorem Advances.trans {last : Resource Spec Status} (first : resource.Advances next)
    (second : next.Advances last) : resource.Advances last where
  revision := Nat.le_trans first.revision second.revision
  old := by
    intro name object stored bound
    exact first.old name object
      (second.old name object stored (Nat.le_trans bound first.revision)) bound
  passed := fun node name version bound passed =>
    second.passed node name version (Nat.le_trans bound first.revision)
      (first.passed node name version bound passed)
  history := fun _ mem => second.history (first.history mem)

/-- A copy stays known. -/
theorem Advances.known (advances : resource.Advances next) (copy : Object Spec Status)
    (known : resource.Known copy) : next.Known copy := by
  constructor
  · exact Nat.le_trans known.bound advances.revision
  · intro stored found versionEq
    have bound : stored.resourceVersion ≤ resource.revision := by
      rw [versionEq]
      exact known.bound
    exact known.current stored (advances.old copy.name stored found bound) versionEq
  · exact advances.history known.seen

theorem advances_commit (resource : Resource Spec Status) (change : Watch Spec Status) :
    resource.Advances (resource.commit change) where
  revision := Nat.le_succ _
  old := by
    intro name object stored bound
    rcases get_commit_eq_some stored with ⟨stored, _⟩ | ⟨fresh, _, _, rfl⟩
    · exact stored
    · exact absurd bound (Nat.not_succ_le_self _)
  passed := by
    intro node name version bound passed object mem nameEq
    rcases List.mem_append.mp mem with mem | mem
    · exact passed object mem nameEq
    · cases change with
      | put fresh =>
          obtain rfl : object = { fresh with resourceVersion := resource.revision + 1 } := by
            simpa using mem
          exact Nat.lt_succ_of_le bound
      | remove gone => simp at mem
  history := fun _ mem => List.mem_append_left _ mem

theorem advances_commit? (resource : Resource Spec Status)
    (change : Option (Watch Spec Status)) : resource.Advances (resource.commit? change) := by
  cases change with
  | none => exact .refl resource
  | some change => exact advances_commit resource change

/-- An accepted write moves the store forward. -/
theorem advances_of_write {written : Except ApiErr (Option (Watch Spec Status))}
    (accepted : written.map resource.commit? = .ok next) : resource.Advances next := by
  cases written with
  | error refusal => simp [Except.map] at accepted
  | ok change =>
      obtain rfl : resource.commit? change = next := Except.ok.inj accepted
      exact advances_commit? resource change

theorem advances_of_create (created : resource.create object = .ok next) :
    resource.Advances next :=
  advances_of_write created

theorem advances_of_update [DecidableEq Spec] [DecidableEq Status]
    (updated : resource.update object = .ok next) : resource.Advances next :=
  advances_of_write updated

theorem advances_of_delete (deleted : resource.delete name = .ok next) :
    resource.Advances next :=
  advances_of_write deleted

theorem advances_of_collect (collected : resource.collect name = some next) :
    resource.Advances next := by
  obtain ⟨event, _, rfl⟩ := Option.map_eq_some_iff.mp collected
  exact advances_commit resource event

/-- A client on a node holds a copy that the node's informer has shown it. -/
structure Held (resource : Resource Spec Status) (node name : String)
    (copy : Object Spec Status) : Prop where
  nameEq : copy.name = name
  known : resource.Known copy
  passed : resource.Passed node name copy.resourceVersion

theorem held_of_cached (cached : (resource.informers node).cache name = some object) :
    resource.Held node name object where
  nameEq := (resource.tracked node).named name object cached
  known := known_of_cached cached
  passed := passed_of_cached cached

theorem Held.advance (held : resource.Held node name object) (advances : resource.Advances next) :
    next.Held node name object where
  nameEq := held.nameEq
  known := advances.known object held.known
  passed := advances.passed node name _ held.known.bound held.passed

/-! ## Moves of the informers -/

/-- An informer has replayed nothing or one change. -/
def Replays (informer next : Informer Spec Status) : Prop :=
  (next.cache = informer.cache ∧ next.pending = informer.pending) ∨
    ∃ change earlier later, informer.Replayed next change earlier later

/-- Only informers have moved. -/
structure Quiet (resource next : Resource Spec Status) : Prop where
  revision : next.revision = resource.revision
  store : next.store = resource.store
  history : next.history = resource.history
  informers : ∀ node, Replays (resource.informers node) (next.informers node)

theorem quiet_of_move {step : Informer Spec Status → Option (Informer Spec Status)}
    {keeps : Informer.KeepsTrack step}
    (moved : resource.move node step keeps = some next)
    (replays : ∀ {informer next}, step informer = some next → Replays informer next) :
    resource.Quiet next := by
  obtain ⟨revisionEq, storeEq, historyEq, informer, stepped, informersEq⟩ := move_eq_some moved
  constructor
  · exact revisionEq
  · exact storeEq
  · exact historyEq
  · intro other
    rw [informersEq]
    by_cases same : other = node
    · subst same
      rw [Function.update_self]
      exact replays stepped
    · rw [Function.update_of_ne same]
      exact .inl ⟨rfl, rfl⟩

theorem quiet_deliver (delivered : resource.deliver node name = some next) :
    resource.Quiet next :=
  quiet_of_move delivered fun stepped => .inr (Informer.deliver_eq_some stepped)

theorem quiet_resync (resynced : resource.resync node name = some next) :
    resource.Quiet next :=
  quiet_of_move resynced fun stepped => .inl (Informer.resync_eq_some stepped)

theorem quiet_handle {wants : Event Spec Status → Bool}
    (handled : resource.handle node wants = some next) : resource.Quiet next :=
  quiet_of_move handled fun stepped => .inl (Informer.handle_eq_some stepped)

theorem quiet_take (taken : resource.take node name = some next) : resource.Quiet next :=
  quiet_of_move taken fun stepped => .inl (Informer.take_eq_some stepped)

theorem quiet_requeue (node name : String) (resource : Resource Spec Status) :
    resource.Quiet (resource.requeue node name) := by
  constructor
  · rfl
  · rfl
  · rfl
  · intro other
    simp only [requeue]
    by_cases same : other = node
    · subst same
      rw [Function.update_self]
      exact .inl ⟨rfl, rfl⟩
    · rw [Function.update_of_ne same]
      exact .inl ⟨rfl, rfl⟩

theorem Quiet.get (quiet : resource.Quiet next) : next.get = resource.get := by
  unfold Resource.get
  rw [quiet.store]

theorem Quiet.mem_pending (quiet : resource.Quiet next)
    (mem : change ∈ (next.informers node).pending) :
    change ∈ (resource.informers node).pending := by
  rcases quiet.informers node with ⟨_, pendingEq⟩ | ⟨first, earlier, later, replayed⟩
  · rwa [pendingEq] at mem
  · exact replayed.mem_pending mem

theorem Quiet.advances (quiet : resource.Quiet next) : resource.Advances next where
  revision := Nat.le_of_eq quiet.revision.symm
  old := by
    intro name object stored _
    rw [quiet.get] at stored
    exact stored
  passed := fun _ _ _ _ passed object mem => passed object (quiet.mem_pending mem)
  history := fun _ mem => by rwa [quiet.history]

/-! ## What an informer shows -/

variable {P : Object Spec Status → Prop}

/-- An informer that has passed the stored version shows nothing else. -/
theorem shows_of_passed {version : Nat} (passed : resource.Passed node name version)
    (stored : resource.get name = some object) (old : object.resourceVersion ≤ version)
    (holds : P object) : resource.Shows node name P := by
  obtain ⟨cached, untouched⟩ := cached_of_passed passed stored old
  constructor
  · exact ⟨object, cached, holds⟩
  · intro change mem nameEq
    exact absurd nameEq (untouched change mem)

theorem Shows.quiet (shows : resource.Shows node name P) (quiet : resource.Quiet next) :
    next.Shows node name P := by
  obtain ⟨⟨cached, isCached, holds⟩, pending⟩ := shows
  constructor
  · rcases quiet.informers node with ⟨cacheEq, _⟩ | ⟨change, earlier, later, replayed⟩
    · exact ⟨cached, by rw [cacheEq]; exact isCached, holds⟩
    · by_cases same : name = change.name
      · obtain ⟨object, rfl, holds'⟩ := pending change replayed.change_mem same.symm
        refine ⟨object, ?_, holds'⟩
        rw [replayed.cacheEq, same, Watch.applyTo_self, Watch.entry_put]
      · refine ⟨cached, ?_, holds⟩
        rw [replayed.cacheEq, Watch.applyTo_of_ne same]
        exact isCached
  · intro change mem
    exact pending change (quiet.mem_pending mem)

theorem Shows.commit_of_ne (shows : resource.Shows node name P)
    (differs : change.name ≠ name) : (resource.commit change).Shows node name P := by
  constructor
  · exact shows.1
  · intro other mem nameEq
    rcases List.mem_append.mp mem with mem | mem
    · exact shows.2 other mem nameEq
    · obtain rfl := List.mem_singleton.mp mem
      exact absurd ((Watch.name_stamp _ _).symm.trans nameEq) differs

theorem Shows.commit_put (shows : resource.Shows node name P)
    (holds : P { object with resourceVersion := resource.revision + 1 }) :
    (resource.commit (.put object)).Shows node name P := by
  constructor
  · exact shows.1
  · intro other mem nameEq
    rcases List.mem_append.mp mem with mem | mem
    · exact shows.2 other mem nameEq
    · obtain rfl := List.mem_singleton.mp mem
      exact ⟨_, rfl, holds⟩

theorem Shows.of_cached (shows : resource.Shows node name P)
    (cached : (resource.informers node).cache name = some object) : P object := by
  obtain ⟨⟨other, isCached, holds⟩, _⟩ := shows
  rw [cached] at isCached
  obtain rfl := Option.some.inj isCached
  exact holds

/-! ## What every version satisfies -/

/-- Every object that was ever stored satisfies `P`. -/
def Everywhere (resource : Resource Spec Status) (P : Object Spec Status → Prop) : Prop :=
  ∀ object ∈ resource.history, P object

theorem everywhere_empty : (empty : Resource Spec Status).Everywhere P := by
  intro object mem
  contradiction

theorem Everywhere.quiet (all : resource.Everywhere P) (quiet : resource.Quiet next) :
    next.Everywhere P := by
  intro object mem
  rw [quiet.history] at mem
  exact all object mem

theorem Everywhere.commit (all : resource.Everywhere P)
    (holds : ∀ object, change = .put object →
      P { object with resourceVersion := resource.revision + 1 }) :
    (resource.commit change).Everywhere P := by
  intro object mem
  rcases List.mem_append.mp mem with mem | mem
  · exact all object mem
  · cases change with
    | put fresh =>
        obtain rfl : object = { fresh with resourceVersion := resource.revision + 1 } := by
          simpa using mem
        exact holds fresh rfl
    | remove gone => simp at mem

theorem Everywhere.stored (all : resource.Everywhere P) (found : resource.get name = some object) :
    P object :=
  all object (mem_history_of_get found)

end Resource

end ZfsLocalPv.ApiServer

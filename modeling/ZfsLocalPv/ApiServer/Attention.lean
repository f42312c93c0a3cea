import ZfsLocalPv.ApiServer.Change
import ZfsLocalPv.ApiServer.Lineage

/-!
# Work that waits

A client acts on a name only when a worker takes it off the queue, and only a handler that is
notified of a change puts it there. An object that asks for work is attended to as long as its
name is queued, or will be by what the informer has yet to replay or the handlers have yet to
see. Every change of the store and every move of an informer keeps names attended to, except that
a worker takes the name; what the worker has to do before it may drop the name is then a question
about its program alone.
-/

namespace ZfsLocalPv.ApiServer

variable {Spec Status : Type} {wants : Event Spec Status → Bool}
  {Asks : Object Spec Status → Prop} {R : Object Spec Status → Object Spec Status → Prop}
  {name : String}

/-- The handlers queue a name that appears with an object that asks for work, and one that a
change of the kind `R` makes ask for work. -/
structure Heeds (wants : Event Spec Status → Bool) (Asks : Object Spec Status → Prop)
    (R : Object Spec Status → Object Spec Status → Prop) : Prop where
  add : ∀ object, Asks object → wants (.add object) = true
  update : ∀ old new, R old new → Asks new → wants (.update old new) = true

namespace Informer

variable {informer next : Informer Spec Status}

/-- A worker will look at the name: it is queued, the handlers have yet to see a notification
that makes them queue it, or a change of it has yet to be replayed. -/
def Awaits (wants : Event Spec Status → Bool) (name : String) (informer : Informer Spec Status) :
    Prop :=
  name ∈ informer.queue ∨ (∃ event ∈ informer.events, event.name = name ∧ wants event = true) ∨
    ∃ change ∈ informer.pending, change.name = name

/-- An object that asks for work is not forgotten. -/
def Attends (wants : Event Spec Status → Bool) (Asks : Object Spec Status → Prop) (name : String)
    (informer : Informer Spec Status) : Prop :=
  ∀ object, informer.cache name = some object → Asks object → informer.Awaits wants name

theorem awaits_of_pending {change : Watch Spec Status} (mem : change ∈ informer.pending)
    (named : change.name = name) : informer.Awaits wants name :=
  .inr (.inr ⟨change, mem, named⟩)

theorem attends_of_awaits (awaits : informer.Awaits wants name) :
    informer.Attends wants Asks name :=
  fun _ _ _ => awaits

theorem attends_of_absent (absent : informer.cache name = none) :
    informer.Attends wants Asks name := by
  intro object cached
  rw [absent] at cached
  contradiction

/-- A move that shows nothing new and keeps names waiting. -/
theorem Attends.congr (attends : informer.Attends wants Asks name)
    (cacheEq : next.cache = informer.cache)
    (awaits : informer.Awaits wants name → next.Awaits wants name) :
    next.Attends wants Asks name := by
  intro object cached asks
  rw [cacheEq] at cached
  exact awaits (attends object cached asks)

theorem Attends.observe (attends : informer.Attends wants Asks name)
    (change : Watch Spec Status) : (informer.observe change).Attends wants Asks name := by
  refine attends.congr rfl ?_
  rintro (queued | notified | ⟨earlier, mem, named⟩)
  · exact .inl queued
  · exact .inr (.inl notified)
  · exact awaits_of_pending (List.mem_append_left _ mem) named

theorem Attends.enqueue (attends : informer.Attends wants Asks name) (other : String) :
    (informer.enqueue other).Attends wants Asks name := by
  refine attends.congr rfl ?_
  rintro (queued | waiting)
  · exact .inl (List.mem_insert_of_mem queued)
  · exact .inr waiting

/-- The notification of a change that makes a name ask for work is one the handlers want. -/
theorem wants_notification (heeds : Heeds wants Asks R) {view : View Spec Status}
    {object : Object Spec Status} (continues : (Watch.put object).Continues R view)
    (asks : Asks object) : wants (notification view (.put object)) = true := by
  simp only [Informer.notification]
  cases shown : view object.name with
  | none => exact heeds.add object asks
  | some old => exact heeds.update old object (continues old shown) asks

theorem name_notification (view : View Spec Status) (change : Watch Spec Status) :
    (notification view change).name = change.name := by
  cases change with
  | put object =>
      simp only [notification]
      cases view object.name <;> rfl
  | remove object => rfl

/-- Where a change of the name is replayed, its notification takes over from it. -/
theorem Attends.deliver (attends : informer.Attends wants Asks name) {other : String}
    (heeds : Heeds wants Asks R) (lineage : Lineage R informer.cache informer.pending)
    (delivered : informer.deliver other = some next) : next.Attends wants Asks name := by
  obtain ⟨change, earlier, later, replayed, eventsEq, queueEq⟩ := deliver_notifies delivered
  rw [replayed.pendingBefore] at lineage
  have continues := (lineage.replayFirst replayed.others).1
  intro object cached asks
  rw [replayed.cacheEq] at cached
  rcases Watch.applyTo_eq_some cached with ⟨before, differs⟩ | ⟨rfl, named⟩
  · rcases attends object before asks with queued | ⟨event, mem, named⟩ | ⟨first, mem, named⟩
    · exact .inl (queueEq ▸ queued)
    · refine .inr (.inl ⟨event, ?_, named⟩)
      rw [eventsEq]
      exact List.mem_append_left _ mem
    · apply awaits_of_pending (replayed.mem_of_ne mem _) named
      rintro rfl
      exact differs named
  · refine .inr (.inl ⟨notification informer.cache (.put object), ?_, ?_, ?_⟩)
    · rw [eventsEq]
      exact List.mem_append_right _ (.head _)
    · rw [name_notification]
      exact named
    · exact wants_notification heeds continues asks

theorem Attends.resync (attends : informer.Attends wants Asks name) {other : String}
    (resynced : informer.resync other = some next) : next.Attends wants Asks name := by
  obtain ⟨object, _, rfl⟩ := Option.map_eq_some_iff.mp resynced
  refine attends.congr rfl ?_
  rintro (queued | ⟨event, mem, wanted⟩ | pending)
  · exact .inl queued
  · exact .inr (.inl ⟨event, List.mem_append_left _ mem, wanted⟩)
  · exact .inr (.inr pending)

/-- A notification that the handlers want becomes an entry of the queue. -/
theorem Attends.handle (attends : informer.Attends wants Asks name)
    (handled : informer.handle wants = some next) : next.Attends wants Asks name := by
  apply attends.congr (handle_eq_some handled).1
  unfold Informer.handle at handled
  cases eventsEq : informer.events with
  | nil => simp [eventsEq] at handled
  | cons first events =>
      simp only [eventsEq, Option.some.injEq] at handled
      subst handled
      rintro (queued | ⟨event, mem, named, wanted⟩ | pending)
      · left
        split
        · exact List.mem_insert_of_mem queued
        · exact queued
      · rw [eventsEq] at mem
        rcases List.mem_cons.mp mem with rfl | mem
        · left
          rw [if_pos wanted, ← named]
          exact List.mem_insert_self
        · refine .inr (.inl ⟨event, ?_, named, wanted⟩)
          split <;> exact mem
      · refine .inr (.inr ?_)
        split <;> exact pending

/-- Only the name that a worker takes is no longer waited for. -/
theorem Attends.take (attends : informer.Attends wants Asks name) {other : String}
    (differs : name ≠ other) (taken : informer.take other = some next) :
    next.Attends wants Asks name := by
  unfold Informer.take at taken
  split at taken
  · obtain rfl := Option.some.inj taken
    refine attends.congr rfl ?_
    rintro (queued | waiting)
    · exact .inl ((List.mem_erase_of_ne differs).mpr queued)
    · exact .inr waiting
  · contradiction

end Informer

namespace Resource

variable {resource next : Resource Spec Status} {node : String} {object : Object Spec Status}

/-- A node does not forget the object of a name that asks for work. -/
def Attends (wants : Event Spec Status → Bool) (Asks : Object Spec Status → Prop)
    (node name : String) (resource : Resource Spec Status) : Prop :=
  (resource.informers node).Attends wants Asks name

/-- What is stored and asks for work waits for a worker. -/
theorem Attends.awaits (attends : resource.Attends wants Asks node name)
    (stored : resource.get name = some object) (asks : Asks object) :
    (resource.informers node).Awaits wants name := by
  have shown : replay (resource.informers node).cache (resource.informers node).pending name =
      some object := by
    rw [(resource.tracked node).replays]
    exact stored
  rcases replay_eq_some shown with ⟨cached, _⟩ | ⟨mem, named⟩
  · exact attends object cached asks
  · exact Informer.awaits_of_pending mem named

theorem Attends.commit (attends : resource.Attends wants Asks node name)
    (change : Watch Spec Status) : (resource.commit change).Attends wants Asks node name :=
  Informer.Attends.observe attends _

/-- An accepted write keeps names attended to. -/
theorem Attends.write {written : Except ApiErr (Option (Watch Spec Status))}
    (attends : resource.Attends wants Asks node name)
    (accepted : written.map resource.commit? = .ok next) :
    next.Attends wants Asks node name := by
  cases written with
  | error refusal => simp [Except.map] at accepted
  | ok change =>
      obtain rfl : resource.commit? change = next := Except.ok.inj accepted
      cases change with
      | none => exact attends
      | some change => exact attends.commit change

theorem Attends.collect (attends : resource.Attends wants Asks node name) {other : String}
    (collected : resource.collect other = some next) : next.Attends wants Asks node name := by
  obtain ⟨change, _, rfl⟩ := Option.map_eq_some_iff.mp collected
  exact attends.commit change

/-- A move matters only to the informer that makes it. -/
theorem informer_of_move {P : Informer Spec Status → Prop}
    {step : Informer Spec Status → Option (Informer Spec Status)}
    {keeps : Informer.KeepsTrack step} {mover : String} (holds : P (resource.informers node))
    (moved : resource.move mover step keeps = some next)
    (kept : ∀ informer, mover = node → step (resource.informers node) = some informer →
      P informer) : P (next.informers node) := by
  obtain ⟨_, _, _, informer, stepped, informersEq⟩ := move_eq_some moved
  rw [informersEq]
  by_cases same : node = mover
  · subst same
    rw [Function.update_self]
    exact kept informer rfl stepped
  · rw [Function.update_of_ne same]
    exact holds

/-- So does putting a name back on a queue. -/
theorem informer_of_requeue {P : Informer Spec Status → Prop} {mover other : String}
    (holds : P (resource.informers node))
    (kept : mover = node → P ((resource.informers node).enqueue other)) :
    P ((resource.requeue mover other).informers node) := by
  simp only [Resource.requeue]
  by_cases same : node = mover
  · subst same
    rw [Function.update_self]
    exact kept rfl
  · rw [Function.update_of_ne same]
    exact holds

theorem Attends.deliver (attends : resource.Attends wants Asks node name) {mover other : String}
    (heeds : Heeds wants Asks R) (lineage : resource.Lineage R node)
    (delivered : resource.deliver mover other = some next) : next.Attends wants Asks node name :=
  informer_of_move attends delivered fun _ _ stepped =>
    Informer.Attends.deliver attends heeds lineage stepped

theorem Attends.resync (attends : resource.Attends wants Asks node name) {mover other : String}
    (resynced : resource.resync mover other = some next) : next.Attends wants Asks node name :=
  informer_of_move attends resynced fun _ _ stepped => Informer.Attends.resync attends stepped

theorem Attends.handle {wants : String → Event Spec Status → Bool}
    (attends : resource.Attends (wants node) Asks node name) {mover : String}
    (handled : resource.handle mover (wants mover) = some next) :
    next.Attends (wants node) Asks node name := by
  apply informer_of_move attends handled
  rintro informer rfl stepped
  exact Informer.Attends.handle attends stepped

theorem Attends.take (attends : resource.Attends wants Asks node name) {mover other : String}
    (differs : ¬ (mover = node ∧ other = name)) (taken : resource.take mover other = some next) :
    next.Attends wants Asks node name := by
  apply informer_of_move attends taken
  rintro informer rfl stepped
  apply Informer.Attends.take attends _ stepped
  rintro rfl
  exact differs ⟨rfl, rfl⟩

theorem Attends.requeue (attends : resource.Attends wants Asks node name) (mover other : String) :
    (resource.requeue mover other).Attends wants Asks node name :=
  informer_of_requeue attends fun _ => Informer.Attends.enqueue attends other

/-- A worker that failed puts the name back. -/
theorem attends_requeue (resource : Resource Spec Status) (node name : String) :
    (resource.requeue node name).Attends wants Asks node name := by
  simp only [Resource.Attends, Resource.requeue]
  rw [Function.update_self]
  exact Informer.attends_of_awaits (.inl List.mem_insert_self)

/-- An accepted update that changes the copy it was made from is yet to be replayed. -/
theorem attends_of_update [DecidableEq Spec] [DecidableEq Status] {base : Object Spec Status}
    (held : resource.Held node name base) (rewrites : Rewrites base object)
    (changes : resource.get name = some base → object ≠ base)
    (updated : resource.update object = .ok next) : next.Attends wants Asks node name := by
  obtain ⟨old, stored, versionEq, outcome⟩ := update_eq_ok updated
  rw [rewrites.name] at stored
  obtain rfl := held.known.current old stored (versionEq.trans rewrites.version)
  rw [rewrites.merged] at outcome
  have named : object.name = name := rewrites.name.trans held.nameEq
  have awaits {change : Watch Spec Status} (about : change.name = name) :
      ((resource.commit change).informers node).Awaits wants name :=
    Informer.awaits_of_pending (List.mem_append_right _ (.head _))
      ((Watch.name_stamp ..).trans about)
  apply Informer.attends_of_awaits
  rcases outcome with ⟨_, same⟩ | ⟨rfl, _⟩ | ⟨rfl, _⟩
  · rw [held.nameEq] at stored
    exact absurd same (changes stored)
  · exact awaits named
  · exact awaits named

/-! ## Lineages along all steps -/

theorem lineage_of_forall {view : View Spec Status} {changes : List (Watch Spec Status)}
    (all : ∀ old new, R old new) : ApiServer.Lineage R view changes := by
  induction changes generalizing view with
  | nil => trivial
  | cons change changes ih => exact ⟨fun old _ => all old _, ih⟩

theorem Lineage.quiet (lineage : resource.Lineage R node) (quiet : resource.Quiet next) :
    next.Lineage R node := by
  rcases quiet.informers node with ⟨cacheEq, pendingEq⟩ | ⟨change, earlier, later, replayed⟩
  · unfold Resource.Lineage
    rw [cacheEq, pendingEq]
    exact lineage
  · exact (lineage.replayed replayed).2

/-- A relation that holds between an object and what a client makes of it, and leads to
everything that is deleted, relates the successive states of every name. -/
theorem Change.lineage {T : Type} {Fresh : T → Object Spec Status → Prop}
    {Write : T → Object Spec Status → Object Spec Status → Prop} {Deletes : T → String → Prop}
    {client : Option T} (change : resource.Change Fresh Write Deletes client next)
    (lineage : resource.Lineage R node)
    (write : ∀ writer base object version, Write writer base object →
      R base { object with resourceVersion := version })
    (deleted : ∀ old new, new.deletionTimestamp = true → R old new) :
    next.Lineage R node := by
  cases change with
  | quiet client quiet => exact lineage.quiet quiet
  | create client object fresh absent =>
      apply lineage.commit
      intro old stored
      exact absurd (stored.symm.trans absent) (Option.some_ne_none old)
  | write client base object written rewrites held stored =>
      apply lineage.commit
      intro old found
      rw [Watch.name_stamp, Watch.name_put, rewrites.name, stored] at found
      cases found
      exact write client base object _ written
  | remove client base object written rewrites stored isDeleted bare =>
      apply lineage.commit
      intro old _
      exact deleted old object (rewrites.deletion.trans isDeleted)
  | delete client base deletes stored live =>
      apply lineage.commit
      intro old _
      exact deleted old _ rfl
  | collect base stored isDeleted =>
      apply lineage.commit
      intro old _
      exact deleted old _ isDeleted
  | expire base stored isDeleted last =>
      apply lineage.commit
      intro old _
      exact deleted old base isDeleted

/-! ## What is deleted is held by a finalizer -/

/-- A deleted object stays only as long as it has a finalizer. -/
def Finalized (resource : Resource Spec Status) : Prop :=
  ∀ name object, resource.get name = some object → object.deletionTimestamp = true →
    object.finalizers ≠ []

theorem Finalized.quiet (finalized : resource.Finalized) (quiet : resource.Quiet next) :
    next.Finalized := by
  intro name object stored
  rw [quiet.get] at stored
  exact finalized name object stored

theorem Finalized.commit {change : Watch Spec Status} (finalized : resource.Finalized)
    (put : ∀ object, change = .put object → object.deletionTimestamp = true →
      object.finalizers ≠ []) : (resource.commit change).Finalized := by
  intro name object stored deleted
  rcases get_commit_eq_some stored with ⟨before, _⟩ | ⟨fresh, isPut, _, rfl⟩
  · exact finalized name object before deleted
  · exact put fresh isPut deleted

theorem Finalized.create (finalized : resource.Finalized)
    (created : resource.create object = .ok next) : next.Finalized := by
  obtain ⟨_, rfl⟩ := create_eq_ok created
  apply finalized.commit
  intro put isPut deleted
  cases isPut
  contradiction

theorem Finalized.update [DecidableEq Spec] [DecidableEq Status] (finalized : resource.Finalized)
    (updated : resource.update object = .ok next) : next.Finalized := by
  obtain ⟨old, stored, _, ⟨rfl, _⟩ | ⟨rfl, _⟩ | ⟨rfl, held⟩⟩ := update_eq_ok updated
  · exact finalized
  · apply finalized.commit
    intro put isPut
    contradiction
  · apply finalized.commit
    intro put isPut deleted
    cases isPut
    exact (held deleted).2

theorem Finalized.delete (finalized : resource.Finalized)
    (deleted : resource.delete name = .ok next) : next.Finalized := by
  obtain ⟨old, stored, ⟨rfl, _⟩ | ⟨rfl, _⟩⟩ := delete_eq_ok deleted
  · exact finalized
  · apply finalized.commit
    intro put isPut _
    cases isPut
    exact List.ne_nil_of_mem List.mem_insert_self

/-- The garbage collector removes an object together with its last finalizer. -/
theorem Finalized.collect (finalized : resource.Finalized)
    (collected : resource.collect name = some next) : next.Finalized := by
  obtain ⟨change, accepted, rfl⟩ := Option.map_eq_some_iff.mp collected
  apply finalized.commit
  rintro put rfl _
  unfold ApiServer.collect at accepted
  split at accepted
  · contradiction
  · split at accepted
    · split at accepted
      · cases accepted
      · rename_i kept
        cases accepted
        exact kept
    · contradiction

/-! ## A fresh start -/

/-- The informers have listed the store and replayed nothing: each object is pending once. -/
structure Listed (resource : Resource Spec Status) : Prop where
  unseen : ∀ node name, (resource.informers node).cache name = none
  once : ∀ node, ((resource.informers node).pending.map fun change => change.name).Nodup
  finalized : resource.Finalized

theorem listed_empty : (empty : Resource Spec Status).Listed where
  unseen := fun _ _ => rfl
  once := fun _ => List.nodup_nil
  finalized := by
    intro name object stored
    contradiction

/-- Changes of different names that nothing precedes continue nothing. -/
theorem lineage_of_nodup {view : View Spec Status} {changes : List (Watch Spec Status)}
    (unseen : ∀ change ∈ changes, view change.name = none)
    (once : (changes.map fun change => change.name).Nodup) :
    ApiServer.Lineage R view changes := by
  induction changes generalizing view with
  | nil => trivial
  | cons change changes ih =>
      rw [List.map_cons, List.nodup_cons] at once
      constructor
      · intro old shown
        rw [unseen change (.head _)] at shown
        contradiction
      · apply ih _ once.2
        intro later mem
        rw [Watch.applyTo_of_ne]
        · exact unseen later (.tail _ mem)
        · intro same
          apply once.1
          rw [← same]
          exact List.mem_map_of_mem mem

theorem Listed.lineage (listed : resource.Listed) (node : String) : resource.Lineage R node :=
  lineage_of_nodup (fun _ _ => listed.unseen node _) (listed.once node)

theorem Listed.attends (listed : resource.Listed) (node name : String) :
    resource.Attends wants Asks node name :=
  Informer.attends_of_absent (listed.unseen node name)

end Resource

end ZfsLocalPv.ApiServer

import ZfsLocalPv.ApiServer.Resource

/-!
# How a resource changes under disciplined clients

Clients that create only objects of a known kind and update only what they have read, in known
ways, change a resource in six ways. An accepted update is made from the stored object, since the
server compares versions and the copy it was made from is the stored object of that version.
Invariants of a resource are shown by going through the cases of `Change`, or of the `Origin` of
an object found after the step, never through the server's verbs.
-/

namespace ZfsLocalPv.ApiServer

variable {Spec Status T : Type}

/-- A deleted object gains no finalizer and keeps at least one. -/
def StillHeld (base object : Object Spec Status) : Prop :=
  base.deletionTimestamp = true → object.finalizers ⊆ base.finalizers ∧ object.finalizers ≠ []

/-- An object made from a copy without touching what is the server's. -/
structure Rewrites (base object : Object Spec Status) : Prop where
  name : object.name = base.name
  version : object.resourceVersion = base.resourceVersion
  merged : ApiServer.merged base object = object

theorem Rewrites.uid {base object : Object Spec Status} (rewrites : Rewrites base object) :
    object.uid = base.uid :=
  congrArg (fun object => object.uid) rewrites.merged.symm

theorem Rewrites.deletion {base object : Object Spec Status} (rewrites : Rewrites base object) :
    object.deletionTimestamp = base.deletionTimestamp :=
  congrArg (fun object => object.deletionTimestamp) rewrites.merged.symm

namespace Resource

/-- One step of a resource, with the client that makes it, if any. `Fresh` are the
objects a client creates, `Write` the changes it makes to a copy, `Deletes` the
names it deletes. -/
inductive Change (Fresh : T → Object Spec Status → Prop)
    (Write : T → Object Spec Status → Object Spec Status → Prop) (Deletes : T → String → Prop)
    (resource : Resource Spec Status) : Option T → Resource Spec Status → Prop
  | quiet (client : Option T) {next : Resource Spec Status} (quiet : resource.Quiet next) :
      Change Fresh Write Deletes resource client next
  | create (client : T) (object : Object Spec Status) (fresh : Fresh client object)
      (absent : resource.get object.name = none) :
      Change Fresh Write Deletes resource (some client) (resource.commit (.put { object with
        uid := resource.revision + 1
        deletionTimestamp := false }))
  | write (client : T) (base object : Object Spec Status) (write : Write client base object)
      (rewrites : Rewrites base object) (held : StillHeld base object)
      (stored : resource.get base.name = some base) :
      Change Fresh Write Deletes resource (some client) (resource.commit (.put object))
  | remove (client : T) (base object : Object Spec Status) (write : Write client base object)
      (rewrites : Rewrites base object) (stored : resource.get base.name = some base)
      (deleted : base.deletionTimestamp = true) (bare : object.finalizers = []) :
      Change Fresh Write Deletes resource (some client) (resource.commit (.remove object))
  | delete (client : T) (old : Object Spec Status) (deletes : Deletes client old.name)
      (stored : resource.get old.name = some old) (live : old.deletionTimestamp = false) :
      Change Fresh Write Deletes resource (some client) (resource.commit (.put (marked old)))
  | collect (old : Object Spec Status) (stored : resource.get old.name = some old)
      (deleted : old.deletionTimestamp = true) :
      Change Fresh Write Deletes resource none (resource.commit (.put (uncollected old)))
  | expire (old : Object Spec Status) (stored : resource.get old.name = some old)
      (deleted : old.deletionTimestamp = true)
      (last : ∀ kept ∈ old.finalizers, kept = foregroundDeletion) :
      Change Fresh Write Deletes resource none (resource.commit (.remove old))

variable {Fresh : T → Object Spec Status → Prop}
  {Write : T → Object Spec Status → Object Spec Status → Prop} {Deletes : T → String → Prop}
  {resource next : Resource Spec Status} {client : T} {object base : Object Spec Status}
  {name : String}

theorem Quiet.refl (resource : Resource Spec Status) : resource.Quiet resource where
  revision := rfl
  store := rfl
  history := rfl
  informers := fun _ => .inl ⟨rfl, rfl⟩

theorem change_of_create (fresh : Fresh client object)
    (created : resource.create object = .ok next) :
    resource.Change Fresh Write Deletes (some client) next := by
  obtain ⟨absent, rfl⟩ := create_eq_ok created
  exact .create client object fresh absent

/-- An accepted update was made from the stored object. -/
theorem change_of_update [DecidableEq Spec] [DecidableEq Status]
    (write : Write client base object) (rewrites : Rewrites base object)
    (known : resource.Known base) (updated : resource.update object = .ok next) :
    resource.Change Fresh Write Deletes (some client) next := by
  obtain ⟨old, stored, versionEq, outcome⟩ := update_eq_ok updated
  rw [rewrites.name] at stored
  rw [rewrites.version] at versionEq
  obtain rfl : old = base := known.current old stored versionEq
  rw [rewrites.merged] at outcome
  rcases outcome with ⟨rfl, _⟩ | ⟨rfl, deleted, bare⟩ | ⟨rfl, held⟩
  · exact .quiet _ (.refl next)
  · exact .remove client old object write rewrites stored deleted bare
  · exact .write client old object write rewrites held stored

theorem change_of_delete (deletes : Deletes client name)
    (deleted : resource.delete name = .ok next) :
    resource.Change Fresh Write Deletes (some client) next := by
  obtain ⟨old, stored, outcome⟩ := delete_eq_ok deleted
  obtain rfl := name_of_get stored
  rcases outcome with ⟨rfl, _⟩ | ⟨rfl, live⟩
  · exact .quiet _ (.refl next)
  · exact .delete client old deletes stored live

theorem change_of_collect (collected : resource.collect name = some next) :
    resource.Change Fresh Write Deletes none next := by
  obtain ⟨old, stored, deleted, outcome⟩ := collect_eq_some collected
  obtain rfl := name_of_get stored
  rcases outcome with ⟨rfl, last⟩ | rfl
  · exact .expire old stored deleted last
  · exact .collect old stored deleted

/-- How an object that is found after a step came to be what it is. -/
inductive Origin (Fresh : T → Object Spec Status → Prop)
    (Write : T → Object Spec Status → Object Spec Status → Prop) (Deletes : T → String → Prop)
    (resource : Resource Spec Status) (client : Option T) (next : Resource Spec Status)
    (name : String) (object : Object Spec Status) : Prop
  | kept (stored : resource.get name = some object)
      (shows : ∀ {node P}, resource.Shows node name P → next.Shows node name P)
  | created (creator : T) (new : Object Spec Status) (isClient : client = some creator)
      (fresh : Fresh creator new) (absent : resource.get name = none)
      (objectEq : object = { new with
        uid := resource.revision + 1
        resourceVersion := resource.revision + 1
        deletionTimestamp := false })
  | written (writer : T) (base new : Object Spec Status) (isClient : client = some writer)
      (write : Write writer base new) (stored : resource.get name = some base)
      (rewrites : Rewrites base new) (held : StillHeld base new)
      (objectEq : object = { new with resourceVersion := resource.revision + 1 })
      (shows : ∀ {node P}, P object → resource.Shows node name P → next.Shows node name P)
  | deleted (deleter : T) (old : Object Spec Status) (isClient : client = some deleter)
      (deletes : Deletes deleter name) (stored : resource.get name = some old) (live : Live old)
      (objectEq : object = { marked old with resourceVersion := resource.revision + 1 })
  | collected (old : Object Spec Status) (stored : resource.get name = some old)
      (deleted : old.deletionTimestamp = true)
      (objectEq : object = { uncollected old with resourceVersion := resource.revision + 1 })

theorem origin_of_ne {change : Watch Spec Status} {client : Option T}
    (stored : resource.get name = some object) (differs : change.name ≠ name) :
    Origin Fresh Write Deletes resource client (resource.commit change) name object :=
  .kept stored fun shows => shows.commit_of_ne differs

theorem Change.origin {client : Option T}
    (change : resource.Change Fresh Write Deletes client next)
    (found : next.get name = some object) :
    Origin Fresh Write Deletes resource client next name object := by
  cases change with
  | quiet client quiet =>
      rw [quiet.get] at found
      exact .kept found fun shows => shows.quiet quiet
  | create client new fresh absent =>
      rcases get_commit_eq_some found with ⟨stored, differs⟩ | ⟨put, putEq, nameEq, objectEq⟩
      · exact origin_of_ne stored differs
      · cases putEq
        subst nameEq
        exact .created client new rfl fresh absent objectEq
  | write client base new write rewrites held stored =>
      rcases get_commit_eq_some found with ⟨stored, differs⟩ | ⟨put, putEq, nameEq, objectEq⟩
      · exact origin_of_ne stored differs
      · cases putEq
        subst nameEq objectEq
        rw [← rewrites.name] at stored
        exact .written client base new rfl write stored rewrites held rfl
          fun holds shows => shows.commit_put holds
  | remove client base new write rewrites stored deleted bare =>
      rcases get_commit_eq_some found with ⟨stored, differs⟩ | ⟨put, putEq, _, _⟩
      · exact origin_of_ne stored differs
      · contradiction
  | delete client old deletes stored live =>
      rcases get_commit_eq_some found with ⟨stored, differs⟩ | ⟨put, putEq, nameEq, objectEq⟩
      · exact origin_of_ne stored differs
      · cases putEq
        subst nameEq
        exact .deleted client old rfl deletes stored live objectEq
  | collect old stored deleted =>
      rcases get_commit_eq_some found with ⟨stored, differs⟩ | ⟨put, putEq, nameEq, objectEq⟩
      · exact origin_of_ne stored differs
      · cases putEq
        subst nameEq
        exact .collected old stored deleted objectEq
  | expire old stored deleted last =>
      rcases get_commit_eq_some found with ⟨stored, differs⟩ | ⟨put, putEq, _, _⟩
      · exact origin_of_ne stored differs
      · contradiction

/-- What becomes of a stored object in a step. -/
inductive Fate (Write : T → Object Spec Status → Object Spec Status → Prop)
    (Deletes : T → String → Prop) (resource : Resource Spec Status) (client : Option T)
    (next : Resource Spec Status) (name : String) (object : Object Spec Status) : Prop
  | kept (stored : next.get name = some object)
  | written (writer : T) (new : Object Spec Status) (isClient : client = some writer)
      (write : Write writer object new) (rewrites : Rewrites object new)
      (stored : next.get name = some { new with resourceVersion := resource.revision + 1 })
  | removed (writer : T) (new : Object Spec Status) (isClient : client = some writer)
      (write : Write writer object new) (rewrites : Rewrites object new)
      (deleted : object.deletionTimestamp = true) (bare : new.finalizers = [])
  | deleted (deleter : T) (isClient : client = some deleter) (deletes : Deletes deleter name)
      (stored : next.get name = some { marked object with
        resourceVersion := resource.revision + 1 })
  | collected (deleted : object.deletionTimestamp = true)
      (stored : next.get name = some { uncollected object with
        resourceVersion := resource.revision + 1 })
  | expired (isClient : client = none) (deleted : object.deletionTimestamp = true)
      (last : ∀ kept ∈ object.finalizers, kept = foregroundDeletion)

theorem fate_of_ne {change : Watch Spec Status} {client : Option T}
    (stored : resource.get name = some object) (differs : name ≠ change.name) :
    Fate Write Deletes resource client (resource.commit change) name object :=
  .kept ((get_commit_of_ne differs).trans stored)

theorem Change.fate {client : Option T} (change : resource.Change Fresh Write Deletes client next)
    (stored : resource.get name = some object) :
    Fate Write Deletes resource client next name object := by
  cases change with
  | quiet client quiet =>
      apply Fate.kept
      rw [quiet.get]
      exact stored
  | create client new fresh absent =>
      apply fate_of_ne stored
      intro same
      rw [same] at stored
      exact Option.some_ne_none object (stored.symm.trans absent)
  | write client base new write rewrites held found =>
      by_cases same : name = base.name
      · subst same
        obtain rfl := Option.some.inj (stored.symm.trans found)
        apply Fate.written client new rfl write rewrites
        rw [← rewrites.name]
        exact get_commit_put resource new
      · apply fate_of_ne stored
        rwa [Watch.name_put, rewrites.name]
  | remove client base new write rewrites found deleted bare =>
      by_cases same : name = base.name
      · subst same
        obtain rfl := Option.some.inj (stored.symm.trans found)
        exact .removed client new rfl write rewrites deleted bare
      · apply fate_of_ne stored
        rwa [Watch.name_remove, rewrites.name]
  | delete client old deletes found live =>
      by_cases same : name = old.name
      · subst same
        obtain rfl := Option.some.inj (stored.symm.trans found)
        exact .deleted client rfl deletes (get_commit_put resource (marked object))
      · exact fate_of_ne stored same
  | collect old found deleted =>
      by_cases same : name = old.name
      · subst same
        obtain rfl := Option.some.inj (stored.symm.trans found)
        exact .collected deleted (get_commit_put resource (uncollected object))
      · exact fate_of_ne stored same
  | expire old found deleted last =>
      by_cases same : name = old.name
      · subst same
        obtain rfl := Option.some.inj (stored.symm.trans found)
        exact .expired rfl deleted last
      · exact fate_of_ne stored same

/-- An object that is not deleted stays, is rewritten or is deleted by a client. -/
theorem Change.fate_of_live {client : Option T}
    (change : resource.Change Fresh Write Deletes client next)
    (stored : resource.get name = some object) (live : Live object) :
    next.get name = some object ∨
      (∃ writer new, client = some writer ∧ Write writer object new ∧ Rewrites object new ∧
        next.get name = some { new with resourceVersion := resource.revision + 1 }) ∨
      ∃ deleter, client = some deleter ∧ Deletes deleter name := by
  have notDeleted : object.deletionTimestamp ≠ true := by
    rw [live]
    simp
  cases change.fate stored with
  | kept stored => exact .inl stored
  | written writer new isClient write rewrites stored =>
      exact .inr (.inl ⟨writer, new, isClient, write, rewrites, stored⟩)
  | deleted deleter isClient deletes _ => exact .inr (.inr ⟨deleter, isClient, deletes⟩)
  | removed _ _ _ _ _ deleted _ => exact absurd deleted notDeleted
  | collected deleted _ => exact absurd deleted notDeleted
  | expired _ deleted _ => exact absurd deleted notDeleted

/-- A property that does not depend on what is the server's to set. -/
def OfClients (P : Object Spec Status → Prop) : Prop :=
  ∀ object uid version finalizers deletion, P object →
    P { object with
      uid := uid
      resourceVersion := version
      finalizers := finalizers
      deletionTimestamp := deletion }

/-- What clients establish and keep holds of every version. -/
theorem Change.everywhere {P : Object Spec Status → Prop} {client : Option T}
    (change : resource.Change Fresh Write Deletes client next) (all : resource.Everywhere P)
    (ofClients : OfClients P)
    (fresh : ∀ creator object, client = some creator → Fresh creator object → P object)
    (write : ∀ writer base object, Write writer base object → P base → P object) :
    next.Everywhere P := by
  cases change with
  | quiet client quiet => exact all.quiet quiet
  | create client object created absent =>
      apply all.commit
      intro put puts
      cases puts
      exact ofClients object _ _ object.finalizers false (fresh client object rfl created)
  | write client base object written rewrites held stored =>
      apply all.commit
      intro put puts
      cases puts
      have holds := write client base object written (all.stored stored)
      exact ofClients _ object.uid _ object.finalizers object.deletionTimestamp holds
  | remove client base object written rewrites stored deleted bare =>
      apply all.commit
      intro put removes
      contradiction
  | delete client old deletes stored live =>
      apply all.commit
      intro put puts
      cases puts
      exact ofClients old old.uid _ _ true (all.stored stored)
  | collect old stored deleted =>
      apply all.commit
      intro put puts
      cases puts
      exact ofClients old old.uid _ _ old.deletionTimestamp (all.stored stored)
  | expire old stored deleted last =>
      apply all.commit
      intro put removes
      contradiction

end Resource

end ZfsLocalPv.ApiServer

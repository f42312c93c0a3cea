import Mathlib.Data.List.Nodup
import Mathlib.Logic.Function.Basic

/-!
# Versioned objects of an API server

The store of one resource type. An update carrying an outdated resource version is refused, and a
deleted object stays, marked, until its last finalizer is gone. A write returns the watch event
it causes; applying that event is the whole change, for the store as for any cache that follows
it.
-/

namespace ZfsLocalPv.ApiServer

/-- Why the API server refuses a call. `other` stands for every failure that
says nothing about the object, such as a timeout. -/
inductive ApiErr
  | notFound
  | alreadyExists
  | conflict
  | invalid
  | other
  deriving DecidableEq, Repr

/-- The metadata of an object; `deletionTimestamp` records whether it is set. -/
structure ObjectMeta where
  name : String
  uid : Nat := 0
  resourceVersion : Nat := 0
  labels : List (String × String) := []
  annotations : List (String × String) := []
  finalizers : List String := []
  deletionTimestamp : Bool := false
  deriving DecidableEq

/-- An object with its specification and status. -/
structure Object (Spec Status : Type) extends ObjectMeta where
  spec : Spec
  status : Status
  deriving DecidableEq

/-- The object is not deleted. -/
abbrev Live {Spec Status : Type} (object : Object Spec Status) : Prop :=
  object.deletionTimestamp = false

theorem not_live_iff {Spec Status : Type} {object : Object Spec Status} :
    ¬ Live object ↔ object.deletionTimestamp = true := by
  simp

/-- The finalizer that a foreground deletion sets and the garbage collector
removes. -/
def foregroundDeletion : String := "foregroundDeletion"

variable {Spec Status : Type}

/-- What is known of each name: nothing, or an object. -/
abbrev View (Spec Status : Type) := String → Option (Object Spec Status)

/-- A change as watchers see it. A removal carries the last object. -/
inductive Watch (Spec Status : Type)
  | put (object : Object Spec Status)
  | remove (object : Object Spec Status)
  deriving DecidableEq

namespace Watch

/-- The name a change is about. -/
def name : Watch Spec Status → String
  | put object => object.name
  | remove object => object.name

/-- What the name holds after the change. -/
def entry : Watch Spec Status → Option (Object Spec Status)
  | put object => some object
  | remove _ => none

/-- A view after the change. -/
def applyTo (change : Watch Spec Status) (view : View Spec Status) : View Spec Status :=
  Function.update view change.name change.entry

/-- The change as the server publishes it, under a new resource version. -/
def stamp (version : Nat) : Watch Spec Status → Watch Spec Status
  | put object => put { object with resourceVersion := version }
  | remove object => remove object

@[simp]
theorem name_put (object : Object Spec Status) : (put object).name = object.name :=
  rfl

@[simp]
theorem name_remove (object : Object Spec Status) : (remove object).name = object.name :=
  rfl

@[simp]
theorem entry_put (object : Object Spec Status) : (put object).entry = some object :=
  rfl

@[simp]
theorem entry_remove (object : Object Spec Status) : (remove object).entry = none :=
  rfl

@[simp]
theorem name_stamp (version : Nat) (change : Watch Spec Status) :
    (change.stamp version).name = change.name := by
  cases change <;> rfl

@[simp]
theorem stamp_put (version : Nat) (object : Object Spec Status) :
    (put object).stamp version = put { object with resourceVersion := version } :=
  rfl

@[simp]
theorem stamp_remove (version : Nat) (object : Object Spec Status) :
    (remove object).stamp version = remove object :=
  rfl

theorem applyTo_self (change : Watch Spec Status) (view : View Spec Status) :
    change.applyTo view change.name = change.entry :=
  Function.update_self ..

theorem applyTo_of_ne {change : Watch Spec Status} {name : String}
    (differs : name ≠ change.name) (view : View Spec Status) :
    change.applyTo view name = view name :=
  Function.update_of_ne differs ..

/-- What a changed view shows is untouched, or is what the change put. -/
theorem applyTo_eq_some {change : Watch Spec Status} {view : View Spec Status}
    {name : String} {object : Object Spec Status}
    (shown : change.applyTo view name = some object) :
    (view name = some object ∧ change.name ≠ name) ∨
      (change = put object ∧ object.name = name) := by
  by_cases same : name = change.name
  · subst same
    rw [applyTo_self] at shown
    cases change with
    | put fresh =>
        obtain rfl : fresh = object := Option.some.inj shown
        exact .inr ⟨rfl, rfl⟩
    | remove gone => simp at shown
  · rw [applyTo_of_ne same] at shown
    exact .inl ⟨shown, Ne.symm same⟩

end Watch

/-- The objects of one type, at most one of each name. -/
structure Store (Spec Status : Type) where
  items : List (Object Spec Status)
  nodup : (items.map fun object => object.name).Nodup

namespace Store

/-- The store without objects. -/
def empty : Store Spec Status :=
  ⟨[], List.nodup_nil⟩

/-- The object of a name. -/
def get (store : Store Spec Status) : View Spec Status :=
  fun name => store.items.find? fun object => decide (object.name = name)

/-- Drop the object of a name. -/
def drop (store : Store Spec Status) (name : String) : Store Spec Status where
  items := store.items.filter fun object => decide (object.name ≠ name)
  nodup := store.nodup.sublist (List.filter_sublist.map _)

theorem name_ne_of_mem_drop {store : Store Spec Status} {name : String}
    {object : Object Spec Status} (mem : object ∈ (store.drop name).items) :
    object.name ≠ name := by
  simpa using (List.mem_filter.mp mem).2

/-- Put an object in the place of the one with its name, or at the end. -/
def put (store : Store Spec Status) (object : Object Spec Status) : Store Spec Status where
  items := (store.drop object.name).items ++ [object]
  nodup := by
    rw [List.map_append, List.nodup_append]
    refine ⟨(store.drop object.name).nodup, List.nodup_singleton _, ?_⟩
    intro name nameMem other otherMem
    obtain ⟨kept, keptMem, rfl⟩ := List.mem_map.mp nameMem
    obtain rfl : other = object.name := by simpa using otherMem
    exact name_ne_of_mem_drop keptMem

/-- The store after a change. -/
def apply (store : Store Spec Status) : Watch Spec Status → Store Spec Status
  | .put object => store.put object
  | .remove object => store.drop object.name

@[simp]
theorem get_empty (name : String) : (empty : Store Spec Status).get name = none :=
  rfl

theorem name_of_get {store : Store Spec Status} {name : String}
    {object : Object Spec Status} (found : store.get name = some object) :
    object.name = name := by
  simpa using List.find?_some found

theorem mem_of_get {store : Store Spec Status} {name : String}
    {object : Object Spec Status} (found : store.get name = some object) :
    object ∈ store.items :=
  List.mem_of_find?_eq_some found

/-- The listed objects are the objects found under their own name. -/
theorem mem_items_iff {store : Store Spec Status} {object : Object Spec Status} :
    object ∈ store.items ↔ store.get object.name = some object := by
  refine ⟨fun mem => ?_, mem_of_get⟩
  cases found : store.get object.name with
  | none =>
      have absent := List.find?_eq_none.mp found object mem
      simp at absent
  | some other =>
      have nameEq := name_of_get found
      have equal := List.inj_on_of_nodup_map store.nodup (mem_of_get found) mem nameEq
      rw [equal]

theorem get_drop_self (store : Store Spec Status) (name : String) :
    (store.drop name).get name = none := by
  refine List.find?_eq_none.mpr fun object mem => ?_
  simpa using name_ne_of_mem_drop mem

theorem get_drop_of_ne (store : Store Spec Status) {name other : String}
    (differs : other ≠ name) : (store.drop name).get other = store.get other := by
  simp only [get, drop, List.find?_filter]
  congr 1
  funext object
  by_cases nameEq : object.name = other
  · simp [nameEq, differs]
  · simp [nameEq]

theorem get_put (store : Store Spec Status) (object : Object Spec Status) (name : String) :
    (store.put object).get name =
      if name = object.name then some object else store.get name := by
  have split : (store.put object).get name =
      ((store.drop object.name).get name).or ([object].find? fun o => decide (o.name = name)) :=
    List.find?_append ..
  rw [split]
  by_cases nameEq : name = object.name
  · subst nameEq
    simp [get_drop_self]
  · rw [get_drop_of_ne store nameEq, if_neg nameEq]
    simp [Ne.symm nameEq]

/-- Reading after a change is reading the changed view. -/
theorem get_apply (store : Store Spec Status) (change : Watch Spec Status) :
    (store.apply change).get = change.applyTo store.get := by
  funext name
  rw [Watch.applyTo, Function.update_apply]
  cases change with
  | put object => exact get_put store object name
  | remove object =>
      by_cases nameEq : name = object.name
      · subst nameEq
        simp [apply, get_drop_self]
      · simp [apply, get_drop_of_ne store nameEq, nameEq]

/-- The objects carrying a label. -/
def list (store : Store Spec Status) (key value : String) : List (Object Spec Status) :=
  store.items.filter fun object => decide (object.labels.lookup key = some value)

theorem mem_list_iff {store : Store Spec Status} {key value : String}
    {object : Object Spec Status} :
    object ∈ store.list key value ↔
      store.get object.name = some object ∧ object.labels.lookup key = some value := by
  simp only [list, List.mem_filter, mem_items_iff, decide_eq_true_eq]

theorem list_nodup (store : Store Spec Status) (key value : String) :
    ((store.list key value).map fun object => object.name).Nodup :=
  store.nodup.sublist (List.filter_sublist.map _)

end Store

/-! ## Writes -/

theorem eq_ok_of_toOption {ε α : Type} {result : Except ε α} {value : α}
    (accepted : result.toOption = some value) : result = .ok value := by
  cases result with
  | error err => contradiction
  | ok other => exact congrArg Except.ok (Option.some.inj accepted)

/-- Create an object. The server chooses the identity. -/
def create (identity : Nat) (object : Object Spec Status) (view : View Spec Status) :
    Except ApiErr (Option (Watch Spec Status)) :=
  match view object.name with
  | some _ => .error .alreadyExists
  | none => .ok (some (.put { object with uid := identity, deletionTimestamp := false }))

/-- The object an accepted update stores: identity and deletion timestamp are
not the client's to change. -/
def merged (old new : Object Spec Status) : Object Spec Status :=
  { new with uid := old.uid, deletionTimestamp := old.deletionTimestamp }

/-- Update an object. A deleted object gains no finalizer, and goes away with
its last one. An update that changes nothing is not a write. -/
def update [DecidableEq Spec] [DecidableEq Status] (object : Object Spec Status)
    (view : View Spec Status) : Except ApiErr (Option (Watch Spec Status)) :=
  match view object.name with
  | none => .error .notFound
  | some old =>
      if old.resourceVersion ≠ object.resourceVersion then
        .error .conflict
      else if old.deletionTimestamp = true ∧ ¬ object.finalizers ⊆ old.finalizers then
        .error .invalid
      else if merged old object = old then
        .ok none
      else if old.deletionTimestamp = true ∧ object.finalizers = [] then
        .ok (some (.remove (merged old object)))
      else
        .ok (some (.put (merged old object)))

/-- The object a foreground deletion leaves: marked, and held by the garbage
collector. -/
def marked (old : Object Spec Status) : Object Spec Status :=
  { old with
    deletionTimestamp := true
    finalizers := old.finalizers.insert foregroundDeletion }

/-- Delete an object in the foreground. -/
def delete (name : String) (view : View Spec Status) :
    Except ApiErr (Option (Watch Spec Status)) :=
  match view name with
  | none => .error .notFound
  | some old =>
      if old.deletionTimestamp = true then
        .ok none
      else
        .ok (some (.put (marked old)))

/-- The object without the garbage collector's finalizer. -/
def uncollected (old : Object Spec Status) : Object Spec Status :=
  { old with
    finalizers := old.finalizers.filter fun name => decide (name ≠ foregroundDeletion) }

/-- The garbage collector gives up its finalizer on a deleted object. -/
def collect (name : String) (view : View Spec Status) : Option (Watch Spec Status) :=
  match view name with
  | none => none
  | some old =>
      if old.deletionTimestamp = true ∧ foregroundDeletion ∈ old.finalizers then
        if (uncollected old).finalizers = [] then
          some (.remove old)
        else
          some (.put (uncollected old))
      else
        none

variable {object : Object Spec Status} {view : View Spec Status}
  {change : Option (Watch Spec Status)} {name : String}

theorem create_eq_ok_iff {identity : Nat} :
    create identity object view = .ok change ↔
      view object.name = none ∧
        change = some (.put { object with uid := identity, deletionTimestamp := false }) := by
  unfold create
  cases view object.name with
  | some other => simp
  | none => simp [eq_comm]

/-- An accepted update was made from the stored version, and either changes
nothing, removes the object or stores the merged one. -/
theorem update_eq_ok [DecidableEq Spec] [DecidableEq Status]
    (accepted : update object view = .ok change) :
    ∃ old, view object.name = some old ∧ old.resourceVersion = object.resourceVersion ∧
      ((change = none ∧ merged old object = old) ∨
        (change = some (.remove (merged old object)) ∧ old.deletionTimestamp = true ∧
          object.finalizers = []) ∨
        (change = some (.put (merged old object)) ∧
          (old.deletionTimestamp = true →
            object.finalizers ⊆ old.finalizers ∧ object.finalizers ≠ []))) := by
  unfold update at accepted
  cases stored : view object.name with
  | none => simp [stored] at accepted
  | some old =>
      simp only [stored] at accepted
      split at accepted
      · contradiction
      · rename_i versionEq
        have versionEq := not_not.mp versionEq
        refine ⟨old, rfl, versionEq, ?_⟩
        split at accepted
        · contradiction
        · rename_i notGrown
          split at accepted
          · rename_i same
            exact .inl ⟨(Except.ok.inj accepted).symm, same⟩
          · split at accepted
            · rename_i last
              exact .inr (.inl ⟨(Except.ok.inj accepted).symm, last⟩)
            · rename_i notLast
              refine .inr (.inr ⟨(Except.ok.inj accepted).symm, fun deleted => ⟨?_, ?_⟩⟩)
              · exact not_not.mp fun grown => notGrown ⟨deleted, grown⟩
              · exact fun none => notLast ⟨deleted, none⟩

theorem delete_eq_ok (accepted : delete name view = .ok change) :
    ∃ old, view name = some old ∧
      ((change = none ∧ old.deletionTimestamp = true) ∨
        (change = some (.put (marked old)) ∧ old.deletionTimestamp = false)) := by
  unfold delete at accepted
  cases stored : view name with
  | none => simp [stored] at accepted
  | some old =>
      simp only [stored] at accepted
      refine ⟨old, rfl, ?_⟩
      split at accepted
      · rename_i deleted
        exact .inl ⟨(Except.ok.inj accepted).symm, deleted⟩
      · rename_i live
        exact .inr ⟨(Except.ok.inj accepted).symm, by simpa using live⟩

theorem collect_eq_some {event : Watch Spec Status}
    (collected : collect name view = some event) :
    ∃ old, view name = some old ∧ old.deletionTimestamp = true ∧
      ((event = .remove old ∧ ∀ kept ∈ old.finalizers, kept = foregroundDeletion) ∨
        event = .put (uncollected old)) := by
  unfold collect at collected
  cases stored : view name with
  | none => simp [stored] at collected
  | some old =>
      simp only [stored] at collected
      split at collected
      · rename_i held
        refine ⟨old, rfl, held.1, ?_⟩
        split at collected
        · rename_i last
          refine .inl ⟨(Option.some.inj collected).symm, fun kept mem => ?_⟩
          simpa using List.filter_eq_nil_iff.mp last kept mem
        · exact .inr (Option.some.inj collected).symm
      · contradiction

end ZfsLocalPv.ApiServer

import ZfsLocalPv.ApiServer.Resource

/-!
# Successive states of one name

Where every write relates an object to the one it replaces, so does every change that an informer
has yet to replay, and with it every step of its cache. A name that is removed and created again
begins a new line.
-/

namespace ZfsLocalPv.ApiServer

variable {Spec Status : Type} {R : Object Spec Status → Object Spec Status → Prop}

/-- The object a change is about. -/
def Watch.object : Watch Spec Status → Object Spec Status
  | put object => object
  | remove object => object

@[simp]
theorem Watch.object_put (object : Object Spec Status) : (put object).object = object :=
  rfl

@[simp]
theorem Watch.object_remove (object : Object Spec Status) : (remove object).object = object :=
  rfl

@[simp]
theorem Watch.name_object (change : Watch Spec Status) : change.object.name = change.name := by
  cases change <;> rfl

/-- A change relates what a view shows to the object it is about. -/
def Watch.Continues (R : Object Spec Status → Object Spec Status → Prop)
    (view : View Spec Status) (change : Watch Spec Status) : Prop :=
  ∀ old, view change.name = some old → R old change.object

/-- Changes that are replayed one after another each continue what is there. -/
def Lineage (R : Object Spec Status → Object Spec Status → Prop) (view : View Spec Status) :
    List (Watch Spec Status) → Prop
  | [] => True
  | change :: changes => change.Continues R view ∧ Lineage R (change.applyTo view) changes

/-- Changes of other names do not matter. -/
theorem Watch.continues_applyTo_iff {view : View Spec Status} {change other : Watch Spec Status}
    (differs : other.name ≠ change.name) :
    change.Continues R (other.applyTo view) ↔ change.Continues R view := by
  unfold Watch.Continues
  rw [Watch.applyTo_of_ne differs.symm]

theorem lineage_concat {view : View Spec Status} {changes : List (Watch Spec Status)}
    {change : Watch Spec Status} (lineage : Lineage R view changes)
    (continues : change.Continues R (replay view changes)) :
    Lineage R view (changes ++ [change]) := by
  induction changes generalizing view with
  | nil => exact ⟨continues, trivial⟩
  | cons first changes ih => exact ⟨lineage.1, ih lineage.2 continues⟩

/-- The first change of a name may be replayed ahead of changes of other names. -/
theorem Lineage.replayFirst {view : View Spec Status} {earlier later : List (Watch Spec Status)}
    {change : Watch Spec Status} (lineage : Lineage R view (earlier ++ change :: later))
    (others : ∀ other ∈ earlier, other.name ≠ change.name) :
    change.Continues R view ∧ Lineage R (change.applyTo view) (earlier ++ later) := by
  induction earlier generalizing view with
  | nil => exact lineage
  | cons first earlier ih =>
      have differs := others first (.head _)
      obtain ⟨continues, rest⟩ := ih lineage.2 fun other mem => others other (.tail _ mem)
      have swap : first.applyTo (change.applyTo view) = change.applyTo (first.applyTo view) :=
        Function.update_comm differs.symm ..
      refine ⟨(Watch.continues_applyTo_iff differs).mp continues, ?_, ?_⟩
      · exact (Watch.continues_applyTo_iff differs.symm).mpr lineage.1
      · rw [swap]
        exact rest

theorem Lineage.mono {R' : Object Spec Status → Object Spec Status → Prop}
    {view : View Spec Status} {changes : List (Watch Spec Status)}
    (lineage : Lineage R view changes)
    (weaker : ∀ change ∈ changes, ∀ old, R old change.object → R' old change.object) :
    Lineage R' view changes := by
  induction changes generalizing view with
  | nil => trivial
  | cons change changes ih =>
      refine ⟨fun old found => weaker change (.head _) old (lineage.1 old found), ?_⟩
      exact ih lineage.2 fun later mem => weaker later (.tail _ mem)

/-- A fact about the object of one name that each change of it hands on may be used to
replace the relation. -/
theorem Lineage.carry {R' : Object Spec Status → Object Spec Status → Prop}
    {P : Object Spec Status → Prop} {name : String} {view : View Spec Status}
    {changes : List (Watch Spec Status)} (lineage : Lineage R view changes)
    (shown : ∃ old, view name = some old ∧ P old)
    (puts : ∀ change ∈ changes, change.name = name → ∃ object, change = .put object)
    (own : ∀ old new, new.name = name → R old new → P old → R' old new ∧ P new)
    (others : ∀ old new, new.name ≠ name → R old new → R' old new) :
    Lineage R' view changes := by
  induction changes generalizing view with
  | nil => trivial
  | cons change changes ih =>
      obtain ⟨old, found, holds⟩ := shown
      by_cases same : change.name = name
      · obtain ⟨object, rfl⟩ := puts change (.head _) same
        subst same
        obtain ⟨related, holds⟩ := own old object rfl (lineage.1 old found) holds
        refine ⟨fun other otherFound => ?_,
          ih lineage.2 ?_ fun other mem => puts other (.tail _ mem)⟩
        · cases found.symm.trans otherFound
          exact related
        · exact ⟨object, Watch.applyTo_self .., holds⟩
      · have differs : change.object.name ≠ name := by rwa [Watch.name_object]
        refine ⟨fun other otherFound => others other _ differs (lineage.1 other otherFound),
          ih lineage.2 ?_ fun other mem => puts other (.tail _ mem)⟩
        rw [Watch.applyTo_of_ne (Ne.symm same)]
        exact ⟨old, found, holds⟩

namespace Resource

variable {resource next : Resource Spec Status} {node name : String}

/-- What a node's informer has yet to replay continues what it shows. -/
def Lineage (R : Object Spec Status → Object Spec Status → Prop) (node : String)
    (resource : Resource Spec Status) : Prop :=
  ApiServer.Lineage R (resource.informers node).cache (resource.informers node).pending

theorem Lineage.commit {change : Watch Spec Status} (lineage : resource.Lineage R node)
    (continues : (change.stamp (resource.revision + 1)).Continues R resource.get) :
    (resource.commit change).Lineage R node := by
  apply lineage_concat lineage
  rw [(resource.tracked node).replays]
  exact continues

/-- A delivery replays one change and notifies the handlers of it. -/
theorem deliver_notifies (delivered : resource.deliver node name = some next) :
    next.get = resource.get ∧ ∃ change earlier later,
      (resource.informers node).Replayed (next.informers node) change earlier later ∧
      (next.informers node).events = (resource.informers node).events ++
        [Informer.notification (resource.informers node).cache change] := by
  obtain ⟨_, storeEq, _, informer, stepped, informersEq⟩ := move_eq_some delivered
  constructor
  · unfold Resource.get
    rw [storeEq]
  · rw [informersEq, Function.update_self]
    obtain ⟨change, earlier, later, replayed, eventsEq, _⟩ := Informer.deliver_notifies stepped
    exact ⟨change, earlier, later, replayed, eventsEq⟩

theorem Lineage.replayed {change : Watch Spec Status} {earlier later : List (Watch Spec Status)}
    (lineage : resource.Lineage R node)
    (replayed : (resource.informers node).Replayed (next.informers node) change earlier later) :
    change.Continues R (resource.informers node).cache ∧ next.Lineage R node := by
  unfold Resource.Lineage at lineage ⊢
  rw [replayed.pendingBefore] at lineage
  rw [replayed.cacheEq, replayed.pendingAfter]
  exact lineage.replayFirst replayed.others

/-- An informer that shows a name which is not stored has yet to replay a removal. -/
theorem exists_remove_of_absent {object : Object Spec Status}
    (cached : (resource.informers node).cache name = some object)
    (absent : resource.get name = none) :
    ∃ gone, .remove gone ∈ (resource.informers node).pending ∧ gone.name = name := by
  apply exists_remove_of_replay cached
  rw [(resource.tracked node).replays]
  exact absent

end Resource

end ZfsLocalPv.ApiServer

import ZfsLocalPv.ApiServer.Attention

/-!
# How often a name is looked at

A worker looks at a name once for each time the name is queued. The entries of the queue, and the
notifications that make the handlers queue the name, are tickets. Every move of an informer
accounts for them: handling a notification turns one kind of ticket into the other, and a worker
uses up a ticket when it takes the name. New tickets come from changes that are replayed, from
resyncs and from workers that put the name back.

An object may be such that a worker starts something when it looks at it, until it is written
again. `Metered` bounds how often that can happen by a budget: while the cache shows such an
object, or is about to, the tickets and what was spent before stay within the budget.
-/

namespace ZfsLocalPv.ApiServer

variable {Spec Status : Type} {wants : Event Spec Status → Bool} {name other : String}

namespace Informer

variable {informer next : Informer Spec Status}

/-- The changes of a name that are yet to be replayed. -/
def line (name : String) (informer : Informer Spec Status) : List (Watch Spec Status) :=
  informer.pending.filter fun change => decide (change.name = name)

theorem mem_pending_of_line {change : Watch Spec Status} (mem : change ∈ informer.line name) :
    change ∈ informer.pending ∧ change.name = name := by
  simpa [line] using mem

theorem line_observe_self (informer : Informer Spec Status) (change : Watch Spec Status) :
    (informer.observe change).line change.name = informer.line change.name ++ [change] := by
  simp [line, observe]

theorem line_observe_of_ne {change : Watch Spec Status} (differs : change.name ≠ name) :
    (informer.observe change).line name = informer.line name := by
  simp [line, observe, differs]

/-- A change that is replayed was the first of its name. -/
theorem Replayed.line_self {change : Watch Spec Status} {earlier later : List (Watch Spec Status)}
    (replayed : informer.Replayed next change earlier later) :
    informer.line change.name = change :: next.line change.name := by
  have none : earlier.filter (fun first => decide (first.name = change.name)) = [] := by
    simpa using replayed.others
  simp [line, replayed.pendingBefore, replayed.pendingAfter, none]

theorem Replayed.line_of_ne {change : Watch Spec Status}
    {earlier later : List (Watch Spec Status)}
    (replayed : informer.Replayed next change earlier later) (differs : change.name ≠ name) :
    next.line name = informer.line name := by
  simp [line, replayed.pendingBefore, replayed.pendingAfter, differs]

/-- The handlers will queue the name when they see the notification. -/
def calling (wants : Event Spec Status → Bool) (name : String) (event : Event Spec Status) :
    Bool :=
  decide (event.name = name) && wants event

/-- How often a worker will look at the name if nothing else happens. -/
def tickets (wants : Event Spec Status → Bool) (name : String) (informer : Informer Spec Status) :
    Nat :=
  informer.queue.count name + informer.events.countP (calling wants name)

/-- A notification adds a ticket only if the handlers want it. -/
theorem tickets_notify {event : Event Spec Status} (queueEq : next.queue = informer.queue)
    (eventsEq : next.events = informer.events ++ [event]) :
    next.tickets wants name =
      informer.tickets wants name + if calling wants name event then 1 else 0 := by
  simp [tickets, queueEq, eventsEq, List.countP_append, List.countP_cons, Nat.add_assoc]

theorem count_insert_le (queue : List String) (other name : String) :
    (queue.insert other).count name ≤ queue.count name + if other = name then 1 else 0 := by
  by_cases mem : other ∈ queue
  · simp [List.insert_of_mem mem]
  · simp [List.insert_of_not_mem mem, List.count_cons]

theorem tickets_enqueue_le (wants : Event Spec Status → Bool) (informer : Informer Spec Status)
    (other name : String) :
    (informer.enqueue other).tickets wants name ≤
      informer.tickets wants name + if other = name then 1 else 0 := by
  have queued := count_insert_le informer.queue other name
  simp only [tickets, Informer.enqueue]
  omega

theorem tickets_enqueue_of_ne (wants : Event Spec Status → Bool)
    (informer : Informer Spec Status) (differs : other ≠ name) :
    (informer.enqueue other).tickets wants name ≤ informer.tickets wants name := by
  have queued := tickets_enqueue_le wants informer other name
  rwa [if_neg differs] at queued

/-- Handling a notification does not add a ticket. -/
theorem tickets_handle_le (name : String) (handled : informer.handle wants = some next) :
    next.tickets wants name ≤ informer.tickets wants name := by
  unfold Informer.handle at handled
  cases eventsEq : informer.events with
  | nil => simp [eventsEq] at handled
  | cons event events =>
      simp only [eventsEq, Option.some.injEq] at handled
      subst handled
      have before : informer.tickets wants name =
          ({ informer with events := events } : Informer Spec Status).tickets wants name +
            if calling wants name event then 1 else 0 := by
        simp [tickets, eventsEq, List.countP_cons, Nat.add_assoc]
      rw [before]
      split
      · rename_i wanted
        have queued := tickets_enqueue_le wants
          ({ informer with events := events } : Informer Spec Status) event.name name
        simpa [calling, wanted] using queued
      · exact Nat.le_add_right _ _

/-- A worker uses up a ticket of the name that it takes. -/
theorem tickets_take_self (wants : Event Spec Status → Bool)
    (taken : informer.take name = some next) :
    next.tickets wants name + 1 = informer.tickets wants name := by
  unfold Informer.take at taken
  split at taken
  · rename_i queued
    obtain rfl := Option.some.inj taken
    have positive := List.count_pos_iff.mpr queued
    simp only [tickets, List.count_erase_self]
    omega
  · contradiction

theorem tickets_take_of_ne (wants : Event Spec Status → Bool) (differs : other ≠ name)
    (taken : informer.take other = some next) :
    next.tickets wants name = informer.tickets wants name := by
  unfold Informer.take at taken
  split at taken
  · obtain rfl := Option.some.inj taken
    simp [tickets, List.count_erase_of_ne (Ne.symm differs)]
  · contradiction

theorem tickets_take_le (wants : Event Spec Status → Bool) (name : String)
    (taken : informer.take other = some next) :
    next.tickets wants name ≤ informer.tickets wants name := by
  by_cases same : other = name
  · subst same
    have used := tickets_take_self wants taken
    omega
  · exact Nat.le_of_eq (tickets_take_of_ne wants same taken)

/-! ## Budgets -/

/-- What was started for the name, together with what the tickets may yet start, is within the
limit. Only the first of the pending changes can bring an object to start with. -/
structure Metered (wants : Event Spec Status → Bool) (Starts : Object Spec Status → Prop)
    (name : String) (spent limit : Nat) (informer : Informer Spec Status) : Prop where
  later : ∀ object, .put object ∈ (informer.line name).tail → ¬ Starts object
  coming : ∀ object, (informer.line name).head? = some (.put object) → Starts object →
    informer.cache name = none ∧ informer.tickets wants name + spent < limit
  balance : ∀ object, informer.cache name = some object → Starts object →
    informer.tickets wants name + spent ≤ limit

variable {Starts : Object Spec Status → Prop} {spent limit spent' limit' : Nat}

/-- A step that replays nothing of the name may use up tickets, or add as many as the budget
grows. -/
theorem Metered.step (metered : informer.Metered wants Starts name spent limit)
    (cacheEq : next.cache name = informer.cache name)
    (lineEq : next.line name = informer.line name)
    (within : next.tickets wants name + spent' + limit ≤
      informer.tickets wants name + spent + limit') :
    next.Metered wants Starts name spent' limit' where
  later := by
    rw [lineEq]
    exact metered.later
  coming := by
    intro object first starts
    rw [lineEq] at first
    obtain ⟨absent, below⟩ := metered.coming object first starts
    rw [cacheEq]
    exact ⟨absent, by omega⟩
  balance := by
    intro object cached starts
    rw [cacheEq] at cached
    have bound := metered.balance object cached starts
    omega

/-- A step that leaves the cache and the pending changes alone. -/
theorem Metered.still (metered : informer.Metered wants Starts name spent limit)
    (same : next.cache = informer.cache ∧ next.pending = informer.pending)
    (within : next.tickets wants name + spent' + limit ≤
      informer.tickets wants name + spent + limit') :
    next.Metered wants Starts name spent' limit' := by
  apply metered.step (congrFun same.1 name) _ within
  rw [line, line, same.2]

theorem Metered.handle (metered : informer.Metered wants Starts name spent limit)
    (handled : informer.handle wants = some next) :
    next.Metered wants Starts name spent limit := by
  have tickets := tickets_handle_le name handled
  exact metered.still (handle_eq_some handled) (by omega)

theorem Metered.take_of_ne (metered : informer.Metered wants Starts name spent limit)
    (differs : other ≠ name) (taken : informer.take other = some next) :
    next.Metered wants Starts name spent limit := by
  have tickets := tickets_take_of_ne wants differs taken
  exact metered.still (take_eq_some taken) (by omega)

/-- Whoever takes the name has a part of the budget of their own. -/
theorem Metered.take_self (metered : informer.Metered wants Starts name spent (limit + 1))
    (taken : informer.take name = some next) : next.Metered wants Starts name spent limit := by
  have tickets := tickets_take_self wants taken
  exact metered.still (take_eq_some taken) (by omega)

theorem Metered.enqueue_of_ne (metered : informer.Metered wants Starts name spent limit)
    (differs : other ≠ name) : (informer.enqueue other).Metered wants Starts name spent limit := by
  have tickets := tickets_enqueue_of_ne wants informer differs
  exact metered.still ⟨rfl, rfl⟩ (by omega)

/-- They give it back with the name. -/
theorem Metered.enqueue_self (metered : informer.Metered wants Starts name spent limit) :
    (informer.enqueue name).Metered wants Starts name spent (limit + 1) := by
  have tickets := tickets_enqueue_le wants informer name name
  rw [if_pos rfl] at tickets
  exact metered.still ⟨rfl, rfl⟩ (by omega)

/-- A resync does not make anybody look at an object to start with. -/
theorem Metered.resync (metered : informer.Metered wants Starts name spent limit)
    (calm : ∀ object, Starts object → wants (.update object object) = false)
    (named : ∀ object, informer.cache other = some object → object.name = other)
    (resynced : informer.resync other = some next) :
    next.Metered wants Starts name spent limit := by
  have same := resync_eq_some resynced
  obtain ⟨shown, cached, rfl⟩ := Option.map_eq_some_iff.mp resynced
  have told : ({ informer with events := informer.events ++ [.update shown shown] } :
      Informer Spec Status).tickets wants name = informer.tickets wants name +
        if calling wants name (.update shown shown) then 1 else 0 := tickets_notify rfl rfl
  by_cases called : calling wants name (.update shown shown) = true
  · obtain ⟨about, wanted⟩ : shown.name = name ∧ wants (.update shown shown) = true := by
      rw [calling, Bool.and_eq_true] at called
      exact ⟨of_decide_eq_true called.1, called.2⟩
    rw [← named shown cached, about] at cached
    constructor
    · exact metered.later
    · intro object first starts
      have absent := (metered.coming object first starts).1
      rw [cached] at absent
      contradiction
    · intro object found starts
      obtain rfl := Option.some.inj (cached.symm.trans found)
      rw [calm shown starts] at wanted
      contradiction
  · rw [if_neg called] at told
    exact metered.still same (by omega)

/-- The first change of the name uses up what was kept for it. -/
theorem Metered.deliver (metered : informer.Metered wants Starts name spent limit)
    (delivered : informer.deliver other = some next) :
    next.Metered wants Starts name spent limit := by
  obtain ⟨change, earlier, later, replayed, eventsEq, queueEq⟩ := deliver_notifies delivered
  by_cases about : change.name = name
  · subst about
    have lineEq := replayed.line_self
    have rest (object : Object Spec Status) (mem : .put object ∈ next.line change.name) :
        ¬ Starts object := by
      apply metered.later
      rwa [lineEq]
    constructor
    · exact fun object mem => rest object (List.mem_of_mem_tail mem)
    · exact fun object first starts => absurd starts (rest object (List.mem_of_mem_head? first))
    · intro object cached starts
      rw [replayed.cacheEq] at cached
      rcases Watch.applyTo_eq_some cached with ⟨_, differs⟩ | ⟨isPut, _⟩
      · exact absurd rfl differs
      · have below := (metered.coming object (by rw [lineEq, isPut]; rfl) starts).2
        rw [tickets_notify queueEq eventsEq]
        split <;> omega
  · have unmoved : ¬ calling wants name (notification informer.cache change) = true := by
      simp [calling, name_notification, about]
    have told : next.tickets wants name = informer.tickets wants name := by
      rw [tickets_notify queueEq eventsEq, if_neg unmoved, Nat.add_zero]
    apply metered.step _ (replayed.line_of_ne about) (by omega)
    rw [replayed.cacheEq]
    exact Watch.applyTo_of_ne (Ne.symm about) _

/-- A change that brings nothing to start with. -/
theorem Metered.observe {change : Watch Spec Status}
    (metered : informer.Metered wants Starts name spent limit)
    (brings : ∀ object, change = .put object → change.name = name → ¬ Starts object) :
    (informer.observe change).Metered wants Starts name spent limit := by
  by_cases about : change.name = name
  · subst about
    have lineEq := line_observe_self informer change
    have unstarted (object : Object Spec Status) (isPut : change = .put object) :
        ¬ Starts object := brings object isPut rfl
    cases before : informer.line change.name with
    | nil =>
        rw [before] at lineEq
        constructor
        · simp [lineEq]
        · intro object first starts
          rw [lineEq] at first
          exact absurd starts (unstarted object (Option.some.inj first))
        · exact metered.balance
    | cons head rest =>
        rw [before] at lineEq
        constructor
        · intro object mem
          rw [lineEq] at mem
          rcases List.mem_append.mp mem with among | last
          · apply metered.later
            rwa [before]
          · exact unstarted object (List.mem_singleton.mp last).symm
        · intro object first starts
          rw [lineEq] at first
          apply metered.coming object _ starts
          rwa [before]
        · exact metered.balance
  · exact metered.step rfl (line_observe_of_ne about) (Nat.le_refl _)

/-- The first change of a name that nobody was asked to look at. -/
theorem metered_observe_first {object : Object Spec Status} (absent : informer.cache name = none)
    (unheard : informer.line name = []) (below : informer.tickets wants name + spent < limit)
    (named : object.name = name) :
    (informer.observe (.put object)).Metered wants Starts name spent limit := by
  subst named
  have lineEq : (informer.observe (.put object)).line object.name = [.put object] := by
    rw [← Watch.name_put object, line_observe_self, Watch.name_put, unheard, List.nil_append]
  constructor
  · simp [lineEq]
  · exact fun _ _ _ => ⟨absent, below⟩
  · intro cached shown
    rw [show (informer.observe (.put object)).cache = informer.cache from rfl, absent] at shown
    contradiction

end Informer

namespace Resource

variable {resource next : Resource Spec Status} {node mover : String}
  {Starts : Object Spec Status → Prop} {spent limit : Nat} {object base : Object Spec Status}

/-- What was started for the name on the node is within the limit. -/
def Metered (wants : Event Spec Status → Bool) (Starts : Object Spec Status → Prop)
    (node name : String) (spent limit : Nat) (resource : Resource Spec Status) : Prop :=
  (resource.informers node).Metered wants Starts name spent limit

theorem Metered.deliver (metered : resource.Metered wants Starts node name spent limit)
    (delivered : resource.deliver mover other = some next) :
    next.Metered wants Starts node name spent limit :=
  informer_of_move metered delivered fun _ _ stepped => Informer.Metered.deliver metered stepped

theorem Metered.resync (metered : resource.Metered wants Starts node name spent limit)
    (calm : ∀ object, Starts object → wants (.update object object) = false)
    (resynced : resource.resync mover other = some next) :
    next.Metered wants Starts node name spent limit :=
  informer_of_move metered resynced fun _ _ stepped =>
    Informer.Metered.resync metered calm ((resource.tracked node).named other) stepped

theorem Metered.handle {wants : String → Event Spec Status → Bool}
    (metered : resource.Metered (wants node) Starts node name spent limit)
    (handled : resource.handle mover (wants mover) = some next) :
    next.Metered (wants node) Starts node name spent limit := by
  apply informer_of_move metered handled
  rintro informer rfl stepped
  exact Informer.Metered.handle metered stepped

theorem Metered.take (metered : resource.Metered wants Starts node name spent limit)
    (differs : ¬ (mover = node ∧ other = name)) (taken : resource.take mover other = some next) :
    next.Metered wants Starts node name spent limit := by
  apply informer_of_move metered taken
  rintro informer rfl stepped
  apply Informer.Metered.take_of_ne metered _ stepped
  rintro rfl
  exact differs ⟨rfl, rfl⟩

theorem Metered.take_self (metered : resource.Metered wants Starts node name spent (limit + 1))
    (taken : resource.take node name = some next) :
    next.Metered wants Starts node name spent limit := by
  obtain ⟨_, _, _, informer, stepped, informersEq⟩ := move_eq_some taken
  simp only [Metered, informersEq, Function.update_self]
  exact Informer.Metered.take_self metered stepped

theorem Metered.requeue (metered : resource.Metered wants Starts node name spent limit)
    (differs : ¬ (mover = node ∧ other = name)) :
    (resource.requeue mover other).Metered wants Starts node name spent limit := by
  apply informer_of_requeue metered
  rintro rfl
  apply Informer.Metered.enqueue_of_ne metered
  rintro rfl
  exact differs ⟨rfl, rfl⟩

theorem Metered.requeue_self (metered : resource.Metered wants Starts node name spent limit) :
    (resource.requeue node name).Metered wants Starts node name spent (limit + 1) := by
  simp only [Resource.Metered, Resource.requeue, Function.update_self]
  exact Informer.Metered.enqueue_self metered

/-- A budget may grow by what is spent. -/
theorem Metered.mono {spent' limit' : Nat}
    (metered : resource.Metered wants Starts node name spent limit)
    (within : spent' + limit ≤ spent + limit') :
    resource.Metered wants Starts node name spent' limit' :=
  Informer.Metered.still metered ⟨rfl, rfl⟩ (by omega)

theorem Metered.commit {change : Watch Spec Status}
    (metered : resource.Metered wants Starts node name spent limit)
    (brings : ∀ object version, change = .put object → object.name = name →
      ¬ Starts { object with resourceVersion := version }) :
    (resource.commit change).Metered wants Starts node name spent limit := by
  apply Informer.Metered.observe metered
  intro object isPut about
  cases change with
  | put object =>
      cases isPut
      exact brings object _ rfl about
  | remove object => contradiction

theorem Metered.create (metered : resource.Metered wants Starts node name spent limit)
    (fresh : object.name = name → (resource.informers node).cache name = none ∧
      (resource.informers node).line name = [] ∧
      (resource.informers node).tickets wants name + spent < limit)
    (created : resource.create object = .ok next) :
    next.Metered wants Starts node name spent limit := by
  obtain ⟨_, rfl⟩ := create_eq_ok created
  by_cases about : object.name = name
  · obtain ⟨absent, unheard, below⟩ := fresh about
    exact Informer.metered_observe_first absent unheard below about
  · apply metered.commit
    intro put _ isPut named
    cases isPut
    exact absurd named about

theorem Metered.update [DecidableEq Spec] [DecidableEq Status]
    (metered : resource.Metered wants Starts node name spent limit)
    (brings : ∀ uid version deletion, object.name = name → ¬ Starts { object with
      uid := uid
      resourceVersion := version
      deletionTimestamp := deletion })
    (updated : resource.update object = .ok next) :
    next.Metered wants Starts node name spent limit := by
  obtain ⟨old, _, _, ⟨rfl, _⟩ | ⟨rfl, _⟩ | ⟨rfl, _⟩⟩ := update_eq_ok updated
  · exact metered
  · apply metered.commit
    intro put _ isPut
    contradiction
  · apply metered.commit
    intro put version isPut named
    cases isPut
    exact brings old.uid version old.deletionTimestamp named

theorem Metered.delete (metered : resource.Metered wants Starts node name spent limit)
    (live : ∀ object, Starts object → Live object)
    (deleted : resource.delete other = .ok next) :
    next.Metered wants Starts node name spent limit := by
  obtain ⟨old, _, ⟨rfl, _⟩ | ⟨rfl, _⟩⟩ := delete_eq_ok deleted
  · exact metered
  · apply metered.commit
    intro put version isPut _ starts
    cases isPut
    exact Bool.true_eq_false.mp (live _ starts)

theorem Metered.collect (metered : resource.Metered wants Starts node name spent limit)
    (live : ∀ object, Starts object → Live object)
    (collected : resource.collect other = some next) :
    next.Metered wants Starts node name spent limit := by
  obtain ⟨old, _, deleted, ⟨rfl, _⟩ | rfl⟩ := collect_eq_some collected
  · apply metered.commit
    intro put _ isPut
    contradiction
  · apply metered.commit
    intro put version isPut _ starts
    cases isPut
    have alive := live _ starts
    exact Bool.true_eq_false.mp (deleted.symm.trans alive)

/-- A name that is listed once is pending once. -/
theorem Listed.line_tail (listed : resource.Listed) (node name : String) :
    ((resource.informers node).line name).tail = [] := by
  have names : ∀ other ∈ ((resource.informers node).line name).map (fun change => change.name),
      other = name := by
    simp only [List.mem_map, forall_exists_index, and_imp]
    rintro other change mem rfl
    exact (Informer.mem_pending_of_line mem).2
  have once : (((resource.informers node).line name).map fun change => change.name).Nodup :=
    (listed.once node).sublist (List.filter_sublist.map _)
  rw [List.eq_replicate_of_mem names, List.nodup_replicate, List.length_map] at once
  rw [← List.length_eq_zero_iff, List.length_tail]
  omega

theorem Listed.metered (listed : resource.Listed)
    (below : (resource.informers node).tickets wants name + spent < limit) :
    resource.Metered wants Starts node name spent limit where
  later := by
    intro object mem
    rw [listed.line_tail] at mem
    contradiction
  coming := fun _ _ _ => ⟨listed.unseen node name, below⟩
  balance := by
    intro object cached
    rw [listed.unseen node name] at cached
    contradiction

end Resource

end ZfsLocalPv.ApiServer

import Mathlib.Data.Set.Finite.Lattice
import ZfsLocalPv.Cluster.Requests
import ZfsLocalPv.Properties.VolumeLock

/-!
# Deadlocks of the volume lock

A snapshot request takes two keys, first that of the volume and then that of the snapshot.
Volumes and snapshots share one key space and the names come from the caller, so requests may
take the same keys in different orders. Finitely many requests can wait for each other for ever
exactly if their keys form a circle.
-/

namespace ZfsLocalPv.Properties

open Driver Locking LockState

variable {T κ : Type}

/-! ## Circular waits -/

section Circles

variable [DecidableEq T] [DecidableEq κ] {call : T → LockCall κ} {client : T}
  {state next : LockState T κ}

/-- The client is in `LockVolume` and cannot move. -/
def Blocked (state : LockState T κ) (client : T) : Prop :=
  (∃ taken key rest point, state.progress client = .locking taken key rest point) ∧
    LockState.step client state = none

/-- Some client is not done, and all such clients are blocked. -/
def Deadlocked (state : LockState T κ) : Prop :=
  (∃ client, state.progress client ≠ .done) ∧
    ∀ client, state.progress client ≠ .done → Blocked state client

/-- Some client takes the one key and then the other. -/
def TakenBefore (call : T → LockCall κ) (volume snapshot : κ) : Prop :=
  ∃ client, call client = .lockVolumeWithSnapshot volume snapshot

/-- The owner of the mutex can move. -/
theorem step_of_hasMutex (owns : (state.progress client).HasMutex) :
    LockState.step client state ≠ none := by
  unfold LockState.step
  split <;> simp_all [Progress.HasMutex]
  split <;> simp

/-- A blocked client sleeps, unless somebody has the mutex. -/
theorem asleep_of_blocked (unowned : state.mutex = none) (blocked : Blocked state client) :
    ∃ taken key rest, state.progress client = .locking taken key rest .asleep := by
  obtain ⟨⟨taken, key, rest, point, isLocking⟩, stuck⟩ := blocked
  cases point with
  | asleep => exact ⟨taken, key, rest, isLocking⟩
  | enter | awake => simp [LockState.step, isLocking, LockState.enter, unowned] at stuck
  | test | take | exit =>
      exact absurd stuck (step_of_hasMutex (by rw [isLocking]; trivial))

theorem unowned_of_deadlocked (inv : LockInv call state) (deadlocked : Deadlocked state) :
    state.mutex = none := by
  by_contra owned
  obtain ⟨owner, isOwner⟩ := Option.ne_none_iff_exists'.mp owned
  have owns := (inv.mutex owner).mpr isOwner
  have unfinished : state.progress owner ≠ .done := by
    intro done
    rw [done] at owns
    exact owns
  exact step_of_hasMutex owns (deadlocked.2 owner unfinished).2

/-- In a deadlock the key a client sleeps for is taken by a client that sleeps for its
second key. -/
theorem exists_takenBefore_of_asleep (inv : LockInv call state) (deadlocked : Deadlocked state)
    {taken rest : List κ} {key : κ}
    (isAsleep : state.progress client = .locking taken key rest .asleep) :
    ∃ other taken' key' rest', state.progress other = .locking taken' key' rest' .asleep ∧
      TakenBefore call key key' := by
  have unowned := unowned_of_deadlocked inv deadlocked
  have isLocked : key ∈ state.locked := by
    rcases inv.woken client taken key rest isAsleep with
      isLocked | ⟨waker, released, name, more, at'⟩
    · exact isLocked
    · have owned := (inv.mutex waker).mp (by rw [at']; trivial)
      rw [unowned] at owned
      contradiction
  obtain ⟨holder, holds⟩ := (inv.sound.mem_taken_iff key).mp isLocked
  have unfinished : state.progress holder ≠ .done := by
    intro done
    rw [LockState.held, done] at holds
    contradiction
  obtain ⟨taken', key', rest', holderAsleep⟩ :=
    asleep_of_blocked unowned (deadlocked.2 holder unfinished)
  refine ⟨holder, taken', key', rest', holderAsleep, holder, ?_⟩
  have follows := inv.follows holder
  rw [LockState.held, holderAsleep] at holds
  rw [holderAsleep] at follows
  change key ∈ taken' at holds
  change taken' ++ key' :: rest' = (call holder).keys at follows
  cases isCall : call holder with
  | lockVolume volume =>
      rw [isCall] at follows
      cases taken' with
      | nil => contradiction
      | cons first more => simp [LockCall.keys] at follows
  | lockVolumeWithSnapshot volume snapshot =>
      rw [isCall] at follows
      cases taken' with
      | nil => contradiction
      | cons first more =>
          cases more with
          | nil =>
              simp only [LockCall.keys, List.cons_append, List.nil_append, List.cons.injEq]
                at follows
              cases List.mem_singleton.mp holds
              rw [follows.1, follows.2.1]
          | cons second more => simp [LockCall.keys] at follows

/-- A deadlock shows a circle of keys. -/
theorem circle_of_deadlocked [Finite T] (inv : LockInv call state) (deadlocked : Deadlocked state) :
    ∃ key, Relation.TransGen (TakenBefore call) key key := by
  let awaited : Set κ := {key | ∃ client taken rest,
    state.progress client = .locking taken key rest .asleep}
  have finite : awaited.Finite := by
    have only : ∀ client, {key | ∃ taken rest,
        state.progress client = .locking taken key rest .asleep}.Finite := by
      intro client
      apply Set.Subsingleton.finite
      rintro one ⟨_, _, isOne⟩ two ⟨_, _, isTwo⟩
      cases isOne.symm.trans isTwo
      rfl
    have union : awaited = ⋃ client, {key | ∃ taken rest,
        state.progress client = .locking taken key rest .asleep} := by
      ext key
      simp [awaited]
    rw [union]
    exact Set.finite_iUnion only
  apply exists_circle finite
  · obtain ⟨client, unfinished⟩ := deadlocked.1
    obtain ⟨taken, key, rest, isAsleep⟩ := asleep_of_blocked
      (unowned_of_deadlocked inv deadlocked) (deadlocked.2 client unfinished)
    exact ⟨key, client, taken, rest, isAsleep⟩
  · rintro key ⟨client, taken, rest, isAsleep⟩
    obtain ⟨other, taken', key', rest', otherAsleep, before⟩ :=
      exists_takenBefore_of_asleep inv deadlocked isAsleep
    exact ⟨key', ⟨other, taken', rest', otherAsleep⟩, before⟩

/-! A circle is a deadlock: the clients off the circle run to their end, those on it take
their first keys and then wait for each other. Between these runs nobody has the mutex. -/

/-- Nobody has the mutex. -/
def calm (locked : Finset κ) (progress : T → Progress κ) : LockState T κ where
  mutex := none
  locked := locked
  progress := progress

variable {locked : Finset κ} {progress : T → Progress κ} {taken rest released keys : List κ}
  {key : κ}

theorem reaches_take (isLocking : progress client = .locking taken key rest .enter)
    (free : key ∉ locked) :
    Reaches (calm locked progress) (calm (insert key locked)
      (Function.update progress client (.lockNext (taken ++ [key]) rest))) :=
  ⟨[client, client, client, client], by
    simp [LockState.run, LockState.step, LockState.enter, goto, leave, calm, isLocking, free]⟩

theorem reaches_sleep (isLocking : progress client = .locking taken key rest .enter)
    (isLocked : key ∈ locked) :
    Reaches (calm locked progress) (calm locked
      (Function.update progress client (.locking taken key rest .asleep))) :=
  ⟨[client, client], by
    simp [LockState.run, LockState.step, LockState.enter, goto, leave, calm, isLocking, isLocked]⟩

/-- Nobody sleeps. -/
def AllAwake (progress : T → Progress κ) : Prop :=
  ∀ client, (progress client).wake = progress client

omit [DecidableEq κ] in
theorem AllAwake.update (awake : AllAwake progress) {after : Progress κ}
    (isAwake : after.wake = after) : AllAwake (Function.update progress client after) := by
  intro other
  by_cases same : other = client
  · subst same
    simpa using isAwake
  · simpa [same] using awake other

theorem reaches_release (isUnlocking : progress client = .unlocking released key rest .enter)
    (awake : AllAwake progress) :
    Reaches (calm locked progress) (calm (locked.erase key)
      (Function.update progress client (.unlockNext (released ++ [key]) rest))) := by
  have woken : (fun other => (Function.update progress client
      (.unlocking released key rest .broadcast) other).wake) =
      Function.update progress client (.unlocking released key rest .broadcast) :=
    funext (awake.update rfl)
  refine ⟨[client, client, client, client], ?_⟩
  simp [LockState.run, LockState.step, LockState.enter, goto, leave, wakeAll, calm, isUnlocking,
    woken]

theorem reaches_call (isHolding : progress client = .holding keys) :
    Reaches (calm locked progress)
      (calm locked (Function.update progress client (.unlockNext [] keys))) :=
  ⟨[client], by simp [LockState.run, LockState.step, goto, calm, isHolding]⟩

/-- A client whose keys are free gets them all. -/
theorem reaches_holding (distinct : rest.Nodup) (free : ∀ key ∈ rest, key ∉ locked)
    (isNext : progress client = .lockNext taken rest) :
    Reaches (calm locked progress) (calm (locked ∪ rest.toFinset)
      (Function.update progress client (.holding (taken ++ rest)))) := by
  induction rest generalizing locked progress taken with
  | nil =>
      have stays : Function.update progress client (.holding (taken ++ [])) = progress := by
        rw [List.append_nil, Function.update_eq_self_iff]
        exact isNext.symm
      rw [stays]
      exact ⟨[], by simp [LockState.run]⟩
  | cons key rest ih =>
      rw [List.nodup_cons] at distinct
      have first := reaches_take isNext (free key (.head _))
      have others := @ih (insert key locked)
        (Function.update progress client (.lockNext (taken ++ [key]) rest)) (taken ++ [key])
        distinct.2 (by
          intro other mem isLocked
          rcases Finset.mem_insert.mp isLocked with rfl | isLocked
          · exact distinct.1 mem
          · exact free other (.tail _ mem) isLocked) (Function.update_self ..)
      rw [Function.update_idem, List.append_assoc] at others
      have union : insert key locked ∪ rest.toFinset = locked ∪ (key :: rest).toFinset := by
        simp
      exact first.trans (union ▸ others)

/-- A client gives back all its keys. -/
theorem reaches_unlocked (awake : AllAwake progress)
    (isNext : progress client = .unlockNext released rest) :
    Reaches (calm locked progress)
      (calm (locked \ rest.toFinset) (Function.update progress client .done)) := by
  induction rest generalizing locked progress released with
  | nil =>
      have stays : Function.update progress client .done = progress := by
        rw [Function.update_eq_self_iff]
        exact isNext.symm
      rw [stays]
      exact ⟨[], by simp [LockState.run]⟩
  | cons key rest ih =>
      have first : Reaches (calm locked progress) _ := reaches_release isNext awake
      have others := @ih (locked.erase key)
        (Function.update progress client (.unlockNext (released ++ [key]) rest))
        (released ++ [key]) (awake.update (Progress.wake_unlockNext _ _)) (Function.update_self ..)
      rw [Function.update_idem] at others
      have difference : locked.erase key \ rest.toFinset = locked \ (key :: rest).toFinset := by
        ext name
        simp
        tauto
      exact first.trans (difference ▸ others)

/-- A client whose keys are free runs to its end. -/
theorem reaches_done (awake : AllAwake progress) (distinct : keys.Nodup)
    (free : ∀ key ∈ keys, key ∉ locked) (isNext : progress client = .lockNext [] keys) :
    Reaches (calm locked progress) (calm locked (Function.update progress client .done)) := by
  have holding := reaches_holding distinct free isNext
  have called := holding.trans (reaches_call (Function.update_self ..))
  rw [Function.update_idem, List.nil_append] at called
  have done := called.trans (reaches_unlocked (awake.update (Progress.wake_unlockNext _ _))
    (Function.update_self ..))
  have difference : (locked ∪ keys.toFinset) \ keys.toFinset = locked := by
    apply Finset.union_sdiff_cancel_right
    exact Finset.disjoint_right.mpr fun key mem => free key (List.mem_toFinset.mp mem)
  rw [Function.update_idem, difference] at done
  exact done

/-! One client of a list after the other. -/

variable {clients : List T}

/-- The clients of a list each take a turn. -/
def each (turn : Progress κ → Progress κ) (clients : List T) (progress : T → Progress κ)
    (client : T) : Progress κ :=
  if client ∈ clients then turn (progress client) else progress client

omit [DecidableEq κ] in
theorem each_of_mem (turn : Progress κ → Progress κ) (mem : client ∈ clients) :
    each turn clients progress client = turn (progress client) :=
  if_pos mem

omit [DecidableEq κ] in
theorem each_of_not_mem (turn : Progress κ → Progress κ) (absent : client ∉ clients) :
    each turn clients progress client = progress client :=
  if_neg absent

omit [DecidableEq κ] in
theorem each_nil (turn : Progress κ → Progress κ) : each turn [] progress = progress := by
  funext client
  exact each_of_not_mem turn List.not_mem_nil

omit [DecidableEq κ] in
theorem each_cons (turn : Progress κ → Progress κ) (absent : client ∉ clients) :
    each turn clients (Function.update progress client (turn (progress client))) =
      each turn (client :: clients) progress := by
  funext other
  by_cases same : other = client
  · subst same
    simp [each, absent]
  · simp [each, same]

/-- A run of all clients of a list, if each of them can take its turn and leaves the others
able to. -/
theorem reaches_each (turn : Progress κ → Progress κ) (adds : T → Finset κ)
    (Ready : T → Finset κ → (T → Progress κ) → Prop) (unique : clients.Nodup)
    (ready : ∀ client ∈ clients, Ready client locked progress)
    (moves : ∀ {client locked progress}, Ready client locked progress →
      Reaches (calm locked progress) (calm (locked ∪ adds client)
        (Function.update progress client (turn (progress client)))))
    (keeps : ∀ {client other locked progress}, client ∈ clients → other ∈ clients →
      other ≠ client → Ready client locked progress → Ready other locked progress →
      Ready other (locked ∪ adds client)
        (Function.update progress client (turn (progress client)))) :
    ∃ last, Reaches (calm locked progress) (calm last (each turn clients progress)) ∧
      ∀ key, key ∈ last ↔ key ∈ locked ∨ ∃ client ∈ clients, key ∈ adds client := by
  induction clients generalizing locked progress with
  | nil => exact ⟨locked, ⟨[], by rw [each_nil]; rfl⟩, by simp⟩
  | cons client clients ih =>
      rw [List.nodup_cons] at unique
      have isReady := ready client (.head _)
      obtain ⟨last, others, isLast⟩ := @ih (locked ∪ adds client)
        (Function.update progress client (turn (progress client))) unique.2 (by
          intro other mem
          have differs : other ≠ client := fun same => unique.1 (same ▸ mem)
          exact keeps (.head _) (.tail _ mem) differs isReady (ready other (.tail _ mem)))
        fun one two => keeps (.tail _ one) (.tail _ two)
      rw [each_cons turn unique.1] at others
      refine ⟨last, (moves isReady).trans others, ?_⟩
      intro key
      simp [isLast, or_assoc]

/-- Where a client goes that takes its key. -/
def taking : Progress κ → Progress κ
  | .locking taken key rest _ => .lockNext (taken ++ [key]) rest
  | progress => progress

/-- Where a client goes that finds its key taken. -/
def sleeping : Progress κ → Progress κ
  | .locking taken key rest _ => .locking taken key rest .asleep
  | progress => progress

theorem reaches_all_done (unique : clients.Nodup) (awake : AllAwake progress)
    (ready : ∀ client ∈ clients, ∃ keys, keys.Nodup ∧ progress client = .lockNext [] keys) :
    Reaches (calm ∅ progress) (calm ∅ (each (fun _ => .done) clients progress)) := by
  obtain ⟨last, reached, isLast⟩ := reaches_each (fun _ => .done) (fun _ => ∅)
    (fun client locked progress => locked = ∅ ∧ AllAwake progress ∧
      ∃ keys, keys.Nodup ∧ progress client = .lockNext [] keys)
    unique (fun client mem => ⟨rfl, awake, ready client mem⟩)
    (by
      rintro client locked progress ⟨rfl, awake, keys, distinct, isNext⟩
      rw [Finset.union_empty]
      exact reaches_done awake distinct (by simp) isNext)
    (by
      rintro client other locked progress _ _ differs ⟨rfl, awake, _⟩ ⟨_, _, isReady⟩
      refine ⟨by simp, awake.update rfl, ?_⟩
      rwa [Function.update_of_ne differs])
  have empty : last = ∅ := by
    ext key
    simp [isLast]
  exact empty ▸ reached

theorem reaches_all_taken (unique : clients.Nodup) (first : T → κ)
    (ready : ∀ client ∈ clients, ∃ rest, progress client = .locking [] (first client) rest .enter)
    (distinct : ∀ one ∈ clients, ∀ two ∈ clients, first one = first two → one = two) :
    ∃ last, Reaches (calm ∅ progress) (calm last (each taking clients progress)) ∧
      ∀ client ∈ clients, first client ∈ last := by
  obtain ⟨last, reached, isLast⟩ := reaches_each taking (fun client => {first client})
    (fun client locked progress => first client ∉ locked ∧
      ∃ rest, progress client = .locking [] (first client) rest .enter)
    unique (fun client mem => ⟨Finset.notMem_empty _, ready client mem⟩)
    (by
      rintro client locked progress ⟨free, rest, isLocking⟩
      have took := reaches_take isLocking free
      rw [Finset.union_comm, ← Finset.insert_eq, isLocking]
      exact took)
    (by
      rintro client other locked progress isOne isTwo differs ⟨_, rest, isLocking⟩ ⟨free, isReady⟩
      refine ⟨?_, by rwa [Function.update_of_ne differs]⟩
      simp only [Finset.mem_union, Finset.mem_singleton, free, false_or]
      exact fun same => differs (distinct other isTwo client isOne same))
  exact ⟨last, reached, fun client mem => (isLast _).mpr (.inr ⟨client, mem, by simp⟩)⟩

theorem reaches_all_asleep (unique : clients.Nodup)
    (ready : ∀ client ∈ clients, ∃ taken key rest,
      progress client = .locking taken key rest .enter ∧ key ∈ locked) :
    Reaches (calm locked progress) (calm locked (each sleeping clients progress)) := by
  obtain ⟨last, reached, isLast⟩ := reaches_each sleeping (fun _ => ∅)
    (fun client locked progress => ∃ taken key rest,
      progress client = .locking taken key rest .enter ∧ key ∈ locked)
    unique ready
    (by
      rintro client locked progress ⟨taken, key, rest, isLocking, isLocked⟩
      have slept := reaches_sleep isLocking isLocked
      rw [Finset.union_empty, isLocking]
      exact slept)
    (by
      rintro client other locked progress _ _ differs _ isReady
      rwa [Finset.union_empty, Function.update_of_ne differs])
  have same : last = locked := by
    ext key
    simp [isLast]
  exact same ▸ reached

/-! The clients on circles. -/

/-- The keys on circles. -/
def OnCircle (call : T → LockCall κ) (key : κ) : Prop :=
  Relation.TransGen (TakenBefore call) key key

omit [DecidableEq T] [DecidableEq κ] in
/-- The circle goes on from each of its keys. -/
theorem OnCircle.exists_next {key : κ} (onCircle : OnCircle call key) :
    ∃ client snapshot, call client = .lockVolumeWithSnapshot key snapshot ∧
      OnCircle call snapshot := by
  obtain ⟨snapshot, ⟨client, isCall⟩, back⟩ := Relation.TransGen.head'_iff.mp onCircle
  exact ⟨client, snapshot, isCall, .tail' back ⟨client, isCall⟩⟩

/-- If everybody is done or sleeps, and not all are done, nobody goes on. -/
theorem deadlocked_of_asleep (unfinished : ∃ client, state.progress client ≠ .done)
    (asleep : ∀ client, state.progress client = .done ∨
      ∃ taken key rest, state.progress client = .locking taken key rest .asleep) :
    Deadlocked state := by
  refine ⟨unfinished, fun client notDone => ?_⟩
  obtain ⟨taken, key, rest, isAsleep⟩ := (asleep client).resolve_left notDone
  exact ⟨⟨taken, key, rest, .asleep, isAsleep⟩, by simp [LockState.step, isAsleep]⟩

/-- The key a call takes first. -/
def firstKey : LockCall κ → κ
  | .lockVolume volume => volume
  | .lockVolumeWithSnapshot volume _ => volume

/-- A circle of keys leads to a deadlock. -/
theorem deadlock_of_circle [Finite T] {start : κ} (circle : OnCircle call start) :
    ∃ state, Reaches (initial call) state ∧ Deadlocked state := by
  classical
  have := Fintype.ofFinite T
  have : Nonempty κ := ⟨start⟩
  have : Nonempty T := ⟨circle.exists_next.choose⟩
  have goesOn (key : κ) (onCircle : OnCircle call key) := onCircle.exists_next
  choose! pick following isCall onCircle using goesOn
  -- one client for each key of a circle, and those that can run to their end
  let chosen : Finset T := {client | ∃ key, OnCircle call key ∧ pick key = client}
  let others : Finset T := {client | client ∉ chosen ∧ (call client).keys.Nodup}
  have isChosen {client : T} : client ∈ chosen ↔ ∃ key, OnCircle call key ∧ pick key = client := by
    simp [chosen]
  have isOther {client : T} : client ∈ others ↔
      client ∉ chosen ∧ (call client).keys.Nodup := by
    simp [others]
  let ended := each (fun _ => .done) others.toList (initial call).progress
  have first : Reaches (initial call) (calm ∅ ended) := by
    apply reaches_all_done others.nodup_toList
    · exact fun client => Progress.wake_lockNext [] _
    · intro client mem
      exact ⟨(call client).keys, (isOther.mp (Finset.mem_toList.mp mem)).2, rfl⟩
  have notEnded {client : T} (mem : client ∉ others) :
      ended client = .lockNext [] (call client).keys := by
    simp [ended, each, mem, initial]
  have chosenNotEnded {client : T} (mem : client ∈ chosen) : client ∉ others :=
    fun isEnded => (isOther.mp isEnded).1 mem
  obtain ⟨last, second, isLast⟩ : ∃ last, Reaches (calm ∅ ended)
      (calm last (each taking chosen.toList ended)) ∧
        ∀ client ∈ chosen.toList, firstKey (call client) ∈ last := by
    apply reaches_all_taken chosen.nodup_toList
    · intro client mem
      have mem := Finset.mem_toList.mp mem
      obtain ⟨key, keyOnCircle, rfl⟩ := isChosen.mp mem
      rw [notEnded (chosenNotEnded mem), isCall key keyOnCircle]
      exact ⟨[following key], rfl⟩
    · intro one isOne two isTwo same
      obtain ⟨key, keyOnCircle, rfl⟩ := isChosen.mp (Finset.mem_toList.mp isOne)
      obtain ⟨key', keyOnCircle', rfl⟩ := isChosen.mp (Finset.mem_toList.mp isTwo)
      rw [isCall key keyOnCircle, isCall key' keyOnCircle'] at same
      exact congrArg pick same
  have locked {key : κ} (keyOnCircle : OnCircle call key) : key ∈ last := by
    have mem := isLast (pick key) (Finset.mem_toList.mpr (isChosen.mpr ⟨key, keyOnCircle, rfl⟩))
    rwa [isCall key keyOnCircle] at mem
  -- everybody else comes to a key that is taken
  have waits {client : T} (unfinished : client ∉ others) : ∃ taken key rest,
      each taking chosen.toList ended client = .locking taken key rest .enter ∧ key ∈ last := by
    by_cases isPicked : client ∈ chosen
    · obtain ⟨key, keyOnCircle, rfl⟩ := isChosen.mp isPicked
      refine ⟨[key], following key, [], ?_, locked (onCircle key keyOnCircle)⟩
      simp [each, isPicked, notEnded unfinished, isCall key keyOnCircle, LockCall.keys,
        Progress.lockNext, taking]
    · have repeated : ¬ (call client).keys.Nodup :=
        fun distinct => unfinished (isOther.mpr ⟨isPicked, distinct⟩)
      cases isClientCall : call client with
      | lockVolume volume => simp [isClientCall, LockCall.keys] at repeated
      | lockVolumeWithSnapshot volume snapshot =>
          have same : volume = snapshot := by simpa [isClientCall, LockCall.keys] using repeated
          subst same
          have loop : OnCircle call volume := .single ⟨client, isClientCall⟩
          refine ⟨[], volume, [volume], ?_, locked loop⟩
          simp [each, isPicked, notEnded unfinished, isClientCall, LockCall.keys,
            Progress.lockNext]
  have third := reaches_all_asleep (othersᶜ).nodup_toList fun client mem =>
    waits (by simpa using mem)
  have asleep {client : T} (unfinished : client ∉ others) : ∃ taken key rest,
      each sleeping (othersᶜ).toList (each taking chosen.toList ended) client =
        .locking taken key rest .asleep := by
    obtain ⟨taken, key, rest, isWaiting, _⟩ := waits unfinished
    refine ⟨taken, key, rest, ?_⟩
    rw [each_of_mem sleeping (by simpa using unfinished), isWaiting]
    rfl
  refine ⟨_, (first.trans second).trans third, deadlocked_of_asleep ⟨pick start, ?_⟩ ?_⟩
  · obtain ⟨taken, key, rest, isAsleep⟩ :=
      asleep (chosenNotEnded (isChosen.mpr ⟨start, circle, rfl⟩))
    intro isDone
    cases isAsleep.symm.trans isDone
  · intro client
    by_cases isEnded : client ∈ others
    · left
      have unpicked := (isOther.mp isEnded).1
      show each sleeping _ _ client = _
      rw [each_of_not_mem sleeping (by simpa using isEnded),
        each_of_not_mem taking (by simpa using unpicked)]
      exact each_of_mem _ (Finset.mem_toList.mpr isEnded)
    · exact .inr (asleep isEnded)

/-- Whether the clients of a finite number of calls can wait for each other for ever: exactly
if their keys form a circle. -/
theorem deadlock_free_iff_acyclic [Finite T] (call : T → LockCall κ) :
    (∀ state, Reaches (initial call) state → ¬ Deadlocked state) ↔
      ∀ key, ¬ Relation.TransGen (TakenBefore call) key key := by
  constructor
  · intro free key circle
    obtain ⟨state, reached, deadlocked⟩ := deadlock_of_circle circle
    exact free state reached deadlocked
  · intro acyclic state reached deadlocked
    obtain ⟨key, circle⟩ := circle_of_deadlocked (lockInv_of_reaches reached) deadlocked
    exact acyclic key circle

end Circles

/-! ## The requests of the controller -/

section Requests

open Cluster Interaction Go

/-- The calls `lock` and `unlock` of the cluster are what the steps of the volume lock
amount to: each step leaves the owners of the keys alone or is one of the two calls. -/
theorem exec_of_lockStep {call : Tid → LockCall String} {thread : Tid}
    {state next : LockState Tid String} {shared : Shared} (inv : LockInv call state)
    (owners : Owners state.held shared.locked)
    (stepped : LockState.step thread state = some next) :
    Owners next.held shared.locked ∨
    ∃ key after, Owners next.held after.locked ∧
      (exec thread (.lock key) {} shared = some ((), after) ∨
        shared.locked key = some thread ∧
          exec thread (.unlock key) {} shared = some ((), after)) := by
  rcases owners.move inv.sound (move_of_effect inv (effect_of_step stepped)) with
    same | ⟨key, free, given⟩ | ⟨key, own, freed⟩
  · exact .inl same
  · exact .inr ⟨key, shared.setLocked key (some thread), given, .inl (if_pos free)⟩
  · exact .inr ⟨key, shared.setLocked key none, freed, .inr ⟨own, rfl⟩⟩

/-- The call of the lock a request makes when it gets that far. -/
def lockCall : Request → Option (LockCall String)
  | .createVolume _ req => some (.lockVolume (toLower req.name))
  | .deleteVolume req => some (.lockVolume (toLower req.volumeId))
  | .controllerExpandVolume req => some (.lockVolume (toLower req.volumeId))
  | .createSnapshot _ _ req =>
      some (.lockVolumeWithSnapshot (toLower req.sourceVolumeId) (toLower req.name))
  | .deleteSnapshot req =>
      match split '@' req.snapshotId with
      | [volumeID, snapName] => some (.lockVolumeWithSnapshot volumeID snapName)
      | _ => none
  | .nodeExpandVolume _ _ => none

/-- A program that makes a call of the lock, if any: after checks that only read, and
without an answer of its own to change. -/
inductive LocksAs (call : LockCall String) : {α : Type} → Routine α → Prop
  | refused {α : Type} (value : α) : LocksAs call (.ret value)
  | lockVolume {α : Type} (volume : String) (body : Routine α)
      (isCall : call = .lockVolume volume) : LocksAs call (Driver.lockVolume volume body)
  | lockVolumeWithSnapshot {α : Type} (volume snapshot : String) (body : Routine α)
      (isCall : call = .lockVolumeWithSnapshot volume snapshot) :
      LocksAs call (Driver.lockVolumeWithSnapshot volume snapshot body)
  | checked {α β : Type} (checks : Routine β) (next : β → Routine α)
      (reads : checks.Calls Op.Reads) (locks : ∀ value, LocksAs call (next value)) :
      LocksAs call (checks >>= next)
  | answered {α β : Type} (program : Routine β) (answer : β → α)
      (locks : LocksAs call program) :
      LocksAs call (program >>= fun value => .ret (answer value))

/-- The requests make the calls they are said to make. -/
theorem serve_locksAs (compile : Compile) {req : Request} {call : LockCall String}
    (isCall : lockCall req = some call) : LocksAs call (serve compile req) := by
  cases req with
  | createVolume polls req =>
      cases isCall
      apply LocksAs.answered
      unfold Driver.createVolume
      split
      · exact .refused _
      · exact .answered _ _ (.lockVolume _ _ rfl)
  | deleteVolume req =>
      cases isCall
      apply LocksAs.answered
      unfold Driver.deleteVolume
      split
      · exact .refused _
      · exact .lockVolume _ _ rfl
  | controllerExpandVolume req =>
      cases isCall
      apply LocksAs.answered
      unfold Driver.controllerExpandVolume
      dsimp only
      split
      · exact .refused _
      · exact .lockVolume _ _ rfl
  | createSnapshot polls now req =>
      cases isCall
      apply LocksAs.answered
      apply LocksAs.checked _ _ (calls_verifySnapshotRequest _ _)
      intro verified
      cases verified with
      | error err => exact .refused _
      | ok => exact .lockVolumeWithSnapshot _ _ _ rfl
  | deleteSnapshot req =>
      apply LocksAs.answered
      unfold Driver.deleteSnapshot
      simp only [lockCall] at isCall
      split
      · exact .refused _
      · generalize Go.split '@' req.snapshotId = parts at isCall ⊢
        rcases parts with _ | ⟨_, _ | ⟨_, _ | _⟩⟩ <;> cases isCall
        exact .lockVolumeWithSnapshot _ _ _ rfl
  | nodeExpandVolume => contradiction

/-- Some request takes the one key and then the other. -/
def RequestTakes (requests : T → Request) (volume snapshot : String) : Prop :=
  ∃ client, lockCall (requests client) = some (.lockVolumeWithSnapshot volume snapshot)

/-- No interleaving of the lock and unlock steps of finitely many requests blocks all that
are not finished, if and only if the keys of their snapshot requests form no circle. -/
theorem requests_deadlock_free_iff [Finite T] [DecidableEq T] {requests : T → Request}
    {call : T → LockCall String}
    (makes : ∀ client, lockCall (requests client) = some (call client)) :
    (∀ state, Reaches (initial call) state → ¬ Deadlocked state) ↔
      ∀ key, ¬ Relation.TransGen (RequestTakes requests) key key := by
  have same : TakenBefore call = RequestTakes requests := by
    funext volume snapshot
    apply propext
    constructor
    · rintro ⟨client, isCall⟩
      exact ⟨client, isCall ▸ makes client⟩
    · rintro ⟨client, isCall⟩
      exact ⟨client, Option.some.inj ((makes client).symm.trans isCall)⟩
  rw [← same]
  exact deadlock_free_iff_acyclic call

/-- Two requests to delete a snapshot. -/
def deletions (first second : String) : Bool → Request
  | false => .deleteSnapshot { snapshotId := first }
  | true => .deleteSnapshot { snapshotId := second }

/-- The calls of two snapshot requests. -/
def pairCalls (first second : String × String) : Bool → LockCall String
  | false => .lockVolumeWithSnapshot first.1 first.2
  | true => .lockVolumeWithSnapshot second.1 second.2

theorem requests_deadlock_free_iff_deletions :
    (∀ client, lockCall (deletions "v@s" "v@t" client) =
      some (pairCalls ("v", "s") ("v", "t") client)) ∧
    ∀ state, Reaches (initial (pairCalls ("v", "s") ("v", "t"))) state → ¬ Deadlocked state := by
  have makes : ∀ client, lockCall (deletions "v@s" "v@t" client) =
      some (pairCalls ("v", "s") ("v", "t") client) := by
    intro client
    cases client <;> rfl
  refine ⟨makes, (requests_deadlock_free_iff makes).mpr ?_⟩
  have volumes {volume snapshot : String}
      (takes : RequestTakes (deletions "v@s" "v@t") volume snapshot) :
      volume = "v" ∧ snapshot ≠ "v" := by
    obtain ⟨client, isCall⟩ := takes
    have isCall := Option.some.inj ((makes client).symm.trans isCall)
    cases client with
    | false | true =>
        cases isCall
        decide
  intro key circle
  obtain ⟨_, first, _⟩ := Relation.TransGen.head'_iff.mp circle
  obtain ⟨_, _, last⟩ := Relation.TransGen.tail'_iff.mp circle
  exact (volumes last).2 (volumes first).1

/-- Two requests that take the same keys in different orders: each takes its first key
and waits for the other one. -/
theorem snapshot_deletions_deadlock :
    (∀ client, lockCall (deletions "a@b" "b@a" client) =
      some (pairCalls ("a", "b") ("b", "a") client)) ∧
    ∃ state, Reaches (initial (pairCalls ("a", "b") ("b", "a"))) state ∧ Deadlocked state := by
  constructor
  · intro client
    cases client <;> rfl
  · refine ⟨_, ⟨[false, false, false, false, true, true, true, true, false, false, true, true],
      rfl⟩, deadlocked_of_asleep ⟨false, nofun⟩ ?_⟩
    intro client
    right
    cases client with
    | false => exact ⟨["a"], "b", [], rfl⟩
    | true => exact ⟨["b"], "a", [], rfl⟩

end Requests

end ZfsLocalPv.Properties

import ZfsLocalPv.Driver.LockMachine

/-!
# The volume lock is a keyed mutex

Whatever the interleaving of its clients, the set `locked` holds exactly the keys taken and not
released, each of one client, and no client passes the test of a key that is taken.
-/

namespace ZfsLocalPv.Properties

open Driver Locking LockState

variable {T κ : Type}

/-- The progress of a client fits its call. -/
def Follows (keys : List κ) : Progress κ → Prop
  | .locking taken key rest _ => taken ++ key :: rest = keys
  | .holding held => held = keys
  | .unlocking released key rest _ => released ++ key :: rest = keys
  | .done => True

theorem follows_lockNext (taken rest : List κ) :
    Follows (taken ++ rest) (.lockNext taken rest) := by
  cases rest with
  | nil => simp [Progress.lockNext, Follows]
  | cons key rest => rfl

theorem follows_unlockNext (released rest : List κ) :
    Follows (released ++ rest) (.unlockNext released rest) := by
  cases rest with
  | nil => trivial
  | cons key rest => rfl

theorem follows_wake {keys : List κ} {progress : Progress κ} (follows : Follows keys progress) :
    Follows keys progress.wake := by
  unfold Progress.wake
  split
  · exact follows
  · exact follows

/-- The client is about to wake the sleepers. -/
def Broadcasts (state : LockState T κ) (client : T) : Prop :=
  ∃ released key rest, state.progress client = .unlocking released key rest .broadcast

/-- What holds in every state of the lock. -/
structure LockInv (call : T → LockCall κ) (state : LockState T κ) : Prop where
  sound : Sound state.held state.locked
  follows : ∀ client, Follows (call client).keys (state.progress client)
  mutex : ∀ client, (state.progress client).HasMutex ↔ state.mutex = some client
  free : ∀ client taken key rest,
    state.progress client = .locking taken key rest .take → key ∉ state.locked
  woken : ∀ client taken key rest, state.progress client = .locking taken key rest .asleep →
    key ∈ state.locked ∨ ∃ other, Broadcasts state other

section Invariant

theorem lockInv_initial (call : T → LockCall κ) : LockInv call (initial call) where
  sound := by
    have none : (initial call).held = fun _ => [] := by
      funext client
      exact Progress.held_lockNext [] _
    rw [none]
    exact sound_empty
  follows := fun client => follows_lockNext [] _
  mutex := by
    intro client
    have outside := Progress.not_hasMutex_lockNext [] (call client).keys
    exact iff_of_false outside nofun
  free := fun client taken key rest isTake => nomatch Progress.point_of_lockNext isTake
  woken := fun client taken key rest isAsleep => nomatch Progress.point_of_lockNext isAsleep

variable [DecidableEq T] [DecidableEq κ] {call : T → LockCall κ} {client : T}
  {state next : LockState T κ}

/-- A step takes a free key, gives back a key or leaves the keys alone. -/
theorem move_of_effect (inv : LockInv call state) (effect : Effect client state next) :
    Move client state.held state.locked next.held next.locked := by
  have same {progress : Progress κ} (isSame : progress.held = (state.progress client).held) :
      (state.goto client progress).held = state.held := held_goto_same isSame
  cases effect with
  | lockMutex taken key rest point before outside unowned =>
      have kept : (state.goto client (.locking taken key rest .test)).held = state.held := by
        apply same
        rcases outside with rfl | rfl
        · rw [before]
          rfl
        · rw [before]
          rfl
      exact kept ▸ .stay
  | wait taken key rest before isLocked =>
      have kept : (state.goto client (.locking taken key rest .asleep)).held = state.held :=
        same (by rw [before]; rfl)
      exact kept ▸ .stay
  | pass taken key rest before free =>
      have kept : (state.goto client (.locking taken key rest .take)).held = state.held :=
        same (by rw [before]; rfl)
      exact kept ▸ .stay
  | take taken key rest before =>
      have added : (state.goto client (.locking taken key rest .exit)).held =
          Function.update state.held client (state.held client ++ [key]) := by
        rw [held_goto, LockState.held, before]
        rfl
      exact added ▸ .acquire key (inv.free client taken key rest before)
  | locked taken key rest before =>
      have kept : (state.goto client (.lockNext (taken ++ [key]) rest)).held = state.held :=
        same (by rw [before, Progress.held_lockNext]; rfl)
      exact kept ▸ .stay
  | release keys before =>
      have kept : (state.goto client (.unlockNext [] keys)).held = state.held :=
        same (by rw [before, Progress.held_unlockNext]; rfl)
      exact kept ▸ .stay
  | unlockMutex released key rest before unowned =>
      have kept : (state.goto client (.unlocking released key rest .delete)).held = state.held :=
        same (by rw [before]; rfl)
      exact kept ▸ .stay
  | delete released key rest before =>
      have dropped : (state.goto client (.unlocking released key rest .broadcast)).held =
          Function.update state.held client rest := by
        rw [held_goto]
        rfl
      have holds : state.held client = key :: rest := by
        rw [LockState.held, before]
        rfl
      exact dropped ▸ .release key rest holds
  | broadcast released key rest before =>
      have kept : (state.wakeAll.goto client (.unlocking released key rest .exit)).held =
          state.held := by
        rw [held_goto_same, held_wakeAll]
        rw [held_wakeAll, LockState.held, before]
        rfl
      exact kept ▸ .stay
  | unlocked released key rest before =>
      have kept : (state.goto client (.unlockNext (released ++ [key]) rest)).held = state.held :=
        same (by rw [before, Progress.held_unlockNext]; rfl)
      exact kept ▸ .stay

/-! What the other fields of the invariant need to know of a step: the clients that do not
move stay where they are, or are woken. -/

theorem progress_of_effect (effect : Effect client state next) {other : T}
    (differs : other ≠ client) :
    next.progress other = state.progress other ∨
      Broadcasts state client ∧ next.progress other = (state.progress other).wake := by
  cases effect with
  | broadcast released key rest before =>
      exact .inr ⟨⟨released, key, rest, before⟩, progress_goto_of_ne differs _⟩
  | _ => exact .inl (progress_goto_of_ne differs _)

theorem follows_of_effect (inv : LockInv call state) (effect : Effect client state next)
    (other : T) : Follows (call other).keys (next.progress other) := by
  have followed := inv.follows other
  by_cases same : other = client
  · subst same
    cases effect with
    | lockMutex taken key rest point before outside unowned =>
        rw [before] at followed
        simp only [progress_goto_self]
        exact followed
    | wait taken key rest before | pass taken key rest before | take taken key rest before
    | unlockMutex taken key rest before | delete taken key rest before
    | broadcast taken key rest before =>
        rw [before] at followed
        simp only [leave, progress_goto_self]
        exact followed
    | locked taken key rest before =>
        rw [before, Follows, List.append_cons] at followed
        simp only [leave, progress_goto_self, ← followed]
        exact follows_lockNext _ _
    | release keys before =>
        rw [before, Follows] at followed
        simp only [progress_goto_self, ← followed]
        exact follows_unlockNext [] keys
    | unlocked released key rest before =>
        rw [before, Follows, List.append_cons] at followed
        simp only [leave, progress_goto_self, ← followed]
        exact follows_unlockNext _ _
  · rcases progress_of_effect effect same with stays | ⟨_, wakes⟩
    · rw [stays]
      exact followed
    · rw [wakes]
      exact follows_wake followed

/-- The mutex has one owner: the client that is between its `Lock` and its `Unlock`. -/
theorem mutex_of_effect (inv : LockInv call state) (effect : Effect client state next)
    (other : T) : (next.progress other).HasMutex ↔ next.mutex = some other := by
  have owned := inv.mutex client
  by_cases same : other = client
  · subst same
    cases effect with
    | lockMutex | unlockMutex =>
        simp [progress_goto_self, Progress.HasMutex]
    | wait taken key rest before =>
        simp [leave, progress_goto_self, Progress.HasMutex]
    | pass taken key rest before | take taken key rest before | delete taken key rest before
    | broadcast taken key rest before =>
        rw [before] at owned
        simpa [goto, wakeAll, Progress.HasMutex] using owned
    | locked taken key rest before =>
        simp [leave, progress_goto_self, Progress.not_hasMutex_lockNext]
    | release keys before =>
        rw [before] at owned
        rw [progress_goto_self]
        exact iff_of_false (Progress.not_hasMutex_unlockNext _ _) fun isOwner => owned.mpr isOwner
    | unlocked released key rest before =>
        simp [leave, progress_goto_self, Progress.not_hasMutex_unlockNext]
  · have kept : (next.progress other).HasMutex ↔ (state.progress other).HasMutex := by
      rcases progress_of_effect effect same with stays | ⟨_, wakes⟩
      · rw [stays]
      · rw [wakes, Progress.hasMutex_wake]
    rw [kept, inv.mutex]
    cases effect with
    | lockMutex taken key rest point before outside unowned
    | unlockMutex taken key rest before unowned =>
        simp [unowned, Ne.symm same]
    | wait taken key rest before | locked taken key rest before | unlocked taken key rest before =>
        rw [before] at owned
        have isOwner : state.mutex = some client := owned.mp trivial
        simp [leave, isOwner, Ne.symm same]
    | pass | take | release | delete | broadcast => rfl

omit [DecidableEq T] [DecidableEq κ] in
/-- Two clients do not both have the mutex. -/
theorem hasMutex_unique (inv : LockInv call state) {one two : T}
    (first : (state.progress one).HasMutex) (second : (state.progress two).HasMutex) :
    one = two := by
  have isOne := (inv.mutex one).mp first
  have isTwo := (inv.mutex two).mp second
  exact Option.some.inj (isOne.symm.trans isTwo)

theorem free_of_effect (inv : LockInv call state) (effect : Effect client state next)
    (other : T) (taken : List κ) (key : κ) (rest : List κ)
    (isTake : next.progress other = .locking taken key rest .take) : key ∉ next.locked := by
  by_cases same : other = client
  · subst same
    cases effect with
    | pass taken' key' rest' before free =>
        rw [progress_goto_self] at isTake
        cases isTake
        exact free
    | lockMutex | wait | take | unlockMutex | delete | broadcast =>
        simp only [leave, progress_goto_self] at isTake
        cases isTake
    | locked =>
        simp only [leave, progress_goto_self] at isTake
        cases Progress.point_of_lockNext isTake
    | release | unlocked =>
        simp only [leave, progress_goto_self] at isTake
        exact absurd isTake Progress.unlockNext_ne_locking
  · have wasTake : state.progress other = .locking taken key rest .take := by
      rcases progress_of_effect effect same with stays | ⟨_, wakes⟩
      · exact stays ▸ isTake
      · exact Progress.wake_eq_take_iff.mp (wakes ▸ isTake)
    have free := inv.free other taken key rest wasTake
    cases effect with
    | take taken' key' rest' before =>
        -- the mutex keeps two clients from being past the test at once
        have both : other = client := by
          apply hasMutex_unique inv
          · rw [wasTake]
            trivial
          · rw [before]
            trivial
        exact absurd both same
    | delete released key' rest' before =>
        exact fun isLocked => free (Finset.mem_of_mem_erase isLocked)
    | lockMutex | wait | pass | unlockMutex | broadcast | locked | release | unlocked => exact free

/-- A key for which a client sleeps is taken, or the client is about to be woken. -/
theorem woken_of_effect (inv : LockInv call state) (effect : Effect client state next)
    (other : T) (taken : List κ) (key : κ) (rest : List κ)
    (isAsleep : next.progress other = .locking taken key rest .asleep) :
    key ∈ next.locked ∨ ∃ other, Broadcasts next other := by
  by_cases same : other = client
  · subst same
    cases effect with
    | wait taken' key' rest' before isLocked =>
        simp only [leave, progress_goto_self] at isAsleep
        cases isAsleep
        exact .inl isLocked
    | lockMutex | pass | take | unlockMutex | delete | broadcast =>
        simp only [progress_goto_self] at isAsleep
        cases isAsleep
    | locked =>
        simp only [leave, progress_goto_self] at isAsleep
        cases Progress.point_of_lockNext isAsleep
    | release | unlocked =>
        simp only [leave, progress_goto_self] at isAsleep
        exact absurd isAsleep Progress.unlockNext_ne_locking
  · rcases progress_of_effect effect same with stays | ⟨_, wakes⟩
    · rcases inv.woken other taken key rest (stays ▸ isAsleep) with isLocked | ⟨waker, broadcasts⟩
      · cases effect with
        | take taken' key' rest' before => exact .inl (Finset.mem_insert_of_mem isLocked)
        | delete released key' rest' before =>
            exact .inr ⟨client, released, key', rest', progress_goto_self _⟩
        | lockMutex | wait | pass | unlockMutex | broadcast | locked | release | unlocked =>
            exact .inl isLocked
      · right
        obtain ⟨released, key', rest', isBroadcast⟩ := broadcasts
        by_cases isClient : waker = client
        · subst isClient
          cases effect with
          | broadcast released key rest before =>
              rw [progress_goto_of_ne same] at isAsleep
              exact absurd isAsleep Progress.wake_ne_asleep
          | lockMutex _ _ _ _ before | wait _ _ _ before | pass _ _ _ before | take _ _ _ before
          | unlockMutex _ _ _ before | delete _ _ _ before | locked _ _ _ before
          | release _ before | unlocked _ _ _ before =>
              cases before.symm.trans isBroadcast
        · refine ⟨waker, released, key', rest', ?_⟩
          rcases progress_of_effect effect isClient with stays | ⟨_, wakes⟩
          · rw [stays, isBroadcast]
          · rw [wakes, isBroadcast]
            rfl
    · exact absurd (wakes ▸ isAsleep) Progress.wake_ne_asleep

theorem LockInv.step (inv : LockInv call state) (stepped : step client state = some next) :
    LockInv call next := by
  have effect := effect_of_step stepped
  exact ⟨inv.sound.move (move_of_effect inv effect), follows_of_effect inv effect,
    mutex_of_effect inv effect, free_of_effect inv effect, woken_of_effect inv effect⟩

theorem LockInv.run {clients : List T} (inv : LockInv call state)
    (ran : run clients state = some next) : LockInv call next := by
  induction clients generalizing state with
  | nil =>
      cases ran
      exact inv
  | cons client clients ih =>
      obtain ⟨middle, stepped, rest⟩ := Option.bind_eq_some_iff.mp ran
      exact ih (inv.step stepped) rest

theorem lockInv_of_reaches (reached : Reaches (initial call) state) : LockInv call state := by
  obtain ⟨clients, ran⟩ := reached
  exact (lockInv_initial call).run ran

/-! ## Releasing -/

/-- The call of the client has returned. -/
def Returned : Progress κ → Prop
  | .locking _ _ _ _ => False
  | _ => True

/-- The keys the steps of a client take out of the set. -/
def removedBy (client : T) : List T → LockState T κ → Finset κ
  | [], _ => ∅
  | mover :: movers, state =>
      match LockState.step mover state with
      | none => ∅
      | some next =>
          (if mover = client then state.locked \ next.locked else ∅) ∪
            removedBy client movers next

/-- A client that has its keys gives back the first of them or none. -/
theorem effect_of_returned (returned : Returned (state.progress client))
    (effect : Effect client state next) :
    Returned (next.progress client) ∧
      (next.held client = state.held client ∧ next.locked = state.locked ∨
        ∃ key, state.held client = key :: next.held client ∧
          next.locked = state.locked.erase key) := by
  unfold LockState.held
  cases effect with
  | lockMutex _ _ _ _ before | wait _ _ _ before | pass _ _ _ before | take _ _ _ before
  | locked _ _ _ before =>
      rw [before] at returned
      exact returned.elim
  | release keys before =>
      simp only [progress_goto_self, before, Progress.held_unlockNext]
      refine ⟨?_, .inl ⟨rfl, rfl⟩⟩
      cases keys <;> trivial
  | unlockMutex released key rest before unowned =>
      simp only [progress_goto_self, before]
      exact ⟨trivial, .inl ⟨rfl, rfl⟩⟩
  | delete released key rest before =>
      simp only [progress_goto_self, before]
      exact ⟨trivial, .inr ⟨key, rfl, rfl⟩⟩
  | broadcast released key rest before =>
      simp only [progress_goto_self, before]
      exact ⟨trivial, .inl ⟨rfl, rfl⟩⟩
  | unlocked released key rest before =>
      simp only [leave, progress_goto_self, before, Progress.held_unlockNext]
      refine ⟨?_, .inl ⟨rfl, rfl⟩⟩
      cases rest <;> trivial

/-- A client is not moved on by others while it has its keys. -/
theorem progress_of_returned {other : T} (returned : Returned (state.progress client))
    (differs : client ≠ other) (effect : Effect other state next) :
    next.progress client = state.progress client := by
  rcases progress_of_effect effect differs with stays | ⟨_, wakes⟩
  · exact stays
  · rw [wakes]
    cases isProgress : state.progress client with
    | locking =>
        rw [isProgress] at returned
        exact returned.elim
    | holding | unlocking | done => rfl

/-- Until it is done, a client takes out exactly the keys it has. -/
theorem removedBy_of_run {movers : List T} (inv : LockInv call state)
    (returned : Returned (state.progress client)) (ran : LockState.run movers state = some next)
    (done : next.progress client = .done) :
    removedBy client movers state = (state.held client).toFinset := by
  induction movers generalizing state with
  | nil =>
      cases ran
      simp [removedBy, LockState.held, done, Progress.held]
  | cons mover movers ih =>
      obtain ⟨middle, stepped, rest⟩ := Option.bind_eq_some_iff.mp ran
      have effect := effect_of_step stepped
      simp only [removedBy, stepped]
      by_cases isClient : mover = client
      · subst isClient
        obtain ⟨stillReturned, kept | ⟨key, holds, erased⟩⟩ := effect_of_returned returned effect
        · rw [ih (inv.step stepped) stillReturned rest, kept.1, kept.2]
          simp
        · have isLocked : key ∈ state.locked :=
            (inv.sound.mem_taken_iff key).mpr ⟨mover, by simp [holds]⟩
          rw [ih (inv.step stepped) stillReturned rest, holds, erased, if_pos rfl,
            Finset.sdiff_erase_self isLocked]
          simp
      · have stays := progress_of_returned returned (Ne.symm isClient) effect
        rw [ih (inv.step stepped) (stays.symm ▸ returned) rest, if_neg isClient, LockState.held,
          LockState.held, stays]
        simp

/-- In every state of every interleaving the set `locked` holds the keys taken and not
released, no key is held twice, a client that returns gives back exactly the keys of its
call, and a client that goes on to take its key finds it free. -/
theorem volumeLock_is_keyed_mutex (reached : Reaches (initial call) state) :
    (∀ key, key ∈ state.locked ↔ ∃ client, key ∈ state.held client) ∧
    (∀ key one two, key ∈ state.held one → key ∈ state.held two → one = two) ∧
    (∀ client keys movers last, state.progress client = .holding keys →
      LockState.run movers state = some last → last.progress client = .done →
      removedBy client movers state = (call client).keys.toFinset) ∧
    ∀ client taken key rest, state.progress client = .locking taken key rest .take →
      key ∉ state.locked := by
  have inv := lockInv_of_reaches reached
  refine ⟨inv.sound.mem_taken_iff, inv.sound.exclusive, ?_, inv.free⟩
  intro client keys movers last isHolding ran done
  have follows := inv.follows client
  rw [isHolding] at follows
  have holds : state.held client = (call client).keys := by
    rw [LockState.held, isHolding]
    exact follows
  rw [removedBy_of_run inv (isHolding ▸ trivial) ran done, holds]

end Invariant

/-! ## A run -/

/-- A snapshot request and a request for its volume. -/
def twoCalls : Bool → LockCall String
  | false => .lockVolumeWithSnapshot "v" "s"
  | true => .lockVolume "v"

/-- The snapshot request takes its keys while the other one goes to sleep. -/
def holdingRun : List Bool :=
  [false, false, false, false, true, true, false, false, false, false]

theorem volumeLock_is_keyed_mutex_twoCalls :
    ∃ state last, Reaches (initial twoCalls) state ∧
      LockState.run (List.replicate 9 false) state = some last ∧
      removedBy false (List.replicate 9 false) state = {"v", "s"} := by
  obtain ⟨state, ran⟩ : ∃ state, LockState.run holdingRun (initial twoCalls) = some state :=
    ⟨_, rfl⟩
  obtain ⟨last, released⟩ : ∃ last, LockState.run (List.replicate 9 false) state = some last := by
    cases ran
    exact ⟨_, rfl⟩
  have reached : Reaches (initial twoCalls) state := ⟨holdingRun, ran⟩
  refine ⟨state, last, reached, released, ?_⟩
  have isHolding : state.progress false = .holding ["v", "s"] := by
    cases ran
    rfl
  have done : last.progress false = .done := by
    cases ran
    cases released
    rfl
  exact (volumeLock_is_keyed_mutex reached).2.2.1 false ["v", "s"] _ last isHolding released done

end ZfsLocalPv.Properties

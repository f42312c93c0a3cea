import ZfsLocalPv.Locking.KeyedMutex

/-!
# The volume lock, step by step

`LockVolume` and the functions it returns, as goroutines execute them: one mutex, one condition
variable for all keys and the set `locked`. A client is one call of `LockVolume` or
`LockVolumeWithSnapshot` together with the call of the function it returns, made by whichever
goroutine. `Wait` lets go of the mutex and falls asleep in one step, and `Broadcast` wakes every
sleeper; a woken one takes the mutex again and tests its key again.

Only the set `locked` guards the keys. The machine moves as a keyed mutex does: it takes a key
that is free and gives back keys of the client, in the order in which they were taken.
-/

namespace ZfsLocalPv.Driver

open Locking

/-- A call of the lock. -/
inductive LockCall (κ : Type)
  | lockVolume (volume : κ)
  | lockVolumeWithSnapshot (volume snapshot : κ)
  deriving DecidableEq

/-- Where a client is in `LockVolume`. -/
inductive LockPoint
  /-- Before `cond.L.Lock`. -/
  | enter
  /-- At the test of the loop. -/
  | test
  /-- In `Wait`, not woken. -/
  | asleep
  /-- In `Wait`, woken, before it has the mutex again. -/
  | awake
  /-- After the loop. -/
  | take
  /-- Before the deferred `Unlock`. -/
  | exit
  deriving DecidableEq

/-- Where a client is in the function `LockVolume` returns. -/
inductive UnlockPoint
  | enter
  | delete
  | broadcast
  | exit
  deriving DecidableEq

/-- How far a client is: the keys behind it, the key at hand and the keys to come. -/
inductive Progress (κ : Type)
  | locking (taken : List κ) (key : κ) (rest : List κ) (point : LockPoint)
  /-- The call has returned and the function it returned is not called yet. -/
  | holding (keys : List κ)
  | unlocking (released : List κ) (key : κ) (rest : List κ) (point : UnlockPoint)
  | done
  deriving DecidableEq

variable {T κ : Type}

namespace Progress

/-- After the keys taken, on to the next one. -/
def lockNext (taken : List κ) : List κ → Progress κ
  | [] => holding taken
  | key :: rest => locking taken key rest .enter

/-- After the keys released, on to the next one. -/
def unlockNext (released : List κ) : List κ → Progress κ
  | [] => done
  | key :: rest => unlocking released key rest .enter

/-- `Broadcast` reaches those who are asleep. -/
def wake : Progress κ → Progress κ
  | locking taken key rest .asleep => locking taken key rest .awake
  | progress => progress

/-- The keys a client has taken and not released. -/
def held : Progress κ → List κ
  | locking taken key _ .exit => taken ++ [key]
  | locking taken _ _ _ => taken
  | holding keys => keys
  | unlocking _ key rest .enter | unlocking _ key rest .delete => key :: rest
  | unlocking _ _ rest _ => rest
  | done => []

/-- Whether the client has the mutex. -/
def HasMutex : Progress κ → Prop
  | locking _ _ _ .test | locking _ _ _ .take | locking _ _ _ .exit => True
  | unlocking _ _ _ .delete | unlocking _ _ _ .broadcast | unlocking _ _ _ .exit => True
  | _ => False

end Progress

/-- The keys of a call, in the order in which it takes them. -/
def LockCall.keys : LockCall κ → List κ
  | lockVolume volume => [volume]
  | lockVolumeWithSnapshot volume snapshot => [volume, snapshot]

structure LockState (T κ : Type) where
  /-- The holder of `cond.L`. -/
  mutex : Option T
  locked : Finset κ
  progress : T → Progress κ

namespace LockState

/-- Every client is about to make its call. -/
def initial (call : T → LockCall κ) : LockState T κ where
  mutex := none
  locked := ∅
  progress := fun client => .lockNext [] (call client).keys

variable [DecidableEq T]

/-- The client moves on. -/
def goto (state : LockState T κ) (client : T) (progress : Progress κ) : LockState T κ :=
  { state with progress := Function.update state.progress client progress }

/-- Take the mutex, if nobody has it. -/
def enter (state : LockState T κ) (client : T) (progress : Progress κ) :
    Option (LockState T κ) :=
  if state.mutex = none then some { state.goto client progress with mutex := some client }
  else none

/-- Let go of the mutex. -/
def leave (state : LockState T κ) (client : T) (progress : Progress κ) : LockState T κ :=
  { state.goto client progress with mutex := none }

/-- Wake every sleeper. -/
def wakeAll (state : LockState T κ) : LockState T κ :=
  { state with progress := fun client => (state.progress client).wake }

variable [DecidableEq κ]

/-- The next step of a client, if it can move. -/
def step (client : T) (state : LockState T κ) : Option (LockState T κ) :=
  match state.progress client with
  | .locking taken key rest .enter => state.enter client (.locking taken key rest .test)
  | .locking taken key rest .test =>
      if key ∈ state.locked then some (state.leave client (.locking taken key rest .asleep))
      else some (state.goto client (.locking taken key rest .take))
  | .locking _ _ _ .asleep => none
  | .locking taken key rest .awake => state.enter client (.locking taken key rest .test)
  | .locking taken key rest .take =>
      some { state.goto client (.locking taken key rest .exit) with
        locked := insert key state.locked }
  | .locking taken key rest .exit => some (state.leave client (.lockNext (taken ++ [key]) rest))
  | .holding keys => some (state.goto client (.unlockNext [] keys))
  | .unlocking released key rest .enter =>
      state.enter client (.unlocking released key rest .delete)
  | .unlocking released key rest .delete =>
      some { state.goto client (.unlocking released key rest .broadcast) with
        locked := state.locked.erase key }
  | .unlocking released key rest .broadcast =>
      some (state.wakeAll.goto client (.unlocking released key rest .exit))
  | .unlocking released key rest .exit =>
      some (state.leave client (.unlockNext (released ++ [key]) rest))
  | .done => none

/-- The steps of the clients in a list, one after the other. -/
def run : List T → LockState T κ → Option (LockState T κ)
  | [], state => some state
  | client :: clients, state => (step client state).bind (run clients)

/-- The states some interleaving of the clients leads to. -/
def Reaches (start state : LockState T κ) : Prop :=
  ∃ clients, run clients start = some state

/-- The keys of all clients. -/
def held (state : LockState T κ) (client : T) : List κ :=
  (state.progress client).held

end LockState

namespace Progress

@[simp]
theorem held_lockNext (taken rest : List κ) : (lockNext taken rest).held = taken := by
  cases rest <;> rfl

@[simp]
theorem held_unlockNext (released rest : List κ) : (unlockNext released rest).held = rest := by
  cases rest <;> rfl

@[simp]
theorem held_wake (progress : Progress κ) : progress.wake.held = progress.held := by
  unfold wake
  split <;> rfl

@[simp]
theorem wake_lockNext (taken rest : List κ) :
    (lockNext taken rest).wake = lockNext taken rest := by
  cases rest <;> rfl

@[simp]
theorem wake_unlockNext (released rest : List κ) :
    (unlockNext released rest).wake = unlockNext released rest := by
  cases rest <;> rfl

/-- The next key is not worked on yet. -/
theorem point_of_lockNext {taken rest taken' rest' : List κ} {key : κ} {point : LockPoint}
    (isNext : lockNext taken rest = locking taken' key rest' point) : point = .enter := by
  cases rest with
  | nil => contradiction
  | cons first rest =>
      cases isNext
      rfl

theorem unlockNext_ne_locking {released rest taken rest' : List κ} {key : κ} {point : LockPoint} :
    unlockNext released rest ≠ locking taken key rest' point := by
  cases rest <;> nofun

theorem wake_eq_take_iff {progress : Progress κ} {taken rest : List κ} {key : κ} :
    progress.wake = locking taken key rest .take ↔ progress = locking taken key rest .take := by
  unfold wake
  split
  · simp
  · rfl

theorem wake_ne_asleep {progress : Progress κ} {taken rest : List κ} {key : κ} :
    progress.wake ≠ locking taken key rest .asleep := by
  unfold wake
  split
  · simp
  · rename_i awake
    exact awake taken key rest

theorem not_hasMutex_lockNext (taken rest : List κ) : ¬ (lockNext taken rest).HasMutex := by
  cases rest <;> exact id

theorem not_hasMutex_unlockNext (released rest : List κ) :
    ¬ (unlockNext released rest).HasMutex := by
  cases rest <;> exact id

@[simp]
theorem hasMutex_wake (progress : Progress κ) : progress.wake.HasMutex ↔ progress.HasMutex := by
  unfold wake
  split <;> rfl

end Progress

namespace LockState

variable {client other : T} {state next : LockState T κ}

@[simp]
theorem held_wakeAll : state.wakeAll.held = state.held := by
  funext client
  exact Progress.held_wake _

section Goto

variable [DecidableEq T]

@[simp]
theorem progress_goto_self (progress : Progress κ) :
    (state.goto client progress).progress client = progress :=
  Function.update_self ..

theorem progress_goto_of_ne (differs : other ≠ client) (progress : Progress κ) :
    (state.goto client progress).progress other = state.progress other :=
  Function.update_of_ne differs ..

theorem held_goto (progress : Progress κ) :
    (state.goto client progress).held = Function.update state.held client progress.held := by
  funext other
  by_cases same : other = client
  · subst same
    simp [held]
  · simp [held, progress_goto_of_ne same, same]

theorem held_goto_same {progress : Progress κ} (same : progress.held = state.held client) :
    (state.goto client progress).held = state.held := by
  rw [held_goto, same, Function.update_eq_self]

end Goto

variable [DecidableEq T] [DecidableEq κ]

/-- What a step of a client can be. -/
inductive Effect (client : T) (state : LockState T κ) : LockState T κ → Prop
  /-- It takes the mutex, at first or after it was woken. -/
  | lockMutex (taken : List κ) (key : κ) (rest : List κ) (point : LockPoint)
      (before : state.progress client = .locking taken key rest point)
      (outside : point = .enter ∨ point = .awake) (unowned : state.mutex = none) :
      Effect client state
        { state.goto client (.locking taken key rest .test) with mutex := some client }
  | wait (taken : List κ) (key : κ) (rest : List κ)
      (before : state.progress client = .locking taken key rest .test)
      (isLocked : key ∈ state.locked) :
      Effect client state (state.leave client (.locking taken key rest .asleep))
  | pass (taken : List κ) (key : κ) (rest : List κ)
      (before : state.progress client = .locking taken key rest .test)
      (free : key ∉ state.locked) :
      Effect client state (state.goto client (.locking taken key rest .take))
  | take (taken : List κ) (key : κ) (rest : List κ)
      (before : state.progress client = .locking taken key rest .take) :
      Effect client state { state.goto client (.locking taken key rest .exit) with
        locked := insert key state.locked }
  | locked (taken : List κ) (key : κ) (rest : List κ)
      (before : state.progress client = .locking taken key rest .exit) :
      Effect client state (state.leave client (.lockNext (taken ++ [key]) rest))
  /-- It calls the function returned. -/
  | release (keys : List κ) (before : state.progress client = .holding keys) :
      Effect client state (state.goto client (.unlockNext [] keys))
  | unlockMutex (released : List κ) (key : κ) (rest : List κ)
      (before : state.progress client = .unlocking released key rest .enter)
      (unowned : state.mutex = none) :
      Effect client state
        { state.goto client (.unlocking released key rest .delete) with mutex := some client }
  | delete (released : List κ) (key : κ) (rest : List κ)
      (before : state.progress client = .unlocking released key rest .delete) :
      Effect client state { state.goto client (.unlocking released key rest .broadcast) with
        locked := state.locked.erase key }
  | broadcast (released : List κ) (key : κ) (rest : List κ)
      (before : state.progress client = .unlocking released key rest .broadcast) :
      Effect client state (state.wakeAll.goto client (.unlocking released key rest .exit))
  | unlocked (released : List κ) (key : κ) (rest : List κ)
      (before : state.progress client = .unlocking released key rest .exit) :
      Effect client state (state.leave client (.unlockNext (released ++ [key]) rest))

theorem effect_of_step (stepped : step client state = some next) : Effect client state next := by
  unfold step at stepped
  split at stepped
  · rename_i taken key rest before
    obtain ⟨unowned, isNext⟩ := Option.ite_none_right_eq_some.mp stepped
    cases isNext
    exact .lockMutex taken key rest .enter before (.inl rfl) unowned
  · rename_i taken key rest before
    split at stepped
    · rename_i isLocked
      cases stepped
      exact .wait taken key rest before isLocked
    · rename_i free
      cases stepped
      exact .pass taken key rest before free
  · contradiction
  · rename_i taken key rest before
    obtain ⟨unowned, isNext⟩ := Option.ite_none_right_eq_some.mp stepped
    cases isNext
    exact .lockMutex taken key rest .awake before (.inr rfl) unowned
  · rename_i taken key rest before
    cases stepped
    exact .take taken key rest before
  · rename_i taken key rest before
    cases stepped
    exact .locked taken key rest before
  · rename_i keys before
    cases stepped
    exact .release keys before
  · rename_i released key rest before
    obtain ⟨unowned, isNext⟩ := Option.ite_none_right_eq_some.mp stepped
    cases isNext
    exact .unlockMutex released key rest before unowned
  · rename_i released key rest before
    cases stepped
    exact .delete released key rest before
  · rename_i released key rest before
    cases stepped
    exact .broadcast released key rest before
  · rename_i released key rest before
    cases stepped
    exact .unlocked released key rest before
  · contradiction

theorem Reaches.trans {first second third : LockState T κ} (one : Reaches first second)
    (two : Reaches second third) : Reaches first third := by
  obtain ⟨movers, ran⟩ := one
  obtain ⟨more, rest⟩ := two
  refine ⟨movers ++ more, ?_⟩
  induction movers generalizing first with
  | nil =>
      cases ran
      exact rest
  | cons mover movers ih =>
      obtain ⟨middle, stepped, ran⟩ := Option.bind_eq_some_iff.mp ran
      exact Option.bind_eq_some_iff.mpr ⟨middle, stepped, ih ran⟩

end LockState

end ZfsLocalPv.Driver

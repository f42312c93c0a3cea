import ZfsLocalPv.Interaction.System

/-!
# Two processes connected by a pipe

`runPipe` of `pkg/zfs/zfs_util.go`, which runs `zfs send | nc` and `nc | zfs recv`. It starts
both processes, hands each its end of a pipe, and waits for both in goroutines of their own; a
process that fails has its peer killed.

The processes do as they like: they write, read, print, stay idle and exit with any status,
within what the kernel allows. A killed process ends at some later time and may still do
something before. They leave no descendant behind that holds their output open, so `Wait`, which
also waits for what is copied into the buffers, returns once the process has ended.
-/

namespace ZfsLocalPv.RunPipe

open Interaction

/-- The two processes. -/
inductive Side
  | source
  | destination
  deriving DecidableEq, Repr

def Side.peer : Side → Side
  | source => destination
  | destination => source

/-- How a process has ended. -/
inductive Exit
  | code (status : Nat)
  | signal (name : String)
  deriving DecidableEq, Repr

/-- `Wait` returns no error. -/
abbrev Exit.Succeeds (exit : Exit) : Prop :=
  exit = .code 0

/-- A process, from before its start until it was waited for. -/
inductive Process
  | absent
  | running (killed : Bool)
  | zombie (exit : Exit)
  | reaped (exit : Exit)
  deriving DecidableEq, Repr

/-- The goroutine that waits for a process and sends its exit over the channel. -/
inductive Waiter
  | absent
  | waiting
  | sending (exit : Exit)
  | done
  deriving DecidableEq, Repr

/-- The ends of the pipe that the parent owns. -/
inductive End
  | reader
  | writer
  deriving DecidableEq, Repr

/-- The errors that `runPipe` returns, joined. -/
inductive Failure
  | pipe (reason : String)
  | start (side : Side) (reason : String)
  | wait (side : Side) (exit : Exit)
  deriving DecidableEq, Repr

/-- What `runPipe` returns; there is no error if there are no failures. -/
structure Result where
  out : List UInt8
  failures : List Failure
  deriving DecidableEq

/-! ## The parent -/

inductive Op
  /-- `os.Pipe`. -/
  | pipe
  | close (one : End)
  | start (side : Side)
  | kill (side : Side)
  | wait (side : Side)
  /-- Start the goroutine that waits for a process. -/
  | go (side : Side)
  /-- The next value of the channel. -/
  | receive
  /-- What was printed into the buffer of a process. -/
  | output (side : Side)
  deriving DecidableEq

@[reducible]
def Op.Res : Op → Type
  | pipe | start _ => Except String Unit
  | close _ | kill _ | go _ => Unit
  | wait _ => Exit
  | receive => Side × Exit
  | output _ => List UInt8

@[reducible]
def signature : Signature where
  Op := Op
  Res := Op.Res

abbrev Routine := Prog signature

@[reducible]
def call (op : Op) : Routine op.Res :=
  Prog.lift (S := signature) op

/-- The loop over the channel: the peer of a process that has failed is killed. -/
def collect : Nat → List Failure → Routine (List Failure)
  | 0, waitErrors => return waitErrors
  | rounds + 1, waitErrors => do
      let (side, exit) ← call .receive
      if exit.Succeeds then
        collect rounds waitErrors
      else
        call (.kill side.peer)
        collect rounds (waitErrors ++ [.wait side exit])

/-- `runPipe` once the pipe is there, without the deferred calls. -/
def runConnected : Routine Result := do
  match ← call (.start .source) with
  | .error reason => return ⟨[], [.start .source reason]⟩
  | .ok () =>
      call (.close .writer)
      match ← call (.start .destination) with
      | .error reason =>
          call (.close .reader)
          call (.kill .source)
          let _ ← call (.wait .source)
          let srcErr ← call (.output .source)
          return ⟨srcErr, [.start .destination reason]⟩
      | .ok () =>
          call (.close .reader)
          call (.go .source)
          call (.go .destination)
          let waitErrors ← collect 2 []
          let srcErr ← call (.output .source)
          let dstOut ← call (.output .destination)
          return ⟨srcErr ++ dstOut, waitErrors⟩

/-- `runPipe`. -/
def runPipe : Routine Result := do
  match ← call .pipe with
  | .error reason => return ⟨[], [.pipe reason]⟩
  | .ok () =>
      let result ← runConnected
      -- the deferred calls
      call (.close .writer)
      call (.close .reader)
      return result

/-! ## The kernel, the processes and the goroutines -/

structure State where
  /-- Whether the parent has the ends of the pipe open. -/
  reader : Bool := false
  writer : Bool := false
  buffer : List UInt8 := []
  /-- All that the source has written and the destination has read. -/
  written : List UInt8 := []
  read : List UInt8 := []
  /-- The destination has seen the end of the stream. -/
  ended : Bool := false
  processes : Side → Process := fun _ => .absent
  /-- `srcErr` and `dstOut`. -/
  output : Side → List UInt8 := fun _ => []
  waiters : Side → Waiter := fun _ => .absent
  exits : List (Side × Exit) := []
  /-- What the parent has received from the channel. -/
  observed : List (Side × Exit) := []
  begun : Bool := false

namespace State

def setProcess (state : State) (side : Side) (process : Process) : State :=
  { state with processes := Function.update state.processes side process }

def setWaiter (state : State) (side : Side) (waiter : Waiter) : State :=
  { state with waiters := Function.update state.waiters side waiter }

def close (state : State) : End → State
  | .reader => { state with reader := false }
  | .writer => { state with writer := false }

/-- The process is running. -/
def Running (state : State) (side : Side) : Prop :=
  ∃ killed, state.processes side = .running killed

/-- Somebody may write to the pipe. -/
def Writable (state : State) : Prop :=
  state.writer = true ∨ state.Running .source

/-- Somebody may read from the pipe. -/
def Readable (state : State) : Prop :=
  state.reader = true ∨ state.Running .destination

instance (state : State) (side : Side) : Decidable (state.Running side) :=
  decidable_of_iff
    (state.processes side = .running false ∨ state.processes side = .running true) (by
    constructor
    · rintro (running | running)
      · exact ⟨false, running⟩
      · exact ⟨true, running⟩
    · rintro ⟨killed, running⟩
      cases killed with
      | false => exact .inl running
      | true => exact .inr running)

instance (state : State) : Decidable state.Writable :=
  inferInstanceAs (Decidable (_ ∨ _))

instance (state : State) : Decidable state.Readable :=
  inferInstanceAs (Decidable (_ ∨ _))

/-- The process cannot use the pipe now and is not told that it never will. -/
def Blocked (capacity : Nat) (state : State) : Side → Prop
  | .source => capacity ≤ state.buffer.length ∧ state.Readable
  | .destination => state.buffer = [] ∧ state.Writable

end State

/-- Why a call fails, if it does. -/
structure Choice where
  refusal : Option String := none
  deriving DecidableEq

/-- The answer to a call of the parent and the state after it; a call that waits has none. -/
def exec (_ : Unit) : (op : Op) → Choice → State → Option (op.Res × State)
  | .pipe, choice, state =>
      match choice.refusal with
      | some reason => some (.error reason, state)
      | none => some (.ok (), { state with reader := true, writer := true })
  | .close one, _, state => some ((), state.close one)
  | .start side, choice, state =>
      match choice.refusal with
      | some reason => some (.error reason, state)
      | none => some (.ok (), state.setProcess side (.running false))
  | .kill side, _, state =>
      match state.processes side with
      | .running _ => some ((), state.setProcess side (.running true))
      | _ => some ((), state)
  | .wait side, _, state =>
      match state.processes side with
      | .zombie exit => some (exit, state.setProcess side (.reaped exit))
      | _ => none
  | .go side, _, state => some ((), state.setWaiter side .waiting)
  | .receive, _, state =>
      match state.exits with
      | [] => none
      | first :: rest =>
          some (first, { state with exits := rest, observed := state.observed ++ [first] })
  | .output side, _, state => some (state.output side, state)

/-- What the processes, the kernel and the goroutines do. -/
inductive Move
  | write (bytes : List UInt8)
  | read (count : Nat)
  | eof
  | print (side : Side) (bytes : List UInt8)
  | exit (side : Side) (exit : Exit)
  /-- A killed process ends. -/
  | die (side : Side)
  /-- `Wait` of a goroutine returns. -/
  | reap (side : Side)
  /-- A goroutine sends over the channel, which holds two values. -/
  | send (side : Side)
  deriving DecidableEq

def env (capacity : Nat) : Move → State → Option State
  | .write bytes, state =>
      if state.Running .source ∧ state.Readable ∧
          state.buffer.length + bytes.length ≤ capacity then
        some { state with
          buffer := state.buffer ++ bytes
          written := state.written ++ bytes }
      else
        none
  | .read count, state =>
      if state.Running .destination ∧ state.buffer ≠ [] then
        some { state with
          buffer := state.buffer.drop count
          read := state.read ++ state.buffer.take count }
      else
        none
  | .eof, state =>
      if state.Running .destination ∧ state.buffer = [] ∧ ¬ state.Writable then
        some { state with ended := true }
      else
        none
  | .print side bytes, state =>
      if state.Running side then
        some { state with
          output := Function.update state.output side (state.output side ++ bytes) }
      else
        none
  | .exit side exit, state =>
      if state.Running side then some (state.setProcess side (.zombie exit)) else none
  | .die side, state =>
      if state.processes side = .running true then
        some (state.setProcess side (.zombie (.signal "killed")))
      else
        none
  | .reap side, state =>
      match state.waiters side, state.processes side with
      | .waiting, .zombie exit =>
          some ((state.setProcess side (.reaped exit)).setWaiter side (.sending exit))
      | _, _ => none
  | .send side, state =>
      match state.waiters side with
      | .sending exit =>
          if state.exits.length < 2 then
            some ({ state with exits := state.exits ++ [(side, exit)] }.setWaiter side .done)
          else
            none
      | _ => none

/-- `runPipe` is called once. -/
def arrive (_ : Unit) (state : State) : Option (Unit × Routine Result × State) :=
  if state.begun = true then none else some ((), runPipe, { state with begun := true })

/-- `runPipe` over a pipe of the given capacity. -/
def pipeline (capacity : Nat) : System signature State Unit Choice Result Move Unit where
  exec := exec
  env := env capacity
  arrive := arrive
  leave := fun _ _ state => state

/-- Before `runPipe` is called. -/
def start : Config signature State Unit Result where
  shared := {}
  threads := fun _ => none

end ZfsLocalPv.RunPipe

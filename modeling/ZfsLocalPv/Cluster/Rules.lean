import ZfsLocalPv.Cluster.Steps
import ZfsLocalPv.Interaction.Contract

/-!
# Rules for the driver's calls

What a program knows after one of its reads or commands, for any contract over the cluster, or
over another system in which calls have the same effect. A read changes nothing, so its answer
describes the state in which the program goes on.
-/

namespace ZfsLocalPv.Cluster

open Api ApiServer Driver Interaction Zfs

/-- Calls have the effect they have in the cluster. -/
class Executes {E A : Type} (sys : System sig Shared Tid Choice Answer E A) : Prop where
  exec_eq : sys.exec = exec

instance (compile : Compile) : Executes (cluster compile) :=
  ⟨rfl⟩

variable {E A : Type} {sys : System sig Shared Tid Choice Answer E A} {contract : Contract sys}
  {thread : Tid} {shared : Shared} {α : Type} {post : α → Shared → Prop}

/-- The last call of a program that promises nothing. -/
theorem keeps_call_true {op : Op} (owes : ∀ now, contract.Rely thread shared now →
      contract.Inv now → contract.Ok thread op now) :
    contract.Keeps thread (call op) (fun _ _ => True) shared := by
  intro now moved inv
  constructor
  · exact owes now moved inv
  · exact fun _ _ _ _ _ _ _ _ => trivial

section Calls

variable [Executes sys]

/-- The rule for one call. -/
theorem keeps_call_bind {op : Op} {next : op.Res → Routine α}
    (step : ∀ now, contract.Rely thread shared now → contract.Inv now →
      contract.Ok thread op now ∧ ∀ choice answer after, contract.Guard thread op choice now →
        exec thread op choice now = some (answer, after) →
        contract.Keeps thread (next answer) post after) :
    contract.Keeps thread (call op >>= next) post shared := by
  apply Contract.keeps_lift_bind
  rw [Executes.exec_eq]
  exact step

theorem keeps_getZFSVolume_bind {name : String} {purpose : Purpose}
    {next : Except Err ZFSVolume → Routine α}
    (owes : ∀ now, contract.Rely thread shared now → contract.Inv now →
      contract.Ok thread (.getVolume name purpose) now)
    (failed : ∀ err now, contract.Rely thread shared now → contract.Inv now →
      (err.isNotFound = true → now.volumes.get name = none) →
      contract.Keeps thread (next (.error err)) post now)
    (found : ∀ vol choice now, contract.Rely thread shared now → contract.Inv now →
      contract.Guard thread (.getVolume name purpose) choice now →
      now.volumes.get name = some vol → contract.Keeps thread (next (.ok vol)) post now) :
    contract.Keeps thread (getZFSVolume name purpose >>= next) post shared := by
  unfold getZFSVolume getNamed
  by_cases empty : name = ""
  · rw [if_pos empty]
    apply Contract.keeps_of_forall_rely
    intro now moved inv
    apply failed _ now moved inv
    intro notFound
    simp [Err.isNotFound] at notFound
  · rw [if_neg empty]
    apply keeps_call_bind
    intro now moved inv
    constructor
    · exact owes now moved inv
    · intro choice answer after guard executed
      obtain ⟨answered, rfl⟩ := Prod.mk.inj (Option.some.inj executed)
      cases answer with
      | ok vol => exact found vol choice now moved inv guard (readAnswer_ok answered)
      | error err => exact failed err now moved inv (readAnswer_notFound answered)

theorem keeps_getZFSSnapshot_bind {name : String} {next : Except Err ZFSSnapshot → Routine α}
    (owes : ∀ now, contract.Rely thread shared now → contract.Inv now →
      contract.Ok thread (.getSnapshot name) now)
    (failed : ∀ err now, contract.Rely thread shared now → contract.Inv now →
      (err.isNotFound = true → now.snapshots.get name = none) →
      contract.Keeps thread (next (.error err)) post now)
    (found : ∀ snap choice now, contract.Rely thread shared now → contract.Inv now →
      contract.Guard thread (.getSnapshot name) choice now →
      now.snapshots.get name = some snap → contract.Keeps thread (next (.ok snap)) post now) :
    contract.Keeps thread (getZFSSnapshot name >>= next) post shared := by
  unfold getZFSSnapshot getNamed
  by_cases empty : name = ""
  · rw [if_pos empty]
    apply Contract.keeps_of_forall_rely
    intro now moved inv
    apply failed _ now moved inv
    intro notFound
    simp [Err.isNotFound] at notFound
  · rw [if_neg empty]
    apply keeps_call_bind
    intro now moved inv
    constructor
    · exact owes now moved inv
    · intro choice answer after guard executed
      obtain ⟨answered, rfl⟩ := Prod.mk.inj (Option.some.inj executed)
      cases answer with
      | ok snap => exact found snap choice now moved inv guard (readAnswer_ok answered)
      | error err => exact failed err now moved inv (readAnswer_notFound answered)

/-- A command answers with its output or with the error of `NewZFSError`. -/
theorem keeps_runCmd_bind {node op dataset : String} {command : Command}
    {next : Except Err String → Routine α}
    (owes : ∀ now, contract.Rely thread shared now → contract.Inv now →
      contract.Ok thread (.zfs node command) now)
    (failed : ∀ out choice now after, contract.Rely thread shared now → contract.Inv now →
      contract.Guard thread (.zfs node command) choice now →
      exec thread (.zfs node command) choice now = some (.error out, after) →
      contract.Keeps thread (next (.error (.zfs op dataset out))) post after)
    (succeeded : ∀ out choice now storage, contract.Rely thread shared now → contract.Inv now →
      contract.Guard thread (.zfs node command) choice now →
      (now.storage node).run command = some (out, storage) →
      contract.Keeps thread (next (.ok out)) post (now.setStorage node storage)) :
    contract.Keeps thread (runCmd node op dataset command >>= next) post shared := by
  unfold runCmd
  rw [Prog.bind_assoc]
  apply keeps_call_bind
  intro now moved inv
  constructor
  · exact owes now moved inv
  · intro choice answer after guard executed
    cases answer with
    | error out => exact failed out choice now after moved inv guard executed
    | ok out =>
        obtain ⟨storage, ran, rfl⟩ := exec_zfs_ok executed
        exact succeeded out choice now storage moved inv guard ran

/-- `zfs list` changes nothing. What it finds is there, and what it does not find is
not, unless it fails. -/
theorem keeps_list_bind {node : String} {target : Target} {next : Except Err Unit → Routine α}
    (owes : ∀ now, contract.Rely thread shared now → contract.Inv now →
      contract.Ok thread (.zfs node (.list target)) now)
    (missing : ∀ err choice now, contract.Rely thread shared now → contract.Inv now →
      contract.Guard thread (.zfs node (.list target)) choice now →
      (choice.outcome = .ok → (now.storage node).has target = false) →
      contract.Keeps thread (next (.error err)) post now)
    (present : ∀ now, contract.Rely thread shared now → contract.Inv now →
      (now.storage node).has target = true → contract.Keeps thread (next (.ok ())) post now) :
    contract.Keeps thread (getVolume node target >>= next) post shared := by
  unfold getVolume
  rw [Prog.bind_assoc]
  apply keeps_runCmd_bind owes
  · intro out choice now after moved inv guard executed
    rw [exec_list_same executed]
    apply missing _ choice now moved inv guard
    intro ran
    exact exec_list_missing ran executed
  · intro out choice now storage moved inv _ ran
    obtain ⟨found, rfl⟩ := Storage.run_list_eq_some ran
    rw [Shared.setStorage_self]
    exact present now moved inv found

/-- The rule for programs that do not ask why a listing found nothing. -/
theorem keeps_getVolume_bind {node : String} {target : Target}
    {next : Except Err Unit → Routine α}
    (owes : ∀ now, contract.Rely thread shared now → contract.Inv now →
      contract.Ok thread (.zfs node (.list target)) now)
    (missing : ∀ err now, contract.Rely thread shared now → contract.Inv now →
      contract.Keeps thread (next (.error err)) post now)
    (present : ∀ now, contract.Rely thread shared now → contract.Inv now →
      (now.storage node).has target = true → contract.Keeps thread (next (.ok ())) post now) :
    contract.Keeps thread (getVolume node target >>= next) post shared :=
  keeps_list_bind owes (fun err _ now moved inv _ _ => missing err now moved inv) present

end Calls

/-! ## Facts that last -/

/-- A fact that the other threads do not break. -/
def Lasts (contract : Contract sys) (thread : Tid) (Fact : Shared → Prop) : Prop :=
  ∀ before after, contract.Rely thread before after → Fact before → Fact after

theorem lasts_true : Lasts contract thread (fun _ => True) :=
  fun _ _ _ holds => holds

variable {Fact : Shared → Prop}

theorem keeps_lasting_return (value : α) (lasts : Lasts contract thread Fact)
    (holds : Fact shared) :
    contract.Keeps thread (pure value : Routine α) (fun _ => Fact) shared :=
  Contract.keeps_ret fun now moved _ => lasts shared now moved holds

/-- Reads keep what lasts. -/
theorem keeps_lasting_reads [Executes sys] {program : Routine α} (calls : program.Calls Op.Reads)
    (owed : ∀ {op now}, op.Reads → contract.Ok thread op now) (lasts : Lasts contract thread Fact)
    (holds : Fact shared) : contract.Keeps thread program (fun _ => Fact) shared := by
  apply Contract.keeps_of_stable calls
  · intro before after moved fact
    exact lasts before after moved fact
  · intro op now reads _ _
    exact owed reads
  · intro op choice now answer after reads _ _ fact executed
    rw [Executes.exec_eq] at executed
    rw [exec_reads reads executed]
    exact fact
  · exact holds

/-- A program that waits for ever or has crashed keeps everything. -/
theorem keeps_panic {post : α → Shared → Prop}
    (owed : ∀ {op now}, op.Reads → contract.Ok thread op now) :
    contract.Keeps thread (panic : Routine α) post shared := by
  intro now _ _
  constructor
  · exact owed trivial
  · intro choice answer
    exact nomatch (answer : Empty)

theorem keeps_hang {post : α → Shared → Prop}
    (owed : ∀ {op now}, op.Reads → contract.Ok thread op now) :
    contract.Keeps thread (hang : Routine α) post shared := by
  intro now _ _
  constructor
  · exact owed trivial
  · intro choice answer
    exact nomatch (answer : Empty)

/-- A fact that does not speak of the lock. -/
def IgnoresLock (Fact : Shared → Prop) : Prop :=
  ∀ shared key holder, Fact shared → Fact (shared.setLocked key holder)

section Locks

variable [Executes sys] (owed : ∀ {key now}, contract.Ok thread (.lock key) now ∧
    contract.Ok thread (.unlock key) now)
  (lasts : Lasts contract thread Fact) (ignores : IgnoresLock Fact)
  (postLasts : ∀ value, Lasts contract thread (post value))
  (postIgnores : ∀ value, IgnoresLock (post value))
include owed lasts ignores

/-- Taking a lock that carries no obligation. -/
theorem keeps_free_lock {key : String} {next : Unit → Routine α} (holds : Fact shared)
    (rest : ∀ now, Fact now → contract.Keeps thread (next ()) post now) :
    contract.Keeps thread (call (.lock key) >>= next) post shared := by
  apply keeps_call_bind
  intro now moved _
  constructor
  · exact owed.1
  · intro choice answer after _ executed
    obtain ⟨_, equal⟩ := Option.ite_none_right_eq_some.mp executed
    cases equal
    exact rest _ (ignores now key _ (lasts shared now moved holds))

theorem keeps_free_unlock {key : String} {next : Unit → Routine α} (holds : Fact shared)
    (rest : ∀ now, Fact now → contract.Keeps thread (next ()) post now) :
    contract.Keeps thread (call (.unlock key) >>= next) post shared := by
  apply keeps_call_bind
  intro now moved _
  constructor
  · exact owed.2
  · intro choice answer after _ executed
    cases executed
    exact rest _ (ignores now key _ (lasts shared now moved holds))

include postLasts postIgnores

/-- A body under a lock that carries no obligation. -/
theorem keeps_free_lockVolume {volume : String} {body : Routine α} (holds : Fact shared)
    (keeps : ∀ now, Fact now → contract.Keeps thread body post now) :
    contract.Keeps thread (lockVolume volume body) post shared := by
  apply keeps_free_lock owed lasts ignores holds
  intro now holds
  apply Contract.Keeps.bind
  apply (keeps now holds).mono
  intro value later _ ended
  apply keeps_free_unlock owed (postLasts value) (postIgnores value) ended
  intro last ended
  exact fun final moved _ => postLasts value last final moved ended

theorem keeps_free_lockVolumeWithSnapshot {volume snapshot : String} {body : Routine α}
    (holds : Fact shared) (keeps : ∀ now, Fact now → contract.Keeps thread body post now) :
    contract.Keeps thread (lockVolumeWithSnapshot volume snapshot body) post shared := by
  apply keeps_free_lock owed lasts ignores holds
  intro now holds
  apply keeps_free_lock owed lasts ignores holds
  intro now holds
  apply Contract.Keeps.bind
  apply (keeps now holds).mono
  intro value later _ ended
  apply keeps_free_unlock owed (postLasts value) (postIgnores value) ended
  intro later ended
  apply keeps_free_unlock owed (postLasts value) (postIgnores value) ended
  intro last ended
  exact fun final moved _ => postLasts value last final moved ended

end Locks

end ZfsLocalPv.Cluster

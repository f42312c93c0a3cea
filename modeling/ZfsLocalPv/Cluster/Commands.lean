import ZfsLocalPv.Cluster.Steps
import ZfsLocalPv.Interaction.Triple

/-!
# Reads and commands, run alone

The functions of an agent that only run `zfs` are sequences of commands, one choice of the
environment for each. These rules run such a sequence command by command; the reads of the API
server and the volume lock have a postcondition each.
-/

namespace ZfsLocalPv.Cluster

open Api Driver Zfs Interaction

variable {thread : Tid} {node : String} {shared final : Shared} {choice : Choice}
  {choices : List Choice} {α : Type} {result : α}

@[simp]
theorem Shared.storage_setStorage (shared : Shared) (node : String) (storage : Storage) :
    (shared.setStorage node storage).storage node = storage :=
  Function.update_self ..

@[simp]
theorem Shared.setStorage_setStorage (shared : Shared) (node : String) (first second : Storage) :
    (shared.setStorage node first).setStorage node second = shared.setStorage node second := by
  simp [Shared.setStorage]

/-- A command that the storage refuses fails and changes nothing; a refused `zfs set` may have
made some of its assignments. -/
theorem zfsAnswer_of_refused {storage : Storage} {command : Command} (choice : Choice)
    (refused : storage.run command = none)
    (noSet : ∀ assignments volume, command ≠ .set assignments volume) :
    zfsAnswer choice storage command = (.error choice.text, storage) := by
  have failed : failedStorage choice storage command = storage := by
    cases command with
    | set assignments volume => exact absurd rfl (noSet assignments volume)
    | _ => rfl
  cases outcome : choice.outcome <;> simp [zfsAnswer, outcome, refused, failed]

/-- What `runCmd` makes of the answer to a command. -/
def cmdAnswer (op dataset : String) : Except String String → Except Err String
  | .error out => .error (.zfs op dataset out)
  | .ok out => .ok out

theorem cmdAnswer_eq_ok_iff {op dataset out : String} {answer : Except String String} :
    cmdAnswer op dataset answer = .ok out ↔ answer = .ok out := by
  cases answer <;> simp [cmdAnswer]

/-- A command changes the storage of its node only. -/
theorem ensures_runCmd (node op dataset : String) (command : Command) :
    Prog.Ensures (exec thread) (runCmd node op dataset command) shared fun answer final =>
      ∃ choice, answer = cmdAnswer op dataset (zfsAnswer choice (shared.storage node) command).1 ∧
        final = shared.setStorage node (zfsAnswer choice (shared.storage node) command).2 := by
  apply Prog.ensures_lift_bind
  intro choice answer middle executed
  obtain ⟨isAnswer, isState⟩ :
      (zfsAnswer choice (shared.storage node) command).1 = answer ∧
        shared.setStorage node (zfsAnswer choice (shared.storage node) command).2 = middle :=
    Prod.mk.inj (Option.some.inj executed)
  cases answer with
  | error out =>
      apply Prog.ensures_ret
      exact ⟨choice, by rw [isAnswer]; rfl, isState.symm⟩
  | ok out =>
      apply Prog.ensures_ret
      exact ⟨choice, by rw [isAnswer]; rfl, isState.symm⟩

theorem eval_runCmd_bind {op dataset : String} {command : Command}
    {next : Except Err String → Routine α} :
    Prog.eval (exec thread) (choice :: choices) (runCmd node op dataset command >>= next) shared =
      Prog.eval (exec thread) choices
        (next (cmdAnswer op dataset (zfsAnswer choice (shared.storage node) command).1))
        (shared.setStorage node (zfsAnswer choice (shared.storage node) command).2) := by
  change Option.bind (exec thread (.zfs node command) choice shared) _ = _
  simp only [exec, Option.bind_some]
  cases (zfsAnswer choice (shared.storage node) command).1 with
  | error out => rfl
  | ok out => rfl

/-- A command takes one choice. -/
theorem eval_runCmd_bind_iff {op dataset : String} {command : Command}
    {next : Except Err String → Routine α} :
    Prog.eval (exec thread) choices (runCmd node op dataset command >>= next) shared =
        some (result, final) ↔
      ∃ choice rest, choices = choice :: rest ∧
        Prog.eval (exec thread) rest
          (next (cmdAnswer op dataset (zfsAnswer choice (shared.storage node) command).1))
          (shared.setStorage node (zfsAnswer choice (shared.storage node) command).2) =
            some (result, final) := by
  cases choices with
  | nil =>
      constructor
      · intro ran
        contradiction
      · rintro ⟨choice, rest, given, _⟩
        contradiction
  | cons choice rest =>
      rw [eval_runCmd_bind]
      constructor
      · exact fun ran => ⟨choice, rest, rfl, ran⟩
      · rintro ⟨_, _, given, ran⟩
        cases given
        exact ran

/-- A function that ends with a command returns whether it has succeeded. -/
theorem eval_last_runCmd {op dataset : String} {command : Command}
    {next : Except Err String → Routine (Except Err Unit)} {result : Except Err Unit}
    (fails : ∀ err, next (.error err) = pure (.error err))
    (succeeds : ∀ out, next (.ok out) = pure (.ok ()))
    (ran : Prog.eval (exec thread) choices (runCmd node op dataset command >>= next) shared =
      some (result, final)) :
    ∃ choice, choices = [choice] ∧
      final = shared.setStorage node (zfsAnswer choice (shared.storage node) command).2 ∧
      (result = .ok () ↔ ∃ out, (zfsAnswer choice (shared.storage node) command).1 = .ok out) := by
  obtain ⟨choice, rest, rfl, ended⟩ := eval_runCmd_bind_iff.mp ran
  refine ⟨choice, ?_⟩
  cases answered : (zfsAnswer choice (shared.storage node) command).1 with
  | error out =>
      rw [answered, cmdAnswer, fails] at ended
      obtain ⟨rfl, rfl, rfl⟩ := Prog.eval_ret_iff.mp ended
      simp
  | ok out =>
      rw [answered, cmdAnswer, succeeds] at ended
      obtain ⟨rfl, rfl, rfl⟩ := Prog.eval_ret_iff.mp ended
      simp

/-! ## Reads and the lock -/

theorem ensures_getZFSVolume {name : String} {purpose : Purpose} :
    Prog.Ensures (exec thread) (getZFSVolume name purpose) shared fun answer final =>
      final = shared ∧ ∀ vol, answer = .ok vol → shared.volumes.get name = some vol := by
  unfold getZFSVolume getNamed
  split
  · exact Prog.ensures_ret ⟨rfl, fun vol isOk => nomatch isOk⟩
  · apply Prog.ensures_lift
    intro choice answer after executed
    have reads : (Op.getVolume name purpose).Reads := trivial
    refine ⟨exec_reads reads executed, ?_⟩
    rintro vol rfl
    exact (exec_getVolume_ok executed).1

/-- What runs under the lock runs from the state with the lock taken. -/
theorem ensures_lockVolume {volume : String} {body : Routine α} {Post : α → Shared → Prop}
    (held : Prog.Ensures (exec thread) body (shared.setLocked volume (some thread))
      fun answer final => Post answer (final.setLocked volume none)) :
    Prog.Ensures (exec thread) (lockVolume volume body) shared Post := by
  apply Prog.ensures_lift_bind
  intro choice answer locked executed
  obtain ⟨_, rfl⟩ := exec_lock executed
  apply held.bind
  intro answer final post
  apply Prog.ensures_lift_bind
  intro choice answer released executed
  obtain rfl := (Prod.mk.inj (Option.some.inj executed)).2
  exact Prog.ensures_ret post

/-! ## Listing -/

/-- A listing succeeds if it does not fail and finds what it is asked about. -/
def lists (choice : Choice) (storage : Storage) (target : Target) : Prop :=
  choice.outcome = .ok ∧ storage.has target = true

instance (choice : Choice) (storage : Storage) (target : Target) :
    Decidable (lists choice storage target) :=
  inferInstanceAs (Decidable (_ ∧ _))

theorem zfsAnswer_list (choice : Choice) (storage : Storage) (target : Target) :
    zfsAnswer choice storage (.list target) =
      (if lists choice storage target then .ok "" else .error choice.text, storage) := by
  by_cases found : storage.has target = true
  · cases outcome : choice.outcome <;>
      simp [zfsAnswer, lists, Storage.run, failedStorage, outcome, found]
  · cases outcome : choice.outcome <;>
      simp [zfsAnswer, lists, Storage.run, failedStorage, outcome, found]

theorem eval_getVolume_bind {target : Target} {next : Except Err Unit → Routine α} :
    Prog.eval (exec thread) (choice :: choices) (getVolume node target >>= next) shared =
      if lists choice (shared.storage node) target then
        Prog.eval (exec thread) choices (next (.ok ())) shared
      else
        Prog.eval (exec thread) choices
          (next (.error (.zfs "zfs list" target.path choice.text))) shared := by
  rw [getVolume, Prog.bind_assoc, eval_runCmd_bind, zfsAnswer_list, Shared.setStorage_self]
  by_cases listed : lists choice (shared.storage node) target
  · simp only [if_pos listed]
    rfl
  · simp only [if_neg listed]
    rfl

/-- A listing takes one choice and changes nothing. -/
theorem eval_getVolume_bind_iff {target : Target} {next : Except Err Unit → Routine α} :
    Prog.eval (exec thread) choices (getVolume node target >>= next) shared =
        some (result, final) ↔
      ∃ choice rest, choices = choice :: rest ∧
        ((lists choice (shared.storage node) target ∧
          Prog.eval (exec thread) rest (next (.ok ())) shared = some (result, final)) ∨
        (¬ lists choice (shared.storage node) target ∧
          Prog.eval (exec thread) rest (next (.error (.zfs "zfs list" target.path choice.text)))
            shared = some (result, final))) := by
  cases choices with
  | nil =>
      constructor
      · intro ran
        contradiction
      · rintro ⟨choice, rest, given, _⟩
        contradiction
  | cons choice rest =>
      rw [eval_getVolume_bind]
      by_cases listed : lists choice (shared.storage node) target
      · rw [if_pos listed]
        constructor
        · exact fun ran => ⟨choice, rest, rfl, .inl ⟨listed, ran⟩⟩
        · rintro ⟨_, _, given, ⟨_, ran⟩ | ⟨unlisted, _⟩⟩
          · cases given
            exact ran
          · cases given
            contradiction
      · rw [if_neg listed]
        constructor
        · exact fun ran => ⟨choice, rest, rfl, .inr ⟨listed, ran⟩⟩
        · rintro ⟨_, _, given, ⟨listed', _⟩ | ⟨_, ran⟩⟩
          · cases given
            contradiction
          · cases given
            exact ran

end ZfsLocalPv.Cluster

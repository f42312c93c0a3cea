import ZfsLocalPv.Api.Errors
import ZfsLocalPv.Interaction.Prog

/-!
# Calls that may fail

What a client is told about a call to the API server or about a command. A call may fail without
effect, and it may take effect and be reported as failed all the same.
-/

namespace ZfsLocalPv.Api

open ApiServer Interaction

/-- Whether a call takes effect and is answered, fails without effect, or takes effect but is
reported as failed. -/
inductive Outcome
  | ok
  | fail
  | lost
  deriving DecidableEq, Repr

/-- How a call goes. -/
structure Attempt where
  outcome : Outcome := .ok
  /-- What a failed command says, or a path. -/
  text : String := ""
  deriving DecidableEq

variable {α β σ : Type}

/-- The answer to a read of the API server. -/
def readAnswer (attempt : Attempt) (found : Option α) : Except Err α :=
  if attempt.outcome = .ok then
    match found with
    | none => .error (.api .notFound)
    | some value => .ok value
  else
    .error (.api .other)

/-- The answer to a write of the API server and the state after it. -/
def writeAnswer (attempt : Attempt) (state : σ) (written : Except ApiErr σ) :
    Except Err Unit × σ :=
  match attempt.outcome, written with
  | .fail, _ => (.error (.api .other), state)
  | .ok, .error reason => (.error (.api reason), state)
  | .ok, .ok next => (.ok (), next)
  | .lost, .error _ => (.error (.api .other), state)
  | .lost, .ok next => (.error (.api .other), next)

/-- The answer of a command without modelled effect. -/
def commandAnswer (attempt : Attempt) (value : α) : Except String α :=
  if attempt.outcome = .ok then .ok value else .error attempt.text

/-- `Get` of a client, which refuses an empty name with a message. -/
def getNamed {S : Signature} (missing name : String) (get : Prog S (Except Err α)) :
    Prog S (Except Err α) :=
  if name = "" then return .error (.text missing) else get

variable {attempt : Attempt} {found : Option α}

theorem readAnswer_ok {value : α} (answered : readAnswer attempt found = .ok value) :
    found = some value := by
  unfold readAnswer at answered
  split at answered
  · cases found with
    | none => contradiction
    | some other => exact congrArg some (Except.ok.inj answered)
  · contradiction

theorem readAnswer_notFound {err : Err} (answered : readAnswer attempt found = .error err)
    (notFound : err.isNotFound = true) : found = none := by
  unfold readAnswer at answered
  split at answered
  · cases found with
    | none => rfl
    | some value => contradiction
  · obtain rfl := Except.error.inj answered
    simp [Err.isNotFound] at notFound

/-- A read that does not fail misses only what is not there. -/
theorem readAnswer_error {err : Err} (answered : readAnswer attempt found = .error err)
    (outcome : attempt.outcome = .ok) : found = none := by
  unfold readAnswer at answered
  rw [if_pos outcome] at answered
  cases found with
  | none => rfl
  | some value => contradiction

variable {written : Except ApiErr β} {set : β → σ} {state after : σ} {answer : Except Err Unit}

/-- A write that has no effect has failed or was refused; one that has may have been reported as
failed. -/
theorem writeAnswer_effective
    (answered : writeAnswer attempt state (written.map set) = (answer, after)) :
    (attempt.outcome = .fail ∧ after = state ∧ answer ≠ .ok ()) ∨
      (∃ reason, written = .error reason ∧ after = state ∧ answer ≠ .ok ()) ∨
      ∃ next, written = .ok next ∧ after = set next ∧
        (answer = .ok () ∨ attempt.outcome = .lost) := by
  unfold writeAnswer at answered
  cases outcome : attempt.outcome with
  | fail =>
      left
      simp only [outcome, Prod.mk.injEq] at answered
      exact ⟨rfl, answered.2.symm, by simp [← answered.1]⟩
  | ok =>
      right
      cases written with
      | error reason =>
          simp only [outcome, Except.map, Prod.mk.injEq] at answered
          exact .inl ⟨reason, rfl, answered.2.symm, by simp [← answered.1]⟩
      | ok next =>
          simp only [outcome, Except.map, Prod.mk.injEq] at answered
          exact .inr ⟨next, rfl, answered.2.symm, .inl answered.1.symm⟩
  | lost =>
      right
      cases written with
      | error reason =>
          simp only [outcome, Except.map, Prod.mk.injEq] at answered
          exact .inl ⟨reason, rfl, answered.2.symm, by simp [← answered.1]⟩
      | ok next =>
          simp only [outcome, Except.map, Prod.mk.injEq] at answered
          exact .inr ⟨next, rfl, answered.2.symm, .inr rfl⟩

/-- A write is refused or lost without effect, or it is accepted. -/
theorem writeAnswer_cases
    (answered : writeAnswer attempt state (written.map set) = (answer, after)) :
    (after = state ∧ answer ≠ .ok ()) ∨ ∃ next, written = .ok next ∧ after = set next := by
  rcases writeAnswer_effective answered with
    ⟨_, same, failed⟩ | ⟨_, _, same, failed⟩ | ⟨next, accepted, changed, _⟩
  · exact .inl ⟨same, failed⟩
  · exact .inl ⟨same, failed⟩
  · exact .inr ⟨next, accepted, changed⟩

end ZfsLocalPv.Api

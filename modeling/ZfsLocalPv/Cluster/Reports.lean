import ZfsLocalPv.Cluster.Discipline
import ZfsLocalPv.Interaction.Triple

/-!
# A request among the agents

A `CreateVolume` request waits for an agent to write the state of its volume. Run alone, a
request would wait in vain, so here an agent may report before each call of the request: it
writes the volume of the request as `UpdateZvolInfo` does. Nothing else happens meanwhile. The
scheduler's list is given.
-/

namespace ZfsLocalPv.Cluster

open Api ApiServer Interaction Zfs

/-- What the environment decides for one call of a request: how the call ends, and what
the agent of a node reports before it. -/
structure Turn where
  choice : Choice := {}
  report : Option (String × State) := none

instance : Nonempty Turn :=
  ⟨{}⟩

/-- An agent writes the state of a volume, if there is one. -/
def Shared.report (shared : Shared) (name : String) : Option (String × State) → Shared
  | none => shared
  | some (node, state) =>
      match shared.volumes.get name with
      | none => shared
      | some vol =>
          match shared.volumes.update (settledVolume node vol state) with
          | .error _ => shared
          | .ok volumes => shared.setVolumes volumes

/-- A call of a request for a volume, among the agents. -/
def execAmong (name : String) (scheduled : List String) (thread : Tid) (op : Op) (turn : Turn)
    (shared : Shared) : Option (op.Res × Shared) :=
  exec thread op { turn.choice with names := scheduled } (shared.report name turn.report)

instance (op : Op) : Decidable op.Asks := by
  cases op with
  | getVolume | listVolumes | getSnapshot | listSnapshots | getNode | getZFSNode | listZFSNodes
  | scheduler | select => exact inferInstanceAs (Decidable True)
  | _ => exact inferInstanceAs (Decidable False)

/-- The same with reads that succeed. -/
def execSteady (name : String) (scheduled : List String) (thread : Tid) (op : Op) (turn : Turn)
    (shared : Shared) : Option (op.Res × Shared) :=
  execAmong name scheduled thread op
    (if op.Asks then { turn with choice := { turn.choice with outcome := .ok } } else turn) shared

variable {name : String} {scheduled : List String} {thread : Tid} {shared after : Shared}
  {report : Option (String × State)} {op : Op}

/-! ## What a report changes -/

theorem report_of_absent (absent : shared.volumes.get name = none)
    (report : Option (String × State)) : shared.report name report = shared := by
  cases report with
  | none => rfl
  | some entry =>
      obtain ⟨node, state⟩ := entry
      rw [Shared.report, absent]

theorem exists_report (shared : Shared) (name : String) (report : Option (String × State)) :
    ∃ volumes, shared.report name report = shared.setVolumes volumes := by
  unfold Shared.report
  split
  · exact ⟨shared.volumes, rfl⟩
  · split
    · exact ⟨shared.volumes, rfl⟩
    · split
      · exact ⟨shared.volumes, rfl⟩
      · rename_i volumes _
        exact ⟨volumes, rfl⟩

/-- The volume of the name, if there is one, is not deleted. -/
def Undeleted (name : String) (shared : Shared) : Prop :=
  ∀ vol, shared.volumes.get name = some vol → Live vol

/-- There is a volume of the name with a specification, and it is not deleted. -/
def Stores (name : String) (spec : VolumeInfo) (shared : Shared) : Prop :=
  ∃ vol, shared.volumes.get name = some vol ∧ vol.spec = spec ∧ Live vol

variable {spec : VolumeInfo}

theorem Stores.undeleted (stores : Stores name spec shared) : Undeleted name shared := by
  obtain ⟨vol, stored, _, live⟩ := stores
  intro other found
  cases stored.symm.trans found
  exact live

/-- A report leaves the specification alone. -/
theorem Stores.reported (stores : Stores name spec shared) (report : Option (String × State)) :
    Stores name spec (shared.report name report) := by
  cases report with
  | none => exact stores
  | some entry =>
      obtain ⟨node, state⟩ := entry
      obtain ⟨vol, stored, isSpec, live⟩ := stores
      have isNamed := Resource.name_of_get stored
      rw [Shared.report, stored]
      dsimp only
      split
      · exact ⟨vol, stored, isSpec, live⟩
      · rename_i volumes accepted
        obtain ⟨now, found, kept, alive⟩ := Resource.live_of_update accepted (by
          intro old found
          rw [show (settledVolume node vol state).name = name from isNamed, stored] at found
          cases found
          exact live)
        exact ⟨now, isNamed ▸ found, kept.trans isSpec, alive⟩

theorem Undeleted.reported (undeleted : Undeleted name shared)
    (report : Option (String × State)) : Undeleted name (shared.report name report) := by
  cases stored : shared.volumes.get name with
  | none =>
      rw [report_of_absent stored]
      exact undeleted
  | some vol =>
      have stores : Stores name vol.spec shared := ⟨vol, stored, rfl, undeleted vol stored⟩
      exact (stores.reported report).undeleted

/-- What a report leaves alone, a program that only asks leaves alone. -/
theorem kept_of_asks {α : Type} {Fact : Shared → Prop} {program : Routine α}
    (calls : program.Calls Op.Asks)
    (reported : ∀ shared report, Fact shared → Fact (shared.report name report))
    (holds : Fact shared) :
    Prog.Ensures (execAmong name scheduled thread) program shared fun _ final => Fact final where
  of_returns returned := by
    apply calls.returns _ returned holds
    intro op turn state answer after asks fact executed
    rw [exec_reads asks.reads executed]
    exact reported state turn.report fact

theorem Undeleted.ensures {α : Type} {program : Routine α} (undeleted : Undeleted name shared)
    (calls : program.Calls Op.Asks) :
    Prog.Ensures (execAmong name scheduled thread) program shared
      fun _ final => Undeleted name final :=
  kept_of_asks calls (fun _ report here => Undeleted.reported here report) undeleted

theorem Stores.ensures {α : Type} {program : Routine α} (stores : Stores name spec shared)
    (calls : program.Calls Op.Asks) :
    Prog.Ensures (execAmong name scheduled thread) program shared
      fun _ final => Stores name spec final :=
  kept_of_asks calls (fun _ report here => Stores.reported here report) stores

@[simp]
theorem zfsNodes_report : (shared.report name report).zfsNodes = shared.zfsNodes := by
  obtain ⟨volumes, reported⟩ := exists_report shared name report
  rw [reported]
  rfl

@[simp]
theorem nodes_report : (shared.report name report).nodes = shared.nodes := by
  obtain ⟨volumes, reported⟩ := exists_report shared name report
  rw [reported]
  rfl

/-- A read for an absent volume is answered from the state as it is. -/
theorem gives_call (op : Op) (asks : op.Asks) (absent : shared.volumes.get name = none)
    {value : op.Res}
    (answers : ∀ choice : Choice, choice.outcome = .ok → choice.names = scheduled →
      exec thread op choice shared = some (value, shared)) :
    Prog.Gives (execSteady name scheduled thread) (call op) shared value := by
  apply Prog.gives_lift
  intro turn
  rw [execSteady, if_pos asks, execAmong, report_of_absent absent]
  exact answers _ rfl rfl

end ZfsLocalPv.Cluster

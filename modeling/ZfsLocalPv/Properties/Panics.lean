import ZfsLocalPv.Cluster.CreateCalls

/-!
# Panics of CreateVolume

The capacity range of a request is optional, and `validateVolumeCreateReq` does not ask for it,
but all three kinds of `CreateVolume` read its required bytes directly. That is the only nil
dereference: the error that is formatted when no node could be used is set by the first node
tried, and the fit check leaves at least one.
-/

namespace ZfsLocalPv.Properties

open Api Cluster Driver Interaction

variable {compile : Compile} {polls : Nat} {req : CreateVolumeRequest} {α : Type}

/-- No answer lets the program dereference a nil pointer. -/
def NeverPanics (program : Routine α) : Prop :=
  program.Calls fun op : Op => op ≠ .panic

theorem neverPanics_of_calls {program : Routine α} (sized : req.capacityRange ≠ none)
    (calls : program.Calls (CreateOp req)) : NeverPanics program := by
  apply calls.mono
  rintro _ made rfl
  cases made with
  | asks asks => exact asks
  | panic missing => exact sized missing

/-- All three kinds read the required bytes first. -/
theorem createByKind_of_missing (missing : req.capacityRange = none) :
    ∃ next, createByKind compile polls req = .call .panic next := by
  unfold createByKind
  split
  · rw [createSnapClone, missing]
    exact ⟨_, rfl⟩
  · rw [createVolClone, missing]
    exact ⟨_, rfl⟩
  · rw [createZFSVolume, missing]
    exact ⟨_, rfl⟩

/-- On a valid request `CreateVolume` and its three kinds never panic exactly if there is a
capacity range. -/
theorem createVolume_never_panics_iff (compile : Compile) (polls : Nat)
    (valid : validateVolumeCreateReq req = .ok ()) :
    (NeverPanics (Driver.createVolume compile polls req) ∧
      NeverPanics (createZFSVolume compile polls req) ∧
      (∀ srcVol, NeverPanics (createVolClone compile polls req srcVol)) ∧
      ∀ snapshot, NeverPanics (createSnapClone compile polls req snapshot)) ↔
    req.capacityRange ≠ none := by
  constructor
  · rintro ⟨never, _⟩ missing
    rw [Driver.createVolume, valid] at never
    obtain ⟨kind, isKind⟩ : ∃ next, createByKind compile polls req = .call .panic next :=
      createByKind_of_missing missing
    -- the request takes its lock and panics
    have panics := never.2 ()
    rw [isKind] at panics
    exact panics.1 rfl
  · intro sized
    exact ⟨neverPanics_of_calls sized (calls_createVolume polls),
      neverPanics_of_calls sized (calls_createZFSVolume polls),
      fun srcVol => neverPanics_of_calls sized (calls_createVolClone polls srcVol),
      fun snapshot => neverPanics_of_calls sized (calls_createSnapClone polls snapshot)⟩

theorem createVolume_never_panics_iff_sized :
    let req : CreateVolumeRequest := { name := "v", capacityRange := some 1 }
    validateVolumeCreateReq req = .ok () ∧
      NeverPanics (Driver.createVolume (fun _ => .error "") 1 req) :=
  ⟨rfl, ((createVolume_never_panics_iff _ _ rfl).mpr (by decide)).1⟩

/-- A request without a capacity range is valid, takes its lock and panics. -/
theorem createVolume_panics_without_range :
    let req : CreateVolumeRequest := { name := "v" }
    validateVolumeCreateReq req = .ok () ∧
      ∃ next rest, Driver.createVolume (fun _ => .error "") 1 req = .call (.lock "v") next ∧
        next () = .call .panic rest :=
  ⟨rfl, _, _, rfl, rfl⟩

end ZfsLocalPv.Properties

import ZfsLocalPv.Cluster.Reads
import ZfsLocalPv.Cluster.Rules

/-!
# Programs under their locks

One walk, for any contract, through each of the programs that `DeleteVolume`, `CreateSnapshot`
and `DeleteSnapshot` run under their locks. The reads and the errors on the way are dealt with
here, so that a contract speaks of the writes and of the answers only.
-/

namespace ZfsLocalPv.Cluster

open Api ApiServer Driver Interaction Zfs

variable {E A : Type} {sys : System sig Shared Tid Choice Answer E A} {contract : Contract sys}
  {thread : Tid} {shared : Shared} {α : Type} {post : Except Err α → Shared → Prop}
  {Fact : Shared → Prop} {volume snapName : String}

/-- What a request promises with its answer lasts and does not depend on the text of an
error. -/
structure Promise (contract : Contract sys) (thread : Tid)
    (post : Except Err α → Shared → Prop) : Prop where
  lasts : ∀ result, Lasts contract thread (post result)
  anyText : ∀ {err other now}, post (.error err) now → post (.error other) now

/-- A fact that lasts may be promised with every answer. -/
theorem promise_of_lasts (lasts : Lasts contract thread Fact) :
    Promise contract thread (fun _ : Except Err α => Fact) where
  lasts := fun _ => lasts
  anyText := id

theorem Promise.returns (promise : Promise contract thread post) {result : Except Err α}
    (promised : post result shared) :
    contract.Keeps thread (pure result : Routine (Except Err α)) post shared :=
  Contract.keeps_ret fun now moved _ => promise.lasts result shared now moved promised

/-- An answer that is passed on with another text. -/
theorem Promise.passedOn {post : Except Err Unit → Shared → Prop}
    (promise : Promise contract thread post) {program : Routine (Except Err Unit)}
    {wrap : Err → Err} (keeps : contract.Keeps thread program post shared) :
    contract.Keeps thread
      (program >>= fun answer => match answer with
        | .error err => pure (.error (wrap err))
        | .ok () => pure (.ok ()))
      post shared := by
  apply Contract.Keeps.bind
  apply keeps.mono
  intro answer now _ promised
  cases answer with
  | error err => exact promise.returns (promise.anyText promised)
  | ok done => exact promise.returns promised

/-- The program goes on with `next` after a success, and gives up after an error. -/
def Continues (contract : Contract sys) (thread : Tid) (next : Routine (Except Err α))
    (post : Except Err α → Shared → Prop) : Except Err Unit → Shared → Prop
  | .ok (), now => contract.Keeps thread next post now
  | .error err, now => post (.error err) now

/-- Agents that owe nothing at their calls only have to promise what the invariant says. -/
theorem keeps_work {sync : Routine (Except Err Unit)}
    (owesNothing : ∀ op now, contract.Inv now → contract.Ok thread op now)
    (promised : ∀ answer now, contract.Inv now → contract.Post thread answer now) :
    contract.Keeps thread (work sync) (contract.Post thread) shared := by
  apply (Contract.keeps_of_no_obligation (work sync) owesNothing shared).mono
  intro answer now inv _
  exact promised answer now inv

section Walks

variable [Executes sys] (reads : ∀ {op now}, op.Reads → contract.Ok thread op now)
  (lasts : Lasts contract thread Fact)
include reads lasts

/-! ## DeleteVolume -/

/-- The volume is gone, has no snapshots and is deleted, or has some and is marked. -/
theorem Promise.deleteVolumeLocked {post : Except Err Unit → Shared → Prop}
    (promise : Promise contract thread post) {request : DeleteVolumeRequest}
    (fails : ∀ {err now}, Fact now → post (.error err) now)
    (gone : ∀ {now}, Fact now →
      (∀ vol, now.volumes.get volume = some vol → vol.deletionTimestamp = true) →
      post (.ok ()) now)
    (deletes : ∀ {now}, Fact now → now.snapshots.store.list ZFSVolKey volume = [] →
      contract.Keeps thread (Zfs.deleteVolume volume) post now)
    (marks : ∀ {choice now}, Fact now → contract.Guard thread (.listSnapshots volume) choice now →
      now.snapshots.store.list ZFSVolKey volume ≠ [] →
      contract.Keeps thread (markForDeletion volume) post now)
    (holds : Fact shared) :
    contract.Keeps thread (Driver.deleteVolumeLocked request volume) post shared := by
  apply keeps_getZFSVolume_bind
  · exact fun _ _ _ => reads trivial
  · intro err now moved _ notFound
    have holds := lasts shared now moved holds
    dsimp only
    split
    · rename_i isNotFound
      apply promise.returns
      apply gone holds
      intro vol stored
      rw [notFound isNotFound] at stored
      contradiction
    · exact promise.returns (fails holds)
  · intro vol choice now moved _ _ stored
    have holds := lasts shared now moved holds
    dsimp only
    split
    · rename_i deleted
      apply promise.returns
      apply gone holds
      intro other found
      obtain rfl := Option.some.inj (stored.symm.trans found)
      exact deleted
    · split
      · exact promise.returns (fails holds)
      · apply keeps_call_bind
        intro later moved _
        have holds := lasts now later moved holds
        constructor
        · exact reads trivial
        · intro choice answer after guard executed
          cases answer with
          | error err =>
              rw [exec_reads (by trivial) executed]
              exact promise.returns (fails holds)
          | ok snapList =>
              obtain ⟨rfl, rfl⟩ := exec_listSnapshots_ok executed
              dsimp only
              split
              · rename_i empty
                exact promise.passedOn (deletes holds empty)
              · rename_i nonempty
                exact promise.passedOn (marks holds guard nonempty)

/-! ## CreateSnapshot -/

/-- A read of the snapshot, and the answer made from it. -/
theorem Promise.createSnapshotResponse {time : Int}
    {post : Except Err CreateSnapshotResponse → Shared → Prop}
    (promise : Promise contract thread post)
    {next : Except Err ZFSSnapshot → Routine (Except Err CreateSnapshotResponse)}
    (found : ∀ {snap now}, contract.Inv now → Fact now →
      now.snapshots.get snapName = some snap →
      post (Driver.createSnapshotResponse volume snapName time snap) now)
    (answers : ∀ snap,
      next (.ok snap) = pure (Driver.createSnapshotResponse volume snapName time snap))
    (missing : ∀ {err now}, Fact now → contract.Keeps thread (next (.error err)) post now)
    (holds : Fact shared) :
    contract.Keeps thread (getZFSSnapshot snapName >>= next) post shared := by
  apply keeps_getZFSSnapshot_bind
  · exact fun _ _ _ => reads trivial
  · intro err now moved _ _
    exact missing (lasts shared now moved holds)
  · intro snap choice now moved inv _ stored
    rw [answers snap]
    exact promise.returns (found inv (lasts shared now moved holds) stored)

/-- The snapshot is there, or it is written, waited for and read. -/
theorem Promise.createSnapshotLocked {polls : Nat} {time : Int} {request : CreateSnapshotRequest}
    {post : Except Err CreateSnapshotResponse → Shared → Prop}
    (promise : Promise contract thread post)
    (fails : ∀ {err now}, Fact now → post (.error err) now)
    (found : ∀ {snap now}, contract.Inv now → Fact now →
      now.snapshots.get snapName = some snap →
      post (Driver.createSnapshotResponse volume snapName time snap) now)
    (creates : ∀ {snap spec now}, contract.Inv now → Fact now →
      snapshotObject request volume = .ok snap →
      contract.Ok thread (.createSnapshot (snapshotOf snap spec)) now ∧
        ∀ {choice answer after},
          contract.Guard thread (.createSnapshot (snapshotOf snap spec)) choice now →
          exec thread (.createSnapshot (snapshotOf snap spec)) choice now = some (answer, after) →
          Fact after)
    (holds : Fact shared) :
    contract.Keeps thread (Driver.createSnapshotLocked polls time request volume snapName) post
      shared := by
  apply promise.createSnapshotResponse reads lasts found (fun _ => rfl) _ holds
  intro err now holds
  apply keeps_getZFSVolume_bind
  · exact fun _ _ _ => reads trivial
  · intro err later moved _ _
    exact promise.returns (fails (lasts now later moved holds))
  · intro vol choice later moved _ _ stored
    have holds := lasts now later moved holds
    obtain rfl := Resource.name_of_get stored
    dsimp only
    split
    · exact promise.returns (fails holds)
    · rename_i snap built
      apply keeps_call_bind
      intro last moved inv
      obtain ⟨owed, written⟩ := creates inv (lasts later last moved holds) built
      refine ⟨owed, fun choice answer after guard executed => ?_⟩
      have holds := written guard executed
      cases answer with
      | error err => exact promise.returns (fails holds)
      | ok done =>
          apply Contract.Keeps.bind
          apply (keeps_lasting_reads (calls_waitIfAsked _ _ _) reads lasts holds).mono
          intro waited final _ holds
          cases waited with
          | error err => exact promise.returns (fails holds)
          | ok done =>
              apply promise.createSnapshotResponse reads lasts found (fun _ => rfl) _ holds
              exact fun holds => promise.returns (fails holds)

/-! ## DeleteSnapshot -/

/-- The snapshot is gone, or it is deleted with its volume's list of snapshots at hand. What is
known may grow once the snapshot is found and once the list is there. -/
theorem Promise.deleteSnapshotLocked {post : Except Err Unit → Shared → Prop}
    (promise : Promise contract thread post) {request : DeleteSnapshotRequest}
    (Found : Shared → Prop) (Listed : List ZFSSnapshot → Shared → Prop)
    (foundLasts : Lasts contract thread Found)
    (listedLasts : ∀ snapList, Lasts contract thread (Listed snapList))
    (ends : ∀ {result now}, Fact now → post result now)
    (known : ∀ {now}, Found now → Fact now)
    (listedKnown : ∀ {snapList now}, Listed snapList now → Fact now)
    (found : ∀ {choice now}, Fact now →
      contract.Guard thread (.getSnapshot snapName) choice now → Found now)
    (listed : ∀ {choice now}, Found now →
      contract.Guard thread (.listSnapshots volume) choice now →
      Listed (now.snapshots.store.list ZFSVolKey volume) now)
    (deletes : ∀ {snapList now}, Listed snapList now →
      contract.Ok thread (.deleteSnapshot snapName) now ∧
        ∀ {choice answer after}, contract.Guard thread (.deleteSnapshot snapName) choice now →
          exec thread (.deleteSnapshot snapName) choice now = some (answer, after) →
          Continues contract thread (Driver.deleteFollowing volume snapList) post answer after)
    (holds : Fact shared) :
    contract.Keeps thread (Driver.deleteSnapshotLocked request volume snapName) post shared := by
  apply keeps_getZFSSnapshot_bind
  · exact fun _ _ _ => reads trivial
  · intro err now moved _ _
    have holds := lasts shared now moved holds
    dsimp only
    split
    · exact promise.returns (ends holds)
    · exact promise.returns (ends holds)
  · intro snap choice now moved _ guard _
    have isFound := found (lasts shared now moved holds) guard
    apply keeps_call_bind
    intro later moved _
    have isFound := foundLasts now later moved isFound
    constructor
    · exact reads trivial
    · intro choice answer after guard executed
      cases answer with
      | error err =>
          rw [exec_reads (by trivial) executed]
          exact promise.returns (ends (known isFound))
      | ok snapList =>
          obtain ⟨rfl, rfl⟩ := exec_listSnapshots_ok executed
          have isListed := listed isFound guard
          dsimp only
          unfold Zfs.deleteSnapshot
          split
          · exact promise.returns (ends (listedKnown isListed))
          · apply keeps_call_bind
            intro last moved _
            obtain ⟨owed, deleted⟩ := deletes (listedLasts _ after last moved isListed)
            refine ⟨owed, fun choice answer final guard executed => ?_⟩
            have deleted := deleted guard executed
            cases answer with
            | ok done => exact deleted
            | error err => exact promise.returns (promise.anyText deleted)

end Walks

/-- After the deletion of its snapshot the volume follows or stays, depending on what a look
at it has found. -/
theorem Promise.deleteFollowing {post : Except Err Unit → Shared → Prop}
    (promise : Promise contract thread post) {snapList : List ZFSSnapshot}
    {Looked : Except Err Bool → Shared → Prop}
    (looks : contract.Keeps thread (isVolumeEligibleForDeletion volume) Looked shared)
    (fails : ∀ {err other now}, Looked (.error err) now → post (.error other) now)
    (stays : ∀ {eligible now}, Looked (.ok eligible) now →
      ¬ (snapList.length = 1 ∧ eligible = true) → post (.ok ()) now)
    (deletes : ∀ {now}, Looked (.ok true) now → snapList.length = 1 →
      contract.Keeps thread (Zfs.deleteVolume volume) post now) :
    contract.Keeps thread (Driver.deleteFollowing volume snapList) post shared := by
  apply Contract.Keeps.bind
  apply looks.mono
  intro answer now _ looked
  cases answer with
  | error err => exact promise.returns (fails looked)
  | ok eligible =>
      dsimp only
      split
      · rename_i last
        obtain ⟨single, rfl⟩ := last
        exact promise.passedOn (deletes looked single)
      · rename_i notLast
        exact promise.returns (stays looked notLast)

end ZfsLocalPv.Cluster

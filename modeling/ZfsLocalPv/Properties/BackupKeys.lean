import ZfsLocalPv.Driver.BackupGc

/-!
# Keys of the backup indexes

A backup is looked up by its volume, its node and a snapshot, joined by dots. The names of
volumes and nodes may hold dots themselves, so one key can be read in several ways: the
separators may stand further on in the same text. A lookup then finds the backups of another
chain. Without such a shift a key stands for its fields.
-/

namespace ZfsLocalPv.Properties

open Api Driver

/-! ## Texts joined by a dot -/

/-- A separator that does not stand before the other one stands at the same place or
further on. -/
theorem dotted_shift {first second first' second' : String} {rest : List Char}
    (before : first'.toList = first.toList ++ rest)
    (after : '.' :: second.toList = rest ++ '.' :: second'.toList) :
    (first = first' ∧ second = second') ∨
      ∃ part, first' = first ++ "." ++ part ∧ second = part ++ "." ++ second' := by
  cases rest with
  | nil =>
      rw [List.append_nil] at before
      exact .inl ⟨String.toList_inj.mp before.symm, String.toList_inj.mp (List.cons.inj after).2⟩
  | cons char rest =>
      obtain ⟨rfl, after⟩ := List.cons.inj after
      refine .inr ⟨String.ofList rest, String.toList_inj.mp ?_, String.toList_inj.mp ?_⟩
      · simp [before]
      · simpa using after

/-- Two joined texts are equal if their parts are, or if one separator stands further on
than the other. -/
theorem dotted_eq_iff {first second first' second' : String} :
    first ++ "." ++ second = first' ++ "." ++ second' ↔
      (first = first' ∧ second = second') ∨
      (∃ part, first' = first ++ "." ++ part ∧ second = part ++ "." ++ second') ∨
      ∃ part, first = first' ++ "." ++ part ∧ second' = part ++ "." ++ second := by
  constructor
  · intro joined
    have chars : first.toList ++ '.' :: second.toList = first'.toList ++ '.' :: second'.toList := by
      simpa using congrArg String.toList joined
    rcases List.append_eq_append_iff.mp chars with ⟨rest, before, after⟩ | ⟨rest, before, after⟩
    · rcases dotted_shift before after with same | shifted
      · exact .inl same
      · exact .inr (.inl shifted)
    · rcases dotted_shift before after with ⟨same, same'⟩ | shifted
      · exact .inl ⟨same.symm, same'.symm⟩
      · exact .inr (.inr shifted)
  · rintro (⟨rfl, rfl⟩ | ⟨part, rfl, rfl⟩ | ⟨part, rfl, rfl⟩)
    · rfl
    · simp only [String.append_assoc]
    · simp only [String.append_assoc]

/-- A text is not its own extension. -/
theorem ne_dotted (text part : String) : text ≠ text ++ "." ++ part := by
  intro same
  have lengths := congrArg String.length same
  simp only [String.length_append] at lengths
  have dot : ".".length = 1 := rfl
  omega

/-! ## Keys and their fields -/

/-- What a key is made of. -/
structure KeyFields where
  volumeName : String
  ownerNodeID : String
  snapName : String
  deriving DecidableEq

def KeyFields.key (fields : KeyFields) : String :=
  getBackupKeyBySpec fields.volumeName fields.ownerNodeID fields.snapName

/-- The snapshot a backup holds. -/
def heldFields (backup : ZFSBackup) : KeyFields :=
  ⟨backup.spec.volumeName, backup.spec.ownerNodeID, backup.spec.snapName⟩

/-- The snapshot a backup builds on. -/
def previousFields (backup : ZFSBackup) : KeyFields :=
  ⟨backup.spec.volumeName, backup.spec.ownerNodeID, backup.spec.prevSnapName⟩

/-- The second fields read the text of the first ones with a separator further on: the
volume name goes on into the node, or the node into the snapshot. -/
def Shifted (first second : KeyFields) : Prop :=
  (∃ part, second.volumeName = first.volumeName ++ "." ++ part ∧
    first.ownerNodeID ++ "." ++ first.snapName =
      part ++ "." ++ (second.ownerNodeID ++ "." ++ second.snapName)) ∨
  (second.volumeName = first.volumeName ∧
    ∃ part, second.ownerNodeID = first.ownerNodeID ++ "." ++ part ∧
      first.snapName = part ++ "." ++ second.snapName)

theorem Shifted.ne {first second : KeyFields} (shifted : Shifted first second) :
    first ≠ second := by
  rintro rfl
  rcases shifted with ⟨part, longer, _⟩ | ⟨_, part, longer, _⟩
  · exact ne_dotted _ _ longer
  · exact ne_dotted _ _ longer

/-- A shift needs a dot in the name of a volume or of a node. -/
theorem Shifted.dotted {first second : KeyFields} (shifted : Shifted first second) :
    '.' ∈ second.volumeName.toList ∨ '.' ∈ second.ownerNodeID.toList := by
  rcases shifted with ⟨part, longer, _⟩ | ⟨_, part, longer, _⟩
  · left
    simp [longer]
  · right
    simp [longer]

/-- Equal keys have equal fields up to a shift. -/
theorem key_eq_iff {first second : KeyFields} :
    first.key = second.key ↔ first = second ∨ Shifted first second ∨ Shifted second first := by
  have unfolded (fields : KeyFields) : fields.key =
      fields.volumeName ++ "." ++ (fields.ownerNodeID ++ "." ++ fields.snapName) := by
    simp only [KeyFields.key, getBackupKeyBySpec, String.append_assoc]
  obtain ⟨volume, node, snap⟩ := first
  obtain ⟨volume', node', snap'⟩ := second
  rw [unfolded, unfolded, dotted_eq_iff, dotted_eq_iff]
  simp only [Shifted, KeyFields.mk.injEq]
  constructor
  · rintro (⟨rfl, ⟨rfl, rfl⟩ | later | earlier⟩ | later | earlier)
    · exact .inl ⟨rfl, rfl, rfl⟩
    · exact .inr (.inl (.inr ⟨rfl, later⟩))
    · exact .inr (.inr (.inr ⟨rfl, earlier⟩))
    · exact .inr (.inl (.inl later))
    · exact .inr (.inr (.inl earlier))
  · rintro (⟨rfl, rfl, rfl⟩ | (later | ⟨rfl, later⟩) | (earlier | ⟨rfl, earlier⟩))
    · exact .inl ⟨rfl, .inl ⟨rfl, rfl⟩⟩
    · exact .inr (.inl later)
    · exact .inl ⟨rfl, .inr (.inl later)⟩
    · exact .inr (.inr earlier)
    · exact .inl ⟨rfl, .inr (.inr earlier)⟩

/-! ## Names -/

/-- A label of a domain name: letters, digits and inner hyphens. -/
def dnsLabel (label : String) : Bool :=
  let plain (char : Char) : Bool := ('a' ≤ char && char ≤ 'z') || ('0' ≤ char && char ≤ '9')
  label.toList.all (fun char => plain char || char == '-') &&
    label.toList.head?.any plain && label.toList.getLast?.any plain

/-- The names of objects: labels joined by dots. -/
def dnsSubdomain (name : String) : Bool :=
  (Go.split '.' name).all dnsLabel && decide (name.utf8ByteSize ≤ 253)

/-- Volume and node have names of objects, the snapshots have names. -/
structure WellNamed (backup : ZFSBackup) : Prop where
  volume : dnsSubdomain backup.spec.volumeName = true
  node : dnsSubdomain backup.spec.ownerNodeID = true
  snap : backup.spec.snapName ≠ ""
  previous : backup.spec.prevSnapName ≠ ""

/-! ## Lookups -/

variable {backups : Set ZFSBackup} {child parent : ZFSBackup}

/-- The parent's snapshot is the one the child builds on. -/
def BuildsOn (child parent : ZFSBackup) : Prop :=
  child.spec.volumeName = parent.spec.volumeName ∧
    child.spec.ownerNodeID = parent.spec.ownerNodeID ∧
    child.spec.prevSnapName = parent.spec.snapName

theorem buildsOn_iff : BuildsOn child parent ↔ previousFields child = heldFields parent := by
  simp [BuildsOn, previousFields, heldFields]

/-- A child is found by the key of its parent. -/
theorem mem_previousIndex_iff (incremental : child.spec.prevSnapName ≠ "") :
    getBackupKeyBySpec parent.spec.volumeName parent.spec.ownerNodeID parent.spec.snapName ∈
        backupPreviousSnapshotIndexFunc child ↔
      (previousFields child).key = (heldFields parent).key := by
  rw [backupPreviousSnapshotIndexFunc, if_neg incremental, List.mem_singleton, eq_comm]
  rfl

/-- A parent is found by the key its child asks for. -/
theorem mem_snapshotIndex_iff :
    getBackupKeyBySpec child.spec.volumeName child.spec.ownerNodeID child.spec.prevSnapName ∈
        backupSnapshotIndexFunc parent ↔
      (previousFields child).key = (heldFields parent).key := by
  rw [backupSnapshotIndexFunc, List.mem_singleton]
  rfl

/-- Lookups find exactly the backups of the same chain. -/
structure FindsOwnChain (backups : Set ZFSBackup) : Prop where
  dependents : ∀ child ∈ backups, ∀ parent ∈ backups,
    (getBackupKeyBySpec parent.spec.volumeName parent.spec.ownerNodeID parent.spec.snapName ∈
      backupPreviousSnapshotIndexFunc child ↔ BuildsOn child parent)
  parents : ∀ child ∈ backups,
    ((∃ parent ∈ backups, getBackupKeyBySpec child.spec.volumeName child.spec.ownerNodeID
      child.spec.prevSnapName ∈ backupSnapshotIndexFunc parent) ↔
        ∃ parent ∈ backups, BuildsOn child parent)

/-- No backup asks for the text of another one with the dots elsewhere. -/
def Unshifted (backups : Set ZFSBackup) : Prop :=
  ∀ child ∈ backups, ∀ parent ∈ backups,
    ¬ Shifted (previousFields child) (heldFields parent) ∧
      ¬ Shifted (heldFields parent) (previousFields child)

theorem key_eq_iff_buildsOn (unshifted : Unshifted backups) (isChild : child ∈ backups)
    (isParent : parent ∈ backups) :
    (previousFields child).key = (heldFields parent).key ↔ BuildsOn child parent := by
  rw [key_eq_iff, buildsOn_iff]
  simp [unshifted child isChild parent isParent]

/-- A cascade stays within its own chain if and only if no backup of the set asks for
a text that is the key of another one with its separators elsewhere. -/
theorem cascade_within_chain_iff (named : ∀ backup ∈ backups, WellNamed backup) :
    FindsOwnChain backups ↔ Unshifted backups := by
  constructor
  · intro finds child isChild parent isParent
    have found := finds.dependents child isChild parent isParent
    rw [mem_previousIndex_iff (named child isChild).previous, key_eq_iff, buildsOn_iff] at found
    constructor
    · exact fun later => later.ne (found.mp (.inr (.inl later)))
    · exact fun earlier => earlier.ne (found.mp (.inr (.inr earlier))).symm
  · intro unshifted
    constructor
    · intro child isChild parent isParent
      rw [mem_previousIndex_iff (named child isChild).previous]
      exact key_eq_iff_buildsOn unshifted isChild isParent
    · intro child isChild
      simp only [mem_snapshotIndex_iff]
      constructor
      · rintro ⟨parent, isParent, found⟩
        exact ⟨parent, isParent, (key_eq_iff_buildsOn unshifted isChild isParent).mp found⟩
      · rintro ⟨parent, isParent, builds⟩
        exact ⟨parent, isParent, (key_eq_iff_buildsOn unshifted isChild isParent).mpr builds⟩

/-- Names without dots cannot shift. -/
theorem unshifted_of_dotless (dotless : ∀ backup ∈ backups,
    '.' ∉ backup.spec.volumeName.toList ∧ '.' ∉ backup.spec.ownerNodeID.toList) :
    Unshifted backups := by
  intro child isChild parent isParent
  constructor
  · intro later
    rcases later.dotted with volume | node
    · exact (dotless parent isParent).1 volume
    · exact (dotless parent isParent).2 node
  · intro earlier
    rcases earlier.dotted with volume | node
    · exact (dotless child isChild).1 volume
    · exact (dotless child isChild).2 node

/-- An incremental backup. -/
def chainedBackup (name volume node snap previous : String) : ZFSBackup where
  name := name
  spec := { volumeName := volume, ownerNodeID := node, snapName := snap, prevSnapName := previous }
  status := .done

/-- Two backups of one chain. -/
def pvcChain : Set ZFSBackup :=
  {backup | backup ∈ [chainedBackup "b2" "pvc-1" "node-1" "s2" "s1",
    chainedBackup "b3" "pvc-1" "node-1" "s3" "s2"]}

theorem wellNamed_pvcChain : ∀ backup ∈ pvcChain, WellNamed backup := by
  intro backup mem
  rcases List.mem_cons.mp mem with rfl | mem
  · exact ⟨by decide +kernel, by decide +kernel, by decide, by decide⟩
  · obtain rfl := List.mem_singleton.mp mem
    exact ⟨by decide +kernel, by decide +kernel, by decide, by decide⟩

theorem cascade_within_chain_iff_pvcChain :
    (∀ backup ∈ pvcChain, WellNamed backup) ∧ FindsOwnChain pvcChain := by
  refine ⟨wellNamed_pvcChain, (cascade_within_chain_iff wellNamed_pvcChain).mpr ?_⟩
  apply unshifted_of_dotless
  intro backup mem
  rcases List.mem_cons.mp mem with rfl | mem
  · exact ⟨by decide, by decide⟩
  · obtain rfl := List.mem_singleton.mp mem
    exact ⟨by decide, by decide⟩

/-- Deleting a backup of the volume `a.b` on the node `c` takes a backup of the volume
`a` on the node `b.c` with it. -/
theorem cascade_leaves_chain :
    let child := chainedBackup "child" "a" "b.c" "s2" "s1"
    let parent := chainedBackup "parent" "a.b" "c" "s1" "s0"
    WellNamed child ∧ WellNamed parent ∧
      getBackupKeyBySpec parent.spec.volumeName parent.spec.ownerNodeID parent.spec.snapName ∈
        backupPreviousSnapshotIndexFunc child ∧
      ¬ BuildsOn child parent := by
  refine ⟨⟨by decide +kernel, by decide +kernel, by decide, by decide⟩,
    ⟨by decide +kernel, by decide +kernel, by decide, by decide⟩, by decide, ?_⟩
  rintro ⟨sameVolume, _⟩
  exact absurd sameVolume (by decide)

end ZfsLocalPv.Properties

import ZfsLocalPv.Go.Strings

/-!
# The storage of one node

The datasets and snapshots of a node and the documented effect of the `zfs` commands the driver
runs. A volume is the dataset `pool/name`; the pool may itself be a path, and names hold no
slash, so the pair determines the path and is used in its place. A command that the storage
refuses has no effect. Snapshots have no properties of their own here, `-s` leaves no trace, and
a new `volsize` does not move `refreservation`.
-/

namespace ZfsLocalPv.Zfs

open Go

/-- The dataset of a volume. -/
structure Dataset where
  pool : String
  name : String
  deriving DecidableEq

def Dataset.path (dataset : Dataset) : String :=
  dataset.pool ++ "/" ++ dataset.name

/-- Whether a dataset lies below another. -/
def Dataset.below (dataset parent : Dataset) : Bool :=
  startsWith dataset.path (parent.path ++ "/")

structure Snapshot where
  volume : Dataset
  name : String
  deriving DecidableEq

def Snapshot.path (snapshot : Snapshot) : String :=
  snapshot.volume.path ++ "@" ++ snapshot.name

/-- A dataset with the snapshot it was cloned from and its local properties. -/
structure Entry where
  dataset : Dataset
  origin : Option Snapshot := none
  properties : StringMap := []
  deriving DecidableEq

/-- `parents` are the pools and the datasets that are nobody's volume. -/
structure Storage where
  parents : List String := []
  datasets : List Entry := []
  snapshots : List Snapshot := []
  deriving DecidableEq

/-- What `zfs list` is asked about. -/
inductive Target
  | parent (path : String)
  | dataset (dataset : Dataset)
  | snapshot (snapshot : Snapshot)
  deriving DecidableEq

def Target.path : Target → String
  | .parent path => path
  | .dataset volume => volume.path
  | .snapshot taken => taken.path

/-- An option of `zfs create`, `zfs clone` or `zfs snapshot`. -/
inductive Arg
  /-- `-s` -/
  | sparse
  /-- `-V size` -/
  | size (value : String)
  /-- `-b size` -/
  | blockSize (value : String)
  /-- `-o name=value` -/
  | property (name value : String)
  deriving DecidableEq

inductive Command
  | list (target : Target)
  | create (args : List Arg) (volume : Dataset)
  | clone (args : List Arg) (source : String) (volume : Dataset)
  /-- `zfs destroy -r` -/
  | destroy (volume : Dataset)
  | snapshot (args : List Arg) (snapshot : Snapshot)
  | destroySnapshot (snapshot : Snapshot)
  | set (assignments : StringMap) (volume : Dataset)
  | get (property : String) (volume : Dataset)
  deriving DecidableEq

/-- The properties given by options. -/
def propertiesOf (args : List Arg) : StringMap :=
  args.filterMap fun
    | .sparse => none
    | .size value => some ("volsize", value)
    | .blockSize value => some ("volblocksize", value)
    | .property name value => some (name, value)

namespace Storage

def hasDataset (storage : Storage) (dataset : Dataset) : Bool :=
  storage.datasets.any fun entry => decide (entry.dataset = dataset)

def hasSnapshot (storage : Storage) (snapshot : Snapshot) : Bool :=
  decide (snapshot ∈ storage.snapshots)

def hasPath (storage : Storage) (path : String) : Bool :=
  decide (path ∈ storage.parents) ||
    storage.datasets.any fun entry => decide (entry.dataset.path = path)

def has (storage : Storage) : Target → Bool
  | .parent path => storage.hasPath path
  | .dataset dataset => storage.hasDataset dataset
  | .snapshot snapshot => storage.hasSnapshot snapshot

/-- The local properties of a dataset. -/
def propertiesAt (storage : Storage) (dataset : Dataset) : StringMap :=
  ((storage.datasets.find? fun entry => decide (entry.dataset = dataset)).map
    fun entry => entry.properties).getD []

/-- A property as `zfs get -pH -o value` prints it. -/
def valueOf (storage : Storage) (property : String) (dataset : Dataset) : String :=
  ((storage.propertiesAt dataset).lookup property).getD
    (if property ∈ ["quota", "refquota", "reservation", "refreservation"] then "0" else "-")

/-- Add a dataset. -/
def add (storage : Storage) (entry : Entry) : Storage :=
  { storage with datasets := storage.datasets ++ [entry] }

/-- Set properties of a dataset. -/
def assign (storage : Storage) (assignments : StringMap) (dataset : Dataset) : Storage :=
  { storage with datasets := storage.datasets.map fun entry =>
      if entry.dataset = dataset then
        { entry with properties := StringMap.merge entry.properties assignments }
      else
        entry }

/-- Whether a recursive destroy of `root` takes a dataset with it. -/
def takes (root dataset : Dataset) : Bool :=
  decide (dataset = root) || dataset.below root

/-- Whether a dataset that stays was cloned from a snapshot that would go. -/
def holdsBack (root : Dataset) (entry : Entry) : Bool :=
  !takes root entry.dataset &&
    match entry.origin with
    | none => false
    | some origin => takes root origin.volume

/-- The storage after a recursive destroy. -/
def without (storage : Storage) (root : Dataset) : Storage :=
  { storage with
    datasets := storage.datasets.filter fun entry => !takes root entry.dataset
    snapshots := storage.snapshots.filter fun snapshot => !takes root snapshot.volume }

/-- Whether a dataset was cloned from a snapshot. -/
def HasClone (storage : Storage) (snapshot : Snapshot) : Prop :=
  ∃ entry ∈ storage.datasets, entry.origin = some snapshot

/-- The storage with one more snapshot. -/
def withSnapshot (storage : Storage) (snapshot : Snapshot) : Storage :=
  { storage with snapshots := storage.snapshots ++ [snapshot] }

/-- The storage without a snapshot. -/
def withoutSnapshot (storage : Storage) (snapshot : Snapshot) : Storage :=
  { storage with snapshots := storage.snapshots.filter fun other => decide (other ≠ snapshot) }

/-- The output of a command and the storage after it; nothing if it is refused. -/
def run (storage : Storage) : Command → Option (String × Storage)
  | .list target => if storage.has target then some ("", storage) else none
  | .create args volume =>
      if storage.hasPath volume.pool ∧ ¬ storage.hasDataset volume then
        some ("", storage.add { dataset := volume, properties := propertiesOf args })
      else
        none
  | .clone args source volume =>
      match storage.snapshots.find? fun snapshot => decide (snapshot.path = source) with
      | none => none
      | some origin =>
          if storage.hasPath volume.pool ∧ ¬ storage.hasDataset volume then
            some ("", storage.add
              { dataset := volume, origin := origin, properties := propertiesOf args })
          else
            none
  | .destroy volume =>
      if storage.hasDataset volume ∧ ¬ storage.datasets.any (holdsBack volume) then
        some ("", storage.without volume)
      else
        none
  | .snapshot _ snapshot =>
      if storage.hasDataset snapshot.volume ∧ ¬ storage.hasSnapshot snapshot then
        some ("", storage.withSnapshot snapshot)
      else
        none
  | .destroySnapshot snapshot =>
      if storage.hasSnapshot snapshot ∧
          ¬ storage.datasets.any fun entry => decide (entry.origin = some snapshot) then
        some ("", storage.withoutSnapshot snapshot)
      else
        none
  | .set assignments volume =>
      if storage.hasDataset volume then some ("", storage.assign assignments volume) else none
  | .get property volume =>
      if storage.hasDataset volume then some (storage.valueOf property volume, storage) else none

/-! ## What a command can do -/

variable {storage next : Storage} {command : Command} {output : String}

theorem hasDataset_add (storage : Storage) (entry : Entry) (dataset : Dataset) :
    (storage.add entry).hasDataset dataset =
      (storage.hasDataset dataset || decide (entry.dataset = dataset)) := by
  simp [hasDataset, add, List.any_append]

theorem hasDataset_assign (storage : Storage) (assignments : StringMap)
    (volume dataset : Dataset) :
    (storage.assign assignments volume).hasDataset dataset = storage.hasDataset dataset := by
  simp only [hasDataset, assign, List.any_map]
  congr 1
  funext entry
  simp only [Function.comp_apply]
  split
  · rfl
  · rfl

theorem hasDataset_iff {dataset : Dataset} :
    storage.hasDataset dataset = true ↔ ∃ entry ∈ storage.datasets, entry.dataset = dataset := by
  simp [hasDataset]

theorem hasDataset_without (storage : Storage) (root dataset : Dataset) :
    (storage.without root).hasDataset dataset = true ↔
      storage.hasDataset dataset = true ∧ takes root dataset = false := by
  simp only [hasDataset_iff, without, List.mem_filter, Bool.not_eq_true']
  constructor
  · rintro ⟨entry, ⟨mem, kept⟩, rfl⟩
    exact ⟨⟨entry, mem, rfl⟩, kept⟩
  · rintro ⟨⟨entry, mem, rfl⟩, kept⟩
    exact ⟨entry, ⟨mem, kept⟩, rfl⟩

theorem hasSnapshot_without (storage : Storage) (root : Dataset) (snapshot : Snapshot) :
    (storage.without root).hasSnapshot snapshot = true ↔
      storage.hasSnapshot snapshot = true ∧ takes root snapshot.volume = false := by
  simp [hasSnapshot, without]

theorem takes_self (root : Dataset) : takes root root = true := by
  simp [takes]

/-- What a recursive destroy takes lies below its root. -/
theorem length_path_of_takes {root dataset : Dataset} (taken : takes root dataset = true) :
    root.path.length ≤ dataset.path.length := by
  rw [takes, Bool.or_eq_true, decide_eq_true_eq] at taken
  rcases taken with rfl | below
  · exact Nat.le_refl _
  · obtain ⟨rest, pathEq⟩ := List.isPrefixOf_iff_prefix.mp below
    have lengths := congrArg List.length pathEq
    simp only [String.toList_append, List.length_append, String.length_toList] at lengths
    omega

/-- The pool of a volume stays. -/
theorem hasPath_pool_without {root : Dataset} (present : storage.hasPath root.pool = true) :
    (storage.without root).hasPath root.pool = true := by
  rw [hasPath, Bool.or_eq_true] at present ⊢
  rcases present with parent | dataset
  · exact .inl parent
  · right
    obtain ⟨entry, mem, isPool⟩ := List.any_eq_true.mp dataset
    refine List.any_eq_true.mpr ⟨entry, List.mem_filter.mpr ⟨mem, ?_⟩, isPool⟩
    rw [Bool.not_eq_true', ← Bool.not_eq_true]
    intro taken
    have longer := length_path_of_takes taken
    rw [of_decide_eq_true isPool, Dataset.path, String.length_append,
      String.length_append] at longer
    have slash : "/".length = 1 := rfl
    omega

@[simp]
theorem hasSnapshot_withoutSnapshot (storage : Storage) (snapshot : Snapshot) :
    (storage.withoutSnapshot snapshot).hasSnapshot snapshot = false := by
  simp [withoutSnapshot, hasSnapshot]

@[simp]
theorem datasets_withoutSnapshot (storage : Storage) (snapshot : Snapshot) :
    (storage.withoutSnapshot snapshot).datasets = storage.datasets :=
  rfl

theorem run_destroySnapshot_eq_none {snapshot : Snapshot} (cloned : storage.HasClone snapshot) :
    storage.run (.destroySnapshot snapshot) = none := by
  obtain ⟨entry, mem, isOrigin⟩ := cloned
  rw [run, if_neg]
  rintro ⟨_, free⟩
  exact free (List.any_eq_true.mpr ⟨entry, mem, decide_eq_true isOrigin⟩)

theorem run_destroySnapshot {snapshot : Snapshot} (present : storage.hasSnapshot snapshot = true)
    (unused : ¬ storage.HasClone snapshot) :
    storage.run (.destroySnapshot snapshot) = some ("", storage.withoutSnapshot snapshot) := by
  rw [run, if_pos]
  refine ⟨present, fun held => unused ?_⟩
  obtain ⟨entry, mem, isOrigin⟩ := List.any_eq_true.mp held
  exact ⟨entry, mem, of_decide_eq_true isOrigin⟩

/-! ### Properties -/

theorem propertiesAt_add_self {entry : Entry}
    (absent : storage.hasDataset entry.dataset = false) :
    (storage.add entry).propertiesAt entry.dataset = entry.properties := by
  have missing : (storage.datasets.find? fun other => decide (other.dataset = entry.dataset)) =
      none := by
    simpa [hasDataset] using absent
  simp [propertiesAt, add, List.find?_append, missing]

theorem find?_assign (storage : Storage) (assignments : StringMap) (volume dataset : Dataset) :
    (storage.assign assignments volume).datasets.find? (fun entry =>
        decide (entry.dataset = dataset)) =
      (storage.datasets.find? fun entry => decide (entry.dataset = dataset)).map fun entry =>
        if entry.dataset = volume then
          { entry with properties := StringMap.merge entry.properties assignments }
        else
          entry := by
  simp only [assign, List.find?_map]
  congr 2
  funext entry
  simp only [Function.comp_apply]
  split <;> rfl

theorem propertiesAt_assign_self {dataset : Dataset} (present : storage.hasDataset dataset = true)
    (assignments : StringMap) :
    (storage.assign assignments dataset).propertiesAt dataset =
      StringMap.merge (storage.propertiesAt dataset) assignments := by
  unfold propertiesAt
  rw [find?_assign]
  cases found : storage.datasets.find? fun entry => decide (entry.dataset = dataset) with
  | none =>
      obtain ⟨entry, mem, nameEq⟩ := hasDataset_iff.mp present
      have absent := List.find?_eq_none.mp found entry mem
      simp [nameEq] at absent
  | some entry =>
      have nameEq : entry.dataset = dataset := by
        simpa using List.find?_some found
      simp [nameEq]

theorem assign_nil (storage : Storage) (dataset : Dataset) :
    storage.assign [] dataset = storage := by
  have same : (fun entry : Entry => if entry.dataset = dataset then
      { entry with properties := StringMap.merge entry.properties [] } else entry) = id := by
    funext entry
    split <;> rfl
  rw [assign, same, List.map_id]

/-- A set that succeeds has found its dataset and made its assignments. -/
theorem run_set_eq_some {assignments : StringMap} {dataset : Dataset} {output : String}
    {next : Storage} (ran : storage.run (.set assignments dataset) = some (output, next)) :
    storage.hasDataset dataset = true ∧ next = storage.assign assignments dataset := by
  simp only [run, Option.ite_none_right_eq_some, Option.some.injEq, Prod.mk.injEq] at ran
  exact ⟨ran.1, ran.2.2.symm⟩

/-- A property that is not assigned keeps its value. -/
theorem valueOf_assign_of_notMem {property : String} {assignments : StringMap} {dataset : Dataset}
    (present : storage.hasDataset dataset = true)
    (unassigned : ∀ entry ∈ assignments, entry.1 ≠ property) :
    (storage.assign assignments dataset).valueOf property dataset =
      storage.valueOf property dataset := by
  rw [valueOf, valueOf, propertiesAt_assign_self present,
    StringMap.lookup_merge_of_notMem unassigned]

/-- A property has the value that all its assignments give it. -/
theorem valueOf_assign_of_agree {property value : String} {assignments : StringMap}
    {dataset : Dataset} (present : storage.hasDataset dataset = true)
    (agree : ∀ entry ∈ assignments, entry.1 = property → entry.2 = value)
    (assigned : ∃ entry ∈ assignments, entry.1 = property) :
    (storage.assign assignments dataset).valueOf property dataset = value := by
  rw [valueOf, propertiesAt_assign_self present,
    StringMap.lookup_merge_of_agree agree (.inr assigned)]
  rfl

/-! ### Single commands -/

section Commands

variable {args : List Arg} {volume : Dataset}

theorem run_create_eq_some (ran : storage.run (.create args volume) = some (output, next)) :
    next = storage.add { dataset := volume, properties := propertiesOf args } := by
  simp only [run, Option.ite_none_right_eq_some, Option.some.injEq, Prod.mk.injEq] at ran
  exact ran.2.2.symm

theorem run_snapshot_eq_some {snapshot : Snapshot}
    (ran : storage.run (.snapshot args snapshot) = some (output, next)) :
    storage.hasDataset snapshot.volume = true ∧ next = storage.withSnapshot snapshot := by
  simp only [run, Option.ite_none_right_eq_some, Option.some.injEq, Prod.mk.injEq] at ran
  exact ⟨ran.1.1, ran.2.2.symm⟩

theorem run_clone_eq_some {source : String}
    (ran : storage.run (.clone args source volume) = some (output, next)) :
    ∃ origin : Snapshot, origin.path = source ∧
      next = storage.add
        { dataset := volume, origin := origin, properties := propertiesOf args } := by
  rw [run] at ran
  split at ran
  · contradiction
  · rename_i origin found
    simp only [Option.ite_none_right_eq_some, Option.some.injEq, Prod.mk.injEq] at ran
    have isSource : origin.path = source := by
      simpa using List.find?_some found
    exact ⟨origin, isSource, ran.2.2.symm⟩

theorem run_create_eq_none (present : storage.hasDataset volume = true) :
    storage.run (.create args volume) = none := by
  simp [run, present]

theorem run_clone_eq_none {source : String} (present : storage.hasDataset volume = true) :
    storage.run (.clone args source volume) = none := by
  rw [run]
  split
  · rfl
  · simp [present]

theorem run_snapshot_eq_none {snapshot : Snapshot}
    (present : storage.hasSnapshot snapshot = true) :
    storage.run (.snapshot args snapshot) = none := by
  simp [run, present]

end Commands

/-- The storage after a command that was not refused. -/
inductive Effect (storage : Storage) : Command → Storage → Prop
  | list (target : Target) (present : storage.has target = true) :
      Effect storage (.list target) storage
  | create (args : List Arg) (entry : Entry)
      (absent : storage.hasDataset entry.dataset = false)
      (given : entry.properties = propertiesOf args) :
      Effect storage (.create args entry.dataset) (storage.add entry)
  | clone (args : List Arg) (source : String) (entry : Entry)
      (absent : storage.hasDataset entry.dataset = false)
      (given : entry.properties = propertiesOf args) :
      Effect storage (.clone args source entry.dataset) (storage.add entry)
  | destroy (volume : Dataset) : Effect storage (.destroy volume) (storage.without volume)
  | snapshot (args : List Arg) (snapshot : Snapshot)
      (present : storage.hasDataset snapshot.volume = true) :
      Effect storage (.snapshot args snapshot) (storage.withSnapshot snapshot)
  | destroySnapshot (snapshot : Snapshot) :
      Effect storage (.destroySnapshot snapshot) (storage.withoutSnapshot snapshot)
  | set (assignments : StringMap) (volume : Dataset)
      (present : storage.hasDataset volume = true) :
      Effect storage (.set assignments volume) (storage.assign assignments volume)
  | get (property : String) (volume : Dataset) : Effect storage (.get property volume) storage

theorem run_effect (ran : storage.run command = some (output, next)) :
    storage.Effect command next := by
  cases command with
  | list target =>
      simp only [run, Option.ite_none_right_eq_some, Option.some.injEq, Prod.mk.injEq] at ran
      obtain ⟨present, _, rfl⟩ := ran
      exact .list target present
  | create args volume =>
      simp only [run, Option.ite_none_right_eq_some, Option.some.injEq, Prod.mk.injEq] at ran
      obtain ⟨⟨_, absent⟩, _, rfl⟩ := ran
      exact .create args { dataset := volume, properties := propertiesOf args }
        (by simpa using absent) rfl
  | clone args source volume =>
      simp only [run] at ran
      split at ran
      · contradiction
      · rename_i origin _
        simp only [Option.ite_none_right_eq_some, Option.some.injEq, Prod.mk.injEq] at ran
        obtain ⟨⟨_, absent⟩, _, rfl⟩ := ran
        exact .clone args source
          { dataset := volume, origin := origin, properties := propertiesOf args }
          (by simpa using absent) rfl
  | destroy volume =>
      simp only [run, Option.ite_none_right_eq_some, Option.some.injEq, Prod.mk.injEq] at ran
      obtain ⟨_, _, rfl⟩ := ran
      exact .destroy volume
  | snapshot args snapshot =>
      simp only [run, Option.ite_none_right_eq_some, Option.some.injEq, Prod.mk.injEq] at ran
      obtain ⟨⟨present, _⟩, _, rfl⟩ := ran
      exact .snapshot args snapshot present
  | destroySnapshot snapshot =>
      simp only [run, Option.ite_none_right_eq_some, Option.some.injEq, Prod.mk.injEq] at ran
      obtain ⟨_, _, rfl⟩ := ran
      exact .destroySnapshot snapshot
  | set assignments volume =>
      simp only [run, Option.ite_none_right_eq_some, Option.some.injEq, Prod.mk.injEq] at ran
      obtain ⟨present, _, rfl⟩ := ran
      exact .set assignments volume present
  | get property volume =>
      simp only [run, Option.ite_none_right_eq_some, Option.some.injEq, Prod.mk.injEq] at ran
      obtain ⟨_, _, rfl⟩ := ran
      exact .get property volume

theorem run_list_eq_some {target : Target}
    (ran : storage.run (.list target) = some (output, next)) :
    storage.has target = true ∧ next = storage := by
  simp only [run, Option.ite_none_right_eq_some, Option.some.injEq, Prod.mk.injEq] at ran
  exact ⟨ran.1, ran.2.2.symm⟩

/-- A dataset is new only by being created or cloned. -/
theorem Effect.new_dataset (effect : storage.Effect command next) {dataset : Dataset}
    (present : next.hasDataset dataset = true) :
    storage.hasDataset dataset = true ∨ (∃ args, command = .create args dataset) ∨
      ∃ args source, command = .clone args source dataset := by
  cases effect with
  | create args entry absent =>
      rw [hasDataset_add, Bool.or_eq_true, decide_eq_true_eq] at present
      rcases present with present | rfl
      · exact .inl present
      · exact .inr (.inl ⟨args, rfl⟩)
  | clone args source entry absent =>
      rw [hasDataset_add, Bool.or_eq_true, decide_eq_true_eq] at present
      rcases present with present | rfl
      · exact .inl present
      · exact .inr (.inr ⟨args, source, rfl⟩)
  | destroy volume => exact .inl ((hasDataset_without ..).mp present).1
  | set assignments volume =>
      rw [hasDataset_assign] at present
      exact .inl present
  | list | snapshot | destroySnapshot | get => exact .inl present

/-- A dataset goes away only by a recursive destroy. -/
theorem Effect.keeps_dataset (effect : storage.Effect command next) {dataset : Dataset}
    (present : storage.hasDataset dataset = true)
    (spared : ∀ root, command = .destroy root → takes root dataset = false) :
    next.hasDataset dataset = true := by
  cases effect with
  | create args entry absent =>
      rw [hasDataset_add, present, Bool.true_or]
  | clone args source entry absent =>
      rw [hasDataset_add, present, Bool.true_or]
  | destroy volume => exact (hasDataset_without ..).mpr ⟨present, spared volume rfl⟩
  | set assignments volume =>
      rw [hasDataset_assign]
      exact present
  | list | snapshot | destroySnapshot | get => exact present

/-- A snapshot goes away only by being destroyed, alone or with its volume. -/
theorem Effect.keeps_snapshot (effect : storage.Effect command next) {snapshot : Snapshot}
    (present : storage.hasSnapshot snapshot = true)
    (spared : ∀ root, command = .destroy root → takes root snapshot.volume = false)
    (notDestroyed : command ≠ .destroySnapshot snapshot) :
    next.hasSnapshot snapshot = true := by
  cases effect with
  | destroy volume => exact (hasSnapshot_without ..).mpr ⟨present, spared volume rfl⟩
  | snapshot args taken _ =>
      simp only [hasSnapshot, decide_eq_true_eq] at present ⊢
      exact List.mem_append_left _ present
  | destroySnapshot gone =>
      simp only [hasSnapshot, decide_eq_true_eq] at present ⊢
      refine List.mem_filter.mpr ⟨present, ?_⟩
      simp only [decide_eq_true_eq]
      rintro rfl
      exact notDestroyed rfl
  | list | create | clone | set | get => exact present

theorem Effect.created {args : List Arg} {volume : Dataset}
    (effect : storage.Effect (.create args volume) next) : next.hasDataset volume = true := by
  cases effect with
  | create args entry absent => simp [hasDataset_add]

theorem Effect.cloned {args : List Arg} {source : String} {volume : Dataset}
    (effect : storage.Effect (.clone args source volume) next) :
    next.hasDataset volume = true := by
  cases effect with
  | clone args source entry absent => simp [hasDataset_add]

theorem Effect.taken {args : List Arg} {snapshot : Snapshot}
    (effect : storage.Effect (.snapshot args snapshot) next) :
    next.hasSnapshot snapshot = true := by
  cases effect with
  | snapshot args snapshot present => simp [hasSnapshot, withSnapshot]

theorem Effect.destroyed {volume : Dataset} (effect : storage.Effect (.destroy volume) next) :
    next.hasDataset volume = false := by
  cases effect with
  | destroy volume =>
      apply Bool.eq_false_iff.mpr
      intro present
      have kept := ((hasDataset_without ..).mp present).2
      rw [takes_self] at kept
      contradiction

/-! ## Adding and taking away -/

/-- What holds of every state of `zfs`: what exists lies in datasets that exist, and a clone
keeps the snapshot it was made from. -/
structure WellFormed (storage : Storage) : Prop where
  above : ∀ {path parent}, storage.hasPath path = true →
    startsWith path (parent ++ "/") = true → storage.hasPath parent = true
  held : ∀ snapshot ∈ storage.snapshots, storage.hasPath snapshot.volume.path = true
  origin : ∀ entry ∈ storage.datasets, ∀ snapshot, entry.origin = some snapshot →
    snapshot ∈ storage.snapshots

theorem hasPath_of_mem {entry : Entry} (mem : entry ∈ storage.datasets) :
    storage.hasPath entry.dataset.path = true := by
  rw [hasPath, Bool.or_eq_true]
  exact .inr (List.any_eq_true.mpr ⟨entry, mem, decide_eq_true rfl⟩)

theorem hasPath_of_hasDataset {dataset : Dataset} (present : storage.hasDataset dataset = true) :
    storage.hasPath dataset.path = true := by
  obtain ⟨entry, mem, rfl⟩ := hasDataset_iff.mp present
  exact hasPath_of_mem mem

/-- The destruction of what does not exist takes nothing that exists. -/
theorem WellFormed.not_takes (formed : storage.WellFormed) {root dataset : Dataset}
    (absent : storage.hasPath root.path = false)
    (present : storage.hasPath dataset.path = true) : takes root dataset = false := by
  rw [← Bool.not_eq_true, takes, Bool.or_eq_true, decide_eq_true_eq]
  rintro (rfl | below)
  · rw [absent] at present
    contradiction
  · rw [formed.above present below] at absent
    contradiction

theorem WellFormed.withSnapshot (formed : storage.WellFormed) {snapshot : Snapshot}
    (present : storage.hasDataset snapshot.volume = true) :
    (storage.withSnapshot snapshot).WellFormed where
  above := formed.above
  held := by
    intro other mem
    rcases List.mem_append.mp mem with old | new
    · exact formed.held other old
    · obtain rfl := List.mem_singleton.mp new
      exact hasPath_of_hasDataset present
  origin entry mem other isOrigin := List.mem_append_left _ (formed.origin entry mem other isOrigin)

theorem WellFormed.without_add (formed : storage.WellFormed) {entry : Entry}
    (absent : storage.hasPath entry.dataset.path = false) :
    (storage.add entry).without entry.dataset = storage := by
  have datasets : (storage.datasets ++ [entry]).filter
      (fun other => !takes entry.dataset other.dataset) = storage.datasets := by
    rw [List.filter_append, List.filter_eq_self.mpr]
    · simp [takes_self]
    · intro other mem
      rw [formed.not_takes absent (hasPath_of_mem mem)]
      rfl
  have snapshots : storage.snapshots.filter
      (fun snapshot => !takes entry.dataset snapshot.volume) = storage.snapshots := by
    rw [List.filter_eq_self]
    intro snapshot mem
    rw [formed.not_takes absent (formed.held snapshot mem)]
    rfl
  rw [without, add, datasets, snapshots]

/-- A new dataset is destroyed without a trace. -/
theorem WellFormed.run_destroy_add (formed : storage.WellFormed) {entry : Entry}
    (absent : storage.hasPath entry.dataset.path = false) :
    (storage.add entry).run (.destroy entry.dataset) = some ("", storage) := by
  rw [run, if_pos, formed.without_add absent]
  refine ⟨by simp [hasDataset_add], ?_⟩
  rw [Bool.not_eq_true, List.any_eq_false]
  intro other mem holds
  rw [holdsBack, Bool.and_eq_true, Bool.not_eq_true'] at holds
  rcases List.mem_append.mp mem with old | new
  · cases isOrigin : other.origin with
    | none =>
        rw [isOrigin] at holds
        exact Bool.false_ne_true holds.2
    | some snapshot =>
        -- the snapshot it was cloned from is one that existed before
        have kept := formed.not_takes absent
          (formed.held snapshot (formed.origin other old snapshot isOrigin))
        rw [isOrigin] at holds
        exact Bool.false_ne_true (kept.symm.trans holds.2)
  · obtain rfl := List.mem_singleton.mp new
    rw [takes_self] at holds
    exact Bool.true_eq_false.mp holds.1

/-- A new snapshot is destroyed without a trace. -/
theorem WellFormed.run_destroySnapshot_withSnapshot (formed : storage.WellFormed)
    {snapshot : Snapshot} (absent : snapshot ∉ storage.snapshots) :
    (storage.withSnapshot snapshot).run (.destroySnapshot snapshot) = some ("", storage) := by
  have present : (storage.withSnapshot snapshot).hasSnapshot snapshot = true := by
    simp [Storage.withSnapshot, hasSnapshot]
  have unused : ¬ (storage.withSnapshot snapshot).HasClone snapshot := by
    rintro ⟨entry, mem, isOrigin⟩
    exact absent (formed.origin entry mem snapshot isOrigin)
  have restored : (storage.withSnapshot snapshot).withoutSnapshot snapshot = storage := by
    have kept : storage.snapshots.filter (fun other => decide (other ≠ snapshot)) =
        storage.snapshots := by
      rw [List.filter_eq_self]
      exact fun other mem => decide_eq_true fun same => absent (same ▸ mem)
    rw [withoutSnapshot, Storage.withSnapshot, List.filter_append, kept]
    simp
  rw [run_destroySnapshot present unused, restored]

end Storage

end ZfsLocalPv.Zfs

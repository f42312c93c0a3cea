import ZfsLocalPv.Zfs.FormatOptions

/-!
# Format options are found as they were set

The flags of the node agent are taken as a whole or not at all. A volume is formatted with the
options of its storage class, or else with those of the last flag for its filesystem that gives
any.
-/

namespace ZfsLocalPv.Properties

open Go Zfs

variable {entry key : String} {entries : List String} {options : FormatDefaults}

/-- An entry names a filesystem that can be formatted, before its first `=`. -/
def Accepted (entry : String) : Prop :=
  ∃ fstype value, cut '=' entry = some (fstype, value) ∧
    toLower (trimSpace fstype) ∈ formattableFsTypes

/-- The options that an entry gives a filesystem: the words after its first `=`. -/
def givenOptions (key entry : String) : Option (List String) :=
  (cut '=' entry).bind fun (fstype, value) =>
    if toLower (trimSpace fstype) = key ∧ ¬ Blank value then some (fields value) else none

/-- The filesystem that a type stands for. -/
def filesystemOf (fstype : String) : String :=
  if Blank fstype then fsTypeDefault else toLower (trimSpace fstype)

theorem collectFormatOptions_refused (options : FormatDefaults)
    (refused : ¬ ∀ entry ∈ entries, Accepted entry) :
    ∃ message, collectFormatOptions options entries = .error message := by
  induction entries generalizing options with
  | nil => simp at refused
  | cons entry entries ih =>
      rw [collectFormatOptions]
      split
      · exact ⟨_, rfl⟩
      · rename_i fstype value parts
        dsimp only
        split
        · rename_i formattable
          have later : ¬ ∀ entry ∈ entries, Accepted entry := by
            intro accepted
            exact refused (List.forall_mem_cons.mpr ⟨⟨fstype, value, parts, formattable⟩, accepted⟩)
          split
          · exact ih options later
          · exact ih _ later
        · exact ⟨_, rfl⟩

/-- One turn of the loop. -/
theorem collectFormatOptions_cons {fstype value : String}
    (parts : cut '=' entry = some (fstype, value))
    (formattable : toLower (trimSpace fstype) ∈ formattableFsTypes) :
    collectFormatOptions options (entry :: entries) =
      collectFormatOptions (if Blank value then options
        else (toLower (trimSpace fstype), fields value) :: options) entries := by
  rw [collectFormatOptions, parts]
  dsimp only
  rw [if_pos formattable]
  split
  · rename_i none
    rw [if_pos (fields_eq_nil_iff.mp none)]
  · rename_i some
    rw [if_neg fun blank => some (fields_eq_nil_iff.mpr blank)]

theorem lookup_taken {blank : Prop} [Decidable blank] (name : String) (words : List String) :
    (if blank then options else (name, words) :: options).lookup key =
      (if name = key ∧ ¬ blank then some words else none).or (options.lookup key) := by
  by_cases isBlank : blank
  · simp [isBlank]
  · by_cases same : name = key
    · simp [isBlank, same]
    · have unequal : (key == name) = false := beq_false_of_ne (Ne.symm same)
      simp [isBlank, same, List.lookup_cons, unequal]

/-- The collected options of a filesystem are those of the last entry that gives any, or
else what was there. -/
theorem collectFormatOptions_accepted (options : FormatDefaults) (key : String)
    (accepted : ∀ entry ∈ entries, Accepted entry) :
    ∃ collected, collectFormatOptions options entries = .ok collected ∧
      collected.lookup key =
        (entries.reverse.findSome? (givenOptions key)).or (options.lookup key) := by
  induction entries generalizing options with
  | nil => exact ⟨options, rfl, by simp⟩
  | cons entry entries ih =>
      obtain ⟨⟨fstype, value, parts, formattable⟩, later⟩ := List.forall_mem_cons.mp accepted
      have given : givenOptions key entry =
          if toLower (trimSpace fstype) = key ∧ ¬ Blank value then some (fields value)
          else none := by
        rw [givenOptions, parts, Option.bind_some]
      rw [collectFormatOptions_cons parts formattable]
      obtain ⟨collected, isOk, found⟩ := ih (if Blank value then options
        else (toLower (trimSpace fstype), fields value) :: options) later
      refine ⟨collected, isOk, ?_⟩
      rw [found, lookup_taken, ← given, List.reverse_cons, List.findSome?_append,
        List.findSome?_singleton, Option.or_assoc]

theorem filesystemOf_eq (fstype : String) :
    filesystemOf fstype =
      if toLower (trimSpace fstype) = "" then fsTypeDefault else toLower (trimSpace fstype) := by
  unfold filesystemOf
  by_cases blank : Blank fstype
  · rw [if_pos blank, trimSpace_eq_empty_iff.mpr blank, if_pos (by decide)]
  · have named : toLower (trimSpace fstype) ≠ "" :=
      toLower_ne_empty fun empty => blank (trimSpace_eq_empty_iff.mp empty)
    rw [if_neg blank, if_neg named]

/-- Flags with an entry that is not accepted change nothing. After others, a volume gets the
options of its storage class, or else those of the last entry that gives its filesystem any. -/
theorem format_options_found (defaults : FormatDefaults) (entries : List String)
    (fstype scOptions : String) :
    ((∃ entry ∈ entries, ¬ Accepted entry) →
      ∃ message, setDefaultFormatOptions entries defaults = (.error message, defaults)) ∧
    ((∀ entry ∈ entries, Accepted entry) →
      ∃ next, setDefaultFormatOptions entries defaults = (.ok (), next) ∧
        formatOptions next fstype scOptions =
          if Blank scOptions then
            (entries.reverse.findSome? (givenOptions (filesystemOf fstype))).getD []
          else
            fields scOptions) := by
  constructor
  · rintro ⟨entry, mem, refused⟩
    obtain ⟨message, failed⟩ :=
      collectFormatOptions_refused [] fun accepted => refused (accepted entry mem)
    exact ⟨message, by rw [setDefaultFormatOptions, failed]⟩
  · intro accepted
    obtain ⟨next, isOk, found⟩ :=
      collectFormatOptions_accepted [] (filesystemOf fstype) accepted
    refine ⟨next, by rw [setDefaultFormatOptions, isOk], ?_⟩
    unfold formatOptions
    dsimp only
    rw [← filesystemOf_eq, found]
    by_cases blank : Blank scOptions
    · rw [if_neg (not_not.mpr (fields_eq_nil_iff.mpr blank)), if_pos blank]
      simp
    · rw [if_pos fun none => blank (fields_eq_nil_iff.mp none), if_neg blank]

example : (setDefaultFormatOptions ["xfs=-i nrext64=0", "EXT4 =", "ext4=-m 0"] []).2 =
    [("ext4", ["-m", "0"]), ("xfs", ["-i", "nrext64=0"])] := by
  decide +kernel

end ZfsLocalPv.Properties

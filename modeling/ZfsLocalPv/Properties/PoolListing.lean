import Mathlib.Data.List.Infix
import Mathlib.Data.List.TakeWhile
import ZfsLocalPv.Zfs.Pools

/-!
# What the pool listing yields

The listing of a node is read line by line. Every line that is about a pool has to have its four
columns: a blank line or a warning among the output ends the agent. A line of 64 KiB ends the
scan without a word, and with it the list of pools.

A listing as `zfs` prints it is read back exactly, whatever stands in the columns of the datasets
below the pools, as long as no line is that long.
-/

namespace ZfsLocalPv.Properties

open Go Zfs

/-! ## Any output -/

section Output

variable {line : Bytes} {texts : List Bytes}

/-- The first field of a line. -/
def firstField (line : Bytes) : Bytes :=
  (items line).headD []

/-- A line about a pool. -/
def NamesPool (line : Bytes) : Prop :=
  slash ∉ firstField line

instance (line : Bytes) : Decidable (NamesPool line) :=
  inferInstanceAs (Decidable (¬ _))

def isSize (text : Bytes) : Bool :=
  (parseIntBytes text).isOk

/-- Four fields, the last two with sizes. -/
def hasSizes : List Bytes → Bool
  | _ :: _ :: free :: used :: _ => isSize free && isSize used
  | _ => false

/-- A size column is there and holds no size. -/
def hasBadSize : List Bytes → Bool
  | _ :: _ :: free :: [] => !isSize free
  | _ :: _ :: free :: used :: _ => !isSize free || !isSize used
  | _ => false

/-- A line about a pool has its sizes. -/
def Readable (line : Bytes) : Prop :=
  NamesPool line → hasSizes (items line) = true

instance (line : Bytes) : Decidable (Readable line) :=
  inferInstanceAs (Decidable (_ → _))

/-- What becomes of a line. -/
inductive LineCase (line : Bytes) : LineResult → Prop
  | skip (other : ¬ NamesPool line) : LineCase line .skip
  | pool (names : NamesPool line) (sized : hasSizes (items line) = true) (pool : ListedPool)
      (nameEq : pool.name = firstField line) : LineCase line (.pool pool)
  | failed (unreadable : ¬ Readable line) (bad : hasBadSize (items line) = true)
      (err : SizeError) : LineCase line (.failed err)
  | crash (unreadable : ¬ Readable line) (short : hasBadSize (items line) = false) :
      LineCase line .crash

theorem isSize_of_ok {text : Bytes} {value : Int} (parsed : parseIntBytes text = .ok value) :
    isSize text = true := by
  rw [isSize, parsed]
  rfl

theorem isSize_of_error {text : Bytes} {err : NumError}
    (refused : parseIntBytes text = .error err) : isSize text = false := by
  rw [isSize, refused]
  rfl

theorem decodePool_case {name : Bytes} {columns : List Bytes} (names : NamesPool line)
    (split : items line = name :: columns) : LineCase line (decodePool name columns) := by
  have unreadable (none : hasSizes (items line) = false) : ¬ Readable line := by
    intro readable
    rw [readable names] at none
    contradiction
  have fieldEq : name = firstField line := by rw [firstField, split, List.headD_cons]
  fun_cases decodePool name columns with
  | case1 => exact .crash (unreadable (by rw [split]; rfl)) (by rw [split]; rfl)
  | case2 uuid => exact .crash (unreadable (by rw [split]; rfl)) (by rw [split]; rfl)
  | case3 uuid free rest err refused =>
      have noSize := isSize_of_error refused
      cases rest with
      | nil =>
          exact .failed (unreadable (by rw [split]; rfl)) (by simp [split, hasBadSize, noSize]) _
      | cons used rest =>
          exact .failed (unreadable (by simp [split, hasSizes, noSize]))
            (by simp [split, hasBadSize, noSize]) _
  | case4 uuid free sizeBytes parsed =>
      exact .crash (unreadable (by rw [split]; rfl))
        (by simp [split, hasBadSize, isSize_of_ok parsed])
  | case5 uuid free sizeBytes parsed used rest err refused =>
      have noSize := isSize_of_error refused
      exact .failed (unreadable (by simp [split, hasSizes, noSize]))
        (by simp [split, hasBadSize, noSize]) _
  | case6 uuid free sizeBytes freeParsed used rest usedBytes usedParsed =>
      have sized : hasSizes (items line) = true := by
        simp [split, hasSizes, isSize_of_ok freeParsed, isSize_of_ok usedParsed]
      exact .pool names sized _ fieldEq

theorem decodeLine_case (line : Bytes) : LineCase line (decodeLine line) := by
  unfold decodeLine
  cases split : items line with
  | nil => exact absurd split (List.splitOn_ne_nil _ _)
  | cons name columns =>
      have fieldEq : firstField line = name := by rw [firstField, split, List.headD_cons]
      dsimp only
      by_cases isOther : slash ∈ name
      · rw [if_pos isOther]
        exact .skip fun names => names (fieldEq ▸ isOther)
      · rw [if_neg isOther]
        exact decodePool_case (by rwa [NamesPool, fieldEq]) split

/-- Lines that can be read yield the pools they name. -/
theorem decodeLines_of_readable (readable : ∀ line ∈ texts, Readable line)
    (pools : List ListedPool) :
    ∃ more, decodeLines pools texts = .pools (pools ++ more) ∧
      more.map ListedPool.name =
        (texts.filter fun line => decide (NamesPool line)).map firstField := by
  induction texts generalizing pools with
  | nil => exact ⟨[], by rw [decodeLines, List.append_nil], rfl⟩
  | cons line texts ih =>
      have rest : ∀ line ∈ texts, Readable line := fun other mem => readable other (.tail _ mem)
      have first := readable line (.head _)
      have becomes := decodeLine_case line
      rw [decodeLines]
      generalize decodeLine line = result at becomes
      cases becomes with
      | skip other =>
          obtain ⟨more, decoded, named⟩ := ih rest pools
          refine ⟨more, decoded, ?_⟩
          rw [List.filter_cons_of_neg (by simpa using other), named]
      | pool names sized pool nameEq =>
          obtain ⟨more, decoded, named⟩ := ih rest (pools ++ [pool])
          refine ⟨pool :: more, ?_, ?_⟩
          · dsimp only
            rw [decoded, List.append_assoc, List.singleton_append]
          · rw [List.filter_cons_of_pos (by simpa using names), List.map_cons, List.map_cons, named,
              nameEq]
      | failed unreadable => exact absurd first unreadable
      | crash unreadable => exact absurd first unreadable

/-- The first line that cannot be read ends the loop. -/
theorem decodeLines_of_unreadable {after : List Bytes}
    (readable : ∀ line ∈ texts, Readable line) (unreadable : ¬ Readable line)
    (pools : List ListedPool) :
    (hasBadSize (items line) = true ∧
        ∃ more err, decodeLines pools (texts ++ line :: after) = .failed more err) ∨
      (hasBadSize (items line) = false ∧ decodeLines pools (texts ++ line :: after) = .crash) := by
  induction texts generalizing pools with
  | nil =>
      have becomes := decodeLine_case line
      rw [List.nil_append, decodeLines]
      generalize decodeLine line = result at becomes
      cases becomes with
      | skip other => exact absurd (fun names => absurd names other) unreadable
      | pool names sized => exact absurd (fun _ => sized) unreadable
      | failed _ bad err => exact .inl ⟨bad, pools, err, rfl⟩
      | crash _ short => exact .inr ⟨short, rfl⟩
  | cons first texts ih =>
      have rest : ∀ line ∈ texts, Readable line := fun other mem => readable other (.tail _ mem)
      have becomes := decodeLine_case first
      rw [List.cons_append, decodeLines]
      generalize decodeLine first = result at becomes
      cases becomes with
      | skip => exact ih rest pools
      | pool _ _ pool => exact ih rest (pools ++ [pool])
      | failed bad => exact absurd (readable first (.head _)) bad
      | crash bad => exact absurd (readable first (.head _)) bad

/-- The first line of the output that is scanned and cannot be read has a bad size; if all
can be read, the lines that are not scanned are not about pools. -/
def WholeListing (raw : Bytes) : Prop :=
  match (scanLines raw).find? fun line => decide (¬ Readable line) with
  | some line => hasBadSize (items line) = true
  | none => ∀ line ∈ unscannedLines raw, ¬ NamesPool line

/-- The agent survives a listing, and without an error each line about a pool has
contributed that pool, exactly if the listing is whole. -/
theorem listing_survives_iff (raw : Bytes) :
    (decodeListOutput raw ≠ .crash ∧ ∀ pools, decodeListOutput raw = .pools pools →
      pools.map ListedPool.name = (((lines raw).map dropCR).filter fun line =>
        decide (NamesPool line)).map firstField) ↔ WholeListing raw := by
  unfold WholeListing decodeListOutput
  rw [← scanLines_append_unscannedLines]
  split
  · rename_i line found
    obtain ⟨isFirst, before, after, scanned, earlier⟩ := List.find?_eq_some_iff_append.mp found
    have unreadable : ¬ Readable line := of_decide_eq_true isFirst
    have readable : ∀ other ∈ before, Readable other := by
      intro other mem
      simpa using earlier other mem
    rw [scanned]
    rcases decodeLines_of_unreadable readable unreadable [] with ⟨bad, more, err, decoded⟩ |
      ⟨short, decoded⟩
    · rw [decoded, bad]
      simp
    · rw [decoded, short]
      simp
  · rename_i none
    have readable : ∀ line ∈ scanLines raw, Readable line := by
      intro line mem
      simpa using List.find?_eq_none.mp none line mem
    obtain ⟨more, decoded, named⟩ := decodeLines_of_readable readable []
    rw [decoded, List.filter_append, List.map_append, ← named]
    simp [List.filter_eq_nil_iff]

/-- A blank line after the pools. -/
theorem blank_line_crashes :
    decodeListOutput (bytesOf "p\t1\t2\t3\n\n") = .crash := by
  decide +kernel

end Output

/-! ## The output of `zfs` -/

section Listings

variable {name guid text front back : Bytes} {byte : UInt8} {listed : Listed}
  {datasets : List Listed}

/-- A name without white space. -/
def NoSpace (name : Bytes) : Prop :=
  ∀ space ∈ spaces, ¬ space <:+: name

instance (name : Bytes) : Decidable (NoSpace name) :=
  inferInstanceAs (Decidable (∀ space ∈ spaces, _))

theorem NoSpace.noTab (noSpace : NoSpace name) : tab ∉ name :=
  fun mem => noSpace [tab] (by decide) ((List.singleton_infix_iff ..).mpr mem)

/-- A dataset that may be listed. -/
def Listable (listed : Listed) : Prop :=
  NoSpace listed.name ∧ listed.name.length ≤ 255 ∧ IsDigits listed.guid ∧
    match listed with
    | .pool name _ available used =>
        slash ∉ name ∧ (0 ≤ available ∧ IsInt64 available) ∧ 0 ≤ used ∧ IsInt64 used
    | .child name _ available used => slash ∈ name ∧ tab ∉ available ∧ tab ∉ used

/-- A dataset with a name whose columns make up one line that a scanner returns. -/
structure OnOneLine (listed : Listed) : Prop where
  named : listed.name ≠ []
  whole : newline ∉ listed.line
  short : listed.line.length < maxScanTokenSize

theorem line_eq (listed : Listed) :
    listed.line = listed.name ++ tab :: (listed.guid ++ tab :: (listed.sizes.1 ++
      tab :: listed.sizes.2)) := by
  simp [Listed.line, List.intercalate]

/-- A space with a tab is the tab. -/
theorem space_of_tab {space : Bytes} (isSpace : space ∈ spaces) (mem : tab ∈ space) :
    space = [tab] := by
  revert space
  decide

theorem notMem_spaces_of_digit (lower : 48 ≤ byte) (upper : byte ≤ 57) :
    ∀ space ∈ spaces, byte ∉ space := by
  have apart : ∀ space ∈ spaces, ∀ other ∈ space, other < 48 ∨ 57 < other := by
    decide +kernel
  intro space isSpace mem
  rcases apart space isSpace byte mem with below | above
  · exact absurd below (UInt8.not_lt.mpr lower)
  · exact absurd above (UInt8.not_lt.mpr upper)

/-- A line that starts with a name starts with no space. -/
theorem no_space_before_name (named : name ≠ []) (noSpace : NoSpace name) (rest : Bytes) :
    ∀ space ∈ spaces, ¬ space <+: name ++ tab :: rest := by
  intro space isSpace isPrefix
  apply noSpace space isSpace
  by_cases hasTab : tab ∈ space
  · obtain rfl := space_of_tab isSpace hasTab
    obtain ⟨first, name, rfl⟩ := List.exists_cons_of_ne_nil named
    obtain ⟨rfl, _⟩ := List.cons_prefix_cons.mp isPrefix
    exact ⟨[], name, rfl⟩
  · exact (prefix_of_notMem isPrefix hasTab).isInfix

/-- Trimming a line keeps what stands before a digit. -/
theorem trimSpaceBytes_keeps (none : ∀ space ∈ spaces, ¬ space <+: front ++ byte :: back)
    (lower : 48 ≤ byte) (upper : byte ≤ 57) :
    ∃ rest, trimSpaceBytes (front ++ byte :: back) = front ++ byte :: rest := by
  have notMem : ∀ unit ∈ spaces.map List.reverse, byte ∉ unit := by
    intro unit mem
    obtain ⟨space, isSpace, rfl⟩ := List.mem_map.mp mem
    rw [List.mem_reverse]
    exact notMem_spaces_of_digit lower upper space isSpace
  obtain ⟨rest, trimmed⟩ := trimStart_append notMem back.reverse front.reverse
  refine ⟨rest.reverse, ?_⟩
  rw [trimSpaceBytes, trimStart_of_no_unit none, List.reverse_append, List.reverse_cons,
    List.append_assoc, List.singleton_append, trimmed, List.reverse_append, List.reverse_cons,
    List.reverse_reverse, List.append_assoc, List.singleton_append]

/-- Nothing is trimmed from a line that ends with a digit. -/
theorem trimSpaceBytes_concat (none : ∀ space ∈ spaces, ¬ space <+: front ++ [byte])
    (lower : 48 ≤ byte) (upper : byte ≤ 57) :
    trimSpaceBytes (front ++ [byte]) = front ++ [byte] := by
  have atEnd : ∀ unit ∈ spaces.map List.reverse, ¬ unit <+: byte :: front.reverse := by
    intro unit mem isPrefix
    obtain ⟨space, isSpace, rfl⟩ := List.mem_map.mp mem
    have notMem := notMem_spaces_of_digit lower upper space isSpace
    rw [← List.nil_append (byte :: _)] at isPrefix
    have empty := List.prefix_nil.mp (prefix_of_notMem isPrefix (by rwa [List.mem_reverse]))
    have nonempty : ∀ space ∈ spaces, space.reverse ≠ [] := by decide
    exact nonempty space isSpace empty
  rw [trimSpaceBytes, trimStart_of_no_unit none, List.reverse_concat, trimStart_of_no_unit atEnd]
  simp

theorem exists_last_digit (digits : IsDigits text) :
    ∃ front byte, text = front ++ [byte] ∧ 48 ≤ byte ∧ byte ≤ 57 := by
  obtain ⟨nonempty, isDigit⟩ := digits
  refine ⟨text.dropLast, text.getLast nonempty, ?_, ?_⟩
  · exact (List.dropLast_concat_getLast nonempty).symm
  · exact isDigit _ (List.getLast_mem nonempty)

theorem notMem_of_isDigits (digits : IsDigits text) {other : UInt8} (apart : other < 48) :
    other ∉ text :=
  fun mem => absurd apart (UInt8.not_lt.mpr (digits.2 other mem).1)

/-- A dataset below a pool is skipped. -/
theorem decodeLine_child {available used : Bytes} (named : name ≠ []) (noSpace : NoSpace name)
    (below : slash ∈ name) (digits : IsDigits guid) :
    decodeLine (dropCR (Listed.child name guid available used).line) = .skip := by
  obtain ⟨front, byte, rfl, lower, upper⟩ := exists_last_digit digits
  have isNot : byte ≠ carriageReturn := by
    rintro rfl
    exact absurd lower (by decide)
  have lineEq : (Listed.child name (front ++ [byte]) available used).line =
      (name ++ tab :: front) ++ byte :: (tab :: (available ++ tab :: used)) := by
    simp [line_eq, Listed.name, Listed.guid, Listed.sizes]
  obtain ⟨back, dropped⟩ := dropCR_append isNot (name ++ tab :: front)
    (tab :: (available ++ tab :: used))
  have none : ∀ space ∈ spaces, ¬ space <+: (name ++ tab :: front) ++ byte :: back := by
    rw [List.append_assoc, List.cons_append]
    exact no_space_before_name named noSpace _
  obtain ⟨rest, trimmed⟩ := trimSpaceBytes_keeps none lower upper
  rw [lineEq, dropped, decodeLine, items, trimmed, List.append_assoc, List.cons_append,
    List.splitOn_append_cons_self_of_not_mem noSpace.noTab]
  exact if_pos below

/-- A pool is read. -/
theorem decodeLine_pool {available used : Int} (named : name ≠ []) (noSpace : NoSpace name)
    (isPool : slash ∉ name) (digits : IsDigits guid) (free : 0 ≤ available ∧ IsInt64 available)
    (taken : 0 ≤ used ∧ IsInt64 used) :
    decodeLine (dropCR (Listed.pool name guid available used).line) =
      .pool ⟨name, guid, available, used⟩ := by
  have fields : (Listed.pool name guid available used).line.splitOn tab =
      [name, guid, bytesOf (formatInt available), bytesOf (formatInt used)] := by
    apply List.splitOn_intercalate
    · intro field mem
      have apart : tab < 48 := by decide
      simp only [Listed.name, Listed.guid, Listed.sizes, List.mem_cons, List.not_mem_nil,
        or_false] at mem
      rcases mem with rfl | rfl | rfl | rfl
      · exact noSpace.noTab
      · exact notMem_of_isDigits digits apart
      · exact notMem_of_isDigits (isDigits_formatInt free.1) apart
      · exact notMem_of_isDigits (isDigits_formatInt taken.1) apart
    · simp
  obtain ⟨front, byte, usedEq, lower, upper⟩ := exists_last_digit (isDigits_formatInt taken.1)
  have isNot : byte ≠ carriageReturn := by
    rintro rfl
    exact absurd lower (by decide)
  have lineEq : (Listed.pool name guid available used).line =
      (name ++ tab :: (guid ++ tab :: (bytesOf (formatInt available) ++ tab :: front))) ++
        [byte] := by
    simp [line_eq, Listed.name, Listed.guid, Listed.sizes, usedEq]
  have kept : dropCR (Listed.pool name guid available used).line =
      (Listed.pool name guid available used).line := by
    rw [lineEq, dropCR_concat isNot]
  have trimmed : trimSpaceBytes (Listed.pool name guid available used).line =
      (Listed.pool name guid available used).line := by
    rw [lineEq, trimSpaceBytes_concat _ lower upper]
    rw [List.append_assoc, List.cons_append]
    exact no_space_before_name named noSpace _
  rw [kept, decodeLine, items, trimmed, fields]
  dsimp only
  rw [if_neg isPool, decodePool, parseIntBytes_formatInt free.1 free.2]
  dsimp only
  rw [parseIntBytes_formatInt taken.1 taken.2]

theorem decodeLine_listed (listable : Listable listed) (named : listed.name ≠ []) :
    decodeLine (dropCR listed.line) =
      match listed.asPool with
      | none => .skip
      | some pool => .pool pool := by
  obtain ⟨noSpace, _, digits, columns⟩ := listable
  cases listed with
  | pool name guid available used =>
      exact decodeLine_pool named noSpace columns.1 digits columns.2.1 columns.2.2
  | child name guid available used => exact decodeLine_child named noSpace columns.1 digits

theorem decodeLines_listed (listable : ∀ listed ∈ datasets, Listable listed)
    (named : ∀ listed ∈ datasets, listed.name ≠ []) (pools : List ListedPool) :
    decodeLines pools (datasets.map fun listed => dropCR listed.line) =
      .pools (pools ++ datasets.filterMap Listed.asPool) := by
  induction datasets generalizing pools with
  | nil => simp [decodeLines]
  | cons listed datasets ih =>
      have rest := ih (fun other mem => listable other (.tail _ mem))
        fun other mem => named other (.tail _ mem)
      rw [List.map_cons, decodeLines,
        decodeLine_listed (listable listed (.head _)) (named listed (.head _))]
      cases read : listed.asPool with
      | none => simp [rest, read]
      | some pool => simp [rest, read]

theorem lines_render (whole : ∀ listed ∈ datasets, newline ∉ listed.line) :
    lines (render datasets) = datasets.map Listed.line := by
  have written : render datasets =
      (datasets.map Listed.line).flatMap fun line => line ++ [newline] := by
    rw [render, List.flatMap_map]
  rw [written]
  apply lines_written
  intro line mem
  obtain ⟨listed, isListed, rfl⟩ := List.mem_map.mp mem
  exact whole listed isListed

/-- The pools of a listing are read back in their order, with their values. -/
theorem listing_read_back (listable : ∀ listed ∈ datasets, Listable listed)
    (onOneLine : ∀ listed ∈ datasets, OnOneLine listed) :
    decodeListOutput (render datasets) = .pools (datasets.filterMap Listed.asPool) := by
  have linesEq := lines_render fun listed mem => (onOneLine listed mem).whole
  have scanned : scanLines (render datasets) = datasets.map fun listed => dropCR listed.line := by
    rw [scanLines, linesEq, List.takeWhile_eq_self_iff.mpr, List.map_map]
    · rfl
    · intro line mem
      obtain ⟨listed, isListed, rfl⟩ := List.mem_map.mp mem
      exact decide_eq_true (onOneLine listed isListed).short
  rw [decodeListOutput, scanned,
    decodeLines_listed listable (fun listed mem => (onOneLine listed mem).named) [],
    List.nil_append]

/-- A pool and a volume in it. -/
def smallListing : List Listed :=
  [.pool (bytesOf "p") (bytesOf "17") 5 0,
    .child (bytesOf "p/v") (bytesOf "18") (bytesOf "-") (bytesOf "none ")]

theorem listing_read_back_small :
    (∀ listed ∈ smallListing, Listable listed ∧ OnOneLine listed) ∧
      decodeListOutput (render smallListing) =
        .pools [⟨bytesOf "p", bytesOf "17", 5, 0⟩] := by
  have holds : ∀ listed ∈ smallListing, Listable listed ∧ OnOneLine listed := by
    intro listed mem
    simp only [smallListing, List.mem_cons, List.not_mem_nil, or_false] at mem
    rcases mem with rfl | rfl
    · exact ⟨⟨by decide +kernel, by decide +kernel, by decide +kernel, by decide +kernel,
        ⟨by decide, by decide⟩, by decide, by decide⟩,
        ⟨by decide +kernel, by decide +kernel, by decide +kernel⟩⟩
    · exact ⟨⟨by decide +kernel, by decide +kernel, by decide +kernel, by decide +kernel,
        by decide +kernel, by decide +kernel⟩,
        ⟨by decide +kernel, by decide +kernel, by decide +kernel⟩⟩
  exact ⟨holds, listing_read_back (fun listed mem => (holds listed mem).1)
    fun listed mem => (holds listed mem).2⟩

/-- A volume with a wide column. -/
def wideVolume (width : Nat) : Listed :=
  .child (bytesOf "p/v") (bytesOf "18") (List.replicate width 45) (bytesOf "-")

/-- The volume before a pool. -/
def wideListing (width : Nat) : List Listed :=
  [wideVolume width, .pool (bytesOf "q") (bytesOf "17") 5 0]

theorem listable_wideListing (width : Nat) : ∀ listed ∈ wideListing width, Listable listed := by
  intro listed mem
  simp only [wideListing, List.mem_cons, List.not_mem_nil, or_false] at mem
  rcases mem with rfl | rfl
  · have name : NoSpace (bytesOf "p/v") ∧ (bytesOf "p/v").length ≤ 255 := by decide +kernel
    have guid : IsDigits (bytesOf "18") := by decide +kernel
    exact ⟨name.1, name.2, guid, by decide +kernel, by simp [tab], by decide +kernel⟩
  · exact ⟨by decide +kernel, by decide +kernel, by decide +kernel, by decide +kernel,
      ⟨by decide, by decide⟩, by decide, by decide⟩

/-- A line that fills the buffer ends the scan. -/
theorem scanLines_wideListing {width : Nat} (wide : maxScanTokenSize ≤ width) :
    scanLines (render (wideListing width)) = [] := by
  have whole : ∀ listed ∈ wideListing width, newline ∉ listed.line := by
    intro listed mem
    simp only [wideListing, List.mem_cons, List.not_mem_nil, or_false] at mem
    rcases mem with rfl | rfl
    · simp [line_eq, wideVolume, Listed.name, Listed.guid, Listed.sizes, newline, tab, bytesOf]
    · decide +kernel
  have long : maxScanTokenSize ≤ (wideVolume width).line.length := by
    simp only [line_eq, wideVolume, Listed.sizes, List.length_append, List.length_cons,
      List.length_replicate]
    omega
  rw [scanLines, lines_render whole, wideListing, List.map_cons, List.takeWhile_cons_of_neg]
  · rfl
  · simpa using long

/-- A volume with a newline in a column. -/
def brokenVolume : Listed :=
  .child (bytesOf "p/v") (bytesOf "18") [newline] (bytesOf "-")

/-- A pool without a name. -/
def unnamedPool : Listed :=
  .pool [] (bytesOf "17") 5 0

/-- A wide column, a column with a newline and a dataset without a name each spoil the
listing. -/
theorem listing_not_read_back :
    ((∀ listed ∈ wideListing maxScanTokenSize, Listable listed) ∧
      decodeListOutput (render (wideListing maxScanTokenSize)) = .pools [] ∧
      (wideListing maxScanTokenSize).filterMap Listed.asPool =
        [⟨bytesOf "q", bytesOf "17", 5, 0⟩]) ∧
    (Listable brokenVolume ∧ decodeListOutput (render [brokenVolume]) = .crash) ∧
    (Listable unnamedPool ∧ decodeListOutput (render [unnamedPool]) = .crash) := by
  refine ⟨⟨listable_wideListing _, ?_, rfl⟩, ⟨?_, by decide +kernel⟩, ?_, by decide +kernel⟩
  · rw [decodeListOutput, scanLines_wideListing (Nat.le_refl _), decodeLines]
  · exact ⟨by decide +kernel, by decide +kernel, by decide +kernel, by decide +kernel,
      by decide +kernel, by decide +kernel⟩
  · exact ⟨by decide +kernel, by decide +kernel, by decide +kernel, by decide +kernel,
      ⟨by decide, by decide⟩, by decide, by decide⟩

end Listings

end ZfsLocalPv.Properties

import Mathlib.Data.List.Basic
import Mathlib.Logic.Function.Iterate
import ZfsLocalPv.Go.Strings

/-!
# Byte strings

A Go string is a sequence of bytes that need not be text. The functions here are the ones that
meet the output of a command before anything is known about it: trimming, splitting, the line
scanner of `bufio` and the integer parser of `strconv`.
-/

namespace ZfsLocalPv.Go

abbrev Bytes := List UInt8

/-- The bytes of an ASCII text. -/
def bytesOf (text : String) : Bytes :=
  text.toList.map fun char => char.toNat.toUInt8

def newline : UInt8 := 10

def carriageReturn : UInt8 := 13

def tab : UInt8 := 9

def slash : UInt8 := 47

/-! ## Trimming -/

section Trim

variable {α : Type} [DecidableEq α] {units : List (List α)} {text front back : List α} {item : α}

/-- Drop a unit at the start. -/
def dropUnit (units : List (List α)) (text : List α) : List α :=
  match units.find? fun unit => unit.isPrefixOf text with
  | none => text
  | some unit => text.drop unit.length

/-- Drop units at the start as long as there are any. A unit has an item, so the length
of the text is enough. -/
def trimStart (units : List (List α)) (text : List α) : List α :=
  (dropUnit units)^[text.length] text

theorem trimStart_of_no_unit (none : ∀ unit ∈ units, ¬ unit <+: text) :
    trimStart units text = text := by
  apply Function.iterate_fixed
  have absent : units.find? (fun unit => unit.isPrefixOf text) = .none := by
    apply List.find?_eq_none.mpr
    intro unit mem isPrefix
    exact none unit mem (List.isPrefixOf_iff_prefix.mp isPrefix)
  rw [dropUnit, absent]

omit [DecidableEq α] in
/-- A unit without an item ends before it. -/
theorem prefix_of_notMem {unit : List α} (isPrefix : unit <+: front ++ item :: back)
    (notMem : item ∉ unit) : unit <+: front := by
  induction front generalizing unit with
  | nil =>
      cases unit with
      | nil => exact List.nil_prefix
      | cons first unit =>
          obtain ⟨rfl, _⟩ := List.cons_prefix_cons.mp isPrefix
          exact absurd (.head _) notMem
  | cons first front ih =>
      cases unit with
      | nil => exact List.nil_prefix
      | cons other unit =>
          obtain ⟨rfl, rest⟩ := List.cons_prefix_cons.mp isPrefix
          exact List.cons_prefix_cons.mpr ⟨rfl, ih rest fun mem => notMem (.tail _ mem)⟩

/-- Trimming stops at an item that no unit has. -/
theorem dropUnit_append (notMem : ∀ unit ∈ units, item ∉ unit) (front back : List α) :
    ∃ rest, dropUnit units (front ++ item :: back) = rest ++ item :: back := by
  unfold dropUnit
  split
  · exact ⟨front, rfl⟩
  · rename_i unit found
    have isPrefix : unit <+: front ++ item :: back := by
      simpa using List.find?_some found
    have short := prefix_of_notMem isPrefix (notMem unit (List.mem_of_find?_eq_some found))
    exact ⟨front.drop unit.length, List.drop_append_of_le_length short.length_le⟩

theorem trimStart_append (notMem : ∀ unit ∈ units, item ∉ unit) (front back : List α) :
    ∃ rest, trimStart units (front ++ item :: back) = rest ++ item :: back := by
  unfold trimStart
  generalize (front ++ item :: back).length = count
  induction count generalizing front with
  | zero => exact ⟨front, rfl⟩
  | succ count ih =>
      obtain ⟨rest, dropped⟩ := dropUnit_append notMem front back
      rw [Function.iterate_succ_apply, dropped]
      exact ih rest

end Trim

/-- The UTF-8 encodings of the characters of `unicode.IsSpace`. -/
def spaces : List Bytes :=
  [[0x09], [0x0A], [0x0B], [0x0C], [0x0D], [0x20], [0xC2, 0x85], [0xC2, 0xA0],
    [0xE1, 0x9A, 0x80], [0xE2, 0x80, 0x80], [0xE2, 0x80, 0x81], [0xE2, 0x80, 0x82],
    [0xE2, 0x80, 0x83], [0xE2, 0x80, 0x84], [0xE2, 0x80, 0x85], [0xE2, 0x80, 0x86],
    [0xE2, 0x80, 0x87], [0xE2, 0x80, 0x88], [0xE2, 0x80, 0x89], [0xE2, 0x80, 0x8A],
    [0xE2, 0x80, 0xA8], [0xE2, 0x80, 0xA9], [0xE2, 0x80, 0xAF], [0xE2, 0x81, 0x9F],
    [0xE3, 0x80, 0x80]]

/-- `strings.TrimSpace`. Bytes that encode no character are no space. -/
def trimSpaceBytes (text : Bytes) : Bytes :=
  (trimStart (spaces.map List.reverse) (trimStart spaces text).reverse).reverse

/-! ## Lines -/

/-- The texts between newlines; after the last newline only if something is there. -/
def lines (text : Bytes) : List Bytes :=
  let pieces := text.splitOn newline
  if pieces.getLast? = some [] then pieces.dropLast else pieces

/-- `dropCR`. -/
def dropCR (line : Bytes) : Bytes :=
  if line.getLast? = some carriageReturn then line.dropLast else line

/-- `bufio.MaxScanTokenSize`. -/
def maxScanTokenSize : Nat :=
  64 * 1024

/-- The lines that a `bufio.Scanner` returns. A line that fills the buffer ends the scan. -/
def scanLines (text : Bytes) : List Bytes :=
  ((lines text).takeWhile fun line => decide (line.length < maxScanTokenSize)).map dropCR

/-- The lines from the one that ends the scan on. -/
def unscannedLines (text : Bytes) : List Bytes :=
  ((lines text).dropWhile fun line => decide (line.length < maxScanTokenSize)).map dropCR

theorem scanLines_append_unscannedLines (text : Bytes) :
    scanLines text ++ unscannedLines text = (lines text).map dropCR := by
  rw [scanLines, unscannedLines, ← List.map_append, List.takeWhile_append_dropWhile]

/-- Lines that are written with their newlines are read back. -/
theorem lines_written {texts : List Bytes} (whole : ∀ line ∈ texts, newline ∉ line) :
    lines (texts.flatMap fun line => line ++ [newline]) = texts := by
  have pieces : (texts.flatMap fun line => line ++ [newline]).splitOn newline = texts ++ [[]] := by
    induction texts with
    | nil => rfl
    | cons line texts ih =>
        rw [List.flatMap_cons, List.append_assoc, List.singleton_append,
          List.splitOn_append_cons_self_of_not_mem (whole line (.head _)),
          ih fun other mem => whole other (.tail _ mem)]
        rfl
  rw [lines, pieces, List.getLast?_concat, List.dropLast_concat]
  exact if_pos rfl

theorem dropCR_append {byte : UInt8} (isNot : byte ≠ carriageReturn) (front back : Bytes) :
    ∃ rest, dropCR (front ++ byte :: back) = front ++ byte :: rest := by
  unfold dropCR
  split
  · rename_i last
    cases back with
    | nil =>
        rw [List.getLast?_concat] at last
        exact absurd (Option.some.inj last) isNot
    | cons first back =>
        refine ⟨(first :: back).dropLast, ?_⟩
        rw [List.dropLast_append_of_ne_nil (by simp), List.dropLast_cons_of_ne_nil (by simp)]
  · exact ⟨back, rfl⟩

theorem dropCR_concat {byte : UInt8} (isNot : byte ≠ carriageReturn) (front : Bytes) :
    dropCR (front ++ [byte]) = front ++ [byte] := by
  unfold dropCR
  rw [List.getLast?_concat, if_neg]
  exact fun isCR => isNot (Option.some.inj isCR)

/-! ## Integers -/

inductive NumReason
  | invalidSyntax
  | valueOutOfRange
  deriving DecidableEq

/-- `strconv.NumError` of `ParseInt`. -/
structure NumError where
  num : Bytes
  reason : NumReason
  deriving DecidableEq

/-- `strconv.ParseInt` in base ten with 64 bits. -/
def parseIntBytes (text : Bytes) : Except NumError Int :=
  match parseSigned (text.map fun byte => Char.ofNat byte.toNat) with
  | none => .error ⟨text, .invalidSyntax⟩
  | some value =>
      if IsInt64 value then .ok value else .error ⟨text, .valueOutOfRange⟩

/-- The digits of ASCII. -/
def IsDigits (text : Bytes) : Prop :=
  text ≠ [] ∧ ∀ byte ∈ text, 48 ≤ byte ∧ byte ≤ 57

instance (text : Bytes) : Decidable (IsDigits text) :=
  inferInstanceAs (Decidable (_ ∧ _))

theorem formatInt_of_nonneg {value : Int} (nonneg : 0 ≤ value) :
    (formatInt value).toList = Nat.toDigits 10 value.toNat := by
  rw [formatInt, Int.toString_eq_repr, Int.repr_eq_if, if_pos nonneg, Nat.toList_repr]

/-- A digit is one byte. -/
theorem toNat_of_isDigit {char : Char} (isDigit : char.isDigit = true) :
    char.toNat.toUInt8.toNat = char.toNat ∧ 48 ≤ char.toNat ∧ char.toNat ≤ 57 := by
  simp only [Char.isDigit, Bool.and_eq_true, decide_eq_true_eq] at isDigit
  have lower : 48 ≤ char.toNat := isDigit.1
  have upper : char.toNat ≤ 57 := isDigit.2
  refine ⟨?_, lower, upper⟩
  rw [UInt8.toNat_ofNat']
  omega

theorem isDigits_formatInt {value : Int} (nonneg : 0 ≤ value) :
    IsDigits (bytesOf (formatInt value)) := by
  unfold bytesOf
  rw [formatInt_of_nonneg nonneg]
  constructor
  · simp
  · intro byte mem
    obtain ⟨char, digit, rfl⟩ := List.mem_map.mp mem
    have isDigit := Nat.isDigit_of_mem_toDigits (by decide) (by decide) digit
    obtain ⟨same, lower, upper⟩ := toNat_of_isDigit isDigit
    rw [UInt8.le_iff_toNat_le, UInt8.le_iff_toNat_le, same]
    exact ⟨lower, upper⟩

/-- Reading the bytes of a printed integer gives it back. -/
theorem parseIntBytes_formatInt {value : Int} (nonneg : 0 ≤ value) (inRange : IsInt64 value) :
    parseIntBytes (bytesOf (formatInt value)) = .ok value := by
  have chars : (bytesOf (formatInt value)).map (fun byte => Char.ofNat byte.toNat) =
      (formatInt value).toList := by
    unfold bytesOf
    rw [List.map_map, formatInt_of_nonneg nonneg]
    nth_rewrite 2 [← List.map_id (Nat.toDigits 10 value.toNat)]
    apply List.map_congr_left
    intro char digit
    have isDigit := Nat.isDigit_of_mem_toDigits (by decide) (by decide) digit
    rw [Function.comp_apply, (toNat_of_isDigit isDigit).1, Char.ofNat_toNat, id_eq]
  rw [parseIntBytes, chars, parseSigned_formatInt]
  exact if_pos inRange

end ZfsLocalPv.Go

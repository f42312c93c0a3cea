import Mathlib.Data.Int.Init
import Mathlib.Data.List.TakeWhile
import Mathlib.Tactic.NormNum
import ZfsLocalPv.Go.Unicode

/-!
# Strings, integers and maps of the Go library

The few functions of `strings` and `strconv` the driver uses, 64-bit wrap-around, and maps from
strings to strings. A map is an association list in an arbitrary order; quantifying over lists
covers every iteration order of the Go map.
-/

namespace ZfsLocalPv.Go

/-- `strings.ToLower`. -/
def toLower (text : String) : String :=
  String.ofList (text.toList.map lowerRune)

theorem toLower_ne_empty {text : String} (given : text ≠ "") : toLower text ≠ "" := by
  intro empty
  apply given
  have chars := congrArg String.toList empty
  simp only [toLower, String.toList_ofList] at chars
  exact String.toList_eq_nil_iff.mp (List.map_eq_nil_iff.mp chars)

/-- The pieces of a list of characters between separators. -/
def splitChars (separator : Char) : List Char → List (List Char)
  | [] => [[]]
  | char :: chars =>
      if char = separator then
        [] :: splitChars separator chars
      else
        match splitChars separator chars with
        | [] => [[char]]
        | piece :: pieces => (char :: piece) :: pieces

/-- `strings.Split` at a one-character separator. -/
def split (separator : Char) (text : String) : List String :=
  (splitChars separator text.toList).map String.ofList

/-- `strings.Cut`: the text before the first separator and the text after it. -/
def cut (separator : Char) (text : String) : Option (String × String) :=
  match text.toList.dropWhile fun char => decide (char ≠ separator) with
  | [] => none
  | _ :: after =>
      some (String.ofList (text.toList.takeWhile fun char => decide (char ≠ separator)),
        String.ofList after)

/-- `unicode.IsSpace`. -/
def isSpace (char : Char) : Bool :=
  let code := char.toNat
  decide ((9 ≤ code ∧ code ≤ 13) ∨ code = 0x20 ∨ code = 0x85 ∨ code = 0xA0 ∨ code = 0x1680 ∨
    (0x2000 ≤ code ∧ code ≤ 0x200A) ∨ code = 0x2028 ∨ code = 0x2029 ∨ code = 0x202F ∨
    code = 0x205F ∨ code = 0x3000)

/-- A text of white space. -/
def Blank (text : String) : Prop :=
  ∀ char ∈ text.toList, isSpace char = true

instance (text : String) : Decidable (Blank text) :=
  inferInstanceAs (Decidable (∀ char ∈ text.toList, _))

/-- The words between white space. -/
def wordChars : List Char → List (List Char)
  | [] => []
  | char :: chars =>
      if isSpace char then
        wordChars chars
      else
        match chars, wordChars chars with
        | next :: _, word :: words =>
            if isSpace next then [char] :: word :: words else (char :: word) :: words
        | _, words => [char] :: words

/-- `strings.Fields`. -/
def fields (text : String) : List String :=
  (wordChars text.toList).map String.ofList

/-- `strings.TrimSpace`. -/
def trimSpace (text : String) : String :=
  String.ofList ((text.toList.dropWhile isSpace).reverse.dropWhile isSpace).reverse

theorem wordChars_eq_nil_iff {chars : List Char} :
    wordChars chars = [] ↔ ∀ char ∈ chars, isSpace char = true := by
  induction chars with
  | nil => simp [wordChars]
  | cons char chars ih =>
      unfold wordChars
      rw [List.forall_mem_cons]
      split
      · rename_i space
        rw [ih]
        exact ⟨fun rest => ⟨space, rest⟩, fun all => all.2⟩
      · rename_i noSpace
        constructor
        · intro none
          split at none
          · split at none <;> contradiction
          · contradiction
        · exact fun all => absurd all.1 noSpace

theorem fields_eq_nil_iff {text : String} : fields text = [] ↔ Blank text := by
  rw [fields, List.map_eq_nil_iff]
  exact wordChars_eq_nil_iff

theorem trimSpace_eq_empty_iff {text : String} : trimSpace text = "" ↔ Blank text := by
  rw [trimSpace, String.ofList_eq_empty_iff, List.reverse_eq_nil_iff, List.dropWhile_eq_nil_iff]
  constructor
  · intro spaces
    by_contra text'
    have some : text.toList.dropWhile isSpace ≠ [] := by
      rwa [ne_eq, List.dropWhile_eq_nil_iff]
    have first := List.head_dropWhile_not isSpace some
    rw [spaces _ (List.mem_reverse.mpr (List.head_mem some))] at first
    contradiction
  · intro blank char mem
    rw [List.mem_reverse] at mem
    exact blank char (List.dropWhile_sublist _ |>.mem mem)

/-- `strings.HasPrefix`. -/
def startsWith (text start : String) : Bool :=
  start.toList.isPrefixOf text.toList

/-- Whether a list of characters occurs in another. -/
def occursIn (part : List Char) : List Char → Bool
  | [] => part.isEmpty
  | char :: chars => part.isPrefixOf (char :: chars) || occursIn part chars

/-- `strings.Contains`. -/
def contains (text part : String) : Bool :=
  occursIn part.toList text.toList

/-- The verb `%q`, for strings that need no escape. -/
def quote (text : String) : String :=
  "\"" ++ text ++ "\""

/-- The verb `%v` of a list of strings. -/
def formatList (texts : List String) : String :=
  "[" ++ String.intercalate " " texts ++ "]"

/-! ## Integers -/

/-- The value of a 64-bit register after an operation with an exact result. -/
def wrap64 (value : Int) : Int :=
  Int.bmod value (2 ^ 64)

/-- `math.MaxInt64`. -/
def maxInt64 : Int :=
  2 ^ 63 - 1

/-- The values of an `int64`. -/
def IsInt64 (value : Int) : Prop :=
  -2 ^ 63 ≤ value ∧ value < 2 ^ 63

instance (value : Int) : Decidable (IsInt64 value) :=
  inferInstanceAs (Decidable (_ ∧ _))

theorem wrap64_of_isInt64 {value : Int} (inRange : IsInt64 value) : wrap64 value = value := by
  unfold IsInt64 at inRange
  exact Int.bmod_eq_of_le (by omega) (by omega)

theorem isInt64_wrap64 (value : Int) : IsInt64 (wrap64 value) := by
  have lower := Int.le_bmod (x := value) (m := 2 ^ 64) (by decide)
  have upper := Int.bmod_lt (x := value) (m := 2 ^ 64) (by decide)
  unfold IsInt64 wrap64
  omega

/-- An intermediate wrap does not matter. -/
theorem wrap64_wrap64_sub (value amount : Int) :
    wrap64 (wrap64 value - amount) = wrap64 (value - amount) :=
  Int.bmod_sub_bmod

/-- `strconv.FormatInt` in base ten. -/
def formatInt (value : Int) : String :=
  toString value

/-- Read a nonempty list of digits. -/
def parseDigits (digits : List Char) : Option Nat :=
  if digits ≠ [] ∧ digits.all Char.isDigit then
    some (Nat.ofDigitChars 10 digits 0)
  else
    none

/-- An optional sign and digits. -/
def parseSigned : List Char → Option Int
  | '-' :: digits => (parseDigits digits).map fun value : Nat => -Int.ofNat value
  | '+' :: digits => (parseDigits digits).map fun value : Nat => Int.ofNat value
  | digits => (parseDigits digits).map fun value : Nat => Int.ofNat value

/-- `strconv.ParseInt` in base ten with 64 bits. -/
def parseInt (text : String) : Except String Int :=
  match parseSigned text.toList with
  | none => .error ("strconv.ParseInt: parsing " ++ quote text ++ ": invalid syntax")
  | some value =>
      if IsInt64 value then
        .ok value
      else
        .error ("strconv.ParseInt: parsing " ++ quote text ++ ": value out of range")

theorem parseDigits_toDigits (value : Nat) :
    parseDigits (Nat.toDigits 10 value) = some value := by
  have nonempty : Nat.toDigits 10 value ≠ [] := Nat.toDigits_ne_nil
  have digits : (Nat.toDigits 10 value).all Char.isDigit = true := by
    apply List.all_eq_true.mpr
    intro char mem
    exact Nat.isDigit_of_mem_toDigits (by decide) (by decide) mem
  have read : Nat.ofDigitChars 10 (Nat.toDigits 10 value) 0 = value :=
    Nat.ofDigitChars_toDigits (by decide) (by decide)
  rw [parseDigits, if_pos ⟨nonempty, digits⟩, read]

/-- A digit is not a sign. -/
theorem parseSigned_toDigits (value : Nat) :
    parseSigned (Nat.toDigits 10 value) = some (value : Int) := by
  have read := parseDigits_toDigits value
  unfold parseSigned
  split
  · rename_i digits digitsEq
    have isDigit : Char.isDigit '-' = true := by
      apply @Nat.isDigit_of_mem_toDigits 10 value _ (by decide) (by decide)
      rw [digitsEq]
      exact .head _
    contradiction
  · rename_i digits digitsEq
    have isDigit : Char.isDigit '+' = true := by
      apply @Nat.isDigit_of_mem_toDigits 10 value _ (by decide) (by decide)
      rw [digitsEq]
      exact .head _
    contradiction
  · rw [read]
    rfl

theorem parseSigned_formatInt (value : Int) :
    parseSigned (formatInt value).toList = some value := by
  rw [formatInt, Int.toString_eq_repr, Int.repr_eq_if]
  by_cases nonneg : 0 ≤ value
  · rw [if_pos nonneg, Nat.toList_repr, parseSigned_toDigits, Int.toNat_of_nonneg nonneg]
  · have sign : ("-" ++ (-value).toNat.repr).toList = '-' :: Nat.toDigits 10 (-value).toNat := by
      rw [String.toList_append, Nat.toList_repr]
      rfl
    have magnitude : -((-value).toNat : Int) = value := by omega
    rw [if_neg nonneg, sign, parseSigned, parseDigits_toDigits, Option.map_some]
    exact congrArg some magnitude

/-- Reading a printed integer gives it back. -/
theorem parseInt_formatInt {value : Int} (inRange : IsInt64 value) :
    parseInt (formatInt value) = .ok value := by
  rw [parseInt, parseSigned_formatInt]
  exact if_pos inRange

/-! ## Maps -/

/-- A Go map from strings to strings. -/
abbrev StringMap := List (String × String)

namespace StringMap

/-- Assign a key. -/
def insert (key value : String) : StringMap → StringMap
  | [] => [(key, value)]
  | (other, old) :: rest =>
      if other = key then (key, value) :: rest else (other, old) :: insert key value rest

/-- Read a key; a missing key reads as the empty string. -/
def get (map : StringMap) (key : String) : String :=
  (map.lookup key).getD ""

/-- Whether a key is present. -/
def has (map : StringMap) (key : String) : Bool :=
  (map.lookup key).isSome

/-- A key has one entry, as in a Go map. -/
def HasUniqueKeys (map : StringMap) : Prop :=
  (map.map Prod.fst).Nodup

/-- Assign every key of another map. -/
def merge (map : StringMap) (other : StringMap) : StringMap :=
  other.foldl (fun map entry => insert entry.1 entry.2 map) map

@[simp]
theorem lookup_insert_self (key value : String) (map : StringMap) :
    (insert key value map).lookup key = some value := by
  induction map with
  | nil => simp [insert]
  | cons entry map ih =>
      obtain ⟨other, old⟩ := entry
      rw [insert]
      split
      · simp
      · rename_i differs
        have unequal : (key == other) = false := beq_false_of_ne (Ne.symm differs)
        rw [List.lookup_cons, unequal]
        exact ih

theorem lookup_insert_of_ne {key other : String} (differs : other ≠ key) (value : String)
    (map : StringMap) : (insert key value map).lookup other = map.lookup other := by
  induction map with
  | nil => simp [insert, differs]
  | cons entry map ih =>
      obtain ⟨present, old⟩ := entry
      rw [insert]
      split
      · rename_i same
        subst same
        have unequal : (other == present) = false := beq_false_of_ne differs
        rw [List.lookup_cons, List.lookup_cons, unequal]
      · rw [List.lookup_cons, List.lookup_cons, ih]

theorem lookup_merge_single_of_ne {key other : String} (differs : other ≠ key) (value : String)
    (map : StringMap) : (merge map [(key, value)]).lookup other = map.lookup other :=
  lookup_insert_of_ne differs value map

/-- A key that is not assigned keeps its value. -/
theorem lookup_merge_of_notMem {key : String} {map other : StringMap}
    (unassigned : ∀ entry ∈ other, entry.1 ≠ key) :
    (merge map other).lookup key = map.lookup key := by
  induction other generalizing map with
  | nil => rfl
  | cons entry other ih =>
      change (merge (insert entry.1 entry.2 map) other).lookup key = map.lookup key
      rw [ih fun later mem => unassigned later (.tail _ mem)]
      exact lookup_insert_of_ne (unassigned entry (.head _)).symm _ _

/-- A key that every assignment gives the same value has that value. -/
theorem lookup_merge_of_agree {key value : String} {map other : StringMap}
    (agree : ∀ entry ∈ other, entry.1 = key → entry.2 = value)
    (assigned : map.lookup key = some value ∨ ∃ entry ∈ other, entry.1 = key) :
    (merge map other).lookup key = some value := by
  induction other generalizing map with
  | nil => simpa [merge] using assigned
  | cons entry other ih =>
      change (merge (insert entry.1 entry.2 map) other).lookup key = some value
      apply ih fun later mem => agree later (.tail _ mem)
      by_cases same : entry.1 = key
      · left
        rw [same, agree entry (.head _) same, lookup_insert_self]
      · rcases assigned with before | ⟨later, mem, isKey⟩
        · left
          rw [lookup_insert_of_ne (Ne.symm same), before]
        · rcases List.mem_cons.mp mem with rfl | mem
          · exact absurd isKey same
          · exact .inr ⟨later, mem, isKey⟩

/-- The entries are what the map reads. -/
theorem mem_iff_lookup {key value : String} {map : StringMap} (unique : HasUniqueKeys map) :
    (key, value) ∈ map ↔ map.lookup key = some value := by
  induction map with
  | nil => simp
  | cons entry map ih =>
      obtain ⟨other, given⟩ := entry
      obtain ⟨fresh, unique⟩ := List.nodup_cons.mp unique
      by_cases same : key = other
      · subst same
        have absent : (key, value) ∉ map := fun mem =>
          fresh (List.mem_map.mpr ⟨_, mem, rfl⟩)
        simp [absent, eq_comm]
      · have unequal : (key == other) = false := beq_false_of_ne same
        simp [List.lookup_cons, unequal, same, ih unique]

end StringMap

end ZfsLocalPv.Go

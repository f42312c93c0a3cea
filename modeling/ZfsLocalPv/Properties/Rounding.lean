import Mathlib.Order.Bounds.Basic
import ZfsLocalPv.Arithmetic.RoundUp
import ZfsLocalPv.Driver.Csi

/-!
# Rounded capacities

`getRoundedCapacity` rounds up on a grid with two units that meet at 1Gi. The addition before the
division is made in 64 bits. It leaves the range for sizes within 1Gi of its end, for which the
grid has no capacity left, and the result is then negative. Every other size is rounded to the
next capacity of the grid.
-/

namespace ZfsLocalPv.Properties

open Driver Go Arithmetic

/-- The positive multiples of 1Mi up to 1Gi and the multiples of 1Gi from 2Gi on. -/
def OnGrid (capacity : Int) : Prop :=
  (Mi ∣ capacity ∧ 0 < capacity ∧ capacity ≤ Gi) ∨ (Gi ∣ capacity ∧ 2 * Gi ≤ capacity)

/-- A size is rounded to the next capacity of the grid, with what follows from it. -/
structure RoundedSoundly (size : Int) : Prop where
  least : IsLeast {capacity | OnGrid capacity ∧ size ≤ capacity} (getRoundedCapacity size)
  positive : 0 < getRoundedCapacity size
  multiple : Mi ∣ getRoundedCapacity size
  enough : size ≤ getRoundedCapacity size
  idempotent : getRoundedCapacity (getRoundedCapacity size) = getRoundedCapacity size
  monotone : ∀ smaller, 1 ≤ smaller → smaller ≤ size →
    getRoundedCapacity smaller ≤ getRoundedCapacity size

/-! ## 64 bits -/

/-- The unit a size is rounded to. -/
def unitFor (size : Int) : Int :=
  if size > Gi then Gi else Mi

theorem unitFor_pos (size : Int) : 0 < unitFor size := by
  unfold unitFor
  split <;> decide

theorem unitFor_dvd_Gi (size : Int) : unitFor size ∣ Gi := by
  unfold unitFor
  split <;> decide

theorem unitFor_le_Gi (size : Int) : unitFor size ≤ Gi :=
  Int.le_of_dvd (by decide) (unitFor_dvd_Gi size)

/-- Both branches are the same expression in their unit. -/
theorem getRoundedCapacity_eq (size : Int) :
    getRoundedCapacity size =
      wrap64 ((wrap64 (size + unitFor size - 1)).tdiv (unitFor size) * unitFor size) := by
  unfold getRoundedCapacity unitFor
  split <;> rw [wrap64_wrap64_sub]

variable {size : Int}

/-- Below the last 1Gi of the range nothing overflows. -/
theorem getRoundedCapacity_eq_roundUp (positive : 1 ≤ size) (bounded : size ≤ 2 ^ 63 - Gi) :
    getRoundedCapacity size = roundUp (unitFor size) size := by
  have unitPos := unitFor_pos size
  have unitLe := unitFor_le_Gi size
  have sumInRange : IsInt64 (size + unitFor size - 1) := by
    unfold IsInt64
    omega
  have above : size ≤ roundUp (unitFor size) size := le_roundUp unitPos
  have below : roundUp (unitFor size) size ≤ 2 ^ 63 - Gi := by
    apply roundUp_le unitPos _ bounded
    exact Int.dvd_trans (unitFor_dvd_Gi size) (by decide)
  have resultInRange : IsInt64 (roundUp (unitFor size) size) := by
    have giPos : 0 < Gi := by decide
    unfold IsInt64
    omega
  rw [getRoundedCapacity_eq, wrap64_of_isInt64 sumInRange, tdiv_mul_eq_roundUp unitPos positive,
    wrap64_of_isInt64 resultInRange]

/-- In the last 1Gi of the range the sum wraps around to a negative number. -/
theorem getRoundedCapacity_neg (inRange : IsInt64 size) (beyond : 2 ^ 63 - Gi < size) :
    getRoundedCapacity size < 0 := by
  have inGi : unitFor size = Gi := if_pos (Int.lt_trans (by decide) beyond)
  obtain ⟨missing, sumEq⟩ : ∃ missing, size + Gi - 1 = -missing + (2 ^ 64 : Nat) :=
    ⟨2 ^ 64 - (size + Gi - 1), by omega⟩
  have bounds : Gi ≤ missing ∧ missing ≤ 2 ^ 63 := by
    simp only [IsInt64, Gi] at inRange beyond sumEq ⊢
    omega
  have pos : 0 < missing := Int.lt_of_lt_of_le (by decide) bounds.1
  have wrapped : wrap64 (size + Gi - 1) = -missing := by
    have negated : IsInt64 (-missing) := by
      unfold IsInt64
      omega
    rw [sumEq]
    exact (Int.add_bmod_right _ _).trans (wrap64_of_isInt64 negated)
  have units : 1 ≤ missing / Gi := by
    rw [Int.le_ediv_iff_mul_le (by decide), Int.one_mul]
    exact bounds.1
  have whole : 0 < missing / Gi * Gi ∧ missing / Gi * Gi ≤ missing :=
    ⟨Int.mul_pos units (by decide),
      Int.ediv_mul_le missing (by decide)⟩
  have resultInRange : IsInt64 (-(missing / Gi * Gi)) := by
    unfold IsInt64
    omega
  rw [getRoundedCapacity_eq, inGi, wrapped, Int.neg_tdiv, Int.tdiv_eq_ediv_of_nonneg pos.le,
    Int.neg_mul, wrap64_of_isInt64 resultInRange]
  omega

/-- A request is never rounded to nothing. -/
theorem getRoundedCapacity_ne_zero (inRange : IsInt64 size) (positive : 1 ≤ size) :
    getRoundedCapacity size ≠ 0 := by
  by_cases bounded : size ≤ 2 ^ 63 - Gi
  · have enough : size ≤ roundUp (unitFor size) size := le_roundUp (unitFor_pos size)
    rw [getRoundedCapacity_eq_roundUp positive bounded]
    omega
  · exact (getRoundedCapacity_neg inRange (Int.not_le.mp bounded)).ne

/-! ## The grid -/

theorem mi_dvd_of_onGrid {capacity : Int} (onGrid : OnGrid capacity) : Mi ∣ capacity := by
  rcases onGrid with ⟨multiple, _⟩ | ⟨multiple, _⟩
  · exact multiple
  · exact Int.dvd_trans (by decide) multiple

/-- Rounding up in the unit of the size leads to the grid. -/
theorem onGrid_roundUp (positive : 1 ≤ size) : OnGrid (roundUp (unitFor size) size) := by
  have above : size ≤ roundUp (unitFor size) size := le_roundUp (unitFor_pos size)
  have multiple := dvd_roundUp (unitFor size) size
  by_cases large : size > Gi
  · rw [unitFor, if_pos large] at above multiple ⊢
    -- the next multiple of 1Gi above 1Gi is 2Gi
    refine .inr ⟨multiple, ?_⟩
    obtain ⟨count, countEq⟩ := multiple
    rw [countEq] at above ⊢
    simp only [Gi] at above large ⊢
    omega
  · rw [unitFor, if_neg large] at above multiple ⊢
    have below : roundUp Mi size ≤ Gi :=
      roundUp_le (by decide) (by decide) (Int.not_lt.mp large)
    exact .inl ⟨multiple, by omega, below⟩

/-- No capacity of the grid lies between a size and its rounding. -/
theorem roundUp_le_of_onGrid {capacity : Int} (onGrid : OnGrid capacity) (above : size ≤ capacity) :
    roundUp (unitFor size) size ≤ capacity := by
  apply roundUp_le (unitFor_pos size) _ above
  unfold unitFor
  split
  · rename_i large
    rcases onGrid with ⟨_, _, small⟩ | ⟨multiple, _⟩
    · omega
    · exact multiple
  · exact mi_dvd_of_onGrid onGrid

theorem isLeast_getRoundedCapacity (positive : 1 ≤ size) (bounded : size ≤ 2 ^ 63 - Gi) :
    IsLeast {capacity | OnGrid capacity ∧ size ≤ capacity} (getRoundedCapacity size) := by
  rw [getRoundedCapacity_eq_roundUp positive bounded]
  exact ⟨⟨onGrid_roundUp positive, le_roundUp (unitFor_pos size)⟩,
    fun capacity mem => roundUp_le_of_onGrid mem.1 mem.2⟩

/-- The last capacity of the grid within the range. -/
theorem getRoundedCapacity_le (positive : 1 ≤ size) (bounded : size ≤ 2 ^ 63 - Gi) :
    getRoundedCapacity size ≤ 2 ^ 63 - Gi :=
  (isLeast_getRoundedCapacity positive bounded).2 ⟨.inr (by decide), bounded⟩

/-- A capacity of the grid is not changed any more. -/
theorem getRoundedCapacity_of_onGrid (onGrid : OnGrid size) (bounded : size ≤ 2 ^ 63 - Gi) :
    getRoundedCapacity size = size := by
  have positive : 1 ≤ size := by
    have giPos : 0 < Gi := by decide
    rcases onGrid with ⟨_, small, _⟩ | ⟨_, large⟩ <;> omega
  exact (isLeast_getRoundedCapacity positive bounded).unique ⟨⟨onGrid, le_rfl⟩, fun _ mem => mem.2⟩

/-- A size is rounded as it should be if and only if it is not within the last 1Gi of
the 64-bit range. -/
theorem rounding_sound_iff (inRange : IsInt64 size) (positive : 1 ≤ size) :
    RoundedSoundly size ↔ size ≤ 2 ^ 63 - Gi := by
  constructor
  · intro sound
    by_contra beyond
    have negative := getRoundedCapacity_neg inRange (Int.not_le.mp beyond)
    have positive := sound.positive
    omega
  · intro bounded
    have least := isLeast_getRoundedCapacity positive bounded
    obtain ⟨onGrid, enough⟩ := least.1
    exact {
      least := least
      positive := Int.lt_of_lt_of_le (by omega) enough
      multiple := mi_dvd_of_onGrid onGrid
      enough := enough
      idempotent := getRoundedCapacity_of_onGrid onGrid (getRoundedCapacity_le positive bounded)
      monotone := fun smaller smallerPos smallerLe =>
        (isLeast_getRoundedCapacity smallerPos (smallerLe.trans bounded)).2
          ⟨onGrid, smallerLe.trans enough⟩ }

theorem rounding_sound_iff_threeGi :
    IsInt64 (3 * Gi - 1) ∧ 1 ≤ 3 * Gi - 1 ∧
      (RoundedSoundly (3 * Gi - 1) ↔ 3 * Gi - 1 ≤ 2 ^ 63 - Gi) :=
  ⟨by decide, by decide, rounding_sound_iff (by decide) (by decide)⟩

/-- The largest request is answered with a negative capacity. -/
theorem rounding_overflows :
    IsInt64 maxInt64 ∧ 1 ≤ maxInt64 ∧ getRoundedCapacity maxInt64 = -2 ^ 63 + Gi ∧
      ¬ RoundedSoundly maxInt64 := by
  have rounded : getRoundedCapacity maxInt64 = -2 ^ 63 + Gi := by decide
  refine ⟨by decide, by decide, rounded, fun sound => ?_⟩
  have positive := sound.positive
  rw [rounded] at positive
  contradiction

end ZfsLocalPv.Properties

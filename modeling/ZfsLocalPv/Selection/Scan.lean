import Mathlib.Data.List.MinMax

/-!
# Loops that keep the best item

A loop over a list that remembers the name and the weight of the best item so far. A blank name
stands for no item. If no item has the blank name the loop finds the first item of the best
weight, which the library calls `argmax` or `argmin`.
-/

namespace ZfsLocalPv.Selection

variable {α ν ω : Type}

/-- One round of the loop: the item replaces a blank, or a name of worse weight. -/
def keepBest [DecidableEq ν] (blank : ν) (name : α → ν) (weight : α → ω) (better : ω → ω → Prop)
    [DecidableRel better] (best : ν × ω) (item : α) : ν × ω :=
  if best.1 = blank ∨ better (weight item) best.2 then (name item, weight item) else best

/-- What the loop remembers of an item. -/
def record (blank : ν) (zero : ω) (name : α → ν) (weight : α → ω) : Option α → ν × ω
  | none => (blank, zero)
  | some item => (name item, weight item)

variable {blank : ν} {zero : ω} {name : α → ν} {weight : α → ω}

/-- The name the loop ends with is blank only if there is no item. -/
theorem record_eq_blank_iff {best : Option α} (named : ∀ item ∈ best, name item ≠ blank) :
    (record blank zero name weight best).1 = blank ↔ best = none := by
  cases best with
  | none => simp [record]
  | some item => simpa [record] using named item rfl

variable [DecidableEq ν]

theorem keepBest_record {better : ω → ω → Prop} [DecidableRel better] {best : Option α}
    (named : ∀ item ∈ best, name item ≠ blank) (item : α) :
    keepBest blank name weight better (record blank zero name weight best) item =
      record blank zero name weight
        (List.argAux (fun item best => better (weight item) (weight best)) best item) := by
  cases best with
  | none => simp [keepBest, record, List.argAux]
  | some old =>
      have known : name old ≠ blank := named old rfl
      by_cases improves : better (weight item) (weight old)
      · simp [keepBest, record, List.argAux, improves]
      · simp [keepBest, record, List.argAux, improves, known]

theorem foldl_keepBest {better : ω → ω → Prop} [DecidableRel better] {items : List α}
    (named : ∀ item ∈ items, name item ≠ blank) {best : Option α}
    (bestNamed : ∀ item ∈ best, name item ≠ blank) :
    items.foldl (keepBest blank name weight better) (record blank zero name weight best) =
      record blank zero name weight
        (items.foldl (List.argAux fun item best => better (weight item) (weight best)) best) := by
  induction items generalizing best with
  | nil => rfl
  | cons item items ih =>
      rw [List.foldl_cons, List.foldl_cons, keepBest_record bestNamed]
      apply ih fun item mem => named item (.tail _ mem)
      intro chosen isChosen
      cases best with
      | none =>
          cases isChosen
          exact named item (.head _)
      | some old =>
          simp only [List.argAux] at isChosen
          split at isChosen
          · cases isChosen
            exact named item (.head _)
          · exact bestNamed chosen isChosen

variable [LinearOrder ω] {items : List α}

/-- Keeping the larger weight finds the first maximum. -/
theorem foldl_keepBest_gt (named : ∀ item ∈ items, name item ≠ blank) :
    items.foldl (keepBest blank name weight (· > ·)) (blank, zero) =
      record blank zero name weight (items.argmax weight) := by
  have unset : ∀ item ∈ (none : Option α), name item ≠ blank := fun _ mem => nomatch mem
  exact foldl_keepBest named unset

/-- Keeping the smaller weight finds the first minimum. -/
theorem foldl_keepBest_lt (named : ∀ item ∈ items, name item ≠ blank) :
    items.foldl (keepBest blank name weight (· < ·)) (blank, zero) =
      record blank zero name weight (items.argmin weight) := by
  have unset : ∀ item ∈ (none : Option α), name item ≠ blank := fun _ mem => nomatch mem
  exact foldl_keepBest named unset

/-- Turning the weights around exchanges minima and maxima. -/
theorem argmin_eq_argmax {ω' : Type} [LinearOrder ω'] {flipped : α → ω'}
    (flips : ∀ one ∈ items, ∀ two ∈ items, flipped one < flipped two ↔ weight two < weight one) :
    items.argmin flipped = items.argmax weight := by
  induction items with
  | nil => rfl
  | cons item items ih =>
      have rest : items.argmin flipped = items.argmax weight :=
        ih fun one first two second => flips one (.tail _ first) two (.tail _ second)
      rw [List.argmin_cons, List.argmax_cons, rest]
      cases chosen : items.argmax weight with
      | none => rfl
      | some best =>
          have mem : best ∈ items := List.argmax_mem chosen
          simp only [flips best (.tail _ mem) item (.head _)]

end ZfsLocalPv.Selection

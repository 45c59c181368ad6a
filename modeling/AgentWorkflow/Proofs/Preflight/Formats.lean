import AgentWorkflow.Preflight.Deployment
import AgentWorkflow.Proofs.Text.Points
import Mathlib.Algebra.Order.Field.Basic
import Mathlib.Data.Rat.Cast.Order

/-!
# The forms of settings

A project id and a region are of a form that is checked by walking through the text; here each form
is told by the parts that a text of it has. A temperature is checked by its units; here it is told
by its value.

Results:
1. `isProjectId_iff`, `isRegion_iff`: the checks accept exactly the texts made of those parts.
2. `Binary64.isWithin_iff`: a number is within bounds exactly when it has a value, and that is.
-/

namespace AgentWorkflow

/-! ## Temperatures -/

/-- The number of units that make one. -/
def Magnitude.unitsOfOne : Nat := Nat.pow 2 1074

def Magnitude.value (x : Magnitude) : ℚ := x.units / unitsOfOne

/-- The value of a number, none if it is infinite or undefined. -/
def Binary64.value? : Binary64 → Option ℚ
  | .finite negative x => some (if negative then -x.value else x.value)
  | _ => none

namespace Magnitude

variable {x : Magnitude} {n : Nat}

theorem value_nonneg : 0 ≤ x.value :=
  div_nonneg (Nat.cast_nonneg x.units) (Nat.cast_nonneg unitsOfOne)

theorem unitsOfOne_pos : (0 : ℚ) < unitsOfOne := by
  have scale : ∀ e, 0 < Nat.pow 2 e := Nat.two_pow_pos
  have units : 0 < unitsOfOne := scale 1074
  exact Nat.cast_pos.mpr units

theorem value_eq_zero : x.value = 0 ↔ x.mantissa = 0 := by
  have units : x.units = 0 ↔ x.mantissa = 0 := by simp [units]
  rw [value, div_eq_zero_iff, or_iff_left unitsOfOne_pos.ne', Nat.cast_eq_zero, units]

theorem atMost_iff : x.atMost n ↔ x.value ≤ n := by
  have counted : x.atMost n ↔ x.units ≤ n * unitsOfOne := decide_eq_true_iff
  rw [value, div_le_iff₀ unitsOfOne_pos, counted, ← Nat.cast_mul, Nat.cast_le]

end Magnitude

/-- The comparison on magnitudes, in terms of the rational value. Neither infinity nor NaN has
one, and both fail the comparison. -/
theorem Binary64.isWithin_iff {x : Binary64} {n : Nat} :
    x.isWithin n ↔ ∃ q, x.value? = some q ∧ 0 ≤ q ∧ q ≤ n := by
  cases x with
  | nan => simp [isWithin, value?]
  | infinite negative => simp [isWithin, value?]
  | finite negative m =>
    cases negative with
    | false => simp [isWithin, value?, Magnitude.atMost_iff, Magnitude.value_nonneg]
    | true =>
      -- a number from zero that is negative is the zero with that sign
      have zero : 0 ≤ -m.value ↔ m.mantissa = 0 := by
        rw [neg_nonneg, ← Magnitude.value_eq_zero]
        exact ⟨fun h => le_antisymm h Magnitude.value_nonneg, fun h => h.le⟩
      have small : m.mantissa = 0 → m.atMost n ∧ -m.value ≤ n := by
        intro h
        rw [Magnitude.atMost_iff, Magnitude.value_eq_zero.mpr h]
        simp
      simp only [isWithin, value?, Bool.not_true, Bool.false_or, Bool.and_eq_true,
        decide_eq_true_eq, if_true, Option.some.injEq, exists_eq_left', zero]
      exact and_congr_right fun h => iff_of_true (small h).1 (small h).2

namespace Preflight

variable {t : Text}

/-! ## Project ids -/

/-- A small letter, then four to twenty-eight small letters, digits and hyphens, then a small letter
or a digit. -/
def HasProjectForm (t : Text) : Prop :=
  ∃ (first : CodePoint) (middle : Text) (last : CodePoint),
    t = first :: (middle ++ [last]) ∧ first.isLower ∧ (4 ≤ middle.length ∧ middle.length ≤ 28) ∧
    (∀ c ∈ middle, c.isLower ∨ c.isDigit ∨ c = '-') ∧ (last.isLower ∨ last.isDigit)

/-- The check by points and length accepts the documented form and nothing else. -/
theorem isProjectId_iff : isProjectId t ↔ HasProjectForm t := by
  have ending : ∀ (first : CodePoint) (middle : Text) (last : CodePoint),
      (first :: (middle ++ [last])).getLast? = some last := fun first middle last =>
    List.getLast?_concat (l := first :: middle)
  constructor
  · intro h
    simp only [isProjectId, Bool.and_eq_true, decide_eq_true_eq, List.all_eq_true,
      Bool.or_eq_true] at h
    obtain ⟨⟨⟨⟨low, high⟩, points⟩, head⟩, final⟩ := h
    obtain ⟨first, rest, rfl⟩ := List.exists_cons_of_length_pos (l := t) (by omega)
    have filled : rest ≠ [] := by
      rintro rfl
      simp at low
    obtain ⟨middle, last, rfl⟩ := rest.eq_nil_or_concat.resolve_left filled
    rw [List.concat_eq_append] at low high points final ⊢
    simp only [List.length_cons, List.length_append, List.length_nil] at low high
    refine ⟨first, middle, last, rfl, by simpa using head, ⟨by omega, by omega⟩, ?_,
      by simpa [ending] using final⟩
    intro c hc
    have point := points c (by simp [hc])
    rwa [or_assoc] at point
  · rintro ⟨first, middle, last, rfl, lower, ⟨low, high⟩, points, final⟩
    have all : ∀ c ∈ first :: (middle ++ [last]),
        (c.isLower ∨ c.isDigit) ∨ c = ('-' : CodePoint) := by
      simp only [List.forall_mem_cons, List.forall_mem_append, or_assoc]
      exact ⟨.inl lower, points, final.imp_right .inl, List.forall_mem_nil _⟩
    simp only [isProjectId, Bool.and_eq_true, decide_eq_true_eq, List.all_eq_true, Bool.or_eq_true,
      List.length_cons, List.length_append, List.length_nil]
    exact ⟨⟨⟨⟨by omega, by omega⟩, all⟩, by simpa using lower⟩, by simpa [ending] using final⟩

/-! ## Regions -/

/-- Small letters, a hyphen, small letters and digits, at least one of each. -/
def HasRegionForm (t : Text) : Prop :=
  ∃ area place number, t = area ++ ('-' : CodePoint) :: (place ++ number) ∧
    (area ≠ [] ∧ ∀ c ∈ area, c.isLower) ∧ (place ≠ [] ∧ ∀ c ∈ place, c.isLower) ∧
    (number ≠ [] ∧ ∀ c ∈ number, c.isDigit)

theorem not_isLower_of_isDigit {c : CodePoint} (h : c.isDigit) : c.isLower = false := by
  simp only [CodePoint.isDigit, CodePoint.isLower, Bool.and_eq_true, decide_eq_true_eq,
    Bool.and_eq_false_iff, decide_eq_false_iff_not] at *
  omega

/-- The check walks through the region once; the form is about its three parts. -/
theorem isRegion_iff : isRegion t ↔ HasRegionForm t := by
  constructor
  · intro h
    have whole := List.takeWhile_append_dropWhile (p := CodePoint.isLower) (l := t)
    simp only [isRegion] at h
    split at h
    · next c rest behind =>
      simp only [Bool.and_eq_true, Bool.not_eq_true', List.isEmpty_eq_false_iff, decide_eq_true_eq,
        List.all_eq_true] at h
      obtain ⟨⟨⟨⟨area, rfl⟩, place⟩, number⟩, digits⟩ := h
      refine ⟨_, _, _, ?_, ⟨area, List.all_eq_true.mp List.all_takeWhile⟩,
        ⟨place, List.all_eq_true.mp List.all_takeWhile⟩, ⟨number, digits⟩⟩
      rw [List.takeWhile_append_dropWhile, ← behind, whole]
    · contradiction
  · rintro ⟨area, place, number, rfl, ⟨someArea, areaLower⟩, ⟨somePlace, placeLower⟩,
      ⟨someNumber, digits⟩⟩
    -- the hyphen ends the first letters, and a digit the letters behind it
    have hyphen : ∀ c ∈ (('-' : CodePoint) :: (place ++ number)).head?, c.isLower = false := by
      rintro c ⟨⟩
      decide
    have digit : ∀ c ∈ number.head?, c.isLower = false := fun c hc =>
      not_isLower_of_isDigit (digits c (List.mem_of_mem_head? hc))
    obtain ⟨before, behind⟩ := Text.span_append areaLower hyphen
    obtain ⟨letters, rest⟩ := Text.span_append placeLower digit
    simp only [isRegion, before, behind, letters, rest]
    simpa [someArea, somePlace, someNumber] using digits

end Preflight

end AgentWorkflow

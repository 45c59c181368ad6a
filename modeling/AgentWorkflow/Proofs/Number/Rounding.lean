import AgentWorkflow.Number.Binary64
import Mathlib.Data.Nat.Log
import Mathlib.Tactic.Ring
import Mathlib.Tactic.Linarith

/-!
# The integers that have a floating-point number

An integer has a nearest floating-point number as long as it lies below the point halfway between
the largest finite magnitude, `2 ^ 1024 - 2 ^ 971`, and the next power of two. From halfway on
rounding leaves the format.

Results:
1. `roundDiv_le_iff_of_odd`: where rounding passes an odd quotient.
2. `Binary64.isSome_ofInt?`: which integers have a floating-point number.
-/

namespace AgentWorkflow

theorem div_le_roundDiv (n d : Nat) : n / d ≤ roundDiv n d := by
  simp only [roundDiv]
  split
  · exact le_refl _
  · split <;> omega

theorem roundDiv_le_div_succ (n d : Nat) : roundDiv n d ≤ n / d + 1 := by
  simp only [roundDiv]
  split
  · omega
  · split <;> omega

/-- A tie goes to the even neighbour, so halfway above an odd quotient is already past it. -/
theorem roundDiv_le_iff_of_odd {n d q : Nat} (hd : 0 < d) (hq : q % 2 = 1) :
    roundDiv n d ≤ q ↔ 2 * n < (2 * q + 1) * d := by
  have cut : d * (n / d) + n % d = n := Nat.div_add_mod n d
  have small : n % d < d := Nat.mod_lt n hd
  rcases Nat.lt_trichotomy (n / d) q with below | here | above
  · have step : d * (n / d + 1) ≤ d * q := Nat.mul_le_mul_left d below
    exact iff_of_true ((roundDiv_le_div_succ n d).trans below) (by linarith)
  · have rounded : roundDiv n d ≤ q ↔ 2 * (n % d) < d := by
      simp only [roundDiv, here]
      split
      · omega
      · split <;> omega
    rw [rounded, ← here]
    constructor <;> intro h <;> linarith
  · have step : d * (q + 1) ≤ d * (n / d) := Nat.mul_le_mul_left d above
    have whole : d * (n / d) ≤ n := Nat.mul_div_le n d
    have past := div_le_roundDiv n d
    exact iff_of_false (by omega) (by linarith)

namespace Magnitude

theorem isSome_make? {m e : Nat} : (make? m e).isSome ↔
    m < 0x20000000000000 ∧ e ≤ 2045 ∧ (e = 0 ∨ 0x10000000000000 ≤ m) := by
  unfold make?
  split <;> simp_all

/-- A number of `53 + k` bits keeps 53 of them, up to the carry of rounding. -/
theorem roundDiv_bounds {s e k : Nat} (hs : 2 ^ e ≤ s) (hs' : s < 2 ^ (e + 1)) (he : e = k + 52) :
    2 ^ 52 ≤ roundDiv s (2 ^ k) ∧ roundDiv s (2 ^ k) ≤ 2 ^ 53 := by
  subst he
  have pos : 0 < 2 ^ k := Nat.two_pow_pos k
  have low : 2 ^ 52 ≤ s / 2 ^ k := by
    rw [Nat.le_div_iff_mul_le pos, ← Nat.pow_add, Nat.add_comm]
    exact hs
  have high : s / 2 ^ k < 2 ^ 53 := by
    rw [Nat.div_lt_iff_lt_mul pos, ← Nat.pow_add, Nat.add_comm]
    exact hs'
  exact ⟨low.trans (div_le_roundDiv _ _), (roundDiv_le_div_succ _ _).trans high⟩

/-- An integer on a finer scale has as many bits more. -/
theorem scaled_bounds {n : Nat} (hn : n ≠ 0) (a : Nat) :
    2 ^ (n.log2 + a) ≤ n * Nat.pow 2 a ∧ n * Nat.pow 2 a < 2 ^ (n.log2 + a + 1) := by
  obtain ⟨low, high⟩ := (Nat.log2_eq_iff hn).mp (rfl : n.log2 = n.log2)
  rw [Nat.add_right_comm, Nat.pow_add, Nat.pow_add]
  exact ⟨Nat.mul_le_mul_right _ low, Nat.mul_lt_mul_of_pos_right high (Nat.two_pow_pos a)⟩

theorem log2_mul_pow {n : Nat} (hn : n ≠ 0) (a : Nat) :
    (n * Nat.pow 2 a).log2 = n.log2 + a :=
  (Nat.log2_eq_iff (Nat.mul_ne_zero hn (Nat.two_pow_pos a).ne')).mpr (scaled_bounds hn a)

theorem halfway_iff (n a b c : Nat) :
    2 * (n * Nat.pow 2 a) < c * 2 ^ (b + (a + 1)) ↔ n < c * Nat.pow 2 b := by
  have left : 2 * (n * 2 ^ a) = n * 2 ^ (a + 1) := by ring
  have right : c * 2 ^ (b + (a + 1)) = c * 2 ^ b * 2 ^ (a + 1) := by ring
  rw [Nat.pow_eq, Nat.pow_eq, left, right, Nat.mul_lt_mul_right (Nat.two_pow_pos _)]

/-- The mantissa and the exponent of an integer, before a carry. -/
theorem ofRatio?_one {n : Nat} (hn : n ≠ 0) :
    ofRatio? n 1 =
      if roundDiv (n * Nat.pow 2 1074) (2 ^ (n.log2 + 1022)) = 2 ^ 53 then
        make? (2 ^ 52) (n.log2 + 1022 + 1)
      else make? (roundDiv (n * Nat.pow 2 1074) (2 ^ (n.log2 + 1022))) (n.log2 + 1022) := by
  have exponent : (n * Nat.pow 2 1074 / 1).log2 + 1 - 53 = n.log2 + 1022 := by
    rw [Nat.div_one, log2_mul_pow hn]
    omega
  simp only [ofRatio?, exponent, Nat.one_mul]
  rfl

/-- What is left of the exponent decides, except where 53 bits reach the largest exponent. -/
theorem isSome_carried {m e : Nat} (low : 2 ^ 52 ≤ m) (high : m ≤ 2 ^ 53) :
    (if m = 2 ^ 53 then make? (2 ^ 52) (e + 1) else make? m e).isSome ↔
      e < 2045 ∨ e = 2045 ∧ m ≤ 2 ^ 53 - 1 := by
  split
  · rw [isSome_make?]
    omega
  · rw [isSome_make?]
    omega

/-- A natural number has a binary64 value up to the point half way between the greatest
finite value and the next power of two; the half way point itself rounds up and is lost. -/
theorem isSome_ofRatio?_one (n : Nat) :
    (ofRatio? n 1).isSome ↔ n < Nat.pow 2 1024 - Nat.pow 2 970 := by
  rcases Nat.eq_zero_or_pos n with rfl | hn
  · exact iff_of_true (by decide +kernel) (by decide +kernel)
  obtain ⟨low, high⟩ := scaled_bounds hn.ne' 1074
  obtain ⟨atLeast, atMost⟩ := roundDiv_bounds low high
    (show n.log2 + 1074 = n.log2 + 1022 + 52 by omega)
  rw [ofRatio?_one hn.ne', isSome_carried atLeast atMost]
  rcases Nat.lt_trichotomy n.log2 1023 with below | here | above
  · have fits : n.log2 + 1022 < 2045 := by omega
    have bound : n < Nat.pow 2 1023 := (Nat.log2_lt hn.ne').mp below
    have room : Nat.pow 2 1023 ≤ Nat.pow 2 1024 - Nat.pow 2 970 := by decide +kernel
    exact iff_of_true (.inl fits) (bound.trans_le room)
  · -- the last odd mantissa, and the point halfway behind it
    have odd : (2 ^ 53 - 1) % 2 = 1 := by decide
    have half := halfway_iff n 1074 970 (2 * (2 ^ 53 - 1) + 1)
    have top : (2 * (2 ^ 53 - 1) + 1) * Nat.pow 2 970 = Nat.pow 2 1024 - Nat.pow 2 970 := by
      decide +kernel
    rw [here, roundDiv_le_iff_of_odd (Nat.two_pow_pos _) odd, ← top, ← half]
    simp
  · have beyond : 2045 < n.log2 + 1022 := by omega
    have bound : Nat.pow 2 1024 ≤ n := (Nat.le_log2 hn.ne').mp above
    refine iff_of_false (by omega) fun h => absurd (h.trans_le (Nat.sub_le _ _)) bound.not_gt

end Magnitude

/-- The integers that have a floating-point number: those below the point halfway between the
largest magnitude and the power of two behind it. -/
theorem Binary64.isSome_ofInt? (n : Int) :
    (Binary64.ofInt? n).isSome ↔ n.natAbs < Nat.pow 2 1024 - Nat.pow 2 970 := by
  rw [Binary64.ofInt?, Option.isSome_map, Magnitude.isSome_ofRatio?_one]

end AgentWorkflow

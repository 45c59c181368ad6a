import AgentWorkflow.Text.Digit

/-!
# Binary floating point

The numbers of the 64-bit binary format, held exactly. A finite magnitude is a whole number of
*units* of `2 ^ -1074`: a mantissa of at most 53 bits times a power of two. Rounding goes to the
nearest magnitude, and from halfway to the even mantissa.
-/

namespace AgentWorkflow

/-- A finite magnitude, `mantissa * 2 ^ exponent` units of `2 ^ -1074`. The mantissa is below
`2 ^ 53`; below `2 ^ 52` the exponent is zero, so a magnitude has one form. -/
structure Magnitude where
  mantissa : Nat
  exponent : Nat
  canonical :
    mantissa < 0x20000000000000 ∧ exponent ≤ 2045 ∧ (exponent = 0 ∨ 0x10000000000000 ≤ mantissa)
deriving DecidableEq

/-- A number of the 64-bit binary format. Zero keeps its sign. -/
inductive Binary64
  | nan
  | infinite (negative : Bool)
  | finite (negative : Bool) (magnitude : Magnitude)
deriving DecidableEq

/-- The quotient rounded to the nearest whole number, from halfway to the even one. -/
def roundDiv (n d : Nat) : Nat :=
  let q := n / d
  let r := n % d
  if 2 * r < d then q else if d < 2 * r then q + 1 else q + q % 2

namespace Magnitude

/-- The number of units of `2 ^ -1074`. -/
def units (x : Magnitude) : Nat := x.mantissa * Nat.pow 2 x.exponent

/-- The magnitude with this mantissa and exponent, if the form is canonical. -/
def make? (mantissa exponent : Nat) : Option Magnitude :=
  if h : mantissa < 0x20000000000000 ∧ exponent ≤ 2045
      ∧ (exponent = 0 ∨ 0x10000000000000 ≤ mantissa) then
    some ⟨mantissa, exponent, h⟩
  else none

def zero : Magnitude := ⟨0, 0, by decide⟩

/-- The magnitude nearest to `num / den`, unless that lies beyond the largest. -/
def ofRatio? (num den : Nat) : Option Magnitude :=
  let scaled := num * Nat.pow 2 1074
  let exponent := (scaled / den).log2 + 1 - 53
  let mantissa := roundDiv scaled (den * Nat.pow 2 exponent)
  if mantissa = 0x20000000000000 then make? 0x10000000000000 (exponent + 1)
  else make? mantissa exponent

/-- Exactly when the value is at most `n`. -/
def atMost (x : Magnitude) (n : Nat) : Bool := x.units ≤ n * Nat.pow 2 1074

end Magnitude

namespace Binary64

/-- True of a number that is neither infinite nor undefined. -/
def isFinite : Binary64 → Bool
  | .finite _ _ => true
  | _ => false

/-- True of either zero. -/
def isZero : Binary64 → Bool
  | .finite _ x => x.mantissa = 0
  | _ => false

/-- True of a finite number from zero, of either sign, up to `n`. -/
def isWithin (x : Binary64) (n : Nat) : Bool :=
  match x with
  | .finite negative m => (!negative || m.mantissa = 0) && m.atMost n
  | _ => false

/-- The number nearest to `± num / den`, infinite beyond the largest. -/
def ofRatio (negative : Bool) (num den : Nat) : Binary64 :=
  match Magnitude.ofRatio? num den with
  | some x => .finite negative x
  | none => .infinite negative

/-- The number nearest to an integer, unless that lies beyond the largest. -/
def ofInt? (n : Int) : Option Binary64 :=
  (Magnitude.ofRatio? n.natAbs 1).map (.finite (n < 0))

/-- The number nearest to `± digits * 10 ^ exponent`. A power of ten out of all proportion is not
worked out: the answer is infinite or zero whatever the digits. -/
def ofDecimal (negative : Bool) (digits : Nat) (exponent : Int) : Binary64 :=
  let size : Int := (Nat.toDigits 10 digits).length
  if digits = 0 then .finite negative .zero
  else if 400 < size + exponent then .infinite negative
  else if size + exponent < -400 then .finite negative .zero
  else if 0 ≤ exponent then ofRatio negative (digits * Nat.pow 10 exponent.toNat) 1
  else ofRatio negative digits (Nat.pow 10 (-exponent).toNat)

end Binary64

example : Binary64.ofDecimal false 5 (-324) = .finite false ⟨1, 0, by decide⟩ := by decide +kernel
example : Binary64.ofDecimal false 1 400 = .infinite false := by decide +kernel
example : (Binary64.ofInt? (Nat.pow 2 1024)).isNone := by decide +kernel

end AgentWorkflow

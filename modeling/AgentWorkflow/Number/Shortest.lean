import AgentWorkflow.Number.Binary64

/-!
# Shortest decimals

The text of a number is the shortest decimal that reads back as that number, and of those the
nearest to it. The digits come first; a layout then decides where the point goes and when an
exponent is written.
-/

namespace AgentWorkflow

/-- A decimal `digits * 10 ^ exponent`. -/
structure Decimal where
  digits : Nat
  exponent : Int
deriving DecidableEq

namespace Magnitude

/-- The decimal `c * 10 ^ k` on the scale of `x`, `4 * 2 ^ 1074` to one: both are multiplied by the
power of ten that makes them whole. -/
def onScale (k : Int) (x c : Nat) : Nat × Nat :=
  if 0 ≤ k then (x, c * Nat.pow 10 k.toNat * Nat.pow 2 1076)
  else (x * Nat.pow 10 (-k).toNat, c * Nat.pow 2 1076)

/-- True when `c * 10 ^ k` reads back as `x`: it lies between the halfway points to the two
neighbours, which themselves go to the even mantissa. -/
def isReadFrom (x : Magnitude) (k : Int) (c : Nat) : Bool :=
  let unit := Nat.pow 2 x.exponent
  let below := if x.mantissa = 0x10000000000000 && 0 < x.exponent then unit else 2 * unit
  let (low, point) := onScale k (4 * x.units - below) c
  let (high, _) := onScale k (4 * x.units + 2 * unit) c
  if x.mantissa % 2 = 0 then low ≤ point && point ≤ high else low < point && point < high

/-- The place of the first digit: `10 ^ (place - 1) ≤ x < 10 ^ place`. -/
def place (x : Magnitude) : Int :=
  if Nat.pow 2 1074 ≤ x.units then (Nat.toDigits 10 (x.units / Nat.pow 2 1074)).length
  else 1 - ((Nat.toDigits 10 (Nat.pow 2 1074 / x.units)).length : Int)

/-- The decimal of `count` digits that reads back as `x` and is nearest to it, a tie going to the
even last digit. -/
def nearest? (x : Magnitude) (count : Nat) : Option Decimal :=
  let k := x.place - count
  let (value, grid) := onScale k (4 * x.units) 1
  let c := value / grid
  let lower := x.isReadFrom k c
  let upper := x.isReadFrom k (c + 1)
  if lower && (!upper || roundDiv value grid = c) then some ⟨c, k⟩
  else if upper then some ⟨c + 1, k⟩
  else none

/-- The shortest decimal that reads back as `x`; seventeen digits always do. -/
def shortest (x : Magnitude) : Decimal :=
  (((List.range 17).map (· + 1)).findSome? x.nearest?).getD ⟨0, 0⟩

end Magnitude

/-- How a decimal is laid out: positionally while the first digit's place is from `least` to
`greatest`, with an exponent of at least `width` digits elsewhere. -/
structure DecimalLayout where
  least : Int
  greatest : Int
  width : Nat

namespace DecimalLayout

/-- Zeros in front up to `width` digits. -/
def pad (width : Nat) (t : Text) : Text := List.replicate (width - t.length) ('0' : CodePoint) ++ t

/-- Digits, the first of which stands at `place`, written with a point. -/
def positional (place : Int) (digits : Text) : Text :=
  if place ≤ 0 then ("0." : Text) ++ List.replicate (-place).toNat ('0' : CodePoint) ++ digits
  else if digits.length ≤ place.toNat then
    digits ++ List.replicate (place.toNat - digits.length) ('0' : CodePoint) ++ ".0"
  else digits.take place.toNat ++ "." ++ digits.drop place.toNat

/-- Digits, the first of which stands at `place`, written with an exponent. -/
def exponential (layout : DecimalLayout) (place : Int) (digits : Text) : Text :=
  let fraction : Text := if digits.length ≤ 1 then [] else ("." : Text) ++ digits.drop 1
  let sign : Text := if place - 1 < 0 then "-" else "+"
  digits.take 1 ++ fraction ++ "e" ++ sign ++ pad layout.width (Text.ofNat (place - 1).natAbs)

def write (layout : DecimalLayout) (d : Decimal) : Text :=
  let all := Text.ofNat d.digits
  let digits := (all.reverse.dropWhile (· = ('0' : CodePoint))).reverse
  let place := d.exponent + all.length
  if digits.isEmpty then "0.0"
  else if layout.least ≤ place && place ≤ layout.greatest then positional place digits
  else layout.exponential place digits

end DecimalLayout

namespace Binary64

/-- Numbers are written positionally from a ten-thousandth up to sixteen places. -/
def layout : DecimalLayout := ⟨-3, 16, 2⟩

def text : Binary64 → Text
  | .nan => "nan"
  | .infinite negative => (if negative then "-" else "") ++ ("inf" : Text)
  | .finite negative x =>
    (if negative then "-" else "")
      ++ (if x.mantissa = 0 then ("0.0" : Text) else layout.write x.shortest)

example : text (ofDecimal false 7 (-1)) = ("0.7" : Text) := by decide +kernel
example : text (ofDecimal true 1 16) = ("-1e+16" : Text) := by decide +kernel
example : text (ofDecimal false 1 (-5)) = ("1e-05" : Text) := by decide +kernel
example : text (ofDecimal false 4 (-324)) = ("5e-324" : Text) := by decide +kernel

end Binary64

end AgentWorkflow
